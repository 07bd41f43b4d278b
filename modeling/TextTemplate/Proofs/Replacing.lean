import TextTemplate.Proofs.Escaping
import TextTemplate.Proofs.Names

/-!
# Replacing outside escape sequences

Protected text is searched for the pattern character by character, and what comes out of it is
restored. This amounts to one scan over the glyphs of the text, which replaces plain glyphs only and
does not look again at what it has put in.
-/

namespace TextTemplate.Escaper

/-! ### Scanning glyphs -/

/-- The glyphs begin with plain ones that spell the pattern, ASCII case ignored. -/
def Spells (pattern : List Char) (gs : List Glyph) : Prop :=
  ∃ (cs : List Char) (rest : List Glyph), gs = cs.map .plain ++ rest ∧
    cs.map Char.toLower = pattern.map Char.toLower

/-- Scanning the glyphs from the left, with the pattern replaced wherever the next glyphs spell it,
gives this text. -/
inductive Rewrites (pattern replacement : List Char) : List Glyph → List Char → Prop where
  | done : Rewrites pattern replacement [] []
  | found {gs : List Glyph} {out : List Char} : Spells pattern gs →
      Rewrites pattern replacement (gs.drop pattern.length) out →
      Rewrites pattern replacement gs (replacement ++ out)
  | passed {g : Glyph} {gs : List Glyph} {out : List Char} : ¬ Spells pattern (g :: gs) →
      Rewrites pattern replacement gs out →
      Rewrites pattern replacement (g :: gs) (g.char :: out)

section
variable {p : Char} {ps pattern replacement : List Char} {g : Glyph} {gs : List Glyph}

theorem spells_nil : Spells [] gs :=
  ⟨[], gs, rfl, rfl⟩

theorem not_spells_nil : ¬ Spells (p :: ps) [] := by
  rintro ⟨cs, rest, same, spelled⟩
  cases cs with
  | nil => cases spelled
  | cons c cs => cases same

theorem spells_cons :
    Spells (p :: ps) (g :: gs) ↔ (∃ c, g = .plain c ∧ c.toLower = p.toLower) ∧ Spells ps gs := by
  constructor
  · rintro ⟨cs, rest, same, spelled⟩
    cases cs with
    | nil => cases spelled
    | cons c cs =>
      obtain ⟨rfl, rfl⟩ := List.cons.inj same
      obtain ⟨first, others⟩ := List.cons.inj spelled
      exact ⟨⟨c, rfl, first⟩, cs, rest, rfl, others⟩
  · rintro ⟨⟨c, rfl, first⟩, cs, rest, rfl, others⟩
    exact ⟨c :: cs, rest, rfl, congrArg₂ List.cons first others⟩

/-- The scan comes to one text only. -/
theorem Rewrites.unique (some : pattern ≠ []) {out out' : List Char}
    (h : Rewrites pattern replacement gs out) (h' : Rewrites pattern replacement gs out') :
    out = out' := by
  have none : ¬ Spells pattern [] := by
    obtain ⟨p, ps, rfl⟩ := List.exists_cons_of_ne_nil some
    exact not_spells_nil
  induction h generalizing out' with
  | done =>
    cases h' with
    | done => rfl
    | found spells => exact absurd spells none
  | found spells _ ih =>
    cases h' with
    | done => exact absurd spells none
    | found _ rest => rw [ih rest]
    | passed other => exact absurd spells other
  | passed other _ ih =>
    cases h' with
    | found spells => exact absurd spells other
    | passed _ rest => rw [ih rest]

end

/-! ### Substituting -/

section
variable {pattern replacement : List Char} {c : Char} {cs : List Char}

theorem substitute_skip (skip : Nat) :
    substitute pattern replacement skip cs = substitute pattern replacement 0 (cs.drop skip) := by
  induction skip generalizing cs with
  | zero => rfl
  | succ skip ih =>
    cases cs with
    | nil => rfl
    | cons c cs => exact ih

theorem substitute_found (some : pattern ≠ []) (h : startsWith pattern (c :: cs) = true) :
    substitute pattern replacement 0 (c :: cs) =
      replacement ++ substitute pattern replacement 0 ((c :: cs).drop pattern.length) := by
  obtain ⟨p, ps, rfl⟩ := List.exists_cons_of_ne_nil some
  rw [substitute, if_pos h, substitute_skip]
  rfl

theorem substitute_passed (h : ¬ startsWith pattern (c :: cs) = true) :
    substitute pattern replacement 0 (c :: cs) = c :: substitute pattern replacement 0 cs := by
  rw [substitute, if_neg h]

end

/-! ### Protected text -/

variable {e : Escaper}

theorem toLower_of_high {c : Char} (high : 0x80 ≤ c.toNat) : c.toLower = c := by
  unfold Char.toLower
  split
  · rename_i capital
    have low : c.toNat ≤ 90 := UInt32.le_iff_toNat_le.mp capital.2
    omega
  · rfl

/-- Outside ASCII there is no other letter case. -/
theorem eq_of_toLower_eq {p q : Char} (high : 0x80 ≤ q.toNat) (same : p.toLower = q.toLower) :
    p = q := by
  rw [toLower_of_high high] at same
  by_cases small : p.toNat < 0x80
  · have ascii := isAscii_toLower (decide_eq_true small)
    rw [same] at ascii
    exact absurd (of_decide_eq_true ascii) (Nat.not_lt.mpr high)
  · rwa [toLower_of_high (Nat.le_of_not_lt small)] at same

variable (e) in
/-- The glyph can be told from its character in protected text. -/
inductive Distinct : Glyph → Prop where
  | plain {c : Char} : ¬ e.IsPlaceholder c → Distinct (.plain c)
  | escaped {c : Char} : c ∈ e.escapable → Distinct (.escaped c)

theorem distinct_of_mem_glyphs {cs : List Char} (free : ∀ c ∈ cs, ¬ e.IsPlaceholder c) {g : Glyph}
    (h : g ∈ e.glyphs cs) : e.Distinct g := by
  rcases cases_of_mem_glyphs h with ⟨c, member, rfl⟩ | ⟨d, -, escapable, rfl⟩
  · exact .plain (free c member)
  · exact .escaped escapable

section
variable {pattern replacement : List Char} {g : Glyph} {gs : List Glyph}

theorem restored_hide_of_distinct (h : e.Distinct g) : e.restored (e.hide g) = g.char := by
  cases h with
  | plain free => exact restored_of_free free
  | escaped escapable => exact restored_of_standsFor (standsFor_hide escapable)

/-- A character of the pattern meets its like in protected text only in plain glyphs. -/
theorem toLower_hide {p : Char} (free : ¬ e.IsPlaceholder p) (h : e.Distinct g) :
    p.toLower = (e.hide g).toLower ↔ ∃ c, g = .plain c ∧ c.toLower = p.toLower := by
  cases h with
  | @plain c _ =>
    constructor
    · intro same
      exact ⟨c, rfl, same.symm⟩
    · rintro ⟨_, plain, same⟩
      cases plain
      exact same.symm
  | escaped escapable =>
    have reserved := (standsFor_hide escapable).isPlaceholder
    constructor
    · intro same
      rw [eq_of_toLower_eq (Nat.le_trans (by decide) reserved.1) same] at free
      exact absurd reserved free
    · rintro ⟨_, ⟨⟩, -⟩

theorem startsWith_hide (free : ∀ p ∈ pattern, ¬ e.IsPlaceholder p)
    (distinct : ∀ g ∈ gs, e.Distinct g) :
    startsWith pattern (gs.map e.hide) = true ↔ Spells pattern gs := by
  induction pattern generalizing gs with
  | nil => exact iff_of_true (by cases gs <;> rfl) spells_nil
  | cons p ps ih =>
    cases gs with
    | nil => exact iff_of_false Bool.false_ne_true not_spells_nil
    | cons g gs =>
      obtain ⟨first, others⟩ := List.forall_mem_cons.mp free
      obtain ⟨first', others'⟩ := List.forall_mem_cons.mp distinct
      rw [List.map_cons, startsWith, Bool.and_eq_true, beq_iff_eq, toLower_hide first first',
        ih others others', spells_cons]

/-- Substituting in protected text and restoring is the scan over the glyphs. -/
theorem rewrites_substitute (some : pattern ≠ []) (free : ∀ p ∈ pattern, ¬ e.IsPlaceholder p)
    (verbatim : replacement.map e.restored = replacement) :
    ∀ gs : List Glyph, (∀ g ∈ gs, e.Distinct g) → Rewrites pattern replacement gs
      ((substitute pattern replacement 0 (gs.map e.hide)).map e.restored)
  | [], _ => .done
  | g :: gs, distinct => by
    have begins := startsWith_hide free distinct
    by_cases spells : Spells pattern (g :: gs)
    · rw [List.map_cons] at begins ⊢
      rw [substitute_found some (begins.mpr spells), List.map_append, verbatim, ← List.map_cons,
        ← List.map_drop]
      -- The scan goes on behind the occurrence, so the recursion is on the number of glyphs left.
      refine .found spells (rewrites_substitute some free verbatim _ fun g' member => ?_)
      exact distinct g' (List.mem_of_mem_drop member)
    · obtain ⟨first, others⟩ := List.forall_mem_cons.mp distinct
      rw [List.map_cons] at begins ⊢
      rw [substitute_passed (mt begins.mp spells), List.map_cons, restored_hide_of_distinct first]
      exact .passed spells (rewrites_substitute some free verbatim gs others)
termination_by gs => gs.length
decreasing_by
  · have positive := List.length_pos_iff.mpr some
    simp only [List.length_drop, List.length_cons]
    omega
  · exact Nat.lt_succ_self _

end

/-- Where no placeholders are around, replacing is one scan over the glyphs of the text, in which
plain glyphs that spell the pattern give way to the replacement and all others come to their
characters. The empty pattern occurs nowhere. -/
theorem replace_iff (e : Escaper) {text pattern replacement : String}
    (free : ∀ c ∈ text.toList ++ pattern.toList ++ replacement.toList, ¬ e.IsPlaceholder c) :
    (pattern = "" → e.replace text pattern replacement = e.decode text) ∧
      (pattern ≠ "" → ∀ out : String,
        Rewrites pattern.toList replacement.toList (e.glyphs text.toList) out.toList ↔
          e.replace text pattern replacement = out) := by
  simp only [List.forall_mem_append] at free
  obtain ⟨⟨freeText, freePattern⟩, freeReplacement⟩ := free
  have distinct : ∀ g ∈ e.glyphs text.toList, e.Distinct g :=
    fun g member => distinct_of_mem_glyphs freeText member
  constructor
  · rintro rfl
    have unescaped : e.replace text "" replacement = e.unescape text := rfl
    rw [unescaped, unescape_eq, decode]
    refine congrArg String.ofList (List.map_congr_left fun g member => ?_)
    rw [← restored_hide member, restored_hide_of_distinct (distinct g member)]
  · intro some out
    have some' : pattern.toList ≠ [] := fun none => some (String.toList_inj.mp none)
    have verbatim : replacement.toList.map e.restored = replacement.toList :=
      map_eq_self_iff.mpr fun c member => restored_of_free (freeReplacement c member)
    have rewritten := rewrites_substitute some' freePattern verbatim _ distinct
    have replaced : (e.replace text pattern replacement).toList =
        (substitute pattern.toList replacement.toList 0
          ((e.glyphs text.toList).map e.hide)).map e.restored := by
      rw [replace, if_neg (by simpa using some), restore, protect]
      simp only [String.toList_ofList, restoreChars_eq, protectChars_eq]
    rw [← replaced] at rewritten
    constructor
    · intro other
      exact String.toList_inj.mp (rewritten.unique some' other)
    · rintro rfl
      exact rewritten

theorem replace_iff_verbatim : ∃ e, ofChars '%' [] = .ok e ∧
    (∀ c ∈ "%a%%A%A".toList ++ "%A".toList ++ "%%A".toList, ¬ e.IsPlaceholder c) ∧
    Rewrites "%A".toList "%%A".toList (e.glyphs "%a%%A%A".toList) "%%A%A%%A".toList := by
  let e : Escaper := ⟨'%', ['%'], rfl, by decide, by decide⟩
  have free : ∀ c ∈ "%a%%A%A".toList ++ "%A".toList ++ "%%A".toList, ¬ e.IsPlaceholder c := by
    have checked : ("%a%%A%A".toList ++ "%A".toList ++ "%%A".toList).all
        (fun c => decide (¬ e.IsPlaceholder c)) = true := by decide
    exact fun c member => of_decide_eq_true (List.all_eq_true.mp checked c member)
  have replaced : e.replace "%a%%A%A" "%A" "%%A" = "%%A%A%%A" := by decide
  exact ⟨e, rfl, free, ((replace_iff e free).2 (by decide) _).mpr replaced⟩

end TextTemplate.Escaper
