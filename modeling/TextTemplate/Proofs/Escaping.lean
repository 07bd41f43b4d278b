import Mathlib.Data.List.Forall2
import TextTemplate.Escaper

/-!
# Reading escape sequences

A text with escape sequences is read glyph by glyph: an escape sequence stands for the character
that it escapes, and any other character for itself. Protecting and restoring go through the glyphs
one by one, but placeholders that are in the text from the start are taken for escape sequences.
-/

namespace TextTemplate.Escaper

/-! ### Escapers -/

theorem eraseDups_of_nodup {cs : List Char} (h : cs.Nodup) : cs.eraseDups = cs := by
  induction cs with
  | nil => rfl
  | cons c cs ih =>
    obtain ⟨new, rest⟩ := List.nodup_cons.mp h
    have others : cs.filter (fun d => !d == c) = cs := by
      refine List.filter_eq_self.mpr fun d member => ?_
      have different : d ≠ c := fun same => new (same ▸ member)
      simpa using different
    rw [List.eraseDups_cons, others, ih rest]

/-- Every escaper is the one that is made from its characters. -/
theorem ofChars_escapable (e : Escaper) : ofChars e.escapeChar e.escapable.tail = .ok e := by
  obtain ⟨escapeChar, escapable, head_eq, nodup, fits⟩ := e
  obtain ⟨others, rfl⟩ := List.head?_eq_some_iff.mp head_eq
  simp only [ofChars, List.tail_cons, eraseDups_of_nodup nodup, dif_pos fits]

/-! ### Glyphs -/

/-- A character of a text with escape sequences. -/
inductive Glyph where
  | plain (c : Char)
  /-- An escape sequence, which stands for the character. -/
  | escaped (c : Char)
deriving DecidableEq, Repr

def Glyph.char : Glyph → Char
  | plain c | escaped c => c

variable (e : Escaper)

/-- Reads the text from the left. The escape character makes an escape sequence only with an
escapable one right behind it. -/
def glyphs : List Char → List Glyph
  | [] => []
  | [c] => [.plain c]
  | c :: d :: rest =>
    if c = e.escapeChar ∧ d ∈ e.escapable then .escaped d :: glyphs rest
    else .plain c :: glyphs (d :: rest)

def decode (text : String) : String :=
  String.ofList ((e.glyphs text.toList).map Glyph.char)

variable {e}

theorem escapeChar_mem : e.escapeChar ∈ e.escapable :=
  List.mem_of_mem_head? e.head_eq

@[simp] theorem glyphs_sequence {d : Char} (h : d ∈ e.escapable) (rest : List Char) :
    e.glyphs (e.escapeChar :: d :: rest) = .escaped d :: e.glyphs rest := by
  rw [glyphs, if_pos ⟨rfl, h⟩]

theorem glyphs_plain {c : Char} {rest : List Char}
    (h : ¬ (c = e.escapeChar ∧ ∃ d, rest.head? = some d ∧ d ∈ e.escapable)) :
    e.glyphs (c :: rest) = .plain c :: e.glyphs rest := by
  cases rest with
  | nil => rfl
  | cons d rest =>
    rw [glyphs, if_neg]
    rintro ⟨same, member⟩
    exact h ⟨same, d, rfl, member⟩

/-- A glyph comes from a character of the text, and an escape sequence from an escapable one. -/
theorem cases_of_mem_glyphs {g : Glyph} {cs : List Char} (h : g ∈ e.glyphs cs) :
    (∃ c ∈ cs, g = .plain c) ∨ ∃ d ∈ cs, d ∈ e.escapable ∧ g = .escaped d := by
  fun_induction glyphs e cs with
  | case1 => cases h
  | case2 c =>
    cases List.mem_singleton.mp h
    exact .inl ⟨c, List.mem_singleton_self c, rfl⟩
  | case3 c d rest sequence ih =>
    rcases List.mem_cons.mp h with rfl | later
    · exact .inr ⟨d, List.mem_cons_of_mem c List.mem_cons_self, sequence.2, rfl⟩
    · have wider := List.subset_cons_of_subset c (List.subset_cons_self d rest)
      rcases ih later with ⟨c', member, same⟩ | ⟨d', member, escapable, same⟩
      · exact .inl ⟨c', wider member, same⟩
      · exact .inr ⟨d', wider member, escapable, same⟩
  | case4 c d rest plain ih =>
    rcases List.mem_cons.mp h with rfl | later
    · exact .inl ⟨c, List.mem_cons_self, rfl⟩
    · rcases ih later with ⟨c', member, same⟩ | ⟨d', member, escapable, same⟩
      · exact .inl ⟨c', List.mem_cons_of_mem c member, same⟩
      · exact .inr ⟨d', List.mem_cons_of_mem c member, escapable, same⟩

/-! ### Placeholders -/

variable (e) in
def IsPlaceholder (c : Char) : Prop :=
  placeholderBase ≤ c.toNat ∧ c.toNat < placeholderBase + e.escapable.length

instance : DecidablePred e.IsPlaceholder :=
  fun _ => inferInstanceAs (Decidable (_ ∧ _))

variable (e) in
def StandsFor (p c : Char) : Prop :=
  ∃ i, e.escapable[i]? = some c ∧ p.toNat = placeholderBase + i

theorem meaning?_eq_some_iff {p c : Char} : e.meaning? p = some c ↔ e.StandsFor p c := by
  unfold meaning? StandsFor
  split
  · rename_i high
    constructor
    · intro found
      exact ⟨_, found, by omega⟩
    · rintro ⟨i, found, place⟩
      rw [place, Nat.add_sub_cancel_left]
      exact found
  · rename_i low
    constructor
    · rintro ⟨⟩
    · rintro ⟨i, -, place⟩
      omega

theorem meaning?_eq_none_iff {c : Char} : e.meaning? c = none ↔ ¬ e.IsPlaceholder c := by
  unfold meaning? IsPlaceholder
  split
  · rw [List.getElem?_eq_none_iff]
    omega
  · exact ⟨fun _ placeholder => absurd placeholder.1 ‹_›, fun _ => rfl⟩

theorem StandsFor.mem {p c : Char} (h : e.StandsFor p c) : c ∈ e.escapable := by
  obtain ⟨i, found, -⟩ := h
  exact List.mem_of_getElem? found

theorem StandsFor.isPlaceholder {p c : Char} (h : e.StandsFor p c) : e.IsPlaceholder p := by
  obtain ⟨i, found, place⟩ := h
  have within := (List.getElem?_eq_some_iff.mp found).1
  constructor <;> omega

theorem toNat_placeholder {i : Nat} (h : i < placeholderCount) :
    (placeholder i).toNat = placeholderBase + i := by
  unfold placeholder placeholderBase
  unfold placeholderCount at h
  rw [Char.ofNat, dif_pos (by right; omega)]
  rfl

theorem placeholderOf?_of_mem {c : Char} (h : c ∈ e.escapable) :
    ∃ p, e.placeholderOf? c = some p ∧ e.StandsFor p c := by
  unfold placeholderOf?
  cases found : e.escapable.idxOf? c with
  | none => exact absurd h (List.idxOf?_eq_none_iff.mp found)
  | some i =>
    obtain ⟨within, same, -⟩ := List.idxOf?_eq_some_iff.mp found
    refine ⟨placeholder i, rfl, i, ?_, toNat_placeholder (Nat.lt_of_lt_of_le within e.fits)⟩
    rw [List.getElem?_eq_getElem within, same]

theorem placeholderOf?_of_not_mem {c : Char} (h : c ∉ e.escapable) :
    e.placeholderOf? c = none := by
  rw [placeholderOf?, List.idxOf?_eq_none_iff.mpr h]
  rfl

/-! ### Protecting and restoring -/

variable (e) in
def hide : Glyph → Char
  | .plain c => c
  | .escaped c => (e.placeholderOf? c).getD c

theorem standsFor_hide {c : Char} (h : c ∈ e.escapable) :
    e.StandsFor (e.hide (.escaped c)) c := by
  obtain ⟨p, found, stands⟩ := placeholderOf?_of_mem h
  rw [hide, found]
  exact stands

variable (e) in
def restored (c : Char) : Char :=
  (e.meaning? c).getD c

theorem protectChars_eq (cs : List Char) : e.protectChars cs = (e.glyphs cs).map e.hide := by
  fun_induction glyphs e cs with
  | case1 => rfl
  | case2 => rfl
  | case3 c d rest sequence ih =>
    obtain ⟨p, found, -⟩ := placeholderOf?_of_mem sequence.2
    rw [protectChars, if_pos sequence.1, found, ih]
    simp [hide, found]
  | case4 c d rest plain ih =>
    have none : (if c = e.escapeChar then e.placeholderOf? d else none) = none := by
      split
      · rename_i same
        exact placeholderOf?_of_not_mem fun member => plain ⟨same, member⟩
      · rfl
    rw [protectChars, none, ih]
    rfl

theorem restoreChars_eq (cs : List Char) : e.restoreChars cs = cs.map e.restored := rfl

theorem restored_of_standsFor {p c : Char} (h : e.StandsFor p c) : e.restored p = c := by
  rw [restored, meaning?_eq_some_iff.mpr h]
  rfl

theorem restored_of_free {c : Char} (h : ¬ e.IsPlaceholder c) : e.restored c = c := by
  rw [restored, meaning?_eq_none_iff.mpr h]
  rfl

theorem restored_cases (p : Char) :
    ¬ e.IsPlaceholder p ∧ e.restored p = p ∨ e.StandsFor p (e.restored p) := by
  cases found : e.meaning? p with
  | none =>
    have free := meaning?_eq_none_iff.mp found
    exact .inl ⟨free, restored_of_free free⟩
  | some c =>
    have stands := meaning?_eq_some_iff.mp found
    exact .inr (restored_of_standsFor stands ▸ stands)

variable (e) in
/-- What becomes of a glyph when the text is protected and restored. -/
def reveal : Glyph → Char
  | .plain c => e.restored c
  | .escaped c => c

theorem restored_hide {g : Glyph} {cs : List Char} (h : g ∈ e.glyphs cs) :
    e.restored (e.hide g) = e.reveal g := by
  rcases cases_of_mem_glyphs h with ⟨c, -, rfl⟩ | ⟨d, -, escapable, rfl⟩
  · rfl
  · exact restored_of_standsFor (standsFor_hide escapable)

/-! ### Unescaping -/

theorem map_eq_self_iff {f : Char → Char} {cs : List Char} :
    cs.map f = cs ↔ ∀ c ∈ cs, f c = c := by
  nth_rewrite 2 [← List.map_id cs]
  exact List.map_inj_left

theorem unescape_eq (text : String) :
    e.unescape text = String.ofList ((e.glyphs text.toList).map e.reveal) := by
  rw [unescape, restore, protect, String.toList_ofList, protectChars_eq, restoreChars_eq,
    List.map_map]
  exact congrArg String.ofList (List.map_congr_left fun g member => restored_hide member)

variable (e) in
/-- The character that unescaping gives for a glyph. A placeholder is taken for the escape sequence
that it would stand for. -/
inductive Reveals : Glyph → Char → Prop where
  | escaped (c : Char) : Reveals (.escaped c) c
  | placeholder {p c : Char} : e.StandsFor p c → Reveals (.plain p) c
  | plain {c : Char} : ¬ e.IsPlaceholder c → Reveals (.plain c) c

theorem reveals_iff {g : Glyph} {c : Char} : e.Reveals g c ↔ e.reveal g = c := by
  constructor
  · intro reveals
    cases reveals with
    | escaped => rfl
    | placeholder stands => exact restored_of_standsFor stands
    | plain free => exact restored_of_free free
  · rintro rfl
    cases g with
    | escaped d => exact .escaped d
    | plain p =>
      rw [reveal]
      rcases restored_cases p with ⟨free, same⟩ | stands
      · rw [same]
        exact .plain free
      · exact .placeholder stands

theorem restored_eq_self_iff {p : Char} : e.restored p = p ↔ ∀ c, e.StandsFor p c → c = p := by
  constructor
  · intro same c stands
    rw [← restored_of_standsFor stands, same]
  · intro own
    rcases restored_cases p with ⟨-, same⟩ | stands
    · exact same
    · exact own _ stands

theorem forall₂_reveals_iff {gs : List Glyph} {cs : List Char} :
    List.Forall₂ e.Reveals gs cs ↔ gs.map e.reveal = cs := by
  have same : e.Reveals = fun g c => e.reveal g = c :=
    funext fun g => funext fun c => propext reveals_iff
  rw [same, ← List.forall₂_map_left_iff (R := Eq), List.forall₂_eq_eq_eq]

/-- Unescaping turns each escape sequence into the character meant, and each placeholder into the
character for which it stands. So it drops escape characters and nothing else if and only if the
placeholders outside escape sequences stand for themselves. -/
theorem unescape_iff (e : Escaper) (text out : String) :
    (List.Forall₂ e.Reveals (e.glyphs text.toList) out.toList ↔ e.unescape text = out) ∧
      (e.unescape text = e.decode text ↔
        ∀ p c, .plain p ∈ e.glyphs text.toList → e.StandsFor p c → c = p) := by
  rw [unescape_eq]
  constructor
  · rw [forall₂_reveals_iff, ← String.toList_inj, String.toList_ofList]
  · rw [decode, String.ofList_inj, List.map_inj_left]
    constructor
    · intro same p c member stands
      exact restored_eq_self_iff.mp (same (.plain p) member) c stands
    · intro own g member
      cases g with
      | plain p => exact restored_eq_self_iff.mpr fun c => own p c member
      | escaped d => rfl

/-- A placeholder that nothing escapes does not stay what it is. -/
theorem unescape_ne_decode : ∃ e, ofChars '%' [] = .ok e ∧ e.unescape "\uE000" = "%" ∧
    e.unescape "\uE000" ≠ e.decode "\uE000" := by
  refine ⟨⟨'%', ['%'], rfl, by decide, by decide⟩, rfl, ?_, ?_⟩
  · decide
  · decide

/-! ### Escaping -/

/-- Escaped text is read back as the characters that it was made from, whatever stands behind it. -/
theorem glyphs_escapeChars_append (cs rest : List Char) :
    e.glyphs (e.escapeChars cs ++ rest) =
      (cs.map fun c => if c ∈ e.escapable then .escaped c else .plain c) ++ e.glyphs rest := by
  induction cs with
  | nil => rfl
  | cons c cs ih =>
    rw [escapeChars, List.flatMap_cons, ← escapeChars, List.append_assoc, List.map_cons,
      List.cons_append, ← ih]
    by_cases escapable : c ∈ e.escapable
    · simp [escapable]
    · have other : c ≠ e.escapeChar := fun same => escapable (same ▸ escapeChar_mem)
      simp [escapable, glyphs_plain, other]

theorem glyphs_escapeChars (cs : List Char) :
    e.glyphs (e.escapeChars cs) =
      cs.map fun c => if c ∈ e.escapable then .escaped c else .plain c := by
  have alone := glyphs_escapeChars_append (e := e) cs []
  rwa [List.append_nil, glyphs, List.append_nil] at alone

/-- A character that is not escapable stays what it is unless it is a placeholder. -/
theorem restored_eq_self_iff_of_not_mem {c : Char} (h : c ∉ e.escapable) :
    e.restored c = c ↔ ¬ e.IsPlaceholder c := by
  constructor
  · intro same reserved
    rcases restored_cases c with ⟨free, -⟩ | stands
    · exact free reserved
    · rw [same] at stands
      exact h stands.mem
  · exact restored_of_free

/-- Escaping is undone for exactly those texts in which all placeholders are escapable. -/
theorem unescape_escape_iff (e : Escaper) (text : String) :
    e.unescape (e.escape text) = text ↔
      ∀ c ∈ text.toList, c ∉ e.escapable → ¬ e.IsPlaceholder c := by
  rw [unescape_eq, escape, String.toList_ofList, glyphs_escapeChars, ← String.toList_inj,
    String.toList_ofList, List.map_map, map_eq_self_iff]
  refine forall₂_congr fun c _ => ?_
  by_cases escapable : c ∈ e.escapable
  · simp [escapable, reveal]
  · simpa [escapable, reveal] using restored_eq_self_iff_of_not_mem escapable

end TextTemplate.Escaper
