import TextTemplate.Proofs.Calls

/-!
# Folded names

A name without a capital is kept as it is. This is its lowercase form unless a titlecase letter such
as `ǅ` stands in it, so two names with the same lowercase form are one name exactly if they are
equal or neither is kept with a titlecase letter.
-/

namespace TextTemplate

namespace Unicode

/-- What holds of every character in the ranges holds of the set. -/
theorem CodeSet.of_ranges {s : CodeSet} {p : Char → Bool}
    (all : s.ranges.all (fun r =>
      (List.range' r.first (r.last + 1 - r.first)).all fun n => p (Char.ofNat n)) = true)
    {c : Char} (member : s.contains c = true) : p c = true := by
  obtain ⟨r, range, low, high⟩ := contains_iff.mp member
  have held := List.all_eq_true.mp (List.all_eq_true.mp all r range) c.toNat
    (List.mem_range'_1.mpr ⟨low, by omega⟩)
  rwa [Char.ofNat_toNat] at held

theorem lowerChars_titlecase {c : Char} (title : titlecaseLetters.contains c = true) :
    ∃ d, lowerChars c = [d] ∧ d ≠ c := by
  have held : ((lowerChars c).length == 1 && lowerChars c != [c]) = true :=
    CodeSet.of_ranges (p := fun c => (lowerChars c).length == 1 && lowerChars c != [c])
      (by decide +kernel) title
  simp only [Bool.and_eq_true, beq_iff_eq, bne_iff_ne] at held
  obtain ⟨d, single⟩ := List.length_eq_one_iff.mp held.1
  rw [single] at held
  exact ⟨d, single, fun same => held.2 (by rw [same])⟩

theorem lowerChars_plain {c : Char} (small : isUppercase c = false)
    (plain : titlecaseLetters.contains c = false) : lowerChars c = [c] := by
  simpa [isUppercase, plain] using (Bool.or_eq_false_iff.mp small).1

def lowerChar (c : Char) : Char :=
  (lowerChars c).headD c

theorem lowerChars_small {c : Char} (small : isUppercase c = false) :
    lowerChars c = [lowerChar c] := by
  cases title : titlecaseLetters.contains c with
  | false => simp [lowerChar, lowerChars_plain small title]
  | true =>
    obtain ⟨d, single, -⟩ := lowerChars_titlecase title
    simp [lowerChar, single]

theorem lowerChar_eq_self_iff {c : Char} (small : isUppercase c = false) :
    lowerChar c = c ↔ titlecaseLetters.contains c = false := by
  cases title : titlecaseLetters.contains c with
  | false => simp [lowerChar, lowerChars_plain small title]
  | true =>
    obtain ⟨d, single, moved⟩ := lowerChars_titlecase title
    simp [lowerChar, single, moved]

/-- Without capitals nothing depends on the context, since only a capital sigma looks around. -/
theorem lowerFrom_small (before : List Char) {cs : List Char}
    (small : ∀ c ∈ cs, isUppercase c = false) : lowerFrom before cs = cs.map lowerChar := by
  induction cs generalizing before with
  | nil => rfl
  | cons c cs ih =>
    have sigma : c ≠ 'Σ' := by
      intro same
      have capital : isUppercase 'Σ' = true := by decide
      rw [← same, small c List.mem_cons_self] at capital
      cases capital
    rw [lowerFrom, if_neg sigma, lowerChars_small (small c List.mem_cons_self),
      ih _ fun d member => small d (List.mem_cons_of_mem c member)]
    rfl

theorem lowercase_eq_self_iff {s : String} (small : ∀ c ∈ s.toList, isUppercase c = false) :
    lowercase s = s ↔ ∀ c ∈ s.toList, titlecaseLetters.contains c = false := by
  have form : lowercase s = s ↔ s.toList.map lowerChar = s.toList.map id := by
    rw [lowercase, lowerFrom_small [] small, List.map_id, ← String.toList_inj,
      String.toList_ofList]
  rw [form, List.map_inj_left]
  constructor
  · intro same c member
    exact (lowerChar_eq_self_iff (small c member)).mp (same c member)
  · intro plain c member
    exact (lowerChar_eq_self_iff (small c member)).mpr (plain c member)

end Unicode

open Unicode

/-! ### Names that are kept -/

/-- The name has a titlecase letter and no capital. -/
def Titled (name : String) : Prop :=
  (∃ c ∈ name.toList, titlecaseLetters.contains c = true) ∧
    ∀ c ∈ name.toList, isUppercase c = false

section
variable {name a b : String}

theorem foldName_small (small : ∀ c ∈ name.toList, isUppercase c = false) :
    foldName name = name := by
  have absent : name.toList.any isUppercase = false := by simpa using small
  rw [foldName, absent]
  rfl

theorem foldName_of_not_titled (plain : ¬ Titled name) : foldName name = lowercase name := by
  by_cases small : ∀ c ∈ name.toList, isUppercase c = false
  · rw [foldName_small small, eq_comm, lowercase_eq_self_iff small]
    intro c member
    rw [Bool.eq_false_iff]
    intro title
    exact plain ⟨⟨c, member, title⟩, small⟩
  · have present : name.toList.any isUppercase = true := by simpa using small
    rw [foldName, if_pos present]

theorem lowercase_titled (titled : Titled name) : lowercase name ≠ name := by
  obtain ⟨⟨c, member, title⟩, small⟩ := titled
  intro same
  have plain := (lowercase_eq_self_iff small).mp same c member
  rw [title] at plain
  cases plain

theorem foldName_eq_iff (same : lowercase a = lowercase b) :
    foldName a = foldName b ↔ a = b ∨ ¬ Titled a ∧ ¬ Titled b := by
  constructor
  · intro folded
    by_cases left : Titled a <;> by_cases right : Titled b
    · rw [foldName_small left.2, foldName_small right.2] at folded
      exact Or.inl folded
    · rw [foldName_small left.2, foldName_of_not_titled right, ← same] at folded
      exact absurd folded.symm (lowercase_titled left)
    · rw [foldName_of_not_titled left, foldName_small right.2, same] at folded
      exact absurd folded (lowercase_titled right)
    · exact Or.inr ⟨left, right⟩
  · rintro (rfl | ⟨left, right⟩)
    · rfl
    · rw [foldName_of_not_titled left, foldName_of_not_titled right, same]

end

/-! ### What tables tell apart -/

namespace Bindings

structure Alike (tables : Tables) (a b : String) : Prop where
  value : tables.value? a = tables.value? b
  condition : tables.condition? a = tables.condition? b
  recursive : tables.isRecursive a = tables.isRecursive b

variable {a b : String}

theorem alike_of_foldName (tables : Tables) (same : foldName a = foldName b) :
    Alike tables a b where
  value := by rw [Tables.value?, Tables.value?, same]
  condition := by rw [Tables.condition?, Tables.condition?, same]
  recursive := by rw [Tables.isRecursive, Tables.isRecursive, same]

theorem foldName_of_alike (alike : Alike (ofCalls [.insert a (.value "")]).resolve a b) :
    foldName a = foldName b := by
  have value := alike.value
  simp only [value?_resolve, values_ofCalls] at value
  by_cases same : foldName a = foldName b
  · exact same
  · simp [Call.text?, same] at value

/-- Names with the same lowercase form stand for the same in all bindings, exactly if they are equal
or neither is kept with a titlecase letter. -/
theorem alike_iff_not_titled (same : lowercase a = lowercase b) :
    (∀ calls, Alike (ofCalls calls).resolve a b) ↔ a = b ∨ ¬ Titled a ∧ ¬ Titled b := by
  rw [← foldName_eq_iff same]
  constructor
  · intro alike
    exact foldName_of_alike (alike _)
  · intro folded calls
    exact alike_of_foldName _ folded

/-- A final sigma in one of them and a sigma of another form in the other. -/
theorem alike_sigma :
    lowercase "ΑΣ" = lowercase "ας" ∧ ∀ calls, Alike (ofCalls calls).resolve "ΑΣ" "ας" := by
  have same : lowercase "ΑΣ" = lowercase "ας" := by decide +kernel
  have capital : ¬ Titled "ΑΣ" := by
    intro titled
    have small := titled.2 'Σ' (by simp)
    revert small
    decide
  have small : ¬ Titled "ας" := by
    rintro ⟨⟨c, member, title⟩, -⟩
    have letter : c = 'α' ∨ c = 'ς' := by simpa using member
    revert title
    rcases letter with rfl | rfl <;> decide
  exact ⟨same, (alike_iff_not_titled same).mpr (Or.inr ⟨capital, small⟩)⟩

/-- A titlecase letter and its lowercase form are two names. -/
theorem not_alike_titlecase :
    lowercase "ǅ" = lowercase "ǆ" ∧
      ¬ Alike (ofCalls [.insert "ǆ" (.value "x")]).resolve "ǅ" "ǆ" := by
  have title : foldName "ǅ" = "ǅ" := by decide
  have small : foldName "ǆ" = "ǆ" := by decide
  refine ⟨by decide +kernel, ?_⟩
  intro alike
  have value := alike.value
  simp [values_ofCalls, Call.text?, title, small] at value

end Bindings

end TextTemplate
