import TextTemplate.Bindings
import TextTemplate.Proofs.Grammar

/-!
# Names

The names in tags are ASCII, and tables hold the same for such a name in either case.
-/

namespace TextTemplate
open Unicode Grammar

variable {c : Char} {cs : List Char}

theorem isAscii_of_isWordChar (h : isWordChar c = true) : isAscii c = true := by
  have below {d : Char} (high : c.val ≤ d.val) (ascii : d.toNat < 0x80) : isAscii c = true :=
    decide_eq_true (Nat.lt_of_le_of_lt (UInt32.le_iff_toNat_le.mp high) ascii)
  rcases isWordChar_iff.mp h with ⟨-, high⟩ | ⟨-, high⟩ | ⟨-, high⟩ | rfl
  · exact below high (by decide)
  · exact below high (by decide)
  · exact below high (by decide)
  · decide

theorem isAscii_toLower (h : isAscii c = true) : isAscii c.toLower = true := by
  unfold Char.toLower
  split
  · rename_i capital
    obtain ⟨low, high⟩ := capital
    simp only [isAscii, decide_eq_true_eq] at h ⊢
    simp [UInt32.le_iff_toNat_le] at low high
    show (c.val + 32).toNat < 0x80
    simp
    omega
  · exact h

theorem toLower_toLower (c : Char) : c.toLower.toLower = c.toLower := by
  unfold Char.toLower
  split
  · split
    · grind
    · rfl
  · rfl

theorem titlecaseLetters_ascii (h : isAscii c = true) : titlecaseLetters.contains c = false := by
  have high : ∀ r ∈ titlecaseLetters.ranges, 0x80 ≤ r.first := by decide
  simp only [isAscii, decide_eq_true_eq] at h
  rw [Bool.eq_false_iff]
  intro found
  obtain ⟨r, member, low, -⟩ := CodeSet.contains_iff.mp found
  have above := high r member
  omega

theorem toLower_of_not_isUppercase (ascii : isAscii c = true) (h : isUppercase c = false) :
    c.toLower = c := by
  simp only [isUppercase, lowerChars_ascii ascii, titlecaseLetters_ascii ascii, Bool.not_false,
    Bool.and_true, Bool.or_eq_false_iff, bne_eq_false_iff_eq, List.cons.injEq, and_true] at h
  exact h.1

theorem foldName_ascii (h : ∀ c ∈ cs, isAscii c = true) :
    foldName (String.ofList cs) = String.ofList (cs.map Char.toLower) := by
  unfold foldName
  split
  · rw [lowercase, String.toList_ofList, lowerFrom_ascii [] cs (List.all_eq_true.mpr h)]
  · rename_i none
    rw [String.toList_ofList, Bool.not_eq_true, List.any_eq_false] at none
    have same : cs.map Char.toLower = cs.map id := by
      refine List.map_congr_left fun c member => ?_
      exact toLower_of_not_isUppercase (h c member) (Bool.eq_false_iff.mpr (none c member))
    rw [same, List.map_id]

namespace Grammar.Word

def written (w : Word) : String :=
  String.ofList w.chars

theorem foldName_written (w : Word) : foldName w.written = w.key :=
  foldName_ascii fun c member => isAscii_of_isWordChar (w.word c member)

theorem foldName_key (w : Word) : foldName w.key = w.key := by
  rw [key, foldName_ascii, List.map_map]
  · congr 2
    exact funext toLower_toLower
  · intro c member
    obtain ⟨d, present, rfl⟩ := List.mem_map.mp member
    exact isAscii_toLower (isAscii_of_isWordChar (w.word d present))

end Grammar.Word

/-- Tables do not tell a name in a tag from its lowercase form. -/
theorem Tables.condition?_key (tables : Tables) (w : Word) :
    tables.condition? w.key = tables.condition? w.written := by
  rw [Tables.condition?, Tables.condition?, w.foldName_key, w.foldName_written]

theorem Tables.value?_key (tables : Tables) (w : Word) :
    tables.value? w.key = tables.value? w.written := by
  rw [Tables.value?, Tables.value?, w.foldName_key, w.foldName_written]

theorem Tables.isRecursive_key (tables : Tables) (w : Word) :
    tables.isRecursive w.key = tables.isRecursive w.written := by
  rw [Tables.isRecursive, Tables.isRecursive, w.foldName_key, w.foldName_written]

end TextTemplate
