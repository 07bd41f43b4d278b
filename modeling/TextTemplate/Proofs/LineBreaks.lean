import TextTemplate.Text.Dedent

/-!
# Line breaks

A text can be written with any line boundaries, and dedenting it comes to the same. In what it comes
to, line feeds are the only boundaries, and no line starts with white space.
-/

namespace TextTemplate.Text
open Unicode

/-! ### Written lines -/

def Unbroken (line : List Char) : Prop :=
  ∀ c ∈ line, isLineBoundary c = false

instance : DecidablePred Unbroken :=
  fun line => List.decidableBAll _ line

/-- What ends a line: a carriage return with a line feed, or any boundary character alone. -/
inductive IsBreak : List Char → Prop where
  | crlf : IsBreak ['\r', '\n']
  | single {c : Char} : isLineBoundary c = true → IsBreak [c]

/-- The text consists of the lines, each with a break behind it, but for the last one unless it is
`ended`. A carriage return that is a break of its own is not followed by a line feed. -/
inductive Written : (ended : Bool) → (lines : List (List Char)) → (text : List Char) → Prop where
  | nothing : Written true [] []
  | last {line : List Char} : Unbroken line → Written false [line] line
  | line {ended : Bool} {line brk text : List Char} {lines : List (List Char)} :
      Unbroken line → IsBreak brk → (brk = ['\r'] → text.head? ≠ some '\n') →
      Written ended lines text → Written ended (line :: lines) (line ++ brk ++ text)

section
variable {line brk rest : List Char}

theorem lines_return (h : rest.head? ≠ some '\n') : lines ('\r' :: rest) = [] :: lines rest := by
  rw [lines]
  · rfl
  · rintro rest' - rfl
    exact h rfl

theorem lines_break (isBreak : IsBreak brk) (alone : brk = ['\r'] → rest.head? ≠ some '\n') :
    lines (brk ++ rest) = [] :: lines rest := by
  cases isBreak with
  | crlf => exact lines_crlf rest
  | @single c boundary =>
    by_cases hc : c = '\r'
    · subst hc
      exact lines_return (alone rfl)
    · exact lines_boundary boundary hc rest

/-- The first line ends at the first break. -/
theorem lines_written (unbroken : Unbroken line) (isBreak : IsBreak brk)
    (alone : brk = ['\r'] → rest.head? ≠ some '\n') :
    lines (line ++ brk ++ rest) = line :: lines rest := by
  induction line with
  | nil => exact lines_break isBreak alone
  | cons c line ih =>
    obtain ⟨first, others⟩ := List.forall_mem_cons.mp unbroken
    rw [List.cons_append, List.cons_append, lines_text first, ih others, consLine]

/-- How the lines are ended does not matter. -/
theorem lines_eq_of_written {ended : Bool} {ls : List (List Char)} {text text' : List Char}
    (h : Written ended ls text) (h' : Written ended ls text') : lines text = lines text' := by
  induction h generalizing text' with
  | nothing =>
    cases h'
    rfl
  | last =>
    -- Behind a break, a text that is not ended has a further line.
    cases h' with
    | last => rfl
    | line _ _ _ later => cases later
  | line unbroken isBreak alone later ih =>
    cases h' with
    | last => cases later
    | line _ isBreak' alone' later' =>
      rw [lines_written unbroken isBreak alone, lines_written unbroken isBreak' alone', ih later']

end

/-! ### Lines that are read -/

theorem unbroken_consLine {c : Char} {ls : List (List Char)} (plain : isLineBoundary c = false)
    (h : ∀ line ∈ ls, Unbroken line) : ∀ line ∈ consLine c ls, Unbroken line := by
  cases ls with
  | nil => simpa [consLine, Unbroken] using plain
  | cons first ls =>
    obtain ⟨unbroken, others⟩ := List.forall_mem_cons.mp h
    exact List.forall_mem_cons.mpr ⟨List.forall_mem_cons.mpr ⟨plain, unbroken⟩, others⟩

theorem unbroken_lines (text : List Char) : ∀ line ∈ lines text, Unbroken line := by
  have empty : Unbroken [] := List.forall_mem_nil _
  fun_induction lines text with
  | case1 => exact List.forall_mem_nil _
  | case2 rest ih => exact List.forall_mem_cons.mpr ⟨empty, ih⟩
  | case3 c rest _ boundary ih => exact List.forall_mem_cons.mpr ⟨empty, ih⟩
  | case4 c rest _ plain ih => exact unbroken_consLine (Bool.eq_false_iff.mpr plain) ih

/-! ### Dedented lines -/

structure Dedented (line : List Char) : Prop where
  unbroken : Unbroken line
  flush : ∀ c, line.head? = some c → isWhiteSpace c = false

theorem dedented_dropWhile {line : List Char} (h : Unbroken line) :
    Dedented (line.dropWhile isWhiteSpace) := by
  constructor
  · intro c member
    exact h c ((List.dropWhile_suffix _).subset member)
  · intro c first
    have stop := List.head?_dropWhile_not isWhiteSpace line
    rw [first] at stop
    exact stop

theorem mem_of_mem_dropBlankLast {line : List Char} {ls : List (List Char)}
    (h : line ∈ dropBlankLast ls) : line ∈ ls := by
  unfold dropBlankLast at h
  split at h
  · exact (List.dropLast_sublist ls).subset h
  · exact h

theorem dedented_lines (text : List Char) : ∃ ls : List (List Char),
    dedent text = ['\n'].intercalate ls ∧ ∀ line ∈ ls, Dedented line := by
  refine ⟨_, rfl, ?_⟩
  intro line member
  obtain ⟨whole, kept, rfl⟩ := List.mem_map.mp member
  have read : whole ∈ lines text := List.mem_of_mem_drop (mem_of_mem_dropBlankLast kept)
  exact dedented_dropWhile (unbroken_lines text whole read)

theorem mem_intercalate {sep c : Char} {ls : List (List Char)} (h : c ∈ [sep].intercalate ls) :
    c = sep ∨ ∃ line ∈ ls, c ∈ line := by
  induction ls with
  | nil => cases h
  | cons line ls ih =>
    cases ls with
    | nil =>
      rw [List.intercalate_singleton] at h
      exact Or.inr ⟨line, List.mem_cons_self, h⟩
    | cons next ls =>
      rw [List.intercalate_cons_cons, List.mem_append, List.mem_append] at h
      rcases h with (inside | separates) | later
      · exact Or.inr ⟨line, List.mem_cons_self, inside⟩
      · exact Or.inl (List.mem_singleton.mp separates)
      · rcases ih later with same | ⟨line', member, inside⟩
        · exact Or.inl same
        · exact Or.inr ⟨line', List.mem_cons_of_mem line member, inside⟩

/-- Dedented text is in a normal form: line feeds are its only line boundaries, no line of it starts
with white space, and it is the same for all texts of the same lines, however these are ended. -/
theorem dedent_normal (text : List Char) :
    (∀ c ∈ dedent text, isLineBoundary c = true → c = '\n') ∧
      (∀ line ∈ (dedent text).splitOn '\n', ∀ c, line.head? = some c → isWhiteSpace c = false) ∧
      ∀ ended ls other, Written ended ls text → Written ended ls other →
        dedent text = dedent other := by
  obtain ⟨ls, joined, each⟩ := dedented_lines text
  refine ⟨?_, ?_, ?_⟩
  · intro c member boundary
    rw [joined] at member
    rcases mem_intercalate member with feed | ⟨line, member', inside⟩
    · exact feed
    · have plain := (each line member').unbroken c inside
      rw [boundary] at plain
      cases plain
  · intro line member
    have feed : ∀ l ∈ ls, '\n' ∉ l := by
      intro l member' inside
      have plain := (each l member').unbroken '\n' inside
      cases plain
    by_cases none : ls = []
    · rw [joined, none] at member
      obtain rfl : line = [] := by simpa using member
      simp
    · rw [joined, List.splitOn_intercalate '\n' feed none] at member
      exact (each line member).flush
  · intro ended ls' other written written'
    unfold dedent
    rw [lines_eq_of_written written written']

theorem dedent_normal_separator :
    let text := "\n  a\r b".toList
    let other := "\r\n  a\u2028 b".toList
    let ls := [[], [' ', ' ', 'a'], [' ', 'b']]
    (Written false ls text ∧ Written false ls other) ∧ dedent text = dedent other ∧
      dedent other = "a\nb".toList := by
  intro text other ls
  have third : Written false [[' ', 'b']] [' ', 'b'] := .last (by decide)
  have written : Written false ls text := by
    have second := Written.line (by decide : Unbroken [' ', ' ', 'a']) (.single rfl)
      (by decide : ['\r'] = ['\r'] → _) third
    exact Written.line (by decide : Unbroken []) (.single rfl) (by decide : ['\n'] = ['\r'] → _)
      second
  have written' : Written false ls other := by
    have second := Written.line (by decide : Unbroken [' ', ' ', 'a']) (.single rfl)
      (by decide : ['\u2028'] = ['\r'] → _) third
    exact Written.line (by decide : Unbroken []) .crlf (by decide : ['\r', '\n'] = ['\r'] → _)
      second
  exact ⟨⟨written, written'⟩, (dedent_normal text).2.2 _ _ _ written written', by decide⟩

end TextTemplate.Text
