import TextTemplate.Proofs.LineBreaks

/-!
# Rows

There is one way to cut a text into lines and what ends them, and `Text.lines` finds it.
-/

namespace TextTemplate.Text

/-! ### Cut texts -/

structure Row where
  line : List Char
  ending : List Char
deriving DecidableEq, Repr

/-- The text consists of the rows, each of them a line without boundaries and its break. Only the
last row may go without a break, and only if its line is not empty. A carriage return that is a
break of its own is not followed by a line feed. -/
inductive Rows : (text : List Char) → (rows : List Row) → Prop where
  | nothing : Rows [] []
  | last {line : List Char} : Unbroken line → line ≠ [] → Rows line [⟨line, []⟩]
  | row {line brk text : List Char} {rows : List Row} :
      Unbroken line → IsBreak brk → (brk = ['\r'] → text.head? ≠ some '\n') →
      Rows text rows → Rows (line ++ brk ++ text) (⟨line, brk⟩ :: rows)

/-! ### Every text can be cut -/

def consRow (c : Char) : List Row → List Row
  | [] => [⟨[c], []⟩]
  | ⟨line, ending⟩ :: rows => ⟨c :: line, ending⟩ :: rows

theorem Rows.cons {c : Char} {text : List Char} {rows : List Row} (h : Rows text rows)
    (plain : isLineBoundary c = false) : Rows (c :: text) (consRow c rows) := by
  have longer {line : List Char} (unbroken : Unbroken line) : Unbroken (c :: line) :=
    List.forall_mem_cons.mpr ⟨plain, unbroken⟩
  cases h with
  | nothing => exact .last (longer (List.forall_mem_nil _)) (List.cons_ne_nil _ _)
  | last unbroken => exact .last (longer unbroken) (List.cons_ne_nil _ _)
  | row unbroken isBreak alone behind => exact .row (longer unbroken) isBreak alone behind

theorem exists_rows (text : List Char) : ∃ rows, Rows text rows := by
  have empty : Unbroken [] := List.forall_mem_nil _
  fun_induction lines text with
  | case1 => exact ⟨[], .nothing⟩
  | case2 rest ih =>
    obtain ⟨rows, cut⟩ := ih
    exact ⟨_, .row empty .crlf (fun single => by cases single) cut⟩
  | case3 c rest pair boundary ih =>
    obtain ⟨rows, cut⟩ := ih
    refine ⟨_, .row empty (.single boundary) (fun single feed => ?_) cut⟩
    obtain ⟨rest', rfl⟩ := List.head?_eq_some_iff.mp feed
    exact pair rest' (List.singleton_inj.mp single) rfl
  | case4 c rest _ plain ih =>
    obtain ⟨rows, cut⟩ := ih
    exact ⟨_, cut.cons (Bool.eq_false_iff.mpr plain)⟩

/-! ### There is one way only -/

variable {text text' : List Char} {rows rows' : List Row}

theorem lines_unbroken {line : List Char} (unbroken : Unbroken line) (nonempty : line ≠ []) :
    lines line = [line] := by
  induction line with
  | nil => exact absurd rfl nonempty
  | cons c line ih =>
    obtain ⟨plain, others⟩ := List.forall_mem_cons.mp unbroken
    rw [lines_text plain]
    cases line with
    | nil => rfl
    | cons d line => rw [ih others (List.cons_ne_nil _ _), consLine]

theorem Rows.lines_eq (h : Rows text rows) : lines text = rows.map Row.line := by
  induction h with
  | nothing => rfl
  | last unbroken nonempty => exact lines_unbroken unbroken nonempty
  | row unbroken isBreak alone _ ih => rw [lines_written unbroken isBreak alone, ih, List.map_cons]

theorem break_ne_nil {brk : List Char} (h : IsBreak brk) : brk ≠ [] := by
  cases h <;> exact List.cons_ne_nil _ _

/-- A break is as long as it can be. -/
theorem break_unique {brk brk' : List Char} (isBreak : IsBreak brk) (isBreak' : IsBreak brk')
    (alone : brk = ['\r'] → text.head? ≠ some '\n')
    (alone' : brk' = ['\r'] → text'.head? ≠ some '\n') (same : brk ++ text = brk' ++ text') :
    brk = brk' ∧ text = text' := by
  cases isBreak with
  | crlf =>
    cases isBreak' with
    | crlf => exact ⟨rfl, List.append_cancel_left same⟩
    | single =>
      obtain ⟨rfl, behind⟩ := List.cons.inj same
      exact absurd (congrArg List.head? behind).symm (alone' rfl)
  | single =>
    cases isBreak' with
    | crlf =>
      obtain ⟨rfl, behind⟩ := List.cons.inj same
      exact absurd (congrArg List.head? behind) (alone rfl)
    | single =>
      obtain ⟨rfl, behind⟩ := List.cons.inj same
      exact ⟨rfl, behind⟩

/-- With the lines, the breaks between them are settled. -/
theorem Rows.eq_of_lines (h : Rows text rows) (h' : Rows text' rows') (same : text = text')
    (lines : rows.map Row.line = rows'.map Row.line) : rows = rows' := by
  induction h generalizing text' rows' with
  | nothing => cases h' <;> cases lines; rfl
  | last unbroken nonempty =>
    cases h' with
    | nothing => cases lines
    | last => rw [same]
    | @row line brk text rows _ isBreak =>
      obtain ⟨rfl, -⟩ := List.cons.inj lines
      rw [List.append_assoc, List.self_eq_append_right, List.append_eq_nil_iff] at same
      exact absurd same.1 (break_ne_nil isBreak)
  | row unbroken isBreak alone behind ih =>
    cases h' with
    | nothing => cases lines
    | last =>
      obtain ⟨rfl, -⟩ := List.cons.inj lines
      rw [List.append_assoc, List.append_right_eq_self, List.append_eq_nil_iff] at same
      exact absurd same.1 (break_ne_nil isBreak)
    | row _ isBreak' alone' behind' =>
      obtain ⟨rfl, others⟩ := List.cons.inj lines
      rw [List.append_assoc, List.append_assoc] at same
      obtain ⟨rfl, rest⟩ :=
        break_unique isBreak isBreak' alone alone' (List.append_cancel_left same)
      rw [ih behind' rest others]

/-- Every text can be cut into rows in one way, and its lines are the lines of these rows. -/
theorem lines_of_rows (text : List Char) :
    ∃ rows, Rows text rows ∧ (∀ other, Rows text other → other = rows) ∧
      lines text = rows.map Row.line := by
  obtain ⟨rows, cut⟩ := exists_rows text
  refine ⟨rows, cut, fun other cut' => ?_, cut.lines_eq⟩
  exact cut'.eq_of_lines cut rfl (cut'.lines_eq.symm.trans cut.lines_eq)

theorem lines_of_rows_adjacent :
    let text := "\r\r\na\u2028b".toList
    let rows : List Row :=
      [⟨[], ['\r']⟩, ⟨[], ['\r', '\n']⟩, ⟨['a'], ['\u2028']⟩, ⟨['b'], []⟩]
    Rows text rows ∧ lines text = [[], [], ['a'], ['b']] := by
  intro text rows
  have empty : Unbroken [] := List.forall_mem_nil _
  have fourth : Rows ['b'] [⟨['b'], []⟩] := .last (by decide) (List.cons_ne_nil _ _)
  have third : Rows ['a', '\u2028', 'b'] [⟨['a'], ['\u2028']⟩, ⟨['b'], []⟩] :=
    .row (by decide : Unbroken ['a']) (.single rfl) (by decide) fourth
  have cut : Rows text rows :=
    .row empty (.single rfl) (by decide) (.row empty .crlf (by decide) third)
  obtain ⟨rows', -, only, found⟩ := lines_of_rows text
  refine ⟨cut, ?_⟩
  rw [found, ← only rows cut]
  rfl

end TextTemplate.Text
