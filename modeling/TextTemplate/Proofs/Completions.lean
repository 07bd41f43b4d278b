import TextTemplate.Proofs.Faults
import TextTemplate.Proofs.Parsing

/-!
# Completions

Wherever a reader is in a source, a few characters bring it out of the tag, and closing marks out
of the conditions around it. So what is read without a fault is the beginning of a template.
-/

namespace TextTemplate.Reader
open Grammar

def closings : Nat → List Char
  | 0 => []
  | n + 1 => '%' :: ']' :: '%' :: closings n

/-- A way out of the tag in which the reader is. In text, it goes on like a tag. -/
def Stage.wayOut : Stage → List Char
  | .text => ['%', '%']
  | .value _ .opened => ['a', ']', '%']
  | .value _ (.named _) | .value _ (.marked _) | .value _ (.converted _ _) => [']', '%']
  | .header _ .opened | .header _ .spaced | .header _ .negated => ['a', '%', ']', '%']
  | .header _ (.marked _) => ['r', '%', ']', '%']
  | .header _ (.named _) | .header _ (.converted _) | .header _ (.finished _) => ['%', ']', '%']

def completion (r : Reader) : List Char :=
  r.stage.wayOut ++ closings r.blocks.length

theorem stop_cons {p : Char → Bool} {c : Char} (h : p c = false) (cs : List Char) :
    ∀ d ∈ (c :: cs).head?, p d = false := by
  simpa using h

namespace State

def Succeeds (s : State) : Prop :=
  ∃ nodes, s.run = .ok nodes

theorem succeeds_of_step {s s' : State} (step : Step s s') (h : s'.Succeeds) : s.Succeeds := by
  obtain ⟨nodes, read⟩ := h
  exact ⟨nodes, (run_step step).trans read⟩

variable {r : Reader} {opening : Span} {start : Nat}

theorem succeeds_closings (text : r.stage = .text) (start : Nat) :
    Succeeds ⟨r, .text, start, closings r.blocks.length⟩ := by
  induction depth : r.blocks.length generalizing r start with
  | zero =>
    refine ⟨Node.merge r.nodes.reverse, run_nil.trans ?_⟩
    rw [finish, text]
    simp only [List.eq_nil_of_length_eq_zero depth, List.getLast?_nil]
  | succ n ih =>
    obtain ⟨nodes, blocks, stage⟩ := r
    obtain rfl : stage = .text := text
    obtain ⟨b, blocks, rfl⟩ := List.exists_cons_of_length_eq_add_one depth
    let closed : Reader := push ⟨nodes, blocks, .text⟩ b.close
    have further := @ih closed (push_stage _ _) (start + 3)
      ((push_blocks_length _ _).trans (Nat.succ.inj depth))
    exact succeeds_of_step (.of_piece (List.cons_ne_nil _ _) rfl rfl rfl) further

theorem succeeds_push (r : Reader) (node : Node) (start : Nat) :
    Succeeds ⟨(r.enter .text).push node, .text, start, closings r.blocks.length⟩ := by
  have text : ((r.enter .text).push node).stage = .text := push_stage _ _
  have closed := succeeds_closings text start
  rwa [push_blocks_length] at closed

/-! ### Out of tags -/

theorem succeeds_done {stage : ValueStage} {ident : Ident} {conversions : List Conversion}
    (done : stage.done? = some (ident, conversions)) (r : Reader) (opening : Span) (start : Nat) :
    Succeeds ⟨r.enter (.value opening stage), .value opening, start,
      ']' :: '%' :: closings r.blocks.length⟩ :=
  succeeds_of_step (step_closeValue done r opening start _) (succeeds_push r _ _)

theorem succeeds_ended {stage : HeaderStage} {test : Test} (done : stage.done? = some test)
    (r : Reader) (opening : Span) (start : Nat) :
    Succeeds ⟨r.enter (.header opening stage), .header opening, start,
      '%' :: ']' :: '%' :: closings r.blocks.length⟩ := by
  have text : (r.enter .text).stage = .text := rfl
  exact succeeds_of_step (step_probe text done opening start _) (succeeds_push r _ _)

theorem succeeds_named {stage : HeaderStage} {negated : Bool}
    (waits : stage.negated? = some negated) (r : Reader) (opening : Span) (start : Nat) :
    Succeeds ⟨r.enter (.header opening stage), .header opening, start,
      'a' :: '%' :: ']' :: '%' :: closings r.blocks.length⟩ := by
  have named := step_name r opening start waits (@Word.ofRun ['a'] rfl)
    (stop_cons (c := '%') (by decide) (']' :: '%' :: closings r.blocks.length))
  exact succeeds_of_step named (succeeds_ended rfl r opening _)

/-- Known letters are taken behind the mark of conversions. -/
theorem succeeds_conversions {letters : List Char}
    (known : ∀ c ∈ letters, c ∈ ['j', 'J', 'u', 'U', 'l', 'L']) (r : Reader) (ident : Ident)
    (opening : Span) (start : Nat) :
    Succeeds ⟨r.enter (.value opening (.marked ident)), .value opening, start,
      letters ++ ']' :: '%' :: closings r.blocks.length⟩ := by
  by_cases empty : letters = []
  · rw [empty]
    exact succeeds_done rfl r opening start
  · have word := (⟨@Word.ofRun ['a'] rfl, some letters, by simpa using known⟩ : Tag).word_of_known
    have taken := step_valueLetters r ident opening start empty known (word letters rfl)
      (stop_cons (c := ']') (by decide) ('%' :: closings r.blocks.length))
    exact succeeds_of_step taken (succeeds_done rfl r opening _)

/-- Marks of a raw condition are taken behind the mark, if another one follows. -/
theorem succeeds_rawMarks {marks : List Char} (raw : ∀ c ∈ marks, c = 'r' ∨ c = 'R') (r : Reader)
    (test : Test) (opening : Span) (start : Nat) :
    Succeeds ⟨r.enter (.header opening (.marked test)), .header opening, start,
      marks ++ 'r' :: '%' :: ']' :: '%' :: closings r.blocks.length⟩ := by
  have all : ∀ c ∈ marks ++ ['r'], c = 'r' ∨ c = 'R' := by
    intro c member
    rcases List.mem_append.mp member with before | last
    · exact raw c before
    · exact .inl (List.mem_singleton.mp last)
  have taken := step_rawMarks r opening start test (by simp) all
    (stop_cons (c := '%') (by decide) (']' :: '%' :: closings r.blocks.length))
  rw [List.append_assoc] at taken
  exact succeeds_of_step taken (succeeds_ended rfl r opening _)

/-- From wherever a reader is, its completion comes to a tree. -/
theorem succeeds_completion (r : Reader) (start : Nat) :
    Succeeds ⟨r, r.stage.mode, start, r.completion⟩ := by
  obtain ⟨nodes, blocks, stage⟩ := r
  let outside : Reader := ⟨nodes, blocks, .text⟩
  cases stage with
  | text => exact succeeds_of_step (step_escape rfl start _) (succeeds_push outside _ _)
  | value opening stage =>
    cases stage with
    | opened =>
      have named := step_valueWord outside (@Word.ofRun ['a'] rfl) opening start
        (stop_cons (c := ']') (by decide) ('%' :: closings blocks.length))
      exact succeeds_of_step named (succeeds_done rfl outside opening _)
    | _ => exact succeeds_done rfl outside opening start
  | header opening stage =>
    cases stage with
    | opened | spaced | negated => exact succeeds_named rfl outside opening start
    | marked test => exact succeeds_rawMarks (List.forall_mem_nil _) outside test opening start
    | _ => exact succeeds_ended rfl outside opening start

end State

end TextTemplate.Reader
