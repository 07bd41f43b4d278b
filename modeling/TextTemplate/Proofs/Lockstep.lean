import TextTemplate.Proofs.Machine

/-!
# Readers in lockstep

Whether a source can be read, and the cause if it cannot, does not depend on nodes, names and
places. Readers that differ in these alone come through a source in lockstep.
-/

namespace TextTemplate

/-- Both come to results that are so related, or both fail, and for the same cause. -/
inductive Parallel {α β : Type} (R : α → β → Prop) : Except Fault α → Except Fault β → Prop where
  | ok {a : α} {b : β} : R a b → Parallel R (.ok a) (.ok b)
  | error {fault fault' : Fault} : fault.cause = fault'.cause →
      Parallel R (.error fault) (.error fault')

theorem Parallel.bind {α β γ δ : Type} {R : α → β → Prop} {S : γ → δ → Prop}
    {x : Except Fault α} {y : Except Fault β} {f : α → Except Fault γ} {g : β → Except Fault δ}
    (h : Parallel R x y) (next : ∀ a b, R a b → Parallel S (f a) (g b)) :
    Parallel S (x >>= f) (y >>= g) := by
  cases h with
  | ok related => exact next _ _ related
  | error same => exact .error same

/-! ### Pieces -/

namespace Lexer

inductive Mode.Similar : Mode → Mode → Prop where
  | text : Similar .text .text
  | value {opening opening' : Span} : Similar (.value opening) (.value opening')
  | header {opening opening' : Span} : Similar (.header opening) (.header opening')

structure Piece.Similar (piece piece' : Piece) : Prop where
  token : piece.token = piece'.token
  text : piece.text = piece'.text
  rest : piece.rest = piece'.rest
  mode : piece.mode.Similar piece'.mode

variable {mode mode' : Mode}

theorem read_parallel (h : mode.Similar mode') (start start' : Nat) (cs : List Char) :
    Parallel Piece.Similar (read mode start cs) (read mode' start' cs) := by
  cases h with
  | text =>
    change Parallel _ (readText start cs) (readText start' cs)
    unfold readText
    split <;> first
      | exact .ok ⟨rfl, rfl, rfl, .text⟩
      | exact .ok ⟨rfl, rfl, rfl, .value⟩
      | exact .ok ⟨rfl, rfl, rfl, .header⟩
      | exact .error rfl
  | @value opening opening' =>
    change Parallel _ (readValue opening start cs) (readValue opening' start' cs)
    unfold readValue
    split
    · exact .ok ⟨rfl, rfl, rfl, .text⟩
    · exact .ok ⟨rfl, rfl, rfl, .value⟩
    · exact .error rfl
    · split
      · exact .ok ⟨rfl, rfl, rfl, .value⟩
      · exact .error rfl
  | @header opening opening' =>
    change Parallel _ (readHeader opening start cs) (readHeader opening' start' cs)
    unfold readHeader
    split
    · exact .ok ⟨rfl, rfl, rfl, .text⟩
    · exact .ok ⟨rfl, rfl, rfl, .text⟩
    · exact .ok ⟨rfl, rfl, rfl, .header⟩
    · exact .error rfl
    · split
      · exact .ok ⟨rfl, rfl, rfl, .header⟩
      · split
        · exact .ok ⟨rfl, rfl, rfl, .header⟩
        · exact .error rfl

end Lexer

/-! ### Steps -/

namespace Reader

inductive ValueStage.Similar : ValueStage → ValueStage → Prop where
  | opened : Similar .opened .opened
  | named {ident ident' : Ident} : Similar (.named ident) (.named ident')
  | marked {ident ident' : Ident} : Similar (.marked ident) (.marked ident')
  | converted {ident ident' : Ident} {conversions conversions' : List Conversion} :
      Similar (.converted ident conversions) (.converted ident' conversions')

inductive HeaderStage.Similar : HeaderStage → HeaderStage → Prop where
  | opened : Similar .opened .opened
  | spaced : Similar .spaced .spaced
  | negated : Similar .negated .negated
  | named {test test' : Test} : Similar (.named test) (.named test')
  | marked {test test' : Test} : Similar (.marked test) (.marked test')
  | converted {test test' : Test} : Similar (.converted test) (.converted test')
  | finished {test test' : Test} : Similar (.finished test) (.finished test')

inductive Stage.Similar : Stage → Stage → Prop where
  | text : Similar .text .text
  | value {opening opening' : Span} {stage stage' : ValueStage} :
      stage.Similar stage' → Similar (.value opening stage) (.value opening' stage')
  | header {opening opening' : Span} {stage stage' : HeaderStage} :
      stage.Similar stage' → Similar (.header opening stage) (.header opening' stage')

/-- For each open condition, whether its false branch has begun. -/
def branches (r : Reader) : List Bool :=
  r.blocks.map (·.no.isSome)

@[simp] theorem branches_push (r : Reader) (node : Node) : (r.push node).branches = r.branches := by
  obtain ⟨nodes, blocks, stage⟩ := r
  cases blocks with
  | nil => rfl
  | cons b blocks =>
    obtain ⟨test, header, yes, no⟩ := b
    cases no <;> rfl

/-- The readers differ in nodes, names and places at most. -/
structure Similar (r r' : Reader) : Prop where
  branches : r.branches = r'.branches
  stage : r.stage.Similar r'.stage

variable {r r' : Reader} {token : Token} {start start' : Nat} {text : List Char}

theorem Similar.push (h : r.Similar r') (node node' : Node) :
    (r.push node).Similar (r'.push node') :=
  ⟨by simp [h.branches], by simpa using h.stage⟩

theorem Similar.enter (h : r.Similar r') {stage stage' : Stage} (same : stage.Similar stage') :
    Similar { r with stage } { r' with stage := stage' } :=
  ⟨h.branches, same⟩

theorem separate_parallel (h : r.Similar r') (start start' : Nat) :
    Parallel Similar (r.separate ⟨token, start, text⟩) (r'.separate ⟨token, start', text⟩) := by
  obtain ⟨nodes, blocks, stage⟩ := r
  obtain ⟨nodes', blocks', stage'⟩ := r'
  have same := h.branches
  cases blocks <;> cases blocks' <;> simp only [branches, List.map_nil, List.map_cons,
    List.cons.injEq, reduceCtorEq] at same
  · exact .error rfl
  · simp only [separate, same.1]
    split
    · exact .error rfl
    · exact .ok ⟨by simpa [branches] using same.2, h.stage⟩

theorem close_parallel (h : r.Similar r') (start start' : Nat) :
    Parallel Similar (r.close ⟨token, start, text⟩) (r'.close ⟨token, start', text⟩) := by
  obtain ⟨nodes, blocks, stage⟩ := r
  obtain ⟨nodes', blocks', stage'⟩ := r'
  have same := h.branches
  cases blocks <;> cases blocks' <;> simp only [branches, List.map_nil, List.map_cons,
    List.cons.injEq, reduceCtorEq] at same
  · exact .error rfl
  · have rest : Similar ⟨nodes, _, stage⟩ ⟨nodes', _, stage'⟩ := ⟨same.2, h.stage⟩
    exact .ok (rest.push _ _)

theorem stepText_parallel (h : r.Similar r') (start start' : Nat) :
    Parallel Similar (r.stepText ⟨token, start, text⟩) (r'.stepText ⟨token, start', text⟩) := by
  cases token with
  | text | escapedPercent | percent => exact .ok (h.push _ _)
  | openValue => exact .ok (h.enter (.value .opened))
  | openCondition => exact .ok (h.enter (.header .opened))
  | separator => exact separate_parallel h start start'
  | closeCondition => exact close_parallel h start start'
  | _ => exact .error rfl

theorem readConversions_parallel (letters : List Char) (start start' : Nat) :
    Parallel (fun _ _ => True) (readConversions start letters)
      (readConversions start' letters) := by
  induction letters generalizing start start' with
  | nil => exact .ok trivial
  | cons c letters ih =>
    rw [readConversions, readConversions]
    cases Conversion.ofCode? c with
    | none => exact .error rfl
    | some conversion => exact (ih _ _).bind fun _ _ _ => .ok trivial

theorem stepValue_parallel (h : r.Similar r') {stage stage' : ValueStage}
    (same : stage.Similar stage') (opening opening' : Span) (start start' : Nat) :
    Parallel Similar (r.stepValue opening stage ⟨token, start, text⟩)
      (r'.stepValue opening' stage' ⟨token, start', text⟩) := by
  have ended : Similar { r with stage := .text } { r' with stage := .text } := h.enter .text
  cases same with
  | opened =>
    cases token with
    | word => exact .ok (h.enter (.value .named))
    | _ => exact .error rfl
  | named =>
    cases token with
    | bang => exact .ok (h.enter (.value .marked))
    | closeValue => exact .ok (ended.push _ _)
    | _ => exact .error rfl
  | marked =>
    cases token with
    | word =>
      exact (readConversions_parallel text start start').bind fun _ _ _ =>
        .ok (h.enter (.value .converted))
    | closeValue => exact .ok (ended.push _ _)
    | _ => exact .error rfl
  | converted =>
    cases token with
    | closeValue => exact .ok (ended.push _ _)
    | _ => exact .error rfl

theorem readRawMarks_parallel (letters : List Char) (start start' : Nat) :
    Parallel (fun _ _ => True) (readRawMarks start letters) (readRawMarks start' letters) := by
  induction letters generalizing start start' with
  | nil => exact .ok trivial
  | cons c letters ih =>
    rw [readRawMarks, readRawMarks]
    split
    · exact ih _ _
    · exact .error rfl

theorem endHeader_parallel (h : r.Similar r') (opening opening' : Span) (test test' : Test)
    (start start' : Nat) :
    Parallel Similar (r.endHeader opening test ⟨token, start, text⟩)
      (r'.endHeader opening' test' ⟨token, start', text⟩) := by
  have count : r.blocks.length = r'.blocks.length := by
    simpa [branches] using congrArg List.length h.branches
  cases token with
  | separator =>
    simp only [endHeader, count]
    split
    · exact .ok ⟨by simpa [branches] using h.branches, .text⟩
    · exact .error rfl
  | closeCondition => exact .ok (Similar.push (h.enter .text) _ _)
  | _ => exact .error rfl

theorem stepHeader_parallel (h : r.Similar r') {stage stage' : HeaderStage}
    (same : stage.Similar stage') (opening opening' : Span) (start start' : Nat) :
    Parallel Similar (r.stepHeader opening stage ⟨token, start, text⟩)
      (r'.stepHeader opening' stage' ⟨token, start', text⟩) := by
  have enter {stage stage' : HeaderStage} (same : stage.Similar stage') :
      Parallel Similar (.ok { r with stage := .header opening stage })
        (.ok { r' with stage := .header opening' stage' }) := .ok (h.enter (.header same))
  cases same with
  | opened =>
    cases token with
    | blank => exact enter .spaced
    | bang => exact enter .negated
    | word => exact enter .named
    | _ => exact .error rfl
  | spaced =>
    cases token with
    | bang => exact enter .negated
    | word => exact enter .named
    | _ => exact .error rfl
  | negated =>
    cases token with
    | word => exact enter .named
    | _ => exact .error rfl
  | named =>
    cases token with
    | bang => exact enter .marked
    | blank => exact enter .finished
    | _ =>
      simp only [stepHeader]
      exact endHeader_parallel h _ _ _ _ start start'
  | marked =>
    cases token with
    | word =>
      exact (readRawMarks_parallel text start start').bind fun _ _ _ => enter .converted
    | _ => exact .error rfl
  | converted =>
    cases token with
    | blank => exact enter .finished
    | _ =>
      simp only [stepHeader]
      exact endHeader_parallel h _ _ _ _ start start'
  | finished =>
    simp only [stepHeader]
    exact endHeader_parallel h _ _ _ _ start start'

/-- Readers in lockstep take the same piece in lockstep. -/
theorem step_parallel (h : r.Similar r') (start start' : Nat) :
    Parallel Similar (r.step ⟨token, start, text⟩) (r'.step ⟨token, start', text⟩) := by
  have same := h.stage
  unfold step
  generalize r.stage = stage at same ⊢
  generalize r'.stage = stage' at same ⊢
  cases same with
  | text => exact stepText_parallel h start start'
  | value inner => exact stepValue_parallel h inner _ _ start start'
  | header inner => exact stepHeader_parallel h inner _ _ start start'

theorem finish_parallel (h : r.Similar r') :
    Parallel (fun _ _ => True) r.finish r'.finish := by
  have last : r.blocks.getLast?.map (·.no.isSome) = r'.blocks.getLast?.map (·.no.isSome) := by
    rw [← List.getLast?_map, ← List.getLast?_map]
    exact congrArg List.getLast? h.branches
  have same := h.stage
  unfold finish
  generalize r.stage = stage at same ⊢
  generalize r'.stage = stage' at same ⊢
  cases same with
  | text =>
    cases blocks : r.blocks.getLast? <;> cases blocks' : r'.blocks.getLast? <;>
      simp only [blocks, blocks', Option.map_none, Option.map_some, reduceCtorEq] at last
    · exact .ok trivial
    · exact .error rfl
  | value _ => exact .error rfl
  | header _ => exact .error rfl

/-! ### Runs -/

namespace State

/-- Readers in lockstep come to a tree each, or fail for the same cause. -/
theorem run_parallel {r r' : Reader} {mode mode' : Lexer.Mode} (h : r.Similar r')
    (modes : mode.Similar mode') (start start' : Nat) (cs : List Char) :
    Parallel (fun _ _ => True) (run ⟨r, mode, start, cs⟩) (run ⟨r', mode', start', cs⟩) := by
  by_cases nonempty : cs = []
  · subst nonempty
    rw [run_nil, run_nil]
    exact finish_parallel h
  rw [run_read nonempty, run_read nonempty]
  generalize found : Lexer.read mode start cs = piece
  generalize found' : Lexer.read mode' start' cs = piece'
  have both := Lexer.read_parallel modes start start' cs
  rw [found, found'] at both
  cases both with
  | error same => exact .error same
  | @ok piece piece' similar =>
    have shorter := Lexer.length_rest_lt nonempty found
    obtain ⟨token, text, rest, next⟩ := piece
    obtain ⟨token', text', rest', next'⟩ := piece'
    obtain ⟨rfl, rfl, rfl, modes'⟩ := similar
    exact (step_parallel h start start').bind fun _ _ h' => run_parallel h' modes' _ _ rest
termination_by cs.length

end State

end Reader
end TextTemplate
