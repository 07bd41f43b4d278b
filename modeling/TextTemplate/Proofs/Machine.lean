import Mathlib.Logic.Relation
import TextTemplate.Proofs.Trees
import TextTemplate.Template.Reader

/-!
# Reading as a machine

Lexer and reader together take one piece of the source after the other. `State.run` is where this
ends, and `State.Step` one step on the way. Text may be cut anywhere: `run_char` takes it character
by character.
-/

namespace TextTemplate.Reader
open Node

/-! ### Steps and runs -/

/-- A reader in front of the rest of its source, which begins at byte `start`. -/
structure State where
  reader : Reader
  mode : Lexer.Mode
  start : Nat
  rest : List Char

namespace State

def run (s : State) : Except Fault (List Node) := do
  let (lexemes, fault) := Lexer.scan s.mode s.start s.rest
  let r ← lexemes.foldlM step s.reader
  match fault with
  | some fault => throw fault
  | none => r.finish

inductive Step : State → State → Prop where
  | take {r r' : Reader} {mode : Lexer.Mode} {start : Nat} {cs : List Char} {piece : Lexer.Piece} :
      cs ≠ [] → Lexer.read mode start cs = .ok piece →
      r.step ⟨piece.token, start, piece.text⟩ = .ok r' →
      Step ⟨r, mode, start, cs⟩
        ⟨r', piece.mode, start + byteLength piece.text, piece.rest⟩

theorem Step.of_piece {r r' : Reader} {mode mode' : Lexer.Mode} {start n : Nat}
    {cs text rest : List Char} {token : Token} (h : cs ≠ [])
    (piece_read : Lexer.read mode start cs = .ok ⟨token, text, rest, mode'⟩)
    (taken : r.step ⟨token, start, text⟩ = .ok r') (length : byteLength text = n) :
    Step ⟨r, mode, start, cs⟩ ⟨r', mode', start + n, rest⟩ := by
  subst length
  exact .take h piece_read taken

abbrev Reaches : State → State → Prop := Relation.ReflTransGen Step

variable {r : Reader} {mode : Lexer.Mode} {start : Nat} {cs : List Char} {piece : Lexer.Piece}

@[simp] theorem run_nil : run ⟨r, mode, start, []⟩ = r.finish := by
  simp [run, Lexer.scan]

theorem scan_of_read (h : cs ≠ []) (piece_read : Lexer.read mode start cs = .ok piece) :
    Lexer.scan mode start cs =
      (⟨piece.token, start, piece.text⟩ ::
        (Lexer.scan piece.mode (start + byteLength piece.text) piece.rest).1,
      (Lexer.scan piece.mode (start + byteLength piece.text) piece.rest).2) := by
  rw [Lexer.scan]
  simp only [h, dite_false]
  split
  · rename_i fault failed
    rw [piece_read] at failed
    cases failed
  · rename_i piece' found
    rw [piece_read] at found
    cases found
    rfl

theorem run_of_read (h : cs ≠ []) (piece_read : Lexer.read mode start cs = .ok piece) :
    run ⟨r, mode, start, cs⟩ =
      (r.step ⟨piece.token, start, piece.text⟩ >>= fun r' =>
        run ⟨r', piece.mode, start + byteLength piece.text, piece.rest⟩) := by
  simp only [run, scan_of_read h piece_read, List.foldlM_cons, bind_assoc]

theorem scan_of_fault {fault : Fault} (h : cs ≠ [])
    (failed : Lexer.read mode start cs = .error fault) :
    Lexer.scan mode start cs = ([], some fault) := by
  rw [Lexer.scan]
  simp only [h, dite_false]
  split
  · rename_i fault' failed'
    rw [failed] at failed'
    cases failed'
    rfl
  · rename_i piece found
    rw [failed] at found
    cases found

theorem run_of_fault {fault : Fault} (h : cs ≠ [])
    (failed : Lexer.read mode start cs = .error fault) :
    run ⟨r, mode, start, cs⟩ = .error fault := by
  rw [run, scan_of_fault h failed]
  rfl

theorem run_read (h : cs ≠ []) :
    run ⟨r, mode, start, cs⟩ = (do
      let piece ← Lexer.read mode start cs
      let r' ← r.step ⟨piece.token, start, piece.text⟩
      run ⟨r', piece.mode, start + byteLength piece.text, piece.rest⟩) := by
  cases found : Lexer.read mode start cs with
  | error fault => exact run_of_fault h found
  | ok piece => exact run_of_read h found

theorem run_step {s s' : State} (h : Step s s') : s.run = s'.run := by
  cases h with
  | take nonempty piece_read taken =>
    rw [run_of_read nonempty piece_read, taken]
    rfl

theorem run_reaches {s s' : State} (h : Reaches s s') : s.run = s'.run := by
  induction h with
  | refl => rfl
  | tail _ step ih => exact ih.trans (run_step step)

/-- A run that comes to a tree has no source left, or a next step. -/
theorem run_ok {nodes : List Node} (h : run ⟨r, mode, start, cs⟩ = .ok nodes) :
    cs = [] ∧ r.finish = .ok nodes ∨
      cs ≠ [] ∧ ∃ piece r', Lexer.read mode start cs = .ok piece ∧
        r.step ⟨piece.token, start, piece.text⟩ = .ok r' ∧
        run ⟨r', piece.mode, start + byteLength piece.text, piece.rest⟩ = .ok nodes := by
  by_cases empty : cs = []
  · subst empty
    rw [run_nil] at h
    exact Or.inl ⟨rfl, h⟩
  · refine Or.inr ⟨empty, ?_⟩
    cases found : Lexer.read mode start cs with
    | error fault =>
      rw [run_of_fault empty found] at h
      cases h
    | ok piece =>
      rw [run_of_read empty found] at h
      cases taken : r.step ⟨piece.token, start, piece.text⟩ with
      | error fault =>
        rw [taken] at h
        cases h
      | ok r' =>
        rw [taken] at h
        exact ⟨piece, r', rfl, taken, h⟩

inductive Fails : State → Fault → Prop where
  | unfinished {r : Reader} {mode : Lexer.Mode} {start : Nat} {fault : Fault} :
      r.finish = .error fault → Fails ⟨r, mode, start, []⟩ fault
  | unread {r : Reader} {mode : Lexer.Mode} {start : Nat} {cs : List Char} {fault : Fault} :
      cs ≠ [] → Lexer.read mode start cs = .error fault → Fails ⟨r, mode, start, cs⟩ fault
  | refused {r : Reader} {mode : Lexer.Mode} {start : Nat} {cs : List Char} {piece : Lexer.Piece}
      {fault : Fault} :
      cs ≠ [] → Lexer.read mode start cs = .ok piece →
      r.step ⟨piece.token, start, piece.text⟩ = .error fault → Fails ⟨r, mode, start, cs⟩ fault
  | later {r r' : Reader} {mode : Lexer.Mode} {start : Nat} {cs : List Char} {piece : Lexer.Piece}
      {fault : Fault} :
      cs ≠ [] → Lexer.read mode start cs = .ok piece →
      r.step ⟨piece.token, start, piece.text⟩ = .ok r' →
      Fails ⟨r', piece.mode, start + byteLength piece.text, piece.rest⟩ fault →
      Fails ⟨r, mode, start, cs⟩ fault

theorem fails_of_run {s : State} {fault : Fault} (failed : s.run = .error fault) :
    s.Fails fault := by
  induction length : s.rest.length using Nat.strongRecOn generalizing s with
  | ind n ih =>
    subst length
    obtain ⟨r, mode, start, cs⟩ := s
    by_cases empty : cs = []
    · subst empty
      exact .unfinished (run_nil ▸ failed)
    · cases piece_read : Lexer.read mode start cs with
      | error fault' =>
        cases (run_of_fault empty piece_read).symm.trans failed
        exact .unread empty piece_read
      | ok piece =>
        rw [run_of_read empty piece_read] at failed
        cases taken : r.step ⟨piece.token, start, piece.text⟩ with
        | error fault' =>
          rw [taken] at failed
          cases failed
          exact .refused empty piece_read taken
        | ok r' =>
          rw [taken] at failed
          exact .later empty piece_read taken
            (ih _ (Lexer.length_rest_lt empty piece_read) failed rfl)

end State

theorem read_eq_run (source : List Char) : read source = State.run ⟨{}, .text, 0, source⟩ := rfl

/-! ### Text in pieces

A reader keeps its nodes as they come. `settle` joins the texts among them, which changes nothing
in what the reader comes to. -/

def settleAll (nodes : List Node) : List Node :=
  (merge nodes.reverse).reverse

theorem settleAll_cons (node : Node) (nodes : List Node) :
    settleAll (node :: settleAll nodes) = settleAll (node :: nodes) := by
  simp [settleAll]

@[simp] theorem settleAll_settleAll (nodes : List Node) :
    settleAll (settleAll nodes) = settleAll nodes := by
  simp [settleAll]

theorem settleAll_text (s t : String) (nodes : List Node) :
    settleAll (.text t :: .text s :: nodes) = settleAll (.text (s ++ t) :: nodes) := by
  have joined : merge [.text s, .text t] = merge [.text (s ++ t)] := by
    simp [consText_consText]
  simp only [settleAll, List.reverse_cons, List.append_assoc, List.reverse_inj]
  rw [← merge_append_merge, List.singleton_append, joined, merge_append_merge]

theorem merge_settleAll (nodes : List Node) :
    merge (settleAll nodes).reverse = merge nodes.reverse := by
  simp [settleAll]

def Block.settle (b : Block) : Block :=
  { b with yes := settleAll b.yes, no := b.no.map settleAll }

def settle (r : Reader) : Reader :=
  { r with nodes := settleAll r.nodes, blocks := r.blocks.map Block.settle }

theorem Block.push_settle (b : Block) (node : Node) :
    (b.settle.push node).settle = (b.push node).settle := by
  obtain ⟨test, header, yes, no⟩ := b
  cases no <;> simp [settle, push, settleAll_cons]

theorem Block.close_settle (b : Block) : b.settle.close = b.close := by
  obtain ⟨test, header, yes, no⟩ := b
  cases no <;> simp [settle, close, merge_settleAll]

@[simp] theorem Block.settle_settle (b : Block) : b.settle.settle = b.settle := by
  obtain ⟨test, header, yes, no⟩ := b
  cases no <;> simp [settle]

theorem push_settle (r : Reader) (node : Node) :
    (r.settle.push node).settle = (r.push node).settle := by
  obtain ⟨nodes, blocks, stage⟩ := r
  cases blocks <;> simp [settle, push, settleAll_cons, Block.push_settle]

@[simp] theorem push_stage (r : Reader) (node : Node) : (r.push node).stage = r.stage := by
  unfold push
  split <;> rfl

theorem push_text_settle (r : Reader) (s t : String) :
    ((r.push (.text s)).push (.text t)).settle = (r.push (.text (s ++ t))).settle := by
  obtain ⟨nodes, blocks, stage⟩ := r
  cases blocks with
  | nil => simp [settle, push, settleAll_text]
  | cons b blocks =>
    obtain ⟨test, header, yes, no⟩ := b
    cases no <;> simp [settle, push, Block.settle, Block.push, settleAll_text]

@[simp] theorem settle_settle (r : Reader) : r.settle.settle = r.settle := by
  simp [settle]

theorem stage_settle (r : Reader) (stage : Stage) :
    ({ r.settle with stage } : Reader) = settle { r with stage } := rfl

theorem separate_settle (r : Reader) (l : Lexeme) :
    (r.settle.separate l).map settle = (r.separate l).map settle := by
  obtain ⟨nodes, blocks, stage⟩ := r
  cases blocks with
  | nil => rfl
  | cons b blocks =>
    have started : ({ b.settle with no := some [] } : Block).settle =
        ({ b with no := some [] } : Block).settle := by simp [Block.settle]
    have twice : (b.settle.no).isSome = b.no.isSome := by simp [Block.settle]
    simp only [separate, settle, List.map_cons, twice]
    split <;> simp [Except.map, settle, started]

theorem close_settle (r : Reader) (l : Lexeme) :
    (r.settle.close l).map settle = (r.close l).map settle := by
  obtain ⟨nodes, blocks, stage⟩ := r
  cases blocks with
  | nil => rfl
  | cons b blocks =>
    have closed := push_settle ⟨nodes, blocks, stage⟩ b.close
    simpa [close, settle, Block.close_settle, Except.map] using closed

theorem stepText_settle (r : Reader) (l : Lexeme) :
    (r.settle.stepText l).map settle = (r.stepText l).map settle := by
  unfold stepText
  split
  · simp [Except.map, push_settle]
  · simp [Except.map, push_settle]
  · simp [Except.map, push_settle]
  · simp [Except.map, stage_settle]
  · simp [Except.map, stage_settle]
  · exact separate_settle r l
  · exact close_settle r l
  all_goals rfl

theorem stepValue_settle (r : Reader) (opening : Span) (stage : ValueStage) (l : Lexeme) :
    (r.settle.stepValue opening stage l).map settle =
      (r.stepValue opening stage l).map settle := by
  unfold stepValue
  split
  case h_4 =>
    cases readConversions l.start l.text with
    | error fault => rfl
    | ok _ => simp [Except.map, Functor.map, stage_settle]
  all_goals simp [Except.map, closeValue, stage_settle, push_settle, unexpected]

theorem endHeader_settle (r : Reader) (opening : Span) (test : Test) (l : Lexeme) :
    (r.settle.endHeader opening test l).map settle =
      (r.endHeader opening test l).map settle := by
  have count : r.settle.blocks.length = r.blocks.length := by simp [settle]
  simp only [endHeader, count]
  split
  · split <;> simp [Except.map, settle]
  · simp [Except.map, stage_settle, push_settle]
  · rfl

theorem stepHeader_settle (r : Reader) (opening : Span) (stage : HeaderStage) (l : Lexeme) :
    (r.settle.stepHeader opening stage l).map settle =
      (r.stepHeader opening stage l).map settle := by
  unfold stepHeader
  split
  case h_11 =>
    cases readRawMarks l.start l.text with
    | error fault => rfl
    | ok _ => simp [Except.map, Functor.map, stage_settle]
  all_goals first
    | exact endHeader_settle r opening _ l
    | simp [Except.map, stage_settle, unexpected]

theorem step_settle (r : Reader) (l : Lexeme) :
    (r.settle.step l).map settle = (r.step l).map settle := by
  have stage : r.settle.stage = r.stage := rfl
  unfold step
  rw [stage]
  split
  · exact stepText_settle r l
  · exact stepValue_settle r _ _ l
  · exact stepHeader_settle r _ _ l

theorem finish_settle (r : Reader) : r.settle.finish = r.finish := by
  obtain ⟨nodes, blocks, stage⟩ := r
  cases stage with
  | text =>
    simp only [finish, settle, List.getLast?_map]
    cases blocks.getLast? <;> simp [Block.settle, merge_settleAll]
  | _ => rfl

/-- Readers that settle to the same take the same to the same. -/
theorem foldlM_settle (ls : List Lexeme) {r r' : Reader} (same : r.settle = r'.settle) :
    (ls.foldlM step r).map settle = (ls.foldlM step r').map settle := by
  induction ls generalizing r r' with
  | nil => simpa [Except.map, pure, Except.pure] using same
  | cons l ls ih =>
    have taken : (r.step l).map settle = (r'.step l).map settle := by
      rw [← step_settle, same, step_settle]
    simp only [List.foldlM_cons]
    cases left : r.step l with
    | error fault =>
      cases right : r'.step l with
      | error fault' =>
        rw [left, right] at taken
        cases taken
        rfl
      | ok q' => simp [left, right, Except.map] at taken
    | ok q =>
      cases right : r'.step l with
      | error fault' => simp [left, right, Except.map] at taken
      | ok q' =>
        rw [left, right] at taken
        exact ih (Except.ok.inj taken)

namespace State

theorem run_settle {r r' : Reader} (same : r.settle = r'.settle) (mode : Lexer.Mode) (start : Nat)
    (cs : List Char) : run ⟨r, mode, start, cs⟩ = run ⟨r', mode, start, cs⟩ := by
  have folded := foldlM_settle (Lexer.scan mode start cs).1 same
  change ((Lexer.scan mode start cs).1.foldlM step r >>= _) =
    ((Lexer.scan mode start cs).1.foldlM step r' >>= _)
  generalize (Lexer.scan mode start cs).1.foldlM step r = left at folded ⊢
  generalize (Lexer.scan mode start cs).1.foldlM step r' = right at folded ⊢
  cases left with
  | error fault =>
    cases right with
    | error fault' =>
      cases folded
      rfl
    | ok q' => cases folded
  | ok q =>
    cases right with
    | error fault' => cases folded
    | ok q' =>
      have finished : q.finish = q'.finish := by
        rw [← finish_settle q, Except.ok.inj folded, finish_settle]
      simp only [bind, Except.bind, finished]

theorem read_char {c : Char} (hc : c ≠ '%') (start : Nat) (cs : List Char) :
    Lexer.read .text start (c :: cs) =
      .ok ⟨.text, c :: cs.takeWhile (· != '%'), cs.dropWhile (· != '%'), .text⟩ := by
  change Lexer.readText start (c :: cs) = _
  unfold Lexer.readText
  split <;> simp_all [Lexer.Piece.run]

/-- Text is taken character by character. -/
theorem run_char {r : Reader} {c : Char} (text : r.stage = .text) (hc : c ≠ '%') (start : Nat)
    (cs : List Char) :
    run ⟨r, .text, start, c :: cs⟩ =
      run ⟨r.push (.text (String.singleton c)), .text, start + c.utf8Size, cs⟩ := by
  have taken : ∀ (q : Reader) (start : Nat) (cs : List Char), q.stage = .text →
      q.step ⟨.text, start, cs⟩ = .ok (q.push (.text (String.ofList cs))) := by
    intro q start cs stage
    simp [step, stage, stepText]
  rw [run_of_read (by simp) (read_char hc start cs), taken r start _ text]
  cases cs with
  | nil => simp [bind, Except.bind]
  | cons d cs =>
    by_cases hd : d = '%'
    · subst hd
      simp [bind, Except.bind]
    · rw [run_of_read (by simp) (read_char hd _ cs), taken _ _ _ (by rw [push_stage, text])]
      have joined := push_text_settle r (String.singleton c)
        (String.ofList (d :: cs.takeWhile (· != '%')))
      simp only [bind, Except.bind]
      rw [run_settle joined]
      simp [hd, Nat.add_assoc]

end State

end TextTemplate.Reader
