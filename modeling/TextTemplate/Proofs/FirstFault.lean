import Mathlib.Control.Monad.Basic
import Mathlib.Data.List.Basic
import TextTemplate.Proofs.Outcomes
import TextTemplate.Proofs.Refusals

/-!
# First faults

A fault shows where the source stops being the beginning of a template, unless something has been
left open there. That it does so is settled two characters later.
-/

namespace TextTemplate
open Grammar Reader

namespace Reader

variable {r r' : Reader} {fault : Fault}

namespace State

/-! ### Lexer and reader in step -/

/-- Lexer and reader are in step, and a tag begins before the place to which they have come. -/
structure InStep (s : State) : Prop where
  mode : s.mode = s.reader.stage.mode
  opening : ∀ span ∈ s.reader.stage.opening?, span.start ≤ s.start ∧ span.stop ≤ s.start

variable {mode : Lexer.Mode} {start : Nat} {cs : List Char} {piece : Lexer.Piece}

theorem inStep_later (h : InStep ⟨r, mode, start, cs⟩)
    (piece_read : Lexer.read mode start cs = .ok piece)
    (taken : r.step ⟨piece.token, start, piece.text⟩ = .ok r') :
    InStep ⟨r', piece.mode, start + byteLength piece.text, piece.rest⟩ := by
  obtain rfl : mode = r.stage.mode := h.mode
  refine ⟨(step_mode piece_read taken).symm, fun span member => ?_⟩
  have moves := step_moves taken
  have before := h.opening
  generalize r.stage = stage at moves before
  cases r'
  dsimp only at moves member ⊢
  cases moves with
  | leave => cases member
  | openValue | openCondition =>
    cases member
    simp only [Lexeme.span, Span.ofText]
    omega
  | value | header =>
    have inside := before span member
    dsimp only at inside
    omega

theorem cover_header {opening : Span} {stage : HeaderStage} (h : InStep ⟨r, mode, start, cs⟩)
    (inTag : r.stage = .header opening stage) (token : Token) (text : List Char) :
    opening.cover (Lexeme.span ⟨token, start, text⟩) =
      ⟨opening.start, start + byteLength text⟩ := by
  have before := h.opening opening (by rw [inTag]; rfl)
  simp only [Span.cover, Lexeme.span, Span.ofText, Span.mk.injEq]
  dsimp only at before
  omega

/-! ### What settles a fault -/

/-- The fault shows up to the end of a text with which the rest of the source begins, and two
characters behind the text settle it. -/
def Settles (s : State) (fault : Fault) : Prop :=
  ∃ text behind, text ≠ [] ∧ s.rest = text ++ behind ∧
    fault.span.stop = s.start + byteLength text ∧
    ∀ c d x, behind = c :: d :: x →
      ∀ more, run { s with rest := text ++ c :: d :: more } = .error fault

theorem settles_piece (nonempty : cs ≠ []) (piece_read : Lexer.read mode start cs = .ok piece)
    (refused : r.step ⟨piece.token, start, piece.text⟩ = .error fault)
    (stop : fault.span.stop = start + byteLength piece.text) :
    Settles ⟨r, mode, start, cs⟩ fault := by
  have filled := Lexer.read_ne_nil nonempty piece_read
  refine ⟨piece.text, piece.rest, filled, (Lexer.read_append piece_read).symm, stop, ?_⟩
  intro c d x same more
  have ends : ∀ e ∈ (c :: d :: more).head?, piece.token.EndsBefore e := by
    intro e next
    refine Lexer.read_ends nonempty piece_read e ?_
    rw [same]
    exact next
  rw [run_of_read (by simp) (Lexer.read_swap nonempty piece_read ends), refused]
  rfl

theorem settles_letter (nonempty : cs ≠ []) (piece_read : Lexer.read mode start cs = .ok piece)
    (token : piece.token = .word) {known unknown : List Char} {c : Char}
    (same : piece.text = known ++ c :: unknown)
    (stop : fault.span.stop = start + byteLength (known ++ [c]))
    (refused : ∀ others, r.step ⟨piece.token, start, known ++ c :: others⟩ = .error fault) :
    Settles ⟨r, mode, start, cs⟩ fault := by
  refine ⟨known ++ [c], unknown ++ piece.rest, by simp, ?_, stop, fun d d' x _ more => ?_⟩
  · rw [← Lexer.read_append piece_read, same]
    simp
  · have parts : piece.text = (known ++ [c]) ++ unknown := by simp [same]
    have word := Lexer.read_word nonempty piece_read token (by simp) parts (d :: d' :: more)
    rw [run_of_read (by simp) word]
    have longer := refused ((d :: d' :: more).takeWhile isWordChar)
    rw [token] at longer
    simp only [List.append_assoc, List.singleton_append, longer]
    rfl

theorem settles_later (nonempty : cs ≠ []) (piece_read : Lexer.read mode start cs = .ok piece)
    (taken : r.step ⟨piece.token, start, piece.text⟩ = .ok r')
    (h : Settles ⟨r', piece.mode, start + byteLength piece.text, piece.rest⟩ fault) :
    Settles ⟨r, mode, start, cs⟩ fault := by
  obtain ⟨text, behind, filled, same, stop, settled⟩ := h
  have same : piece.rest = text ++ behind := same
  refine ⟨piece.text ++ text, behind, by simp [filled], ?_, ?_, fun c d x next more => ?_⟩
  · rw [List.append_assoc, ← same]
    exact (Lexer.read_append piece_read).symm
  · rw [stop, byteLength_append, Nat.add_assoc]
  · obtain ⟨e, text, rfl⟩ := List.exists_cons_of_ne_nil filled
    have ends : ∀ e' ∈ (e :: text ++ c :: d :: more).head?, piece.token.EndsBefore e' := by
      intro e' first
      refine Lexer.read_ends nonempty piece_read e' ?_
      rw [same]
      exact first
    rw [List.append_assoc, run_of_read (by simp) (Lexer.read_swap nonempty piece_read ends), taken]
    exact settled c d x next more

/-- What comes later than two characters behind a fault does not matter, unless something has been
left open. -/
theorem settles_of_fails {s : State} (fails : s.Fails fault) (inStep : s.InStep)
    (closed : ¬ fault.cause.Unclosed) : s.Settles fault := by
  induction fails with
  | unfinished failed => exact absurd (unclosed_of_finish failed) closed
  | @unread r mode start cs fault nonempty failed =>
    obtain ⟨text, behind, filled, same, span, settled⟩ := Lexer.read_unread nonempty failed closed
    refine ⟨text, behind, filled, same, by rw [span]; rfl, fun c d x next more => ?_⟩
    exact run_of_fault (by simp) (settled c d x next more)
  | @refused r mode start cs piece fault nonempty piece_read refused =>
    cases step_refuses refused with
    | piece => exact settles_piece nonempty piece_read refused rfl
    | letter _ token same _ span others =>
      refine settles_letter nonempty piece_read token same ?_ others
      rw [span]
      simp [Span.ofText, Nat.add_assoc]
    | nestedTooDeep stage =>
      refine settles_piece nonempty piece_read refused ?_
      rw [cover_header inStep stage]
  | later nonempty piece_read taken _ ih =>
    have further := ih (inStep_later inStep piece_read taken) closed
    exact settles_later nonempty piece_read taken further

/-! ### Beginnings of templates -/

/-- Whatever comes instead of the rest of the source, the pieces in front of it stay the same. -/
def Admits (s : State) (more : List Char) : Prop :=
  ∀ c ∈ more.head?, s.rest.head? = some c ∨
    ∃ token ∈ s.reader.stage.last?, token.EndsBefore c

/-- Up to byte `place`, the rest of the source can be gone on with without a fault. -/
def Extends (s : State) (place : Nat) : Prop :=
  ∃ front behind more, s.rest = front ++ behind ∧ place = s.start + byteLength front ∧
    s.Admits (front ++ more) ∧ Succeeds { s with rest := front ++ more }

theorem extends_here (sync : mode = r.stage.mode) (head : r.stage = .text → cs.head? = some '%') :
    Extends ⟨r, mode, start, cs⟩ start := by
  refine ⟨[], cs, r.completion, rfl, rfl, fun c first => ?_, ?_⟩
  · obtain ⟨d, wayOut, spelled, ends⟩ := r.stage.head_wayOut
    rw [List.nil_append, completion, spelled] at first
    cases first
    rcases ends with ⟨text, rfl⟩ | ends
    · exact .inl (head text)
    · exact .inr ends
  · rw [sync]
    exact succeeds_completion r start

theorem extends_later (nonempty : cs ≠ []) (piece_read : Lexer.read mode start cs = .ok piece)
    (taken : r.step ⟨piece.token, start, piece.text⟩ = .ok r') {place : Nat}
    (h : Extends ⟨r', piece.mode, start + byteLength piece.text, piece.rest⟩ place) :
    Extends ⟨r, mode, start, cs⟩ place := by
  obtain ⟨front, behind, more, same, rfl, admits, nodes, read⟩ := h
  have same : piece.rest = front ++ behind := same
  have tiles := Lexer.read_append piece_read
  have ends : ∀ c ∈ (front ++ more).head?, piece.token.EndsBefore c := by
    intro c first
    rcases admits c first with next | ⟨token, last, ends⟩
    · exact Lexer.read_ends nonempty piece_read c next
    · rwa [(step_moves taken).last token last] at ends
  refine ⟨piece.text ++ front, behind, more, ?_, ?_, ?_, nodes, ?_⟩
  · rw [List.append_assoc, ← same]
    exact tiles.symm
  · rw [byteLength_append, Nat.add_assoc]
  · intro c first
    obtain ⟨d, text, spelled⟩ := List.exists_cons_of_ne_nil (Lexer.read_ne_nil nonempty piece_read)
    refine .inl ?_
    dsimp only
    rw [← tiles]
    rw [spelled] at first ⊢
    exact first
  · have filled := Lexer.read_ne_nil nonempty piece_read
    have swapped := Lexer.read_swap nonempty piece_read ends
    rw [List.append_assoc, run_of_read (by simp [filled]) swapped, taken]
    exact read

/-- In front of a fault stands the beginning of a template, unless something has been left open. For
conditions nested too deep, it ends in front of the header. -/
theorem extends_of_fails {s : State} (fails : s.Fails fault) (inStep : s.InStep)
    (closed : ¬ fault.cause.Unclosed) :
    s.Extends fault.span.start ∨
      ∃ opening stage, s.reader.stage = .header opening stage ∧
        fault.span.start = opening.start := by
  induction fails with
  | unfinished failed => exact absurd (unclosed_of_finish failed) closed
  | @unread r mode start cs fault nonempty failed =>
    obtain ⟨_, _, _, _, span, _⟩ := Lexer.read_unread nonempty failed closed
    obtain rfl : mode = r.stage.mode := inStep.mode
    rw [span]
    refine .inl (extends_here rfl fun text => ?_)
    rw [text] at failed
    exact Lexer.head_of_unread failed
  | @refused r mode start cs piece fault nonempty piece_read refused =>
    obtain rfl : mode = r.stage.mode := inStep.mode
    cases step_refuses refused with
    | piece token =>
      refine .inl (extends_here rfl fun text => ?_)
      rw [text] at piece_read
      exact Lexer.head_of_token nonempty piece_read (token text)
    | @letter known unknown c _ marked token same succeeds span others =>
      obtain ⟨more, succeeds⟩ := succeeds
      have same : piece.text = known ++ c :: unknown := same
      refine .inl ⟨known, c :: unknown ++ piece.rest, more, ?_, by rw [span]; rfl, ?_, succeeds⟩
      · show cs = _
        rw [← Lexer.read_append piece_read, same, List.append_assoc]
      · exact fun d _ => .inr ⟨.bang, marked, trivial⟩
    | @nestedTooDeep opening stage cause inTag =>
      refine .inr ⟨opening, stage, inTag, ?_⟩
      rw [cover_header inStep inTag]
  | @later r r' mode start cs piece fault nonempty piece_read taken _ ih =>
    obtain rfl : mode = r.stage.mode := inStep.mode
    rcases ih (inStep_later inStep piece_read taken) closed with
      further | ⟨opening, stage, inTag, span⟩
    · exact .inl (extends_later nonempty piece_read taken further)
    · have moves := step_moves taken
      rw [inTag] at moves
      rcases moves.header_inv with ⟨-, rfl, token⟩ | ⟨stage', before⟩
      · rw [span]
        refine .inl (extends_here rfl fun text => ?_)
        rw [text] at piece_read
        have other : piece.token ≠ .text := fun same => nomatch token.symm.trans same
        exact Lexer.head_of_token nonempty piece_read other
      · exact .inr ⟨opening, stage', before, span⟩

end State

/-- Where a source is not read, its beginning up to the fault is that of a template, and two
characters behind the fault settle it. -/
theorem read_error {source : List Char} {fault : Fault} (failed : read source = .error fault)
    (closed : ¬ fault.cause.Unclosed) :
    ∃ front text rest, source = front ++ (text ++ rest) ∧
      fault.span = .ofText (byteLength front) text ∧
      (∃ more nodes, read (front ++ more) = .ok nodes) ∧
      ∀ c d behind, rest = c :: d :: behind →
        ∀ more, read (front ++ (text ++ c :: d :: more)) = .error fault := by
  have shows := (showsIn_of_read failed).place.nonempty
  rw [read_eq_run] at failed
  have inStep : State.InStep ⟨{}, .text, 0, source⟩ := ⟨rfl, nofun⟩
  have fails := State.fails_of_run failed
  obtain ⟨whole, rest, _, same, stop, settled⟩ := State.settles_of_fails fails inStep closed
  rcases State.extends_of_fails fails inStep closed with extends' | ⟨opening, stage, inTag, _⟩
  · obtain ⟨front, behind, more, same', start, _, nodes, success⟩ := extends'
    dsimp only at same same' start stop settled
    rw [Nat.zero_add] at start stop
    obtain ⟨text, rfl⟩ : ∃ text, whole = front ++ text := by
      rcases List.append_eq_append_iff.mp (same'.symm.trans same) with
        ⟨text, split, -⟩ | ⟨beyond, split, -⟩
      · exact ⟨text, split⟩
      · rw [start, stop, split, byteLength_append] at shows
        omega
    refine ⟨front, text, rest, by rw [same, List.append_assoc], ?_, ⟨more, nodes, success⟩, ?_⟩
    · show Span.mk fault.span.start fault.span.stop = _
      rw [start, stop, byteLength_append]
      rfl
    · intro c d behind' next more
      rw [← List.append_assoc]
      exact settled c d behind' next more
  · cases inTag

end Reader

/-! ### Sources -/

/-- Unless something has been left open, an error of parsing shows right behind the beginning of
some template. All sources that are alike up to two characters behind it have the same error. -/
theorem parse_error_first {source : String} {e : Error}
    (failed : Template.parse source = .error e)
    (closed : ¬ "unclosed ".toList <+: e.message.toList) :
    ∃ front text rest : String, source = front ++ text ++ rest ∧
      e.span = ⟨front.utf8ByteSize, (front ++ text).utf8ByteSize⟩ ∧
      (∃ more, Compiles (front ++ more)) ∧
      ∀ next behind : String, rest = next ++ behind → next.length = 2 → ∀ more,
        Template.parse (front ++ text ++ next ++ more) =
          .error { e with source := front ++ text ++ next ++ more } := by
  unfold Template.parse at failed
  split at failed <;> cases failed
  rename_i fault failed
  obtain ⟨front, text, rest, same, span, ⟨more, nodes, success⟩, settled⟩ :=
    Reader.read_error failed fun unclosed => closed unclosed.message
  refine ⟨.ofList front, .ofList text, .ofList rest, ?_, ?_, ?_, ?_⟩
  · rw [← String.ofList_append, ← String.ofList_append, List.append_assoc, ← same,
      String.ofList_toList]
  · simp only [Fault.within, span, ← byteLength_toList, String.toList_append, String.toList_ofList,
      byteLength_append]
    rfl
  · have read : Reader.read (String.ofList front ++ .ofList more).toList = .ok nodes := by
      rw [String.toList_append, String.toList_ofList, String.toList_ofList, success]
    exact ⟨.ofList more, _, Template.parse_ok_iff.mpr ⟨nodes, read, rfl⟩⟩
  · intro next behind split two more
    obtain ⟨c, d, pair⟩ := List.length_eq_two.mp (String.length_toList.trans two)
    have rest : rest = c :: d :: behind.toList := by
      rw [← String.toList_ofList (l := rest), split, String.toList_append, pair]
      rfl
    have failed : Reader.read (String.ofList front ++ .ofList text ++ next ++ more).toList =
        .error fault := by
      simpa [pair] using settled c d behind.toList rest more.toList
    rw [Template.parse, failed]
    rfl

/-- The unknown letter in the midst of a word. -/
theorem parse_error_first_letter :
    let e : Error := ⟨⟨.unknownConversion 'x', ⟨5, 6⟩⟩, "%[v!jxq]%"⟩
    Template.parse "%[v!jxq]%" = .error e ∧ ¬ "unclosed ".toList <+: e.message.toList ∧
      ∃ front text rest : String, "%[v!jxq]%" = front ++ text ++ rest ∧
        e.span = ⟨front.utf8ByteSize, (front ++ text).utf8ByteSize⟩ ∧
        (∃ more, Compiles (front ++ more)) ∧
        ∀ next behind : String, rest = next ++ behind → next.length = 2 → ∀ more,
          Template.parse (front ++ text ++ next ++ more) =
            .error { e with source := front ++ text ++ next ++ more } := by
  intro e
  have failed : Template.parse "%[v!jxq]%" = .error e := by decide +kernel
  have closed : ¬ "unclosed ".toList <+: e.message.toList := by decide
  exact ⟨failed, closed, parse_error_first failed closed⟩

end TextTemplate
