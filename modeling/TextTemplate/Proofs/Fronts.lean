import TextTemplate.Literal
import TextTemplate.Proofs.Composition
import TextTemplate.Proofs.Faults
import TextTemplate.Proofs.Lookahead
import TextTemplate.Proofs.Places

/-!
# Fronts of sources

Where the lexer comes to the end of a source between two tags, and the last piece is no lone `%`,
the source is a `Front`, and it is read alike whatever comes behind it.
-/

namespace TextTemplate
open Grammar Reader

/-! ### Sources that end in text -/

inductive Lexer.Takes : Mode → Nat → List Char → Mode → Prop where
  | nil {mode : Mode} {start : Nat} : Takes mode start [] mode
  | cons {mode mode' : Mode} {start : Nat} {cs : List Char} {piece : Piece} :
      cs ≠ [] → read mode start cs = .ok piece →
      Takes piece.mode (start + byteLength piece.text) piece.rest mode' → Takes mode start cs mode'

/-- The lexer reads the source to its end, where it is outside of tags. The last token is no lone
`%`. -/
structure EndsInText (source : String) : Prop where
  text : Lexer.Takes .text 0 source.toList .text
  closed : ¬ EndsInPercent source

namespace Lexer

/-! ### Pieces with more behind them -/

def Piece.Closed (piece : Piece) : Prop :=
  piece.rest ≠ [] ∨ piece.mode = .text ∧ piece.token ≠ .text ∧ piece.token ≠ .percent

def Piece.append (piece : Piece) (more : List Char) : Piece :=
  { piece with rest := piece.rest ++ more }

variable {mode : Mode} {start : Nat} {cs : List Char} {piece : Piece}

theorem endsBefore_of_text (nonempty : cs ≠ []) (h : read mode start cs = .ok piece)
    (text : piece.mode = .text) (plain : piece.token ≠ .text) (closed : piece.token ≠ .percent)
    (c : Char) : piece.token.EndsBefore c := by
  cases mode with
  | text =>
    cases State.readText_ok nonempty h with
    | char hc cs =>
      rw [State.read_char hc] at h
      cases h
      exact absurd rfl plain
    | percent => exact absurd rfl closed
    | openValue => cases text
    | _ => trivial
  | value _ =>
    cases State.readValue_ok h with
    | word => cases text
    | _ => trivial
  | header _ =>
    cases State.readHeader_ok h with
    | word | blank => cases text
    | _ => trivial

/-- A piece is read alike whatever comes behind it, if it cannot go on there. -/
theorem read_more (nonempty : cs ≠ []) (h : read mode start cs = .ok piece)
    (closed : piece.Closed) (more : List Char) :
    read mode start (cs ++ more) = .ok (piece.append more) := by
  rw [← read_append h, List.append_assoc]
  refine read_swap nonempty h fun c next => ?_
  rcases closed with ends | ⟨text, plain, closed⟩
  · obtain ⟨d, tail, first⟩ := List.exists_cons_of_ne_nil ends
    refine read_ends nonempty h c ?_
    rw [first] at next ⊢
    exact next
  · exact endsBefore_of_text nonempty h text plain closed c

/-- A piece of text that is the last has no `%` in it. -/
theorem plain_of_text (nonempty : cs ≠ []) (h : read mode start cs = .ok piece)
    (token : piece.token = .text) (ends : piece.rest = []) : mode = .text ∧ '%' ∉ cs := by
  cases mode with
  | text =>
    cases State.readText_ok nonempty h with
    | @char c hc cs =>
      rw [State.read_char hc] at h
      cases h
      have whole : cs.takeWhile (· != '%') = cs := by
        have tiles := List.takeWhile_append_dropWhile (p := (· != '%')) (l := cs)
        rwa [show cs.dropWhile (· != '%') = [] from ends, List.append_nil] at tiles
      have none : '%' ∉ cs := by
        intro member
        rw [← whole] at member
        exact absurd (List.all_eq_true.mp List.all_takeWhile _ member) (by decide)
      exact ⟨rfl, by simp [Ne.symm hc, none]⟩
    | _ => cases token
  | value _ => cases State.readValue_ok h <;> cases token
  | header _ => cases State.readHeader_ok h <;> cases token

end Lexer

/-! ### What is read to its end in text is a front -/

theorem percentLast_of_percent {mode : Lexer.Mode} {start : Nat} {cs : List Char}
    {piece : Lexer.Piece} (nonempty : cs ≠ []) (h : Lexer.read mode start cs = .ok piece)
    (token : piece.token = .percent) (ends : piece.rest = []) : PercentLast mode start cs := by
  rw [PercentLast, State.scan_of_read nonempty h]
  simp [ends, token, Lexer.scan]

theorem Grammar.Front.text {run cs : List Char} (plain : ∀ c ∈ run, c ≠ '%') (h : Front cs) :
    Front (run ++ cs) := by
  induction run with
  | nil => exact h
  | cons c run ih =>
    exact .char (plain c (by simp)) (ih fun d member => plain d (List.mem_cons_of_mem c member))

/-- What is a front where the lexer is in text, and the rest of one where it is in a tag. -/
def FrontFrom : Lexer.Mode → List Char → Prop
  | .text, cs => Front cs
  | .value _, cs => ∃ tag tail, (∀ c ∈ tag, isWordChar c = true ∨ c = '!') ∧ Front tail ∧
      cs = tag ++ ']' :: '%' :: tail
  | .header _, cs => ∃ tag tail, (∀ c ∈ tag, c ≠ '%') ∧ Front ('%' :: tail) ∧
      opening ('%' :: tail) = .nothing ∧ cs = tag ++ '%' :: tail

theorem frontFrom_value {opening : Span} {run cs : List Char}
    (inner : ∀ c ∈ run, isWordChar c = true ∨ c = '!') (h : FrontFrom (.value opening) cs) :
    FrontFrom (.value opening) (run ++ cs) := by
  obtain ⟨tag, tail, inner', front, rfl⟩ := h
  refine ⟨run ++ tag, tail, fun c member => ?_, front, (List.append_assoc _ _ _).symm⟩
  rcases List.mem_append.mp member with here | behind
  · exact inner c here
  · exact inner' c behind

theorem frontFrom_header {opening : Span} {run cs : List Char} (inner : ∀ c ∈ run, c ≠ '%')
    (h : FrontFrom (.header opening) cs) : FrontFrom (.header opening) (run ++ cs) := by
  obtain ⟨tag, tail, inner', front, stop, rfl⟩ := h
  refine ⟨run ++ tag, tail, fun c member => ?_, front, stop, (List.append_assoc _ _ _).symm⟩
  rcases List.mem_append.mp member with here | behind
  · exact inner c here
  · exact inner' c behind

theorem ne_percent_of_word {w : Word} : ∀ c ∈ w.chars, c ≠ '%' := by
  rintro c member rfl
  exact absurd (w.word _ member) (by decide)

theorem ne_percent_of_blank {cs : List Char} (h : ∀ c ∈ cs, isBlankChar c = true) :
    ∀ c ∈ cs, c ≠ '%' := by
  rintro c member rfl
  exact absurd (h _ member) (by decide)

theorem frontFrom_of_takes {mode mode' : Lexer.Mode} {start : Nat} {cs : List Char}
    (h : Lexer.Takes mode start cs mode') (text : mode' = .text)
    (closed : ¬ PercentLast mode start cs) : FrontFrom mode cs := by
  induction h with
  | nil =>
    subst text
    exact Front.nil
  | @cons mode mode' start cs piece nonempty piece_read tail ih =>
    have further := ih text fun last => closed (percentLast_of_read nonempty piece_read last)
    cases mode with
    | text =>
      cases State.readText_ok nonempty piece_read with
      | @char c hc cs =>
        rw [State.read_char hc] at piece_read
        cases piece_read
        have plain : ∀ d ∈ c :: cs.takeWhile (· != '%'), d ≠ '%' := by
          intro d member
          rcases List.mem_cons.mp member with rfl | member
          · exact hc
          · exact bne_iff_ne.mp (List.all_eq_true.mp List.all_takeWhile d member)
        have whole := Front.text plain further
        rwa [List.cons_append, List.takeWhile_append_dropWhile] at whole
      | escape cs => exact .escape further
      | @percent cs next =>
        have ends : cs ≠ [] := by
          rintro rfl
          exact closed (percentLast_percent start)
        obtain ⟨c, tail, rfl⟩ := List.exists_cons_of_ne_nil ends
        exact .percent (next c rfl) further
      | openValue cs =>
        obtain ⟨tag, tail, inner, front, rfl⟩ := further
        exact .value inner front
      | openCondition cs =>
        obtain ⟨tag, tail, inner, front, stop, rfl⟩ := further
        exact .header inner front stop
      | separator cs => exact .separator further
      | close cs => exact .close further
    | value opening =>
      cases State.readValue_ok piece_read with
      | close rest => exact ⟨[], rest, by simp, further, rfl⟩
      | bang rest =>
        have bang : ∀ c ∈ ['!'], isWordChar c = true ∨ c = '!' := by simp
        exact frontFrom_value bang further
      | word w rest => exact frontFrom_value (fun c member => Or.inl (w.word c member)) further
    | header opening =>
      cases State.readHeader_ok piece_read with
      | separator rest => exact ⟨[], _, by simp, .separator further, rfl, rfl⟩
      | close rest => exact ⟨[], _, by simp, .close further, rfl, rfl⟩
      | bang rest =>
        have bang : ∀ c ∈ ['!'], c ≠ '%' := by simp
        exact frontFrom_header bang further
      | blank all rest => exact frontFrom_header (ne_percent_of_blank all) further
      | word w rest => exact frontFrom_header ne_percent_of_word further

theorem EndsInText.front {p : String} (h : EndsInText p) : Front p.toList :=
  frontFrom_of_takes h.text rfl h.closed

/-! ### Literal text -/

def literalNodes (cs : List Char) : List Node :=
  cs.map fun c => .text (String.singleton c)

namespace Reader.State

theorem run_literal {r : Reader} (text : r.stage = .text) (cs : List Char) (start : Nat)
    (more : List Char) :
    run ⟨r, .text, start, cs.flatMap Literal.escapeChar ++ more⟩ =
      run ⟨r.pushAll (literalNodes cs), .text,
        start + byteLength (cs.flatMap Literal.escapeChar), more⟩ := by
  induction cs generalizing r start with
  | nil => rfl
  | cons c cs ih =>
    have further := ih (r := r.push (.text (String.singleton c))) (by rw [push_stage, text])
    rw [List.flatMap_cons, List.append_assoc, byteLength_append, ← Nat.add_assoc]
    by_cases hc : c = '%'
    · subst hc
      exact (run_step (step_escape text start _)).trans (further _)
    · rw [Literal.escapeChar, if_neg hc]
      exact (run_char text hc start _).trans (further _)

/-! ### Reading a front -/

/-- Whatever comes behind the text, reading it ends in the same fault, or goes on with the same
reader. -/
def Settled (s : State) : Prop :=
  (∃ fault, ∀ more, run { s with rest := s.rest ++ more } = .error fault) ∨
    ∃ r : Reader, r.stage = .text ∧ ∀ more, run { s with rest := s.rest ++ more } =
      run ⟨r, .text, s.start + byteLength s.rest, more⟩

theorem settled_of_read {r : Reader} {start : Nat} {cs : List Char} {piece : Lexer.Piece}
    (nonempty : cs ≠ []) (piece_read : Lexer.read r.stage.mode start cs = .ok piece)
    (closed : piece.Closed)
    (further : ∀ r' : Reader, r'.stage.mode = piece.mode →
      Settled ⟨r', piece.mode, start + byteLength piece.text, piece.rest⟩) :
    Settled ⟨r, r.stage.mode, start, cs⟩ := by
  have read (more : List Char) : run ⟨r, r.stage.mode, start, cs ++ more⟩ =
      (r.step ⟨piece.token, start, piece.text⟩ >>= fun r' =>
        run ⟨r', piece.mode, start + byteLength piece.text, piece.rest ++ more⟩) :=
    run_of_read (by simp [nonempty]) (Lexer.read_more nonempty piece_read closed more)
  cases taken : r.step ⟨piece.token, start, piece.text⟩ with
  | error fault => exact Or.inl ⟨fault, fun more => by rw [read, taken]; rfl⟩
  | ok r' =>
    rw [taken] at read
    have length : start + byteLength cs =
        start + byteLength piece.text + byteLength piece.rest := by
      rw [← Lexer.read_append piece_read, byteLength_append, Nat.add_assoc]
    rcases further r' (step_mode piece_read taken) with ⟨fault, failed⟩ | ⟨last, text, same⟩
    · exact Or.inl ⟨fault, fun more => (read more).trans (failed more)⟩
    · refine Or.inr ⟨last, text, fun more => ?_⟩
      dsimp only
      rw [length]
      exact (read more).trans (same more)

theorem settled_of_plain {r : Reader} (text : r.stage = .text) {cs : List Char}
    (plain : '%' ∉ cs) (start : Nat) : Settled ⟨r, .text, start, cs⟩ := by
  have spelled : cs.flatMap Literal.escapeChar = cs := by
    induction cs with
    | nil => rfl
    | cons c cs ih =>
      simp only [List.mem_cons, not_or] at plain
      simp [Literal.escapeChar, Ne.symm plain.1, ih plain.2]
  have read := run_literal text cs start
  rw [spelled] at read
  exact Or.inr ⟨r.pushAll (literalNodes cs), by simp [text], read⟩

/-- A text that is read to its end outside of tags is settled. -/
theorem settled_of_takes {mode mode' : Lexer.Mode} {start : Nat} {cs : List Char}
    (h : Lexer.Takes mode start cs mode') (text : mode' = .text)
    (closed : ¬ PercentLast mode start cs) (r : Reader) (step : r.stage.mode = mode) :
    Settled ⟨r, mode, start, cs⟩ := by
  induction h generalizing r with
  | nil =>
    subst text
    have stage : r.stage = .text := by
      cases stage : r.stage <;> rw [stage] at step <;> cases step
    exact Or.inr ⟨r, stage, fun more => rfl⟩
  | @cons mode mode' start cs piece nonempty piece_read tail ih =>
    subst step
    have further := ih text fun last => closed (percentLast_of_read nonempty piece_read last)
    by_cases ends : piece.rest = []
    · have mode : piece.mode = .text := by
        rw [ends, text] at tail
        generalize piece.mode = mode at tail
        cases tail with
        | nil => rfl
        | cons nonempty => exact absurd rfl nonempty
      by_cases plain : piece.token = .text
      · obtain ⟨inText, none⟩ := Lexer.plain_of_text nonempty piece_read plain ends
        have stage : r.stage = .text := by
          cases stage : r.stage <;> rw [stage] at inText <;> cases inText
        rw [inText]
        exact settled_of_plain stage none start
      · refine settled_of_read nonempty piece_read (Or.inr ⟨mode, plain, fun lone => ?_⟩) further
        exact closed (percentLast_of_percent nonempty piece_read lone ends)
    · exact settled_of_read nonempty piece_read (Or.inl ends) further

end Reader.State

end TextTemplate
