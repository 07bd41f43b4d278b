import TextTemplate.Proofs.Machine
import TextTemplate.Template

/-!
# Faults

Lexer and reader keep step: where the reader is in text, so is the lexer, and no piece of a tag
comes astray. A fault shows at whole characters of the source.
-/

namespace TextTemplate

/-! ### Places of whole characters -/

/-- A character of the source begins at byte `n`, or the source ends there. -/
def IsBoundary (source : List Char) (n : Nat) : Prop :=
  ∃ front rest, source = front ++ rest ∧ byteLength front = n

/-- Whole characters of the source stand at the span, and one at least. -/
structure Span.Within (source : List Char) (s : Span) : Prop where
  nonempty : s.start < s.stop
  start : IsBoundary source s.start
  stop : IsBoundary source s.stop

theorem Span.Within.ofText {source front text rest : List Char}
    (same : source = front ++ (text ++ rest)) (nonempty : text ≠ []) :
    (Span.ofText (byteLength front) text).Within source where
  nonempty := by
    have := byteLength_pos nonempty
    simp only [Span.ofText]
    omega
  start := ⟨front, text ++ rest, same, rfl⟩
  stop := ⟨front ++ text, rest, by rw [same, List.append_assoc], byteLength_append _ _⟩

/-- What stands at the span, between what is in front of it and what is behind it. -/
theorem Span.Within.exists_text {source : List Char} {s : Span} (h : s.Within source) :
    ∃ front text rest, source = front ++ (text ++ rest) ∧ text ≠ [] ∧
      s = .ofText (byteLength front) text := by
  obtain ⟨start, stop⟩ := s
  obtain ⟨nonempty, ⟨front, behind, same, rfl⟩, ⟨front', behind', same', rfl⟩⟩ := h
  dsimp only at nonempty
  rcases List.append_eq_append_iff.mp (same.symm.trans same') with
    ⟨text, rfl, rfl⟩ | ⟨text, rfl, -⟩
  · refine ⟨front, text, behind', same, ?_, ?_⟩
    · rintro rfl
      simp at nonempty
    · rw [Span.ofText, byteLength_append]
  · rw [byteLength_append] at nonempty
    omega

theorem Span.Within.cover {source : List Char} {a b : Span} (ha : a.Within source)
    (hb : b.Within source) : (a.cover b).Within source where
  nonempty := by
    have := ha.nonempty
    simp only [Span.cover]
    omega
  start := by
    rcases Nat.le_total a.start b.start with le | le
    · simpa [Span.cover, Nat.min_eq_left le] using ha.start
    · simpa [Span.cover, Nat.min_eq_right le] using hb.start
  stop := by
    rcases Nat.le_total a.stop b.stop with le | le
    · simpa [Span.cover, Nat.max_eq_right le] using hb.stop
    · simpa [Span.cover, Nat.max_eq_left le] using ha.stop

def Cause.OfReading : Cause → Prop
  | .strayToken _ | .unknownVariable _ | .unknownCondition _ | .recursionLimit _ _ => False
  | _ => True

theorem Cause.OfReading.kind {cause : Cause} (h : cause.OfReading) :
    cause.kind = .malformed ∨ cause.kind = .unknownConversion := by
  cases cause <;> first | exact h.elim | exact Or.inl rfl | exact Or.inr rfl

theorem Cause.OfReading.identifier? {cause : Cause} (h : cause.OfReading) :
    cause.identifier? = none := by
  cases cause <;> first | exact h.elim | rfl

structure Fault.ShowsIn (source : List Char) (fault : Fault) : Prop where
  cause : fault.cause.OfReading
  place : fault.span.Within source

namespace Reader

/-! ### Lexer and reader in step -/

def Stage.mode : Stage → Lexer.Mode
  | .text => .text
  | .value opening _ => .value opening
  | .header opening _ => .header opening

variable {r r' : Reader} {start : Nat} {cs : List Char} {piece : Lexer.Piece}

theorem close_stage {l : Lexeme} (h : r.close l = .ok r') : r'.stage = r.stage := by
  unfold close at h
  split at h <;> cases h
  rw [push_stage]

theorem separate_stage {l : Lexeme} (h : r.separate l = .ok r') : r'.stage = r.stage := by
  unfold separate at h
  split at h
  · cases h
  · split at h <;> cases h
    rfl

theorem stepText_mode (text : r.stage = .text) (piece_read : Lexer.readText start cs = .ok piece)
    (taken : r.stepText ⟨piece.token, start, piece.text⟩ = .ok r') :
    r'.stage.mode = piece.mode := by
  unfold Lexer.readText at piece_read
  split at piece_read <;> cases piece_read
  case h_2 | h_3 => cases taken; rfl
  case h_4 => rw [separate_stage taken, text]; rfl
  case h_6 => rw [close_stage taken, text]; rfl
  all_goals
    cases taken
    rw [push_stage, text]
    rfl

theorem stepValue_mode {opening : Span} {stage : ValueStage}
    (piece_read : Lexer.readValue opening start cs = .ok piece)
    (taken : r.stepValue opening stage ⟨piece.token, start, piece.text⟩ = .ok r') :
    r'.stage.mode = piece.mode := by
  unfold Lexer.readValue at piece_read
  split at piece_read
  · cases piece_read
    cases stage <;> cases taken <;> simp [closeValue, Stage.mode]
  · cases piece_read
    cases stage with
    | named ident =>
      cases taken
      rfl
    | _ => cases taken
  · cases piece_read
  · split at piece_read <;> cases piece_read
    cases stage with
    | marked ident =>
      simp only [stepValue, Lexer.Piece.run] at taken
      cases converted : readConversions start (cs.takeWhile isWordChar) with
      | error fault => simp [converted, bind, Except.bind] at taken
      | ok conversions =>
        rw [converted] at taken
        cases taken
        rfl
    | _ => cases taken <;> rfl

theorem endHeader_mode {opening : Span} {test : Test} {l : Lexeme}
    (taken : r.endHeader opening test l = .ok r') : r'.stage.mode = .text := by
  unfold endHeader at taken
  dsimp only at taken
  split at taken
  · split at taken <;> cases taken
    rfl
  · cases taken
    rw [push_stage]
    rfl
  · cases taken

theorem stepHeader_mode {opening : Span} {stage : HeaderStage}
    (piece_read : Lexer.readHeader opening start cs = .ok piece)
    (taken : r.stepHeader opening stage ⟨piece.token, start, piece.text⟩ = .ok r') :
    r'.stage.mode = piece.mode := by
  unfold Lexer.readHeader at piece_read
  split at piece_read
  case h_1 | h_2 =>
    cases piece_read
    cases stage with
    | named test | converted test | finished test =>
      simp only [stepHeader] at taken
      exact endHeader_mode taken
    | _ => cases taken
  · cases piece_read
    cases stage <;> cases taken <;> rfl
  · cases piece_read
  · split at piece_read
    · cases piece_read
      cases stage <;> cases taken <;> rfl
    · split at piece_read <;> cases piece_read
      cases stage with
      | marked test =>
        simp only [stepHeader, Lexer.Piece.run] at taken
        cases raw : readRawMarks start (cs.takeWhile isWordChar) with
        | error fault => simp [raw, bind, Except.bind] at taken
        | ok _ =>
          rw [raw] at taken
          cases taken
          rfl
      | _ => cases taken <;> rfl

/-- Wherever the reader is after a piece, there the lexer is too. -/
theorem step_mode (piece_read : Lexer.read r.stage.mode start cs = .ok piece)
    (taken : r.step ⟨piece.token, start, piece.text⟩ = .ok r') :
    r'.stage.mode = piece.mode := by
  unfold step at taken
  cases stage : r.stage with
  | text =>
    rw [stage] at piece_read taken
    exact stepText_mode stage piece_read taken
  | value opening stage' =>
    rw [stage] at piece_read taken
    exact stepValue_mode piece_read taken
  | header opening stage' =>
    rw [stage] at piece_read taken
    exact stepHeader_mode piece_read taken

/-! ### What a reader points at -/

def Stage.opening? : Stage → Option Span
  | .text => none
  | .value opening _ | .header opening _ => some opening

/-- What the reader points at if the source ends: the open tag, and the open conditions. -/
def marks (r : Reader) : List Span :=
  r.stage.opening?.toList ++ r.blocks.map (·.header)

@[simp] theorem Block.push_header (b : Block) (node : Node) : (b.push node).header = b.header := by
  unfold push
  split <;> rfl

@[simp] theorem marks_push (r : Reader) (node : Node) : (r.push node).marks = r.marks := by
  obtain ⟨nodes, blocks, stage⟩ := r
  cases blocks <;> simp [marks, push]

/-- A reader whose marks stand in the source, or a fault that shows in it. -/
def Safe (source : List Char) : Except Fault Reader → Prop
  | .ok r => ∀ s ∈ r.marks, s.Within source
  | .error fault => fault.ShowsIn source

variable {source front rest : List Char} {opening : Span} {l : Lexeme}

theorem safe_push (safe : Safe source (.ok r)) (node : Node) : Safe source (.ok (r.push node)) := by
  simpa [Safe] using safe

theorem separate_safe (safe : Safe source (.ok r)) (here : l.span.Within source) :
    Safe source (r.separate l) := by
  unfold separate
  split
  · exact ⟨trivial, here⟩
  · rename_i b blocks opened
    split
    · exact ⟨trivial, here⟩
    · simpa [Safe, marks, opened] using safe

theorem close_safe (safe : Safe source (.ok r)) (here : l.span.Within source) :
    Safe source (r.close l) := by
  unfold close
  split
  · exact ⟨trivial, here⟩
  · rename_i b blocks opened
    refine safe_push (fun s member => safe s ?_) _
    rw [marks, opened]
    rcases List.mem_append.mp member with inTag | open'
    · exact List.mem_append_left _ inTag
    · exact List.mem_append_right _ (List.mem_cons_of_mem _ open')

theorem safe_enter {stage : Stage} (safe : Safe source (.ok r))
    (opening : ∀ s ∈ stage.opening?, s.Within source) : Safe source (.ok { r with stage }) := by
  intro s member
  rcases List.mem_append.mp member with inTag | open'
  · exact opening s (by simpa using inTag)
  · exact safe s (List.mem_append_right _ open')

theorem stepText_safe (piece_read : Lexer.readText (byteLength front) rest = .ok piece)
    (safe : Safe source (.ok r))
    (here : (Span.ofText (byteLength front) piece.text).Within source) :
    Safe source (r.stepText ⟨piece.token, byteLength front, piece.text⟩) := by
  unfold Lexer.readText at piece_read
  split at piece_read <;> cases piece_read
  case h_2 | h_3 => exact safe_enter safe fun s member => by cases member; exact here
  case h_4 => exact separate_safe safe here
  case h_6 => exact close_safe safe here
  all_goals exact safe_push safe _

theorem readConversions_fault {letters : List Char} {fault : Fault}
    (same : source = front ++ (letters ++ rest))
    (failed : readConversions (byteLength front) letters = .error fault) :
    fault.ShowsIn source := by
  induction letters generalizing front with
  | nil => cases failed
  | cons c letters ih =>
    rw [readConversions] at failed
    cases coded : Conversion.ofCode? c with
    | none =>
      simp only [coded] at failed
      cases failed
      exact ⟨trivial, .ofText same (List.cons_ne_nil c [])⟩
    | some conversion =>
      have next : byteLength (front ++ [c]) = byteLength front + c.utf8Size := by simp
      cases tail : readConversions (byteLength front + c.utf8Size) letters with
      | ok conversions => simp [coded, tail, bind, Except.bind, pure, Except.pure] at failed
      | error fault' =>
        simp only [coded, tail] at failed
        cases failed
        have same' : source = (front ++ [c]) ++ (letters ++ rest) := by simpa using same
        exact ih same' (by rw [next, tail])

theorem stepValue_safe {stage : ValueStage} (same : source = front ++ (piece.text ++ rest))
    (nonempty : piece.text ≠ []) (opened : opening.Within source) (safe : Safe source (.ok r)) :
    Safe source (r.stepValue opening stage ⟨piece.token, byteLength front, piece.text⟩) := by
  have here := Span.Within.ofText same nonempty
  have enter {stage : ValueStage} : Safe source (.ok { r with stage := .value opening stage }) :=
    safe_enter safe fun s member => by cases member; exact opened
  have closed {ident : Ident} {conversions : List Conversion} {l : Lexeme} :
      Safe source (.ok (r.closeValue opening ident conversions l)) :=
    safe_push (safe_enter safe fun s member => by cases member) _
  unfold stepValue
  split
  case h_4 =>
    cases converted : readConversions (byteLength front) piece.text with
    | error fault => exact readConversions_fault same converted
    | ok conversions => exact enter
  case h_1 | h_3 => exact enter
  case h_5 | h_6 | h_7 => exact closed
  all_goals exact ⟨trivial, here⟩

theorem readRawMarks_fault {letters : List Char} {fault : Fault}
    (same : source = front ++ (letters ++ rest))
    (failed : readRawMarks (byteLength front) letters = .error fault) :
    fault.ShowsIn source := by
  induction letters generalizing front with
  | nil => cases failed
  | cons c letters ih =>
    rw [readRawMarks] at failed
    split at failed
    · have same' : source = (front ++ [c]) ++ (letters ++ rest) := by simpa using same
      exact ih same' (by simpa using failed)
    · cases failed
      exact ⟨trivial, .ofText same (List.cons_ne_nil c [])⟩

theorem endHeader_safe {test : Test} (opened : opening.Within source)
    (here : l.span.Within source) (safe : Safe source (.ok r)) :
    Safe source (r.endHeader opening test l) := by
  have header := opened.cover here
  unfold endHeader
  dsimp only
  split
  · split
    · intro s member
      rcases List.mem_cons.mp member with rfl | member
      · exact header
      · exact safe s (List.mem_append_right _ member)
    · exact ⟨trivial, header⟩
  · exact safe_push (safe_enter safe fun s member => by cases member) _
  · exact ⟨trivial, here⟩

theorem stepHeader_safe {stage : HeaderStage} (same : source = front ++ (piece.text ++ rest))
    (nonempty : piece.text ≠ []) (opened : opening.Within source) (safe : Safe source (.ok r)) :
    Safe source (r.stepHeader opening stage ⟨piece.token, byteLength front, piece.text⟩) := by
  have here := Span.Within.ofText same nonempty
  have enter {stage : HeaderStage} : Safe source (.ok { r with stage := .header opening stage }) :=
    safe_enter safe fun s member => by cases member; exact opened
  unfold stepHeader
  dsimp only
  split
  case h_11 =>
    cases marked : readRawMarks (byteLength front) piece.text with
    | error fault => exact readRawMarks_fault same marked
    | ok _ => exact enter
  all_goals first
    | exact enter
    | exact endHeader_safe opened here safe
    | exact ⟨trivial, here⟩

/-- A piece that is read where the reader is does no harm. -/
theorem step_safe (same : source = front ++ cs) (nonempty : cs ≠ [])
    (piece_read : Lexer.read r.stage.mode (byteLength front) cs = .ok piece)
    (safe : Safe source (.ok r)) :
    Safe source (r.step ⟨piece.token, byteLength front, piece.text⟩) := by
  have tiles : source = front ++ (piece.text ++ piece.rest) := by
    rw [Lexer.read_append piece_read, same]
  have filled := Lexer.read_ne_nil nonempty piece_read
  unfold step
  cases stage : r.stage with
  | text =>
    rw [stage] at piece_read
    exact stepText_safe piece_read safe (.ofText tiles filled)
  | value opening _ =>
    exact stepValue_safe tiles filled (safe opening (by simp [marks, stage, Stage.opening?])) safe
  | header opening _ =>
    exact stepHeader_safe tiles filled (safe opening (by simp [marks, stage, Stage.opening?])) safe

theorem read_fault {stage : Stage} {fault : Fault} (same : source = front ++ cs)
    (nonempty : cs ≠ []) (opened : ∀ s ∈ stage.opening?, s.Within source)
    (failed : Lexer.read stage.mode (byteLength front) cs = .error fault) :
    fault.ShowsIn source := by
  have first : (Span.ofText (byteLength front) (cs.take 1)).Within source := by
    have parts : source = front ++ (cs.take 1 ++ cs.drop 1) := by
      rw [List.take_append_drop, same]
    exact .ofText parts (by simpa using nonempty)
  cases stage with
  | text =>
    change Lexer.readText _ _ = _ at failed
    unfold Lexer.readText at failed
    split at failed <;> cases failed
    case h_5 | h_7 => exact ⟨trivial, .ofText same (List.cons_ne_nil '%' [_])⟩
  | value opening _ =>
    change Lexer.readValue _ _ _ = _ at failed
    unfold Lexer.readValue at failed
    split at failed
    case h_3 =>
      cases failed
      exact ⟨trivial, opened opening rfl⟩
    case h_4 =>
      split at failed <;> cases failed
      exact ⟨trivial, first⟩
    all_goals cases failed
  | header opening _ =>
    change Lexer.readHeader _ _ _ = _ at failed
    unfold Lexer.readHeader at failed
    split at failed
    case h_4 =>
      cases failed
      exact ⟨trivial, opened opening rfl⟩
    case h_5 =>
      split at failed
      · cases failed
      · split at failed <;> cases failed
        exact ⟨trivial, first⟩
    all_goals cases failed

theorem finish_fault {fault : Fault} (safe : Safe source (.ok r))
    (failed : r.finish = .error fault) : fault.ShowsIn source := by
  unfold finish at failed
  split at failed
  case h_3 =>
    split at failed <;> cases failed
    rename_i b last
    have member := List.mem_map_of_mem (f := (·.header)) (List.mem_of_getLast? last)
    exact ⟨trivial, safe _ (List.mem_append_right _ member)⟩
  all_goals
    rename_i opening _ inTag
    cases failed
    exact ⟨trivial, safe opening (by simp [marks, inTag, Stage.opening?])⟩

namespace State

/-- Lexer and reader are in step, and the marks of the reader stand in the source. -/
structure Sound (source : List Char) (s : State) : Prop where
  place : ∃ front, source = front ++ s.rest ∧ byteLength front = s.start
  mode : s.mode = s.reader.stage.mode
  safe : Safe source (.ok s.reader)

theorem Sound.step {s s' : State} (sound : s.Sound source) (step : Step s s') :
    s'.Sound source := by
  cases step with
  | take nonempty piece_read taken =>
    rename_i r r' mode start cs piece
    obtain ⟨front, same, rfl⟩ := sound.place
    obtain rfl : mode = r.stage.mode := sound.mode
    refine ⟨⟨front ++ _, ?_, byteLength_append _ _⟩, (step_mode piece_read taken).symm, ?_⟩
    · rw [List.append_assoc, Lexer.read_append piece_read, same]
    · have after := step_safe same nonempty piece_read sound.safe
      rwa [taken] at after

/-- A run can fail only at a place in the source. -/
theorem run_fault {s : State} {fault : Fault} (sound : s.Sound source)
    (failed : s.run = .error fault) : fault.ShowsIn source := by
  have fails := fails_of_run failed
  clear failed
  induction fails with
  | unfinished failed => exact finish_fault sound.safe failed
  | @unread r mode start cs fault nonempty failed =>
    obtain ⟨front, same, rfl⟩ := sound.place
    obtain rfl : mode = r.stage.mode := sound.mode
    refine read_fault same nonempty (fun s member => sound.safe s ?_) failed
    simpa [marks] using Or.inl member
  | @refused r mode start cs piece fault nonempty piece_read refused =>
    obtain ⟨front, same, rfl⟩ := sound.place
    obtain rfl : mode = r.stage.mode := sound.mode
    have after := step_safe same nonempty piece_read sound.safe
    rwa [refused] at after
  | later nonempty piece_read taken _ ih => exact ih (sound.step (.take nonempty piece_read taken))

end State

/-- Reading a source fails at a place in it, if it fails. -/
theorem showsIn_of_read {fault : Fault} (failed : read source = .error fault) :
    fault.ShowsIn source := by
  rw [read_eq_run] at failed
  refine State.run_fault ⟨⟨[], rfl, rfl⟩, rfl, ?_⟩ failed
  intro s member
  cases member

end Reader

theorem Template.parse_error {source : String} {e : Error} (failed : parse source = .error e) :
    e.source = source ∧ e.toFault.ShowsIn source.toList := by
  unfold parse at failed
  split at failed <;> cases failed
  rename_i fault failed
  exact ⟨rfl, Reader.showsIn_of_read failed⟩

/-! ### Lexemes -/

structure Lexeme.StandsIn (source : List Char) (l : Lexeme) : Prop where
  place : l.span.Within source
  text : l.span.text source = l.text

theorem Lexeme.StandsIn.ofText {source front rest text : List Char}
    (same : source = front ++ (text ++ rest)) (nonempty : text ≠ []) (token : Token) :
    Lexeme.StandsIn source ⟨token, byteLength front, text⟩ where
  place := .ofText same nonempty
  text := by simp [Lexeme.span, same]

theorem standsIn_of_scan {source front cs : List Char} {mode : Lexer.Mode}
    (same : source = front ++ cs) :
    ∀ l ∈ (Lexer.scan mode (byteLength front) cs).1, l.StandsIn source := by
  induction length : cs.length using Nat.strongRecOn generalizing front cs mode with
  | ind n ih =>
    subst length
    by_cases empty : cs = []
    · simp [empty, Lexer.scan]
    · cases piece_read : Lexer.read mode (byteLength front) cs with
      | error fault =>
        simp [Reader.State.scan_of_fault empty piece_read]
      | ok piece =>
        have tiles := Lexer.read_append piece_read
        rw [Reader.State.scan_of_read empty piece_read]
        intro l member
        rcases List.mem_cons.mp member with rfl | behind
        · have parts : source = front ++ (piece.text ++ piece.rest) := by rw [tiles, same]
          exact .ofText parts (Lexer.read_ne_nil empty piece_read) _
        · have after : source = (front ++ piece.text) ++ piece.rest := by
            rw [List.append_assoc, tiles, same]
          rw [← byteLength_append] at behind
          exact ih _ (Lexer.length_rest_lt empty piece_read) after rfl l behind

end TextTemplate
