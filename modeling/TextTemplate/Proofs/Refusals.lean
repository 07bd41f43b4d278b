import TextTemplate.Proofs.Completions
import TextTemplate.Proofs.Lookahead

/-!
# Refusals

What lexer and reader refuse, and what of the source it depends on: a few characters ahead for a
piece that cannot be read, and the piece alone for one that cannot be taken.
-/

namespace TextTemplate
open Grammar Reader

def Cause.Unclosed : Cause → Prop
  | .unclosedValue | .unclosedHeader | .interruptedHeader | .unclosedCondition => True
  | _ => False

theorem Cause.Unclosed.message {cause : Cause} (h : cause.Unclosed) :
    "unclosed ".toList <+: cause.message.toList := by
  cases cause <;> first | exact h.elim | decide

namespace Lexer

/-! ### Where no piece can be read -/

variable {mode : Mode} {start : Nat} {cs : List Char} {fault : Fault}

/-- The fault shows at the first characters, and two characters behind them settle it. -/
def Unread (mode : Mode) (start : Nat) (cs : List Char) (fault : Fault) : Prop :=
  ∃ text behind, text ≠ [] ∧ cs = text ++ behind ∧ fault.span = .ofText start text ∧
    ∀ c d x, behind = c :: d :: x →
      ∀ more, read mode start (text ++ c :: d :: more) = .error fault

theorem readText_unread (failed : read .text start cs = .error fault) :
    Unread .text start cs fault := by
  have failed : readText start cs = .error fault := failed
  unfold readText at failed
  split at failed <;> cases failed
  case h_5 rest other =>
    refine ⟨['%', '|'], rest, by simp, rfl, rfl, ?_⟩
    rintro c d x rfl more
    have hc : c ≠ '%' := fun same => other (d :: x) (by rw [same])
    show readText start _ = _
    unfold readText
    split <;> grind
  case h_7 rest other =>
    refine ⟨['%', ']'], rest, by simp, rfl, rfl, ?_⟩
    rintro c d x rfl more
    have hc : c ≠ '%' := fun same => other (d :: x) (by rw [same])
    show readText start _ = _
    unfold readText
    split <;> grind

theorem readValue_unread {opening : Span} (nonempty : cs ≠ [])
    (failed : read (.value opening) start cs = .error fault) (closed : ¬ fault.cause.Unclosed) :
    Unread (.value opening) start cs fault := by
  have failed : readValue opening start cs = .error fault := failed
  unfold readValue at failed
  split at failed
  case h_3 =>
    cases failed
    exact absurd trivial closed
  case h_4 close bang open' =>
    split at failed <;> cases failed
    rename_i word
    obtain ⟨c, behind, rfl⟩ := List.exists_cons_of_ne_nil nonempty
    refine ⟨[c], behind, by simp, rfl, rfl, ?_⟩
    rintro d d' x rfl more
    have notClose : ¬ (c = ']' ∧ d = '%') := fun ⟨first, second⟩ => close _ (by rw [first, second])
    have notBang : c ≠ '!' := fun same => bang _ (by rw [same])
    have notOpen : ¬ (c = '%' ∧ d = '[') := fun ⟨first, second⟩ => open' _ (by rw [first, second])
    show readValue opening start _ = _
    unfold readValue
    split <;> grind
  all_goals cases failed

theorem readHeader_unread {opening : Span} (nonempty : cs ≠ [])
    (failed : read (.header opening) start cs = .error fault) (closed : ¬ fault.cause.Unclosed) :
    Unread (.header opening) start cs fault := by
  have failed : readHeader opening start cs = .error fault := failed
  unfold readHeader at failed
  split at failed
  case h_4 =>
    cases failed
    exact absurd trivial closed
  case h_5 separator close bang open' =>
    split at failed
    · cases failed
    · split at failed <;> cases failed
      rename_i blank word
      obtain ⟨c, behind, rfl⟩ := List.exists_cons_of_ne_nil nonempty
      refine ⟨[c], behind, by simp, rfl, rfl, ?_⟩
      rintro d d' x rfl more
      have notSeparator : ¬ (c = '%' ∧ d = '|' ∧ d' = '%') := fun ⟨first, second, third⟩ =>
        separator _ (by rw [first, second, third])
      have notClose : ¬ (c = '%' ∧ d = ']' ∧ d' = '%') := fun ⟨first, second, third⟩ =>
        close _ (by rw [first, second, third])
      have notBang : c ≠ '!' := fun same => bang _ (by rw [same])
      have notOpen : ¬ (c = '%' ∧ d = '[') := fun ⟨first, second⟩ => open' _ (by rw [first, second])
      show readHeader opening start _ = _
      unfold readHeader
      split <;> grind
  all_goals cases failed

theorem read_unread (nonempty : cs ≠ []) (failed : read mode start cs = .error fault)
    (closed : ¬ fault.cause.Unclosed) : Unread mode start cs fault := by
  cases mode with
  | text => exact readText_unread failed
  | value _ => exact readValue_unread nonempty failed closed
  | header _ => exact readHeader_unread nonempty failed closed

theorem head_of_unread (failed : read .text start cs = .error fault) : cs.head? = some '%' := by
  have failed : readText start cs = .error fault := failed
  unfold readText at failed
  split at failed <;> cases failed <;> rfl

theorem head_of_token {piece : Piece} (nonempty : cs ≠ []) (h : read .text start cs = .ok piece)
    (token : piece.token ≠ .text) : cs.head? = some '%' := by
  cases State.readText_ok nonempty h with
  | char hc cs =>
    rw [State.read_char hc] at h
    cases h
    exact absurd rfl token
  | _ => rfl

/-- The front of a word makes a word with any run of characters of one. -/
theorem word_of_front {w : Word} {front behind run : List Char} (filled : front ≠ [])
    (same : w.chars = front ++ behind) (all : ∀ c ∈ run, isWordChar c = true) :
    ∃ w' : Word, w'.chars = front ++ run := by
  refine ⟨⟨front ++ run, by simp [filled], fun c member => ?_⟩, rfl⟩
  rcases List.mem_append.mp member with before | after
  · exact w.word c (same ▸ List.mem_append_left _ before)
  · exact all c after

/-- A word goes on for as long as there are characters of one. -/
theorem read_word {piece : Piece} (nonempty : cs ≠ []) (h : read mode start cs = .ok piece)
    (token : piece.token = .word) {front behind : List Char} (filled : front ≠ [])
    (same : piece.text = front ++ behind) (rest : List Char) :
    read mode start (front ++ rest) =
      .ok ⟨.word, front ++ rest.takeWhile isWordChar, rest.dropWhile isWordChar, mode⟩ := by
  have all : ∀ c ∈ rest.takeWhile isWordChar, isWordChar c = true :=
    List.all_eq_true.mp List.all_takeWhile
  have stop := Piece.run_ends .word isWordChar rest mode
  have tiles : front ++ rest =
      (front ++ rest.takeWhile isWordChar) ++ rest.dropWhile isWordChar := by
    rw [List.append_assoc, List.takeWhile_append_dropWhile]
  obtain ⟨⟨own, spelled⟩, -, read⟩ := word_of_read nonempty h token
  obtain ⟨w, chars⟩ := word_of_front filled (spelled.trans same) all
  rw [tiles, ← chars]
  exact read w _ stop

end Lexer

namespace Reader

/-! ### What a step leaves -/

/-- The token of the piece with which the reader has come to the stage. -/
def Stage.last? : Stage → Option Token
  | .text => none
  | .value _ .opened => some .openValue
  | .value _ (.named _) | .value _ (.converted _ _) => some .word
  | .value _ (.marked _) => some .bang
  | .header _ .opened => some .openCondition
  | .header _ .spaced | .header _ (.finished _) => some .blank
  | .header _ .negated | .header _ (.marked _) => some .bang
  | .header _ (.named _) | .header _ (.converted _) => some .word

inductive Stage.Moves (l : Lexeme) : Stage → Stage → Prop where
  | leave (stage : Stage) : Moves l stage .text
  | openValue : l.token = .openValue → Moves l .text (.value l.span .opened)
  | openCondition : l.token = .openCondition → Moves l .text (.header l.span .opened)
  | value {opening : Span} {stage stage' : ValueStage} :
      (Stage.value opening stage').last? = some l.token →
      Moves l (.value opening stage) (.value opening stage')
  | header {opening : Span} {stage stage' : HeaderStage} :
      (Stage.header opening stage').last? = some l.token →
      Moves l (.header opening stage) (.header opening stage')

theorem Stage.Moves.last {l : Lexeme} {stage stage' : Stage} (h : Moves l stage stage') :
    ∀ token ∈ stage'.last?, token = l.token := by
  intro token member
  cases h with
  | leave => cases member
  | openValue same | openCondition same =>
    cases member
    exact same.symm
  | value same | header same => exact Option.some.inj (member.symm.trans same)

theorem Stage.Moves.header_inv {l : Lexeme} {stage : Stage} {opening : Span}
    {stage' : HeaderStage} (h : Moves l stage (.header opening stage')) :
    stage = .text ∧ opening = l.span ∧ l.token = .openCondition ∨
      ∃ stage'', stage = .header opening stage'' := by
  cases h with
  | openCondition token => exact .inl ⟨rfl, rfl, token⟩
  | header => exact .inr ⟨_, rfl⟩

/-- The way out of a tag does not belong to the piece in front of it. -/
theorem Stage.head_wayOut (stage : Stage) :
    ∃ c cs, stage.wayOut = c :: cs ∧
      (stage = .text ∧ c = '%' ∨ ∃ token ∈ stage.last?, token.EndsBefore c) := by
  cases stage with
  | text => exact ⟨_, _, rfl, .inl ⟨rfl, rfl⟩⟩
  | value opening stage => cases stage <;> exact ⟨_, _, rfl, .inr ⟨_, rfl, by decide⟩⟩
  | header opening stage => cases stage <;> exact ⟨_, _, rfl, .inr ⟨_, rfl, by decide⟩⟩

variable {r r' : Reader} {l : Lexeme}

theorem stepText_moves (text : r.stage = .text) (taken : r.stepText l = .ok r') :
    Stage.Moves l .text r'.stage := by
  have leave (same : r'.stage = r.stage) : Stage.Moves l .text r'.stage := by
    rw [same, text]
    exact .leave _
  unfold stepText at taken
  split at taken
  case h_1 | h_2 | h_3 =>
    cases taken
    exact leave (push_stage _ _)
  case h_4 token =>
    cases taken
    exact .openValue token
  case h_5 token =>
    cases taken
    exact .openCondition token
  case h_6 => exact leave (separate_stage taken)
  case h_7 => exact leave (close_stage taken)
  all_goals cases taken

theorem stepValue_moves {opening : Span} {stage : ValueStage}
    (taken : r.stepValue opening stage l = .ok r') :
    Stage.Moves l (.value opening stage) r'.stage := by
  unfold stepValue at taken
  split at taken
  case h_4 token =>
    cases converted : readConversions l.start l.text with
    | error fault =>
      rw [converted] at taken
      cases taken
    | ok conversions =>
      rw [converted] at taken
      cases taken
      exact .value (congrArg some token.symm)
  case h_1 token | h_3 token =>
    cases taken
    exact .value (congrArg some token.symm)
  case h_5 | h_6 | h_7 =>
    cases taken
    rw [closeValue, push_stage]
    exact .leave _
  all_goals cases taken

theorem stepHeader_moves {opening : Span} {stage : HeaderStage}
    (taken : r.stepHeader opening stage l = .ok r') :
    Stage.Moves l (.header opening stage) r'.stage := by
  unfold stepHeader at taken
  dsimp only at taken
  split at taken
  case h_11 token =>
    cases raw : readRawMarks l.start l.text with
    | error fault =>
      rw [raw] at taken
      cases taken
    | ok _ =>
      rw [raw] at taken
      cases taken
      exact .header (congrArg some token.symm)
  case h_15 | h_16 | h_17 =>
    have outside : r'.stage = .text := by
      have mode := endHeader_mode taken
      cases stage' : r'.stage <;> rw [stage'] at mode <;> cases mode
    rw [outside]
    exact .leave _
  case h_7 | h_8 | h_9 | h_12 => cases taken
  all_goals
    rename_i token
    cases taken
    exact .header (congrArg some token.symm)

theorem step_moves (taken : r.step l = .ok r') : Stage.Moves l r.stage r'.stage := by
  unfold step at taken
  cases stage : r.stage with
  | text =>
    rw [stage] at taken
    exact stepText_moves stage taken
  | value opening stage' =>
    rw [stage] at taken
    exact stepValue_moves taken
  | header opening stage' =>
    rw [stage] at taken
    exact stepHeader_moves taken

/-! ### Faults of a step -/

theorem readConversions_error {start : Nat} {letters : List Char} {fault : Fault}
    (failed : readConversions start letters = .error fault) :
    ∃ known c unknown, letters = known ++ c :: unknown ∧
      (∀ d ∈ known, d ∈ ['j', 'J', 'u', 'U', 'l', 'L']) ∧
      fault = ⟨.unknownConversion c, .ofText (start + byteLength known) [c]⟩ ∧
      ∀ others, readConversions start (known ++ c :: others) = .error fault := by
  induction letters generalizing start with
  | nil => cases failed
  | cons c letters ih =>
    rw [readConversions] at failed
    cases coded : Conversion.ofCode? c with
    | none =>
      simp only [coded] at failed
      cases failed
      refine ⟨[], c, letters, rfl, List.forall_mem_nil _, rfl, fun others => ?_⟩
      rw [List.nil_append, readConversions, coded]
    | some conversion =>
      cases tail : readConversions (start + c.utf8Size) letters with
      | ok conversions => simp [coded, tail, bind, Except.bind, pure, Except.pure] at failed
      | error fault' =>
        simp only [coded, tail] at failed
        cases failed
        obtain ⟨known, d, unknown, rfl, all, rfl, same⟩ := ih tail
        refine ⟨c :: known, d, unknown, rfl, ?_, by simp [Nat.add_assoc], fun others => ?_⟩
        · exact List.forall_mem_cons.mpr ⟨ofCode?_known.mp ⟨conversion, coded⟩, all⟩
        · rw [List.cons_append, readConversions, coded]
          simp only [same, bind, Except.bind]

theorem readRawMarks_error {start : Nat} {marks : List Char} {fault : Fault}
    (failed : readRawMarks start marks = .error fault) :
    ∃ known c unknown, marks = known ++ c :: unknown ∧ (∀ d ∈ known, d = 'r' ∨ d = 'R') ∧
      fault = ⟨.unknownConversion c, .ofText (start + byteLength known) [c]⟩ ∧
      ∀ others, readRawMarks start (known ++ c :: others) = .error fault := by
  induction marks generalizing start with
  | nil => cases failed
  | cons c marks ih =>
    rw [readRawMarks] at failed
    split at failed
    · rename_i lower
      obtain ⟨known, d, unknown, rfl, all, rfl, same⟩ := ih failed
      refine ⟨c :: known, d, unknown, rfl, ?_, by simp [Nat.add_assoc], fun others => ?_⟩
      · exact List.forall_mem_cons.mpr ⟨eq_or_toUpper_of_toLower lower, all⟩
      · rw [List.cons_append, readRawMarks, if_pos lower, same]
    · rename_i other
      cases failed
      refine ⟨[], c, marks, rfl, List.forall_mem_nil _, rfl, fun others => ?_⟩
      rw [List.nil_append, readRawMarks, if_neg other]

inductive Refuses (r : Reader) (l : Lexeme) : Fault → Prop where
  | piece {cause : Cause} : (r.stage = .text → l.token ≠ .text) → Refuses r l ⟨cause, l.span⟩
  /-- An unknown letter in a word, whatever comes behind it. Up to it, all is well. -/
  | letter {known unknown : List Char} {c : Char} {fault : Fault} :
      r.stage.last? = some .bang → l.token = .word → l.text = known ++ c :: unknown →
      (∃ more, State.Succeeds ⟨r, r.stage.mode, l.start, known ++ more⟩) →
      fault.span = .ofText (l.start + byteLength known) [c] →
      (∀ others, r.step { l with text := known ++ c :: others } = .error fault) →
      Refuses r l fault
  | nestedTooDeep {opening : Span} {stage : HeaderStage} {cause : Cause} :
      r.stage = .header opening stage → Refuses r l ⟨cause, opening.cover l.span⟩

variable {fault : Fault}

theorem stepText_refuses (failed : r.stepText l = .error fault) : Refuses r l fault := by
  unfold stepText at failed
  split at failed
  case h_6 token =>
    unfold separate at failed
    split at failed
    · cases failed
      exact .piece fun _ => by simp [token]
    · split at failed <;> cases failed
      exact .piece fun _ => by simp [token]
  case h_7 token =>
    unfold close at failed
    split at failed <;> cases failed
    exact .piece fun _ => by simp [token]
  case h_8 | h_9 | h_10 | h_11 =>
    rename_i token
    cases failed
    exact .piece fun _ => by simp [token]
  all_goals cases failed

theorem stepValue_refuses {opening : Span} {stage : ValueStage}
    (inTag : r.stage = .value opening stage) (failed : r.stepValue opening stage l = .error fault) :
    Refuses r l fault := by
  obtain ⟨nodes, blocks, _⟩ := r
  cases inTag
  unfold stepValue at failed
  split at failed
  case h_4 ident token =>
    cases converted : readConversions l.start l.text with
    | ok conversions =>
      rw [converted] at failed
      cases failed
    | error fault' =>
      rw [converted] at failed
      cases failed
      obtain ⟨known, c, unknown, same, all, rfl, settled⟩ := readConversions_error converted
      have succeeds := State.succeeds_conversions all ⟨nodes, blocks, .text⟩ ident opening l.start
      refine .letter rfl token same ⟨_, succeeds⟩ rfl fun others => ?_
      simp only [step, stepValue, token, settled]
      rfl
  case h_2 | h_8 | h_9 | h_10 =>
    cases failed
    refine .piece fun text => ?_
    cases text
  all_goals cases failed

theorem endHeader_refuses {opening : Span} {stage : HeaderStage} {test : Test}
    (inTag : r.stage = .header opening stage) (failed : r.endHeader opening test l = .error fault) :
    Refuses r l fault := by
  unfold endHeader at failed
  dsimp only at failed
  split at failed
  · split at failed <;> cases failed
    exact .nestedTooDeep inTag
  · cases failed
  · cases failed
    refine .piece fun text => ?_
    cases inTag.symm.trans text

theorem stepHeader_refuses {opening : Span} {stage : HeaderStage}
    (inTag : r.stage = .header opening stage)
    (failed : r.stepHeader opening stage l = .error fault) : Refuses r l fault := by
  unfold stepHeader at failed
  dsimp only at failed
  split at failed
  case h_11 test token =>
    cases marked : readRawMarks l.start l.text with
    | ok _ =>
      rw [marked] at failed
      cases failed
    | error fault' =>
      rw [marked] at failed
      cases failed
      obtain ⟨nodes, blocks, _⟩ := r
      cases inTag
      obtain ⟨known, c, unknown, same, all, rfl, settled⟩ := readRawMarks_error marked
      have succeeds := State.succeeds_rawMarks all ⟨nodes, blocks, .text⟩ test opening l.start
      refine .letter rfl token same ⟨_, succeeds⟩ rfl fun others => ?_
      simp only [step, stepHeader, token, settled]
      rfl
  case h_15 | h_16 | h_17 => exact endHeader_refuses inTag failed
  case h_7 | h_8 | h_9 | h_12 =>
    cases failed
    refine .piece fun text => ?_
    cases inTag.symm.trans text
  all_goals cases failed

theorem step_refuses (failed : r.step l = .error fault) : Refuses r l fault := by
  unfold step at failed
  cases stage : r.stage with
  | text =>
    rw [stage] at failed
    exact stepText_refuses failed
  | value opening stage' =>
    rw [stage] at failed
    exact stepValue_refuses stage failed
  | header opening stage' =>
    rw [stage] at failed
    exact stepHeader_refuses stage failed

theorem unclosed_of_finish (failed : r.finish = .error fault) : fault.cause.Unclosed := by
  unfold finish at failed
  split at failed
  · cases failed
    trivial
  · cases failed
    trivial
  · split at failed <;> cases failed
    trivial

end Reader

end TextTemplate
