import TextTemplate.Error

/-!
# From characters to tokens

A source is read piece by piece from the left. What a piece may be depends on whether it stands in
text, in a value tag or in the header of a condition.
-/

namespace TextTemplate.Lexer

inductive Mode where
  | text
  /-- After `%[`. -/
  | value (opening : Span)
  /-- After `%[%`, and before the first separator or closing mark. -/
  | header (opening : Span)
deriving DecidableEq, Repr

structure Piece where
  token : Token
  text : List Char
  rest : List Char
  mode : Mode
deriving DecidableEq, Repr

def Piece.run (token : Token) (p : Char → Bool) (cs : List Char) (mode : Mode) : Piece :=
  ⟨token, cs.takeWhile p, cs.dropWhile p, mode⟩

def readText (start : Nat) (cs : List Char) : Except Fault Piece :=
  match cs with
  | '%' :: '%' :: rest => .ok ⟨.escapedPercent, ['%', '%'], rest, .text⟩
  | '%' :: '[' :: '%' :: rest =>
    .ok ⟨.openCondition, ['%', '[', '%'], rest, .header (.ofText start ['%', '[', '%'])⟩
  | '%' :: '[' :: rest => .ok ⟨.openValue, ['%', '['], rest, .value (.ofText start ['%', '['])⟩
  | '%' :: '|' :: '%' :: rest => .ok ⟨.separator, ['%', '|', '%'], rest, .text⟩
  | '%' :: '|' :: _ => .error ⟨.incompleteMark .separator, .ofText start ['%', '|']⟩
  | '%' :: ']' :: '%' :: rest => .ok ⟨.closeCondition, ['%', ']', '%'], rest, .text⟩
  | '%' :: ']' :: _ => .error ⟨.incompleteMark .closeCondition, .ofText start ['%', ']']⟩
  | '%' :: rest => .ok ⟨.percent, ['%'], rest, .text⟩
  | cs => .ok (.run .text (· != '%') cs .text)

def readValue (opening : Span) (start : Nat) (cs : List Char) : Except Fault Piece :=
  match cs with
  | ']' :: '%' :: rest => .ok ⟨.closeValue, [']', '%'], rest, .text⟩
  | '!' :: rest => .ok ⟨.bang, ['!'], rest, .value opening⟩
  | '%' :: '[' :: _ => .error ⟨.unclosedValue, opening⟩
  | cs =>
    if cs.head?.any isWordChar then .ok (.run .word isWordChar cs (.value opening))
    else .error ⟨.unexpectedCharacter, .ofText start (cs.take 1)⟩

def readHeader (opening : Span) (start : Nat) (cs : List Char) : Except Fault Piece :=
  match cs with
  | '%' :: '|' :: '%' :: rest => .ok ⟨.separator, ['%', '|', '%'], rest, .text⟩
  | '%' :: ']' :: '%' :: rest => .ok ⟨.closeCondition, ['%', ']', '%'], rest, .text⟩
  | '!' :: rest => .ok ⟨.bang, ['!'], rest, .header opening⟩
  | '%' :: '[' :: _ => .error ⟨.interruptedHeader, opening⟩
  | cs =>
    if cs.head?.any isBlankChar then .ok (.run .blank isBlankChar cs (.header opening))
    else if cs.head?.any isWordChar then .ok (.run .word isWordChar cs (.header opening))
    else .error ⟨.unexpectedCharacter, .ofText start (cs.take 1)⟩

def read : Mode → Nat → List Char → Except Fault Piece
  | .text => readText
  | .value opening => readValue opening
  | .header opening => readHeader opening

/-! ### The pieces tile the source -/

theorem Piece.run_append (token : Token) (p : Char → Bool) (cs : List Char) (mode : Mode) :
    (Piece.run token p cs mode).text ++ (Piece.run token p cs mode).rest = cs :=
  List.takeWhile_append_dropWhile

theorem Piece.run_ne_nil {token : Token} {p : Char → Bool} {cs : List Char} {mode : Mode}
    (h : cs.head?.any p = true) : (Piece.run token p cs mode).text ≠ [] := by
  cases cs with
  | nil => simp at h
  | cons c cs => simp_all [Piece.run]

theorem readText_append {start : Nat} {cs : List Char} {piece : Piece}
    (h : readText start cs = .ok piece) : piece.text ++ piece.rest = cs := by
  unfold readText at h
  split at h <;> cases h
  case h_9 => exact Piece.run_append ..
  all_goals rfl

theorem readText_ne_nil {start : Nat} {cs : List Char} {piece : Piece} (hcs : cs ≠ [])
    (h : readText start cs = .ok piece) : piece.text ≠ [] := by
  unfold readText at h
  split at h <;> cases h
  case h_9 hp =>
    apply Piece.run_ne_nil
    cases cs with
    | nil => exact absurd rfl hcs
    | cons c cs => have : c ≠ '%' := fun e => hp cs (by rw [e]); simpa using this
  all_goals simp

theorem readValue_append {opening : Span} {start : Nat} {cs : List Char} {piece : Piece}
    (h : readValue opening start cs = .ok piece) : piece.text ++ piece.rest = cs := by
  unfold readValue at h
  split at h
  · cases h; rfl
  · cases h; rfl
  · cases h
  · split at h <;> cases h
    exact Piece.run_append ..

theorem readValue_ne_nil {opening : Span} {start : Nat} {cs : List Char} {piece : Piece}
    (h : readValue opening start cs = .ok piece) : piece.text ≠ [] := by
  unfold readValue at h
  split at h
  · cases h; simp
  · cases h; simp
  · cases h
  · split at h <;> cases h
    exact Piece.run_ne_nil ‹_›

theorem readHeader_append {opening : Span} {start : Nat} {cs : List Char} {piece : Piece}
    (h : readHeader opening start cs = .ok piece) : piece.text ++ piece.rest = cs := by
  unfold readHeader at h
  split at h
  · cases h; rfl
  · cases h; rfl
  · cases h; rfl
  · cases h
  · split at h
    · cases h; exact Piece.run_append ..
    · split at h <;> cases h
      exact Piece.run_append ..

theorem readHeader_ne_nil {opening : Span} {start : Nat} {cs : List Char} {piece : Piece}
    (h : readHeader opening start cs = .ok piece) : piece.text ≠ [] := by
  unfold readHeader at h
  split at h
  · cases h; simp
  · cases h; simp
  · cases h; simp
  · cases h
  · split at h
    · cases h; exact Piece.run_ne_nil ‹_›
    · split at h <;> cases h
      exact Piece.run_ne_nil ‹_›

/-- A piece and what comes after it make up the text that was read. -/
theorem read_append {mode : Mode} {start : Nat} {cs : List Char} {piece : Piece}
    (h : read mode start cs = .ok piece) : piece.text ++ piece.rest = cs := by
  cases mode with
  | text => exact readText_append h
  | value _ => exact readValue_append h
  | header _ => exact readHeader_append h

theorem read_ne_nil {mode : Mode} {start : Nat} {cs : List Char} {piece : Piece} (hcs : cs ≠ [])
    (h : read mode start cs = .ok piece) : piece.text ≠ [] := by
  cases mode with
  | text => exact readText_ne_nil hcs h
  | value _ => exact readValue_ne_nil h
  | header _ => exact readHeader_ne_nil h

theorem length_rest_lt {mode : Mode} {start : Nat} {cs : List Char} {piece : Piece}
    (hcs : cs ≠ []) (h : read mode start cs = .ok piece) : piece.rest.length < cs.length := by
  have := congrArg List.length (read_append h)
  have := List.length_pos_iff.mpr (read_ne_nil hcs h)
  simp only [List.length_append] at *
  omega

/-! ### Whole sources -/

/-- The pieces of a text that starts at byte `start`, and the fault at which they end, if any. -/
def scan (mode : Mode) (start : Nat) (cs : List Char) : List Lexeme × Option Fault :=
  if hcs : cs = [] then ([], none)
  else
    match h : read mode start cs with
    | .error fault => ([], some fault)
    | .ok piece =>
      have := length_rest_lt hcs h
      let (lexemes, fault) := scan piece.mode (start + byteLength piece.text) piece.rest
      (⟨piece.token, start, piece.text⟩ :: lexemes, fault)
termination_by cs.length

end TextTemplate.Lexer
