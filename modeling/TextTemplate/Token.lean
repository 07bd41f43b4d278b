import TextTemplate.Span

/-!
# Tokens

The pieces into which a template source falls.
-/

namespace TextTemplate

inductive Token where
  /-- Text without `%`. -/
  | text
  /-- `%%` -/
  | escapedPercent
  /-- A `%` that starts nothing. -/
  | percent
  /-- `%[` -/
  | openValue
  /-- `]%` -/
  | closeValue
  /-- `%[%` -/
  | openCondition
  /-- `%|%` -/
  | separator
  /-- `%]%` -/
  | closeCondition
  /-- `!` -/
  | bang
  /-- ASCII letters, digits and underscores. -/
  | word
  /-- Spaces, tabs, carriage returns and line feeds. -/
  | blank
deriving DecidableEq, Repr

def Token.describe : Token → String
  | .text => "raw template"
  | .escapedPercent => "`%%`"
  | .percent => "`%`"
  | .openValue => "`%[`"
  | .closeValue => "`]%`"
  | .openCondition => "`%[%`"
  | .separator => "`%|%`"
  | .closeCondition => "`%]%`"
  | .bang => "`!`"
  | .word => "identifier"
  | .blank => "whitespace"

def isWordChar (c : Char) : Bool :=
  c.isAlphanum || c == '_'

theorem isWordChar_iff {c : Char} : isWordChar c = true ↔
    ('A'.val ≤ c.val ∧ c.val ≤ 'Z'.val) ∨ ('a'.val ≤ c.val ∧ c.val ≤ 'z'.val) ∨
      ('0'.val ≤ c.val ∧ c.val ≤ '9'.val) ∨ c = '_' := by
  change (decide ('A'.val ≤ c.val ∧ c.val ≤ 'Z'.val) ||
    (decide ('a'.val ≤ c.val) && decide (c.val ≤ 'z'.val)) ||
    (decide ('0'.val ≤ c.val) && decide (c.val ≤ '9'.val)) || c == '_') = true ↔ _
  simp only [Bool.or_eq_true, Bool.and_eq_true, decide_eq_true_eq, beq_iff_eq, or_assoc]

theorem toLower_of_not_capital {c : Char} (small : ¬ ('A'.val ≤ c.val ∧ c.val ≤ 'Z'.val)) :
    c.toLower = c :=
  dif_neg small

/-- The lowercase form of a capital is a small letter. -/
theorem toLower_capital {c : Char} (capital : 'A'.val ≤ c.val ∧ c.val ≤ 'Z'.val) :
    'a'.val ≤ c.toLower.val ∧ c.toLower.val ≤ 'z'.val := by
  have lower : c.toLower.val = c.val + 32 := by
    unfold Char.toLower
    rw [dif_pos capital]
    rfl
  obtain ⟨low, high⟩ := capital
  rw [lower]
  simp [UInt32.le_iff_toNat_le] at low high ⊢
  omega

def isBlankChar (c : Char) : Bool :=
  c == ' ' || c == '\t' || c == '\n' || c == '\x0d'

theorem isBlankChar_iff {c : Char} : isBlankChar c = true ↔ c ∈ [' ', '\t', '\r', '\n'] := by
  simp only [isBlankChar, Bool.or_eq_true, beq_iff_eq, List.mem_cons, List.not_mem_nil, or_false,
    or_assoc]
  rw [or_comm (a := c = '\n')]

structure Lexeme where
  token : Token
  start : Nat
  text : List Char
deriving DecidableEq, Repr

def Lexeme.span (l : Lexeme) : Span :=
  .ofText l.start l.text

end TextTemplate
