import TextTemplate.Token

/-!
# Errors

What can be wrong with a template, or stop its rendering, and where in the source it shows.
-/

namespace TextTemplate

inductive Expectation where
  | identifier
  | conversion
  /-- The mark that keeps the indentation of a branch. -/
  | rawMark
  | closeValue
  /-- The end of a condition header. -/
  | endOfHeader
deriving DecidableEq, Repr

def Expectation.describe : Expectation → String
  | .identifier => "identifier"
  | .conversion => "conversion"
  | .rawMark => "`r`"
  | .closeValue => "`]%`"
  | .endOfHeader => "`%|%` or `%]%`"

inductive Cause where
  /-- The first two characters of a separator or of a closing mark, without the third. -/
  | incompleteMark (mark : Token)
  | unexpectedCharacter
  /-- A value tag that the source or another tag cuts short. -/
  | unclosedValue
  /-- A condition header that the source cuts short. -/
  | unclosedHeader
  /-- A condition header that another tag cuts short. -/
  | interruptedHeader
  /-- A condition whose branches the source cuts short. -/
  | unclosedCondition
  | unexpectedToken (expected : Expectation) (found : Token)
  /-- A piece of a tag in the midst of text. -/
  | strayToken (found : Token)
  /-- A separator or a closing mark without a condition. -/
  | outsideCondition (mark : Token)
  /-- A separator in the false branch. -/
  | thirdBranch
  | nestedTooDeep (limit : Nat)
  | unknownConversion (code : Char)
  | unknownVariable (name : String)
  | unknownCondition (name : String)
  | recursionLimit (limit : Nat) (name : String)
deriving DecidableEq, Repr

inductive ErrorKind where
  | malformed
  | unknownVariable
  | unknownCondition
  | unknownConversion
  | recursionLimit
deriving DecidableEq, Repr

namespace Cause

def kind : Cause → ErrorKind
  | .unknownConversion _ => .unknownConversion
  | .unknownVariable _ => .unknownVariable
  | .unknownCondition _ => .unknownCondition
  | .recursionLimit _ _ => .recursionLimit
  | _ => .malformed

def identifier? : Cause → Option String
  | .unknownVariable name => some name
  | .unknownCondition name => some name
  | .recursionLimit _ name => some name
  | _ => none

def message : Cause → String
  | .incompleteMark mark => s!"expected {mark.describe}, use `%%` for a literal percent sign"
  | .unexpectedCharacter => "unexpected character"
  | .unclosedValue => "unclosed value tag, expected `]%`"
  | .unclosedHeader => "unclosed condition tag, expected `%|%` or `%]%`"
  | .interruptedHeader => "unclosed condition tag, expected `%]%`"
  | .unclosedCondition => "unclosed condition, expected `%]%`"
  | .unexpectedToken expected found => s!"expected {expected.describe}, found {found.describe}"
  | .strayToken found => s!"unexpected {found.describe}"
  | .outsideCondition mark => s!"unexpected {mark.describe} outside of a condition"
  | .thirdBranch => "unexpected `%|%`, condition already has a false branch"
  | .nestedTooDeep limit => s!"exceeded maximum condition nesting depth ({limit})"
  | .unknownConversion code => s!"unknown conversion `{code}`"
  | .unknownVariable _ => "unknown variable"
  | .unknownCondition _ => "unknown condition"
  | .recursionLimit limit _ => s!"reached maximum recursion depth ({limit})"

end Cause

structure Fault where
  cause : Cause
  span : Span
deriving DecidableEq, Repr

structure Error extends Fault where
  source : String
deriving DecidableEq, Repr

def Fault.within (source : String) (fault : Fault) : Error :=
  { fault with source }

namespace Error

def kind (e : Error) : ErrorKind :=
  e.cause.kind

def message (e : Error) : String :=
  e.cause.message

def identifier? (e : Error) : Option String :=
  e.cause.identifier?

/-! ### Where an error shows -/

/-- What keeps an error from being shown. -/
inductive Obstacle where
  /-- Text is cut within a character, or behind its end. -/
  | splitCharacter
  /-- Carets end behind the last column of a row. -/
  | pastLastColumn
deriving DecidableEq, Repr

def Obstacle.message : Obstacle → String
  | .splitCharacter => "byte index is not a char boundary"
  | .pastLastColumn => "Formatting argument out of range"

def cut (s : Span) (source : List Char) : Except Obstacle (List Char) :=
  match s.slice? source with
  | some text => .ok text
  | none => .error .splitCharacter

/-- The line and the column of the first byte, both counted from one. Line feeds separate the lines,
and the columns are characters. -/
def lineColumn (e : Error) : Except Obstacle (Nat × Nat) := do
  let before ← cut ⟨0, e.span.start⟩ e.source.toList
  return (before.count '\n' + 1, (before.reverse.takeWhile (· != '\n')).length + 1)

def oneLine (e : Error) : String :=
  s!"{e.message} between bytes {e.span.start} and {e.span.stop}"

end Error

end TextTemplate
