import TextTemplate.Error
import TextTemplate.Text.Lines
import TextTemplate.Unicode.Width

/-!
# Snippets

An error is shown below the source line in which it starts, with carets under the place.
-/

namespace TextTemplate.Error

/-- The lines of a source, which line feeds end. -/
def sourceLines : List Char → List (List Char)
  | [] => []
  | '\n' :: rest => [] :: sourceLines rest
  | c :: rest => Text.consLine c (sourceLines rest)

/-- A place in a source: the line, its number from one, and the columns in front of the place. -/
structure Place where
  number : Nat
  line : List Char
  indent : Nat
deriving DecidableEq, Repr

/-- The place of a byte in lines of which the first has the given number. -/
def Place.find? : (lines : List (List Char)) → (number offset : Nat) →
    Except Obstacle (Option Place)
  | [], _, _ => .ok none
  | line :: lines, number, offset =>
    if offset ≤ byteLength line then do
      let before ← cut ⟨0, offset⟩ line
      return some ⟨number, line, Unicode.displayWidth before⟩
    else find? lines (number + 1) (offset - (byteLength line + 1))

def Place.last (lines : List (List Char)) : Place :=
  let line := lines.getLast?.getD []
  ⟨max 1 lines.length, line, Unicode.displayWidth line⟩

def Place.ofOffset (source : List Char) (offset : Nat) : Except Obstacle Place := do
  let lines := sourceLines source
  return (← Place.find? lines 1 offset).getD (.last lines)

def row (n : Nat) (c : Char) : String :=
  String.ofList (List.replicate n c)

/-- The last column in which carets can stand. -/
def lastColumn : Nat := 65535

/-- The source line of an error, with carets and the message under it. -/
def snippet (e : Error) : Except Obstacle String := do
  let source := e.source.toList
  let place ← Place.ofOffset source e.span.start
  let about ← cut e.span source
  let width := max 1 (Unicode.displayWidth about)
  if place.indent + width ≤ lastColumn then
    let number := toString place.number
    let margin := row (Unicode.displayWidth number.toList) ' '
    let line := String.ofList place.line
    let indent := row place.indent ' '
    let carets := row width '^'
    return s!"\n {margin} |\n {number} | {line}\n {margin} | {indent}{carets} {e.message}\n"
  else throw .pastLastColumn

end TextTemplate.Error
