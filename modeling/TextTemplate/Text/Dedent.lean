import TextTemplate.Text.Lines
import TextTemplate.Unicode.WhiteSpace

/-!
# Dedenting

A branch written on lines of its own below the tag that opens it loses its indentation:

```text
%[% ping %|%
    Hey %[user]%!
    Welcome.
%]%
```
-/

namespace TextTemplate.Text

def startsLine : List Char → Bool
  | '\n' :: _ => true
  | '\r' :: '\n' :: _ => true
  | _ => false

/-- A text starts a line with a line feed, or with a carriage return in front of one. -/
theorem startsLine_iff {text : List Char} :
    startsLine text = true ↔ ∃ rest, text = '\n' :: rest ∨ text = '\r' :: '\n' :: rest := by
  constructor
  · intro h
    unfold startsLine at h
    split at h
    · exact ⟨_, Or.inl rfl⟩
    · exact ⟨_, Or.inr rfl⟩
    · cases h
  · rintro ⟨rest, rfl | rfl⟩ <;> rfl

/-- A line of spaces and tabs. The empty line is none. -/
def isBlank (line : List Char) : Bool :=
  !line.isEmpty && line.all fun c => c == ' ' || c == '\t'

def dropBlankLast (lines : List (List Char)) : List (List Char) :=
  if lines.getLast?.any isBlank then lines.dropLast else lines

/-- Drops the first line and a blank last one, and strips the white space in front of the rest. -/
def dedent (text : List Char) : List Char :=
  List.intercalate ['\n']
    ((dropBlankLast ((lines text).drop 1)).map (·.dropWhile Unicode.isWhiteSpace))

end TextTemplate.Text
