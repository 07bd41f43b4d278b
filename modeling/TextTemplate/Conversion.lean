import TextTemplate.Text.JsonString
import TextTemplate.Unicode.Case

/-!
# Conversions

A value tag may list conversions by their letters, which change the value from left to right.
-/

namespace TextTemplate

inductive Conversion where
  /-- Escapes the value for a JSON string. -/
  | json
  | upper
  | lower
deriving DecidableEq, Repr

namespace Conversion

def code : Conversion → Char
  | .json => 'j'
  | .upper => 'u'
  | .lower => 'l'

/-- The conversion with the given letter, in either case. -/
def ofCode? (c : Char) : Option Conversion :=
  match c.toLower with
  | 'j' => some .json
  | 'u' => some .upper
  | 'l' => some .lower
  | _ => none

def apply : Conversion → String → String
  | .json, s => String.ofList (Text.JsonString.escape s.toList)
  | .upper, s => Unicode.uppercase s
  | .lower, s => Unicode.lowercase s

def applyAll (conversions : List Conversion) (s : String) : String :=
  conversions.foldl (fun s conversion => conversion.apply s) s

@[simp] theorem applyAll_nil (s : String) : applyAll [] s = s := rfl

@[simp] theorem applyAll_cons (c : Conversion) (cs : List Conversion) (s : String) :
    applyAll (c :: cs) s = applyAll cs (c.apply s) := rfl

@[simp] theorem ofCode?_code (c : Conversion) : ofCode? c.code = some c := by
  cases c <;> rfl

end Conversion

end TextTemplate
