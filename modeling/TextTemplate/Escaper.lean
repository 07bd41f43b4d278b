/-!
# Escape sequences

An escape sequence is an escape character followed by an escapable one; the escape character is
itself escapable. Text can be protected while it is transformed: `protect` puts a private use
character in the place of each escape sequence, and `restore` turns it into the character meant.
-/

namespace TextTemplate

namespace Escaper

def placeholderBase : Nat := 0xE000

def placeholderCount : Nat := 6400

inductive Fault where
  /-- There are more escapable characters than private use characters. -/
  | tooManyCharacters
deriving DecidableEq, Repr

def Fault.message : Fault → String
  | .tooManyCharacters => "too many escapable characters"

end Escaper

/-- An escape character with the characters that it escapes, itself first. -/
structure Escaper where
  escapeChar : Char
  escapable : List Char
  head_eq : escapable.head? = some escapeChar
  nodup : escapable.Nodup
  fits : escapable.length ≤ Escaper.placeholderCount

namespace Escaper

theorem nodup_eraseDups : ∀ cs : List Char, cs.eraseDups.Nodup
  | [] => by simp
  | c :: cs => by
    rw [List.eraseDups_cons, List.nodup_cons]
    exact ⟨by simp [List.mem_eraseDups], nodup_eraseDups _⟩
termination_by cs => cs.length
decreasing_by exact Nat.lt_succ_of_le (List.length_filter_le _ cs)

def ofChars (escapeChar : Char) (chars : List Char) : Except Fault Escaper :=
  let escapable := (escapeChar :: chars).eraseDups
  if fits : escapable.length ≤ placeholderCount then
    .ok {
      escapeChar, escapable, fits
      head_eq := by simp [escapable, List.eraseDups_cons]
      nodup := nodup_eraseDups _ }
  else .error .tooManyCharacters

variable (e : Escaper)

def placeholder (index : Nat) : Char :=
  Char.ofNat (placeholderBase + index)

def placeholderOf? (c : Char) : Option Char :=
  (e.escapable.idxOf? c).map placeholder

/-- The escapable character that `c` is the placeholder of. -/
def meaning? (c : Char) : Option Char :=
  if placeholderBase ≤ c.toNat then e.escapable[c.toNat - placeholderBase]? else none

/-! ### Operations on characters -/

def escapeChars (cs : List Char) : List Char :=
  cs.flatMap fun c => if e.escapable.contains c then [e.escapeChar, c] else [c]

def protectChars : List Char → List Char
  | [] => []
  | [c] => [c]
  | c :: d :: rest =>
    match if c = e.escapeChar then e.placeholderOf? d else none with
    | some p => p :: protectChars rest
    | none => c :: protectChars (d :: rest)

def restoreChars (cs : List Char) : List Char :=
  cs.map fun c => (e.meaning? c).getD c

/-- Whether the text begins with the pattern, ASCII case ignored. -/
def startsWith : (pattern text : List Char) → Bool
  | [], _ => true
  | _ :: _, [] => false
  | p :: ps, c :: cs => p.toLower == c.toLower && startsWith ps cs

/-- Replaces each occurrence of the pattern, from the left. The first `skip` characters of the text
belong to an occurrence that has been replaced. -/
def substitute (pattern replacement : List Char) : (skip : Nat) → List Char → List Char
  | _, [] => []
  | skip + 1, _ :: cs => substitute pattern replacement skip cs
  | 0, c :: cs =>
    if startsWith pattern (c :: cs) then
      replacement ++ substitute pattern replacement (pattern.length - 1) cs
    else c :: substitute pattern replacement 0 cs

/-! ### Operations on text -/

def escape (text : String) : String :=
  String.ofList (e.escapeChars text.toList)

def protect (text : String) : String :=
  String.ofList (e.protectChars text.toList)

def restore (text : String) : String :=
  String.ofList (e.restoreChars text.toList)

def unescape (text : String) : String :=
  e.restore (e.protect text)

/-- Replaces every occurrence of the pattern outside escape sequences, ASCII case ignored, and
unescapes the result. The empty pattern occurs nowhere. -/
def replace (text pattern replacement : String) : String :=
  if pattern.isEmpty then e.unescape text
  else e.restore (String.ofList
    (substitute pattern.toList replacement.toList 0 (e.protect text).toList))

end Escaper

end TextTemplate
