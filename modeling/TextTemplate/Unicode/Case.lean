import TextTemplate.Unicode.CaseTables

/-!
# Letter case

Full Unicode case conversion of text. A character may become several, as `ß` becomes `SS`, and
a capital sigma becomes `ς` at the end of a word and `σ` elsewhere.
-/

namespace TextTemplate.Unicode

def isAscii (c : Char) : Bool :=
  c.toNat < 0x80

def mapThrough (expansions : List (Nat × List Nat)) (runs : List ShiftRun) (c : Char) : List Char :=
  match expansions.lookup c.toNat with
  | some codes => codes.map Char.ofNat
  | none => [(runs.findSome? (·.target? c)).getD c]

/-- The lowercase form of a character on its own. -/
def lowerChars (c : Char) : List Char :=
  if isAscii c then [c.toLower] else mapThrough lowerExpansions lowerRuns c

def upperChars (c : Char) : List Char :=
  if isAscii c then [c.toUpper] else mapThrough upperExpansions upperRuns c

/-- The property `Uppercase`: capitals with a lowercase form, and the capitals without one. -/
def isUppercase (c : Char) : Bool :=
  lowerChars c != [c] && !titlecaseLetters.contains c || plainCapitals.contains c

/-! ### Text -/

/-- The first character that is not case ignorable is a cased one. -/
def meetsCased (cs : List Char) : Bool :=
  match cs.dropWhile caseIgnorable.contains with
  | [] => false
  | c :: _ => cased.contains c

/-- The lowercase form of `after`, where `before` stands to its left, nearest character first. -/
def lowerFrom (before : List Char) : List Char → List Char
  | [] => []
  | c :: after =>
    let form :=
      if c = 'Σ' then if meetsCased before && !meetsCased after then ['ς'] else ['σ']
      else lowerChars c
    form ++ lowerFrom (c :: before) after

def lowercase (s : String) : String :=
  String.ofList (lowerFrom [] s.toList)

def uppercase (s : String) : String :=
  String.ofList (s.toList.flatMap upperChars)

/-! ### ASCII text -/

@[simp] theorem lowerChars_ascii {c : Char} (h : isAscii c = true) :
    lowerChars c = [c.toLower] := by
  simp [lowerChars, h]

@[simp] theorem upperChars_ascii {c : Char} (h : isAscii c = true) :
    upperChars c = [c.toUpper] := by
  simp [upperChars, h]

theorem lowerFrom_ascii (before cs : List Char) (h : cs.all isAscii = true) :
    lowerFrom before cs = cs.map Char.toLower := by
  induction cs generalizing before with
  | nil => rfl
  | cons c cs ih =>
    simp only [List.all_cons, Bool.and_eq_true] at h
    have hc : c ≠ 'Σ' := by rintro rfl; exact absurd h.1 (by decide)
    simp [lowerFrom, hc, lowerChars_ascii h.1, ih _ h.2]

end TextTemplate.Unicode
