import TextTemplate.Decimal.Layout

/-!
# Floating point formats

A floating point number is a sign, an exponent and a fraction, side by side in its bits. It is
written as the shortest decimal that rounds to it.
-/

namespace TextTemplate.Decimal

/-- How many bits the fraction and the exponent take, and how numbers are written. -/
structure FloatFormat where
  fractionBits : Nat
  exponentBits : Nat
  layout : Layout
deriving DecidableEq, Repr

namespace FloatFormat

/-- The exponent field of `1.0`, which is also the greatest exponent. -/
def bias (f : FloatFormat) : Nat :=
  Nat.pow 2 (f.exponentBits - 1) - 1

/-- The absolute value of a finite number, given the two fields. With the exponent zero the fraction
has no leading bit, and the exponent counts as one. -/
def absolute (f : FloatFormat) (exponent fraction : Nat) : Binary where
  mantissa := if exponent = 0 then fraction else Nat.pow 2 f.fractionBits + fraction
  exponent := (max 1 exponent : Nat) - (f.bias + f.fractionBits : Nat)
  gapHalved := fraction = 0 && 1 < exponent

def text? (f : FloatFormat) (bits : Nat) : Option String :=
  let fraction := bits % Nat.pow 2 f.fractionBits
  let exponent := bits / Nat.pow 2 f.fractionBits % Nat.pow 2 f.exponentBits
  let sign := if bits < Nat.pow 2 (f.fractionBits + f.exponentBits) then [] else ['-']
  if exponent = Nat.pow 2 f.exponentBits - 1 then none
  else if exponent = 0 && fraction = 0 then some (String.ofList (sign ++ ['0', '.', '0']))
  else some (String.ofList (sign ++ f.layout.write (f.absolute exponent fraction).shortest))

end FloatFormat

end TextTemplate.Decimal
