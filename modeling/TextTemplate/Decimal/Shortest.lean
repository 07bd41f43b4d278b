/-!
# Shortest decimals

A binary floating point number stands for all reals that round to it. Of the decimals among them,
the ones with the fewest digits are looked for, and of those the nearest to the number.
-/

namespace TextTemplate.Decimal

/-- The number `mantissa * 2 ^ exponent`. -/
structure Binary where
  mantissa : Nat
  exponent : Int
  /-- The next smaller number is only half as far as the next larger one. -/
  gapHalved : Bool
deriving DecidableEq, Repr

/-- A number and the ends of the interval that rounds to it, in units of `10 ^ (-scale)`. -/
structure Rounding where
  low : Nat
  value : Nat
  high : Nat
  scale : Nat
  /-- The ends belong to the interval. -/
  closed : Bool
deriving DecidableEq, Repr

/-- The interval of a number. Its ends lie half way to its neighbours, so a quarter of a unit of the
mantissa is the unit here. -/
def Binary.rounding (b : Binary) : Rounding :=
  let exponent := b.exponent - 2
  let scale := (-exponent).toNat
  let unit := Nat.pow 5 scale * Nat.pow 2 exponent.toNat
  let below := if b.gapHalved then 1 else 2
  { low := (4 * b.mantissa - below) * unit
    value := 4 * b.mantissa * unit
    high := (4 * b.mantissa + 2) * unit
    scale
    closed := b.mantissa % 2 = 0 }

def Rounding.holds (r : Rounding) (x : Nat) : Bool :=
  if r.closed then r.low ≤ x && x ≤ r.high else r.low < x && x < r.high

/-- The multiple of `step` that rounds to the number and is nearest to it. Of two as near the even
one is taken. -/
def Rounding.nearest? (r : Rounding) (step : Nat) : Option Nat :=
  let quotient := r.value / step
  let down := quotient * step
  let up := down + step
  match r.holds down, r.holds up with
  | false, false => none
  | true, false => some down
  | false, true => some up
  | true, true =>
    if r.value - down < up - r.value then some down
    else if up - r.value < r.value - down then some up
    else if quotient % 2 = 0 then some down else some up

def digitsOf (n : Nat) : List Char :=
  Nat.toDigits 10 n

def Rounding.shortest (r : Rounding) : Nat :=
  let places := (digitsOf r.value).length
  let steps := (List.range places).map fun n => places - (n + 1)
  (steps.findSome? fun zeros => r.nearest? (Nat.pow 10 zeros)).getD r.value

/-- Significant digits, of which the first counts `10 ^ exponent`. -/
structure Scientific where
  digits : List Char
  exponent : Int
deriving DecidableEq, Repr

def dropZeros (digits : List Char) : List Char :=
  (digits.reverse.dropWhile (· == '0')).reverse

def Binary.shortest (b : Binary) : Scientific :=
  let r := b.rounding
  let digits := digitsOf r.shortest
  ⟨dropZeros digits, (digits.length : Int) - 1 - r.scale⟩

end TextTemplate.Decimal
