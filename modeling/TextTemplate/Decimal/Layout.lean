import TextTemplate.Decimal.Shortest

/-!
# Layout of decimals

How digits and an exponent are written out: with all places, or with the exponent apart.
-/

namespace TextTemplate.Decimal

/-- Which exponents are written with all places. -/
structure Layout where
  least : Int
  greatest : Int
deriving DecidableEq, Repr

/-- All places, at least one of them behind the point. -/
def Scientific.positional (d : Scientific) : List Char :=
  if d.exponent < 0 then
    '0' :: '.' :: List.replicate (-d.exponent - 1).toNat '0' ++ d.digits
  else
    let whole := d.exponent.toNat + 1
    let fraction := d.digits.drop whole
    d.digits.take whole ++ List.replicate (whole - d.digits.length) '0' ++ '.' ::
      (if fraction.isEmpty then ['0'] else fraction)

def Scientific.exponential (d : Scientific) : List Char :=
  let fraction := d.digits.drop 1
  let sign := if d.exponent < 0 then '-' else '+'
  d.digits.take 1 ++ (if fraction.isEmpty then [] else '.' :: fraction) ++
    'e' :: sign :: digitsOf d.exponent.natAbs

def Layout.write (layout : Layout) (d : Scientific) : List Char :=
  if layout.least ≤ d.exponent && d.exponent ≤ layout.greatest then d.positional
  else d.exponential

end TextTemplate.Decimal
