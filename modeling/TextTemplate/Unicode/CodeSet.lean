/-!
# Sets and maps of code points

The shapes in which Unicode properties and case mappings are written down: sets as lists of
ranges, and one-to-one mappings as runs of code points that all move by the same amount.
-/

namespace TextTemplate.Unicode

structure CodeRange where
  first : Nat
  last : Nat
deriving DecidableEq, Repr

def CodeRange.contains (r : CodeRange) (c : Char) : Bool :=
  r.first ≤ c.toNat && c.toNat ≤ r.last

structure CodeSet where ofRanges ::
  ranges : List CodeRange

def CodeSet.contains (s : CodeSet) (c : Char) : Bool :=
  s.ranges.any (·.contains c)

/-- Every `step`-th code point from `first` to `last`, moved by `shift`. -/
structure ShiftRun where
  first : Nat
  last : Nat
  step : Nat
  shift : Int
deriving DecidableEq, Repr

def ShiftRun.target? (r : ShiftRun) (c : Char) : Option Char :=
  if r.first ≤ c.toNat ∧ c.toNat ≤ r.last ∧ (c.toNat - r.first) % r.step = 0 then
    some (Char.ofNat (c.toNat + r.shift).toNat)
  else none

theorem CodeSet.contains_iff {s : CodeSet} {c : Char} :
    s.contains c = true ↔ ∃ r ∈ s.ranges, r.first ≤ c.toNat ∧ c.toNat ≤ r.last := by
  simp [contains, CodeRange.contains]

end TextTemplate.Unicode
