import TextTemplate.Bindings
import TextTemplate.Decimal.FloatFormat

/-!
# Bindings from data

Structured data can stand for bindings if it is a map of plain values. `Data.normalize` brings data
into a form in which all that is left are texts, numbers as they are written, and maps with string
keys, and `Data.bindings` reads bindings from that form.
-/

namespace TextTemplate

inductive Data where
  | none
  | bool (b : Bool)
  | int (n : Int)
  | float (x : Float)
  | float32 (x : Float32)
  | char (c : Char)
  | text (s : String)
  | list (items : List Data)
  | map (entries : List (Data × Data))

namespace Data

open Decimal (FloatFormat)

/-- Data in its normal form. -/
inductive Normal where
  | none
  | bool (b : Bool)
  | number (digits : String)
  | text (s : String)
  | list (items : List Normal)
  | map (entries : List (String × Normal))

def Normal.describe : Normal → String
  | .none => "none"
  | .bool _ => "bool"
  | .number _ => "number"
  | .text _ => "string"
  | .list _ => "list"
  | .map _ => "map"

inductive Fault where
  | numberOutOfRange
  | keyNotString
  /-- A key is an infinite number or no number. -/
  | keyNotFinite
  | notMap (found : Normal)
  /-- The value under a name is not plain. -/
  | unsupported (name : String) (found : Normal)

def Fault.message : Fault → String
  | .numberOutOfRange => "number out of range"
  | .keyNotString => "key must be a string"
  | .keyNotFinite => "float key must be finite (got NaN or +/-inf)"
  | .notMap found => s!"expected a map of bindings, found {found.describe}"
  | .unsupported name found => s!"unsupported binding `{name}`, found {found.describe}"

/-! ### Numbers -/

/-- The integers that can be values: those that fit 64 bits, with a sign or without. -/
def inRange (n : Int) : Bool :=
  -0x8000000000000000 ≤ n && n ≤ 0xFFFFFFFFFFFFFFFF

/-- A double takes 52 and 11 bits, and is written with all places from 0.00001 up to below
10000000000000000. -/
def double : FloatFormat :=
  ⟨52, 11, ⟨-5, 15⟩⟩

/-- A single takes 23 and 8 bits, and is written with all places from 0.000001 up to below
10000000000000. -/
def single : FloatFormat :=
  ⟨23, 8, ⟨-6, 12⟩⟩

/-- The value that a double stands for: none if it is infinite or no number. -/
def normalizeFloat (x : Float) : Normal :=
  match double.text? x.toBits.toNat with
  | some digits => .number digits
  | Option.none => .none

/-! ### Normal form -/

/-- The string that a key stands for. A single is written with as many digits as tell it from other
singles, where the same single as a value is widened to a double. -/
def key : Data → Except Fault String
  | .text s => .ok s
  | .char c => .ok (String.singleton c)
  | .int n => .ok (toString n)
  | .bool b => .ok (toString b)
  | .float x => (double.text? x.toBits.toNat).elim (.error .keyNotFinite) .ok
  | .float32 x => (single.text? x.toBits.toNat).elim (.error .keyNotFinite) .ok
  | .none | .list _ | .map _ => .error .keyNotString

mutual

/-- The normal form of data. The parts are taken in order, a key before its value, up to the first
that has none. -/
def normalize : Data → Except Fault Normal
  | .none => .ok .none
  | .bool b => .ok (.bool b)
  | .int n => if inRange n then .ok (.number (toString n)) else .error .numberOutOfRange
  | .float x => .ok (normalizeFloat x)
  | .float32 x => .ok (normalizeFloat x.toFloat)
  | .char c => .ok (.text (String.singleton c))
  | .text s => .ok (.text s)
  | .list items => return .list (← normalizeAll items)
  | .map entries => return .map (← normalizeEntries entries)

def normalizeAll : List Data → Except Fault (List Normal)
  | [] => .ok []
  | item :: items => do
    let item ← normalize item
    return item :: (← normalizeAll items)

def normalizeEntries : List (Data × Data) → Except Fault (List (String × Normal))
  | [] => .ok []
  | (name, value) :: entries => do
    let name ← key name
    let value ← normalize value
    return (name, value) :: (← normalizeEntries entries)

end

/-! ### Bindings -/

def Normal.binding? : Normal → Option Binding
  | .none => some (.value "")
  | .bool b => some (.flag b)
  | .number digits => some (.value digits)
  | .text s => some (.value s)
  | .list _ | .map _ => Option.none

def bind (b : Bindings) (entry : String × Normal) : Except Fault Bindings :=
  match entry.2.binding? with
  | some binding => .ok (b.insert entry.1 binding)
  | Option.none => .error (.unsupported entry.1 entry.2)

/-- The bindings that data stands for. Of entries with the same key the last counts, and the entries
are bound in the order of their keys. -/
def bindings (d : Data) : Except Fault Bindings := do
  match ← d.normalize with
  | .map entries => (Std.ExtTreeMap.ofList entries).toList.foldlM bind .empty
  | found => .error (.notMap found)

end Data

end TextTemplate
