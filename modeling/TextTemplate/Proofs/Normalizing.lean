import TextTemplate.Data

/-!
# What has a normal form

Data fails to become normal for its keys and for its integers. Of all failures in it, the first one
in reading order is reported, where a key is read before its value. Without a failure the data
becomes what its outermost constructor says.
-/

namespace TextTemplate

/-! ### Finite numbers -/

section Finite

open Decimal (FloatFormat)
open Float.Model (Format UnpackedFloat)

theorem Decimal.FloatFormat.text?_eq_none_iff (f : FloatFormat) (bits : Nat) :
    f.text? bits = none ↔
      bits / Nat.pow 2 f.fractionBits % Nat.pow 2 f.exponentBits =
        Nat.pow 2 f.exponentBits - 1 := by
  unfold FloatFormat.text?
  dsimp only
  split
  · simpa
  · split <;> simpa

/-- A number is infinite or none at all if its exponent field is full. -/
theorem isFinite_unpack_eq_false_iff (format : Format) (bits : BitVec format.numBits) :
    (UnpackedFloat.unpack format bits).isFinite = false ↔
      UnpackedFloat.unpackExponent bits = -1#_ := by
  by_cases full : UnpackedFloat.unpackExponent bits = -1#_
  · refine iff_of_true ?_ full
    rw [show UnpackedFloat.unpack format bits = _ from if_pos full]
    split <;> rfl
  · refine iff_of_false ?_ full
    rw [show UnpackedFloat.unpack format bits = _ from if_neg full]
    by_cases zero : UnpackedFloat.unpackExponent bits = 0#_
    · rw [if_pos zero]
      by_cases bare : UnpackedFloat.unpackMantissa bits = 0#_
      · rw [dif_pos bare]
        exact Bool.false_ne_true.symm
      · rw [dif_neg bare]
        exact Bool.false_ne_true.symm
    · rw [if_neg zero]
      exact Bool.false_ne_true.symm

theorem unpackExponent_eq_ones_iff (format : Format) (bits : BitVec format.numBits) :
    UnpackedFloat.unpackExponent bits = -1#_ ↔
      bits.toNat / Nat.pow 2 format.mantissaBitsWithoutImplicit % Nat.pow 2 format.exponentBits =
        Nat.pow 2 format.exponentBits - 1 := by
  have field : (UnpackedFloat.unpackExponent bits).toNat =
      bits.toNat / Nat.pow 2 format.mantissaBitsWithoutImplicit %
        Nat.pow 2 format.exponentBits := by
    have := format.he
    have width : format.mantissaBitsWithoutImplicit + format.exponentBits - 1
        - format.mantissaBitsWithoutImplicit + 1 = format.exponentBits := by omega
    simp [UnpackedFloat.unpackExponent, Nat.shiftRight_eq_div_pow, width]
  rw [← field, ← BitVec.toNat_inj, BitVec.neg_one_eq_allOnes, BitVec.toNat_allOnes]
  rfl

theorem text?_isSome {f : FloatFormat} (format : Format) (bits : BitVec format.numBits)
    (fraction : f.fractionBits = format.mantissaBitsWithoutImplicit)
    (exponent : f.exponentBits = format.exponentBits) :
    (f.text? bits.toNat).isSome = (UnpackedFloat.unpack format bits).isFinite := by
  have same : f.text? bits.toNat = none ↔ (UnpackedFloat.unpack format bits).isFinite = false := by
    rw [FloatFormat.text?_eq_none_iff, isFinite_unpack_eq_false_iff, unpackExponent_eq_ones_iff,
      fraction, exponent]
  cases text : f.text? bits.toNat with
  | none => simp [same.mp text]
  | some s => simpa [text] using same

theorem double_text?_isSome (x : Float) :
    (Data.double.text? x.toBits.toNat).isSome = x.isFinite :=
  text?_isSome Format.binary64 x.toBits.toBitVec rfl rfl

theorem single_text?_isSome (x : Float32) :
    (Data.single.text? x.toBits.toNat).isSome = x.isFinite :=
  text?_isSome Format.binary32 x.toBits.toBitVec rfl rfl

end Finite

namespace Data

/-! ### Failures -/

def keyFailures : Data → List String
  | .text _ | .char _ | .int _ | .bool _ => []
  | .float x => if x.isFinite then [] else ["float key must be finite (got NaN or +/-inf)"]
  | .float32 x => if x.isFinite then [] else ["float key must be finite (got NaN or +/-inf)"]
  | .none | .list _ | .map _ => ["key must be a string"]

def keyText : Data → String
  | .text s => s
  | .char c => String.singleton c
  | .int n => toString n
  | .bool b => toString b
  | .float x => (double.text? x.toBits.toNat).getD ""
  | .float32 x => (single.text? x.toBits.toNat).getD ""
  | .none | .list _ | .map _ => ""

mutual

/-- What is wrong with data and its parts, in reading order. -/
def failures : Data → List String
  | .int n =>
    if -0x8000000000000000 ≤ n ∧ n < 0x10000000000000000 then [] else ["number out of range"]
  | .list items => failuresAll items
  | .map entries => failuresEntries entries
  | .none | .bool _ | .float _ | .float32 _ | .char _ | .text _ => []

def failuresAll : List Data → List String
  | [] => []
  | item :: items => failures item ++ failuresAll items

def failuresEntries : List (Data × Data) → List String
  | [] => []
  | (name, value) :: entries =>
    name.keyFailures ++ (failures value ++ failuresEntries entries)

end

/-- The result is an error with the first of the failures, if there are any. -/
inductive Reports {α : Type} : List String → Except Fault α → Prop
  | ok (a : α) : Reports [] (.ok a)
  | error (fault : Fault) (later : List String) : Reports (fault.message :: later) (.error fault)

variable {α β : Type} {first later : List String} {x : Except Fault α}

theorem Reports.bind {f : α → Except Fault β} (before : Reports first x)
    (after : ∀ a, x = .ok a → Reports later (f a)) : Reports (first ++ later) (x >>= f) := by
  cases before with
  | ok a => exact after a rfl
  | error fault rest => exact .error fault (rest ++ later)

theorem Reports.map {f : α → β} (before : Reports first x) :
    Reports first (x >>= fun a => .ok (f a)) := by
  simpa using before.bind fun a _ => .ok (f a)

theorem float_reports (text? : Option String) :
    Reports (if text?.isSome then [] else ["float key must be finite (got NaN or +/-inf)"])
      (text?.elim (.error .keyNotFinite) .ok) := by
  cases text? with
  | none => exact .error .keyNotFinite []
  | some s => exact .ok s

theorem key_reports (d : Data) : Reports d.keyFailures d.key := by
  cases d with
  | float x =>
    rw [keyFailures, ← double_text?_isSome]
    exact float_reports _
  | float32 x =>
    rw [keyFailures, ← single_text?_isSome]
    exact float_reports _
  | text s => exact .ok s
  | char c => exact .ok _
  | int n => exact .ok _
  | bool b => exact .ok _
  | none => exact .error .keyNotString []
  | list items => exact .error .keyNotString []
  | map entries => exact .error .keyNotString []

theorem int_reports (n : Int) : Reports (failures (.int n)) (normalize (.int n)) := by
  rw [failures, normalize]
  by_cases fits : -0x8000000000000000 ≤ n ∧ n < 0x10000000000000000
  · have : inRange n = true := by
      simp only [inRange, Bool.and_eq_true, decide_eq_true_eq]
      omega
    rw [if_pos fits, if_pos this]
    exact .ok _
  · have : ¬ inRange n = true := by
      simp only [inRange, Bool.and_eq_true, decide_eq_true_eq]
      omega
    rw [if_neg fits, if_neg this]
    exact .error .numberOutOfRange []

mutual

/-- Data becomes normal if nothing in it fails, and otherwise the first failure is reported. -/
theorem normalize_reports (d : Data) : Reports d.failures d.normalize := by
  match d with
  | .none | .bool _ | .float _ | .float32 _ | .char _ | .text _ => exact .ok _
  | .int n => exact int_reports n
  | .list items => exact (normalizeAll_reports items).map
  | .map entries => exact (normalizeEntries_reports entries).map

theorem normalizeAll_reports (items : List Data) :
    Reports (failuresAll items) (normalizeAll items) := by
  match items with
  | [] => exact .ok []
  | item :: items =>
    exact (normalize_reports item).bind fun _ _ => (normalizeAll_reports items).map

theorem normalizeEntries_reports (entries : List (Data × Data)) :
    Reports (failuresEntries entries) (normalizeEntries entries) := by
  match entries with
  | [] => exact .ok []
  | (name, value) :: entries =>
    exact (key_reports name).bind fun _ _ =>
      (normalize_reports value).bind fun _ _ => (normalizeEntries_reports entries).map

end

/-! ### Normal forms -/

def kind : Data → String
  | .none => "none"
  | .bool _ => "bool"
  | .int _ => "number"
  | .float x => if x.isFinite then "number" else "none"
  | .float32 x => if x.toFloat.isFinite then "number" else "none"
  | .char _ | .text _ => "string"
  | .list _ => "list"
  | .map _ => "map"

def binding? : Data → Option Binding
  | .none => some (.value "")
  | .bool b => some (.flag b)
  | .int n => some (.value (toString n))
  | .float x => some (.value ((double.text? x.toBits.toNat).getD ""))
  | .float32 x => some (.value ((double.text? x.toFloat.toBits.toNat).getD ""))
  | .char c => some (.value (String.singleton c))
  | .text s => some (.value s)
  | .list _ | .map _ => Option.none

theorem normalizeFloat_eq (x : Float) :
    (normalizeFloat x).describe = (if x.isFinite then "number" else "none") ∧
      (normalizeFloat x).binding? = some (.value ((double.text? x.toBits.toNat).getD "")) := by
  rw [normalizeFloat, ← double_text?_isSome]
  cases double.text? x.toBits.toNat with
  | none => exact ⟨rfl, rfl⟩
  | some digits => exact ⟨rfl, rfl⟩

theorem normalize_ok {d : Data} {v : Normal} (normalized : d.normalize = .ok v) :
    v.describe = d.kind ∧ v.binding? = d.binding? := by
  cases d with
  | float x =>
    cases normalized
    exact normalizeFloat_eq x
  | float32 x =>
    cases normalized
    exact normalizeFloat_eq x.toFloat
  | int n =>
    rw [normalize] at normalized
    split at normalized <;> cases normalized
    exact ⟨rfl, rfl⟩
  | list items =>
    rw [normalize] at normalized
    cases parts : normalizeAll items <;> rw [parts] at normalized <;> cases normalized
    exact ⟨rfl, rfl⟩
  | map entries =>
    rw [normalize] at normalized
    cases parts : normalizeEntries entries <;> rw [parts] at normalized <;> cases normalized
    exact ⟨rfl, rfl⟩
  | _ =>
    cases normalized
    exact ⟨rfl, rfl⟩

def normal (d : Data) : Normal :=
  d.normalize.toOption.getD .none

theorem normalize_eq {d : Data} (sound : d.failures = []) : d.normalize = .ok d.normal := by
  have reports := normalize_reports d
  rw [sound] at reports
  unfold normal
  generalize d.normalize = result at reports ⊢
  cases reports with
  | ok v => rfl

theorem key_eq {d : Data} (sound : d.keyFailures = []) : d.key = .ok d.keyText := by
  have reports := key_reports d
  rw [sound] at reports
  cases d with
  | float x =>
    rw [key, keyText] at *
    cases text : double.text? x.toBits.toNat <;> rw [text] at reports
    · cases reports
    · rfl
  | float32 x =>
    rw [key, keyText] at *
    cases text : single.text? x.toBits.toNat <;> rw [text] at reports
    · cases reports
    · rfl
  | text s => rfl
  | char c => rfl
  | int n => rfl
  | bool b => rfl
  | none => cases sound
  | list items => cases sound
  | map entries => cases sound

theorem normalizeEntries_eq {entries : List (Data × Data)} (sound : failuresEntries entries = []) :
    normalizeEntries entries = .ok (entries.map fun e => (e.1.keyText, e.2.normal)) := by
  induction entries with
  | nil => rfl
  | cons entry entries ih =>
    obtain ⟨name, value⟩ := entry
    simp only [failuresEntries, List.append_eq_nil_iff] at sound
    obtain ⟨named, valued, others⟩ := sound
    rw [normalizeEntries, key_eq named, normalize_eq valued, ih others]
    rfl

theorem failures_value {entries : List (Data × Data)} (sound : failuresEntries entries = [])
    {e : Data × Data} (member : e ∈ entries) : e.2.failures = [] := by
  induction entries with
  | nil => cases member
  | cons entry entries ih =>
    simp only [failuresEntries, List.append_eq_nil_iff] at sound
    rcases List.mem_cons.mp member with rfl | member
    · exact sound.2.1
    · exact ih sound.2.2 member

end Data

end TextTemplate
