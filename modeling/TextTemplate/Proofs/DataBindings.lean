import TextTemplate.Proofs.ByteOrder
import TextTemplate.Proofs.Calls
import TextTemplate.Proofs.Normalizing
import Mathlib.Data.List.Perm.Basic

/-!
# What data binds

Only a map of plain values is bindings, those that the calls for its entries lead to. A key counts
once, with its last value, and keys come in the order of their bytes. Whatever fails in the data
goes before a value that is not plain.
-/

namespace TextTemplate.Data

/-! ### The entries that count -/

variable {ν : Type} {entries kept : List (String × ν)}

def LastUnder (entries : List (String × ν)) (name : String) (value : ν) : Prop :=
  ∃ earlier later, entries = earlier ++ (name, value) :: later ∧ ∀ e ∈ later, e.1 ≠ name

/-- The last entries under each name, in the order of the bytes of their names. -/
structure Kept (entries kept : List (String × ν)) : Prop where
  ordered : kept.Pairwise fun e f => utf8Bytes e.1 < utf8Bytes f.1
  mem_iff (name : String) (value : ν) : (name, value) ∈ kept ↔ LastUnder entries name value

theorem Kept.unique {kept' : List (String × ν)} (h : Kept entries kept) (h' : Kept entries kept') :
    kept = kept' := by
  have asymmetric : ∀ e f : String × ν, utf8Bytes e.1 < utf8Bytes f.1 →
      ¬ utf8Bytes f.1 < utf8Bytes e.1 := fun _ _ less => List.lt_asymm less
  have nodup {l : List (String × ν)}
      (ordered : l.Pairwise fun e f => utf8Bytes e.1 < utf8Bytes f.1) : l.Nodup := by
    refine ordered.imp ?_
    rintro e _ less rfl
    exact asymmetric e e less less
  refine List.Perm.eq_of_pairwise
    (fun e f _ _ less more => absurd more (asymmetric e f less)) h.ordered h'.ordered ?_
  refine (List.perm_ext_iff_of_nodup (nodup h.ordered) (nodup h'.ordered)).mpr ?_
  rintro ⟨name, value⟩
  rw [h.mem_iff, h'.mem_iff]

theorem getElem?_ofList (entries : List (String × ν)) (name : String) :
    (Std.ExtTreeMap.ofList entries)[name]? =
      entries.reverse.findSome? fun e => if e.1 = name then some e.2 else Option.none := by
  rw [Std.ExtTreeMap.ofList_eq_insertMany_empty, Std.ExtTreeMap.getElem?_insertMany_list]
  simp

theorem kept_toList (entries : List (String × ν)) :
    Kept entries (Std.ExtTreeMap.ofList entries).toList where
  ordered := by
    refine Std.ExtTreeMap.ordered_keys_toList.imp ?_
    intro e f less
    exact utf8Bytes_lt (compareOfLessAndEq_eq_lt.mp less)
  mem_iff name value := by
    rw [Std.ExtTreeMap.mem_toList_iff_getElem?_eq_some, getElem?_ofList, List.findSome?_eq_some_iff]
    constructor
    · rintro ⟨later, e, earlier, split, found, others⟩
      obtain ⟨rfl, rfl⟩ : e.1 = name ∧ e.2 = value := by simpa using found
      refine ⟨earlier.reverse, later.reverse, ?_, ?_⟩
      · simpa using congrArg List.reverse split
      · intro f member
        simpa using others f (List.mem_reverse.mp member)
    · rintro ⟨earlier, later, rfl, others⟩
      refine ⟨later.reverse, (name, value), earlier.reverse, by simp, by simp, ?_⟩
      intro f member
      simpa using others f (List.mem_reverse.mp member)

theorem toList_ofList_map {μ : Type} (f : ν → μ) (entries : List (String × ν)) :
    (Std.ExtTreeMap.ofList (entries.map fun e => (e.1, f e.2))).toList =
      (Std.ExtTreeMap.ofList entries).toList.map fun e => (e.1, f e.2) := by
  have same : Std.ExtTreeMap.ofList (entries.map fun e => (e.1, f e.2)) =
      (Std.ExtTreeMap.ofList entries).map fun _ value => f value := by
    apply Std.ExtTreeMap.ext_getElem?
    intro name
    rw [Std.ExtTreeMap.getElem?_map, getElem?_ofList, getElem?_ofList, ← List.map_reverse,
      List.findSome?_map, List.map_findSome?]
    congr 1
    funext e
    by_cases here : e.1 = name <;> simp [here]
  rw [same, Std.ExtTreeMap.toList_map]

/-! ### Binding the entries -/

/-- The call that binds an entry, unless its value is a list or a map. -/
def call? (entry : String × Data) : Option Bindings.Call :=
  entry.2.binding?.map (Bindings.Call.insert entry.1)

def named (entries : List (Data × Data)) : List (String × Data) :=
  entries.map fun e => (e.1.keyText, e.2)

theorem failures_kept {entries : List (Data × Data)} {kept : List (String × Data)}
    (sound : failuresEntries entries = []) (h : Kept (named entries) kept) :
    ∀ e ∈ kept, e.2.failures = [] := by
  rintro ⟨name, value⟩ member
  obtain ⟨earlier, later, split, -⟩ := (h.mem_iff name value).mp member
  have : (name, value) ∈ named entries := by simp [split]
  obtain ⟨entry, present, same⟩ := List.mem_map.mp this
  cases same
  exact failures_value sound present

theorem foldlM_bind_plain {kept : List (String × Data)} (b : Bindings)
    (sound : ∀ e ∈ kept, e.2.failures = []) (plain : ∀ e ∈ kept, e.2.binding? ≠ Option.none) :
    (kept.map fun e => (e.1, e.2.normal)).foldlM bind b =
      .ok ((kept.filterMap call?).foldl Bindings.Call.apply b) := by
  induction kept generalizing b with
  | nil => rfl
  | cons entry kept ih =>
    obtain ⟨name, value⟩ := entry
    obtain ⟨binding, bound⟩ := Option.ne_none_iff_exists'.mp (plain _ List.mem_cons_self)
    have bound' : value.normal.binding? = some binding :=
      (normalize_ok (normalize_eq (sound _ List.mem_cons_self))).2.trans bound
    have step : bind b (name, value.normal) = .ok (b.insert name binding) := by
      rw [bind, bound']
    have call : call? (name, value) = some (.insert name binding) := by
      rw [call?, bound, Option.map_some]
    rw [List.map_cons, List.foldlM_cons, step, List.filterMap_cons_some call, List.foldl_cons]
    exact ih (b.insert name binding) (fun e member => sound e (List.mem_cons_of_mem _ member))
      (fun e member => plain e (List.mem_cons_of_mem _ member))

/-! ### What becomes of data -/

inductive Outcome : Data → Except String Bindings → Prop
  /-- The first failure is reported, wherever in the data it is. -/
  | failed {d : Data} {message : String} {later : List String} :
    d.failures = message :: later → Outcome d (.error message)
  | notMap {d : Data} :
    d.failures = [] → (∀ entries, d ≠ .map entries) →
      Outcome d (.error s!"expected a map of bindings, found {d.kind}")
  /-- The least of the names is reported whose values are lists or maps. -/
  | unsupported {entries : List (Data × Data)} {kept : List (String × Data)} {name : String}
      {value : Data} :
    failures (.map entries) = [] → Kept (named entries) kept →
      (name, value) ∈ kept → value.binding? = Option.none →
      (∀ e ∈ kept, e.2.binding? = Option.none → e.1 = name ∨ utf8Bytes name < utf8Bytes e.1) →
      Outcome (.map entries) (.error s!"unsupported binding `{name}`, found {value.kind}")
  | bound {entries : List (Data × Data)} {kept : List (String × Data)} :
    failures (.map entries) = [] → Kept (named entries) kept →
      (∀ e ∈ kept, e.2.binding? ≠ Option.none) →
      Outcome (.map entries) (.ok (Bindings.ofCalls (kept.filterMap call?)))

theorem bindings_map {entries : List (Data × Data)} {kept : List (String × Data)}
    (sound : failuresEntries entries = []) (h : Kept (named entries) kept) :
    bindings (.map entries) = (kept.map fun e => (e.1, e.2.normal)).foldlM bind .empty := by
  have pairs : (entries.map fun e => (e.1.keyText, e.2.normal)) =
      (named entries).map fun e => (e.1, e.2.normal) := by
    simp [named, Function.comp_def]
  rw [bindings, normalize, normalizeEntries_eq sound, pairs, h.unique (kept_toList _),
    ← toList_ofList_map]
  rfl

theorem eq_map_of_kind {d : Data} (called : d.kind = "map") : ∃ entries, d = .map entries := by
  cases d with
  | map entries => exact ⟨entries, rfl⟩
  | float x =>
    rw [kind] at called
    split at called <;> exact absurd called (by decide)
  | float32 x =>
    rw [kind] at called
    split at called <;> exact absurd called (by decide)
  | _ => simp [kind] at called

theorem bindings_notMap {d : Data} (sound : d.failures = [])
    (other : ∀ entries, d ≠ .map entries) : d.bindings = .error (.notMap d.normal) := by
  have normalized := normalize_eq sound
  rw [bindings, normalized]
  cases form : d.normal with
  | map entries =>
    rw [form] at normalized
    obtain ⟨entries', rfl⟩ := eq_map_of_kind (normalize_ok normalized).1.symm
    exact absurd rfl (other entries')
  | _ => rfl

/-- The error is for the first entry that cannot be bound. -/
theorem foldlM_bind_unsupported {before after : List (String × Data)} {name : String} {value : Data}
    (sound : ∀ e ∈ before ++ (name, value) :: after, e.2.failures = [])
    (plain : ∀ e ∈ before, e.2.binding? ≠ Option.none) (compound : value.binding? = Option.none) :
    ((before ++ (name, value) :: after).map fun e => (e.1, e.2.normal)).foldlM bind .empty =
      .error (.unsupported name value.normal) := by
  have unbound : value.normal.binding? = Option.none :=
    (normalize_ok (normalize_eq (sound (name, value) (by simp)))).2.trans compound
  have stuck : ∀ b, bind b (name, value.normal) = .error (.unsupported name value.normal) := by
    intro b
    rw [bind, unbound]
  rw [List.map_append, List.foldlM_append,
    foldlM_bind_plain .empty (fun e member => sound e (List.mem_append_left _ member)) plain,
    List.map_cons]
  simp only [List.foldlM_cons, stuck]
  rfl

theorem Outcome.result {d : Data} {result : Except String Bindings} (h : Outcome d result) :
    d.bindings.mapError Fault.message = result := by
  cases h with
  | failed failures =>
    have reports := normalize_reports d
    rw [failures] at reports
    rw [bindings]
    generalize d.normalize = normalized at reports ⊢
    cases reports with
    | error fault => rfl
  | notMap sound other =>
    rw [bindings_notMap sound other, ← (normalize_ok (normalize_eq sound)).1]
    rfl
  | @unsupported entries kept name value sound h member compound least =>
    obtain ⟨before, after, rfl⟩ := List.append_of_mem member
    have sound' := failures_kept sound h
    have plain : ∀ e ∈ before, e.2.binding? ≠ Option.none := by
      intro e present compound'
      have less : utf8Bytes e.1 < utf8Bytes name :=
        (List.pairwise_append.mp h.ordered).2.2 e present (name, value) List.mem_cons_self
      rcases least e (List.mem_append_left _ present) compound' with same | more
      · rw [same] at less
        exact List.lt_irrefl _ less
      · exact List.lt_asymm less more
    rw [bindings_map sound h, foldlM_bind_unsupported sound' plain compound,
      ← (normalize_ok (normalize_eq (sound' (name, value) member))).1]
    rfl
  | bound sound h plain =>
    rw [bindings_map sound h, foldlM_bind_plain .empty (failures_kept sound h) plain]
    rfl

theorem Outcome.exists (d : Data) : ∃ result, Outcome d result := by
  cases failures : d.failures with
  | cons message later => exact ⟨_, .failed failures⟩
  | nil =>
    by_cases isMap : ∃ entries, d = .map entries
    · obtain ⟨entries, rfl⟩ := isMap
      have h := kept_toList (named entries)
      generalize (Std.ExtTreeMap.ofList (named entries)).toList = kept at h
      cases found : kept.find? fun e => e.2.binding?.isNone with
      | none =>
        refine ⟨_, .bound failures h ?_⟩
        intro e member compound
        simpa [compound] using List.find?_eq_none.mp found e member
      | some entry =>
        obtain ⟨name, value⟩ := entry
        obtain ⟨compound, before, after, rfl, plain⟩ := List.find?_eq_some_iff_append.mp found
        refine ⟨_, .unsupported failures h (List.mem_append_right _ List.mem_cons_self)
          (by simpa using compound) ?_⟩
        intro e member compound'
        rcases List.mem_append.mp member with earlier | here
        · simpa [compound'] using plain e earlier
        · rcases List.mem_cons.mp here with rfl | later
          · exact Or.inl rfl
          · exact Or.inr ((List.pairwise_cons.mp (List.pairwise_append.mp h.ordered).2.1).1 e later)
    · exact ⟨_, .notMap failures (by simpa using isMap)⟩

/-- Reading bindings from data comes to the first failure in it; without a failure, to an error if
it is not a map or if a value is a list or a map; and else to the bindings that the calls for the
entries lead to, made in the order of the bytes of their names. -/
theorem bindings_iff_outcome (d : Data) (result : Except String Bindings) :
    d.bindings.mapError Fault.message = result ↔ Outcome d result := by
  constructor
  · rintro rfl
    obtain ⟨result, h⟩ := Outcome.exists d
    rwa [h.result]
  · exact Outcome.result

example :
    (bindings (.map [(.text "b", .list []), (.text "a", .map []), (.text "b", .none)])).mapError
      Fault.message = .error "unsupported binding `a`, found map" := by
  rfl

/-- A number is a key if it is finite, and reported with a message of its own if not. -/
theorem bindings_floatKey :
    (bindings (.map [(.float 1.5, .text "x")])).mapError Fault.message =
        .ok (Bindings.empty.insert "1.5" (.value "x")) ∧
      (bindings (.map [(.float (0 / 0), .text "x")])).mapError Fault.message =
        .error "float key must be finite (got NaN or +/-inf)" := by
  have finite : double.text? (1.5 : Float).toBits.toNat = some "1.5" := by decide +kernel
  have infinite : double.text? (0 / 0 : Float).toBits.toNat = Option.none := by decide +kernel
  constructor
  · rw [bindings, normalize, normalizeEntries, key, finite]
    rfl
  · rw [bindings, normalize, normalizeEntries, key, infinite]
    rfl

end TextTemplate.Data
