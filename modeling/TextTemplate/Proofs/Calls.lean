import TextTemplate.Bindings

/-!
# Bindings call by call

Bindings come about by one call after the other. What a name stands for is settled by the last call
of each sort for that name, so calls that do not bind the same thing can change places.
-/

namespace TextTemplate.Bindings

inductive Call where
  | insert (name : String) (binding : Binding)
  | insertRecursive (name : String)
deriving DecidableEq

namespace Call

def apply (b : Bindings) : Call → Bindings
  | insert name binding => b.insert name binding
  | insertRecursive name => b.insertRecursive name

def text? (key : String) : Call → Option String
  | insert name (.value text) => if foldName name = key then some text else none
  | _ => none

def flag? (key : String) : Call → Option Bool
  | insert name (.flag holds) => if foldName name = key then some holds else none
  | _ => none

end Call

def ofCalls (calls : List Call) : Bindings :=
  calls.foldl Call.apply .empty

/-- The same calls, where those that bind one name to one sort of thing keep their order. -/
structure Reordering (calls calls' : List Call) : Prop where
  perm : calls.Perm calls'
  texts (key : String) :
    calls.filter (fun call => (call.text? key).isSome) =
      calls'.filter (fun call => (call.text? key).isSome)
  flags (key : String) :
    calls.filter (fun call => (call.flag? key).isSome) =
      calls'.filter (fun call => (call.flag? key).isSome)

/-! ### One call -/

theorem getElem?_insert_or {ν : Type} (m : Std.ExtTreeMap String ν) (name key : String) (v : ν) :
    (m.insert name v)[key]? = (if name = key then some v else none).or m[key]? := by
  rw [Std.ExtTreeMap.getElem?_insert]
  by_cases same : name = key <;> simp [same]

variable (b : Bindings) (call : Call) (key : String)

theorem values_apply : (call.apply b).values[key]? = (call.text? key).or b.values[key]? := by
  cases call with
  | insertRecursive name => rfl
  | insert name binding =>
    cases binding with
    | flag holds => rfl
    | value text => exact getElem?_insert_or b.values (foldName name) key text

theorem flags_apply : (call.apply b).flags[key]? = (call.flag? key).or b.flags[key]? := by
  cases call with
  | insertRecursive name => rfl
  | insert name binding =>
    cases binding with
    | value text => rfl
    | flag holds => exact getElem?_insert_or b.flags (foldName name) key holds

theorem mem_recursive_apply :
    key ∈ (call.apply b).recursive ↔
      (∃ name, call = .insertRecursive name ∧ foldName name = key) ∨ key ∈ b.recursive := by
  cases call with
  | insert name binding => cases binding <;> simp [Call.apply]
  | insertRecursive name => simp [Call.apply, insertRecursive, Std.ExtTreeSet.mem_insert]

/-! ### All calls -/

/-- Where each step either writes or leaves what is looked at, the last write is seen. -/
theorem foldl_last {σ α β : Type} (look : σ → Option β) {write : α → Option β}
    {step : σ → α → σ} (wrote : ∀ s a, look (step s a) = (write a).or (look s)) (s : σ)
    (as : List α) : look (as.foldl step s) = (as.filterMap write).getLast?.or (look s) := by
  induction as generalizing s with
  | nil => rfl
  | cons a as ih =>
    rw [List.foldl_cons, ih, wrote]
    cases written : write a with
    | none => simp [written]
    | some x =>
      cases later : (as.filterMap write).getLast? <;> simp [written, List.getLast?_cons, later]

variable (calls : List Call)

theorem values_ofCalls :
    (ofCalls calls).values[key]? = (calls.filterMap (·.text? key)).getLast? := by
  have last := foldl_last (fun b : Bindings => b.values[key]?)
    (fun b call => values_apply b call key) .empty calls
  simpa [ofCalls, empty] using last

theorem flags_ofCalls :
    (ofCalls calls).flags[key]? = (calls.filterMap (·.flag? key)).getLast? := by
  have last := foldl_last (fun b : Bindings => b.flags[key]?)
    (fun b call => flags_apply b call key) .empty calls
  simpa [ofCalls, empty] using last

theorem mem_recursive_foldl :
    key ∈ (calls.foldl Call.apply b).recursive ↔
      (∃ name, .insertRecursive name ∈ calls ∧ foldName name = key) ∨ key ∈ b.recursive := by
  induction calls generalizing b with
  | nil => simp
  | cons call calls ih =>
    rw [List.foldl_cons, ih, mem_recursive_apply]
    simp only [List.mem_cons, or_and_right, exists_or, eq_comm (a := call)]
    rw [or_assoc, or_left_comm]

theorem mem_recursive_ofCalls :
    key ∈ (ofCalls calls).recursive ↔
      ∃ name, .insertRecursive name ∈ calls ∧ foldName name = key := by
  have marked := mem_recursive_foldl .empty key calls
  simpa [ofCalls, empty] using marked

/-! ### Calls in another order -/

variable {calls}

/-- Only the calls that write matter to what is written. -/
theorem filterMap_filter_isSome {α β : Type} (write : α → Option β) (as : List α) :
    (as.filter fun a => (write a).isSome).filterMap write = as.filterMap write := by
  induction as with
  | nil => rfl
  | cons a as ih => cases written : write a <;> simp [written, ih]

theorem ofCalls_reordering {calls' : List Call} (h : Reordering calls calls') :
    ofCalls calls = ofCalls calls' := by
  have values : (ofCalls calls).values = (ofCalls calls').values := by
    apply Std.ExtTreeMap.ext_getElem?
    intro key
    rw [values_ofCalls, values_ofCalls, ← filterMap_filter_isSome, h.texts key,
      filterMap_filter_isSome]
  have flags : (ofCalls calls).flags = (ofCalls calls').flags := by
    apply Std.ExtTreeMap.ext_getElem?
    intro key
    rw [flags_ofCalls, flags_ofCalls, ← filterMap_filter_isSome, h.flags key,
      filterMap_filter_isSome]
  have recursive : (ofCalls calls).recursive = (ofCalls calls').recursive := by
    apply Std.ExtTreeSet.ext_mem
    intro key
    simp only [mem_recursive_ofCalls, h.perm.mem_iff]
  cases left : ofCalls calls
  cases right : ofCalls calls'
  rw [left, right] at values flags recursive
  exact (mk.injEq ..).mpr ⟨values, flags, recursive⟩

/-! ### What calls come to -/

/-- The last text under a name is its value. The last flag decides the condition, and without a flag
it holds if that text is not empty. -/
theorem resolve_ofCalls (calls : List Call) :
    (∀ name,
      let tables := (ofCalls calls).resolve
      let text := (calls.filterMap (·.text? (foldName name))).getLast?
      let flag := (calls.filterMap (·.flag? (foldName name))).getLast?
      tables.value? name = text ∧
        tables.condition? name = flag.or (text.map fun s => !s.isEmpty) ∧
        (tables.isRecursive name = true ↔
          ∃ marked, .insertRecursive marked ∈ calls ∧ foldName marked = foldName name)) ∧
      ∀ calls', Reordering calls calls' →
        ofCalls calls = ofCalls calls' ∧ (ofCalls calls).resolve = (ofCalls calls').resolve := by
  constructor
  · intro name tables text flag
    have value := values_ofCalls (foldName name) calls
    have flagged := flags_ofCalls (foldName name) calls
    refine ⟨value, ?_, ?_⟩
    · rw [condition?_resolve, value, flagged]
    · rw [isRecursive_resolve, Std.ExtTreeSet.contains_iff_mem, mem_recursive_ofCalls]
  · intro calls' reordered
    have same := ofCalls_reordering reordered
    exact ⟨same, congrArg resolve same⟩

theorem resolve_ofCalls_late_text :
    let calls : List Call :=
      [.insert "x" (.value "one"), .insert "X" (.flag false), .insertRecursive "X",
        .insert "x" (.value "two")]
    let calls' : List Call :=
      [.insertRecursive "X", .insert "x" (.value "one"), .insert "x" (.value "two"),
        .insert "X" (.flag false)]
    (ofCalls calls).resolve.value? "X" = some "two" ∧
      (ofCalls calls).resolve.condition? "x" = some false ∧
      (ofCalls calls).resolve.isRecursive "x" = true ∧ ofCalls calls = ofCalls calls' := by
  intro calls calls'
  have small : foldName "x" = "x" := by decide
  have capital : foldName "X" = "x" := by decide
  have reordered : Reordering calls calls' := by
    refine ⟨by decide, fun key => ?_, fun key => ?_⟩ <;> by_cases same : key = "x"
    · subst same
      decide
    · simp [calls, calls', Call.text?, small, Ne.symm same]
    · subst same
      decide
    · simp [calls, calls', Call.flag?, capital, Ne.symm same]
  obtain ⟨meaning, moved⟩ := resolve_ofCalls calls
  obtain ⟨value, -, -⟩ := meaning "X"
  obtain ⟨-, condition, recursive⟩ := meaning "x"
  refine ⟨?_, ?_, ?_, (moved calls' reordered).1⟩
  · rw [value, capital]
    decide
  · rw [condition, small]
    decide
  · rw [recursive]
    exact ⟨"X", by simp [calls], by rw [capital, small]⟩

end TextTemplate.Bindings
