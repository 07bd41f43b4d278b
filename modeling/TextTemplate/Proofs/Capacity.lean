import Mathlib.Control.Monad.Basic
import TextTemplate.Proofs.Sessions

/-!
# The size of the cache

An engine never keeps more templates than it may, whatever it is asked and whatever fails. A source
that compiles is kept beside the others if there is room, and alone if there is none.
-/

namespace TextTemplate.Engine
open Std (ExtTreeMap)

/-! ### Keeping one more template -/

section
variable {e : Engine}

theorem keep_of_zero (none : e.capacity = 0) (t : Template) : e.keep t = e := by
  rw [keep, if_pos none]

variable {t : Template}

theorem isFull_iff {source : String} :
    e.isFull source = true ↔ e.capacity ≤ e.cached ∧ source ∉ e.cache := by
  rw [isFull, Bool.and_eq_true, decide_eq_true_iff, Bool.not_eq_true', ← Bool.not_eq_true,
    ExtTreeMap.contains_iff_mem]

theorem cache_keep_of_isFull (some' : 0 < e.capacity) (full : e.isFull t.source = true) :
    (e.keep t).cache = (∅ : ExtTreeMap String Template).insert t.source t := by
  rw [keep, if_neg (Nat.ne_of_gt some')]
  simp only [if_pos full]

theorem cache_keep_of_not_isFull (some' : 0 < e.capacity) (room : ¬ e.isFull t.source = true) :
    (e.keep t).cache = e.cache.insert t.source t := by
  rw [keep, if_neg (Nat.ne_of_gt some')]
  simp only [if_neg room]

theorem cache_keep_of_lt (room : e.cached < e.capacity) :
    (e.keep t).cache = e.cache.insert t.source t := by
  refine cache_keep_of_not_isFull (Nat.zero_lt_of_lt room) fun full => ?_
  exact absurd (isFull_iff.mp full).1 (Nat.not_le_of_lt room)

theorem cache_keep_of_le (some' : 0 < e.capacity) (full : e.capacity ≤ e.cached)
    (new : t.source ∉ e.cache) :
    (e.keep t).cache = (∅ : ExtTreeMap String Template).insert t.source t :=
  cache_keep_of_isFull some' (isFull_iff.mpr ⟨full, new⟩)

theorem cached_keep_of_lt (room : e.cached < e.capacity) (new : t.source ∉ e.cache) :
    (e.keep t).cached = e.cached + 1 := by
  rw [cached, cache_keep_of_lt room]
  simp [ExtTreeMap.size_insert, new, cached]

theorem cached_keep_of_le (some' : 0 < e.capacity) (full : e.capacity ≤ e.cached)
    (new : t.source ∉ e.cache) : (e.keep t).cached = 1 := by
  rw [cached, cache_keep_of_le some' full new]
  simp [ExtTreeMap.size_insert]

theorem capacity_keep (e : Engine) (t : Template) : (e.keep t).capacity = e.capacity := by
  unfold keep
  split <;> rfl

end

/-! ### The bound -/

def Sized (e : Engine) : Prop :=
  e.cached ≤ e.capacity

theorem sized_of_empty {e : Engine} (h : e.cache = ∅) : e.Sized := by
  rw [Sized, cached, h, ExtTreeMap.size_empty]
  exact Nat.zero_le _

theorem sized_keep {e : Engine} (h : e.Sized) (t : Template) : (e.keep t).Sized := by
  rw [Sized, capacity_keep]
  by_cases none : e.capacity = 0
  · rwa [keep_of_zero none]
  have some' : 0 < e.capacity := Nat.pos_of_ne_zero none
  by_cases full : e.isFull t.source = true
  · rw [cached, cache_keep_of_isFull some' full, ExtTreeMap.size_insert]
    simpa using Nat.succ_le_of_lt some'
  · rw [cached, cache_keep_of_not_isFull some' full, ExtTreeMap.size_insert]
    split
    · exact h
    · rename_i new
      exact Nat.lt_of_not_le fun most => full (isFull_iff.mpr ⟨most, new⟩)

theorem stable_sized : Stable Sized where
  keep _ _ t _ h := sized_keep h t
  setMaxDepth _ _ h := h
  setCapacity e capacity h := by
    by_cases beyond : e.cached > capacity
    · exact sized_of_empty (by simp [setCapacity, beyond])
    · rw [Sized, cached, setCapacity, if_neg beyond]
      exact Nat.le_of_not_lt beyond
  clearCache _ _ := sized_of_empty rfl

/-! ### Compiling -/

/-- Compiling leaves the engine alone, or keeps the template of a source that was not kept. -/
theorem compile_cases (e : Engine) (source : String) :
    (e.compile source).engine = e ∧
        (source ∈ e.cache ∨ ∃ err, (e.compile source).result = .error err) ∨
      source ∉ e.cache ∧ ∃ t, (e.compile source).result = .ok t ∧ t.source = source ∧
        (e.compile source).engine = e.keep t := by
  have fetched := Task.fetches_fetch source { engine := e }
  rw [compile, run]
  generalize (Task.fetch source).run.run { engine := e } = outcome at fetched ⊢
  rw [ExtTreeMap.mem_iff_isSome_getElem?]
  cases fetched with
  | kept found => exact .inl ⟨rfl, .inl (Option.isSome_of_eq_some found)⟩
  | unread _ _ => exact .inl ⟨rfl, .inr ⟨_, rfl⟩⟩
  | read none read =>
    refine .inr ⟨?_, _, rfl, Template.source_of_parse read, rfl⟩
    simpa using none

theorem engine_compile_of_error {e : Engine} {source : String} {err : Error}
    (failed : (e.compile source).result = .error err) : (e.compile source).engine = e := by
  rcases compile_cases e source with ⟨same, -⟩ | ⟨-, t, done, -⟩
  · exact same
  · cases failed.symm.trans done

theorem engine_compile_of_mem {e : Engine} {source : String} (kept : source ∈ e.cache) :
    (e.compile source).engine = e := by
  rcases compile_cases e source with ⟨same, -⟩ | ⟨new, -⟩
  · exact same
  · exact absurd kept new

theorem engine_compile_of_ok {e : Engine} {source : String} {t : Template}
    (new : source ∉ e.cache) (done : (e.compile source).result = .ok t) :
    t.source = source ∧ (e.compile source).engine = e.keep t := by
  rcases compile_cases e source with ⟨-, kept | ⟨err, failed⟩⟩ | ⟨-, t', done', own, same⟩
  · exact absurd kept new
  · cases failed.symm.trans done
  · cases done.symm.trans done'
    exact ⟨own, same⟩

namespace Client

/-- In every state that a client can bring an engine to, the cache is within its capacity. There, a
source that fails to compile and one that is kept leave the engine alone, and any other is kept
beside the others if there is room, and alone if not. After a format, whatever comes of it, the
cache is within the same capacity, and what it keeps is what would be read. -/
theorem cached_le_capacity (requests : List Request) :
    let e := (serveAll {} requests).2.engine
    e.cached ≤ e.capacity ∧
      (∀ source err, (e.compile source).result = .error err → (e.compile source).engine = e) ∧
      (∀ source ∈ e.cache, (e.compile source).engine = e) ∧
      (∀ source t, source ∉ e.cache → (e.compile source).result = .ok t →
        let after := (e.compile source).engine
        (e.capacity = 0 → after = e) ∧
          (e.cached < e.capacity →
            after.cache = e.cache.insert source t ∧ after.cached = e.cached + 1) ∧
          (0 < e.capacity → e.cached = e.capacity →
            after.cache = (∅ : ExtTreeMap String Template).insert source t ∧ after.cached = 1)) ∧
      ∀ source bindings,
        let after := (e.format source bindings).engine
        after.capacity = e.capacity ∧ after.cached ≤ e.capacity ∧
          ∀ key t, after.cache[key]? = some t → Template.parse key = .ok t := by
  intro e
  have sized : e.Sized := stable_serveAll stable_sized requests (sized_of_empty rfl)
  have coherent : e.Coherent := coherent_serveAll requests
  refine ⟨sized, fun _ _ failed => engine_compile_of_error failed,
    fun _ kept => engine_compile_of_mem kept, fun source t new done => ?_,
    fun source bindings => ?_⟩
  · obtain ⟨rfl, same⟩ := engine_compile_of_ok new done
    rw [same]
    refine ⟨fun none => keep_of_zero none t, fun room => ?_, fun some' full => ?_⟩
    · exact ⟨cache_keep_of_lt room, cached_keep_of_lt room new⟩
    · have full' := Nat.le_of_eq full.symm
      exact ⟨cache_keep_of_le some' full' new, cached_keep_of_le some' full' new⟩
  · have capacity : (e.format source bindings).engine.capacity = e.capacity :=
      Task.keeps_format (p := fun e' => e'.capacity = e.capacity)
        (fun e' _ t _ h => (capacity_keep e' t).trans h) source bindings { engine := e } rfl
    have sized' : (e.format source bindings).engine.Sized :=
      Task.keeps_format stable_sized.keep source bindings { engine := e } sized
    refine ⟨capacity, capacity ▸ sized', ?_⟩
    exact Task.keeps_format stable_coherent.keep source bindings { engine := e } coherent

theorem cached_le_capacity_full :
    let e := (serveAll {} [.setCapacity 1, .compile "a"]).2.engine
    e.capacity = 1 ∧ e.cached = 1 ∧ "b" ∉ e.cache ∧
      (e.compile "b").engine.cache =
        (∅ : ExtTreeMap String Template).insert "b" ⟨"b", [.text "b"]⟩ ∧
      (e.compile "%]").engine = e := by
  have one : (serveAll {} [.setCapacity 1, .compile "a"]).2.engine.capacity = 1 := by
    decide +kernel
  have full : (serveAll {} [.setCapacity 1, .compile "a"]).2.engine.cached = 1 := by
    decide +kernel
  have absent : (serveAll {} [.setCapacity 1, .compile "a"]).2.engine.cache.contains "b" =
      false := by decide +kernel
  have compiled : ((serveAll {} [.setCapacity 1, .compile "a"]).2.engine.compile "b").result =
      .ok ⟨"b", [.text "b"]⟩ := by decide +kernel
  have failed : ((serveAll {} [.setCapacity 1, .compile "a"]).2.engine.compile "%]").result =
      .error ⟨⟨.incompleteMark .closeCondition, ⟨0, 2⟩⟩, "%]"⟩ := by
    decide +kernel
  obtain ⟨-, failing, -, reading, -⟩ := cached_le_capacity [.setCapacity 1, .compile "a"]
  intro e
  have new : "b" ∉ e.cache := by
    rw [ExtTreeMap.mem_iff_contains, absent]
    exact Bool.false_ne_true
  have positive : 0 < e.capacity := one ▸ Nat.one_pos
  obtain ⟨cache, -⟩ := (reading "b" _ new compiled).2.2 positive (full.trans one.symm)
  exact ⟨one, full, new, cache, failing _ _ failed⟩

end Client

end TextTemplate.Engine
