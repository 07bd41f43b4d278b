import TextTemplate.Proofs.Sessions

/-!
# What a rendering looks up

A rendering depends on its tables by the names that it looks up, and by no others. Which these are
turns out as it goes on: it hangs on the conditions that hold, on the values that are expanded and
on the first error.
-/

namespace TextTemplate.Engine

inductive Lookup where
  | value (name : String)
  /-- Whether the value of the name is a template. -/
  | mark (name : String)
  | condition (name : String)
deriving DecidableEq, Repr

def Lookup.Agrees (tables tables' : Tables) : Lookup → Prop
  | .value name => tables'.value? name = tables.value? name
  | .mark name => tables'.isRecursive name = tables.isRecursive name
  | .condition name => tables'.condition? name = tables.condition? name

/-! ### Watching -/

/-- A session with the lookups that have been made in it, the last first. -/
structure Watch where
  session : Session
  lookups : List Lookup := []

abbrev Watched := ExceptT Error (StateM Watch)

namespace Watched

variable {α : Type}

def note (l : Lookup) : Watched Unit :=
  modify fun w => { w with lookups := l :: w.lookups }

def perform (task : Task α) : Watched α :=
  ExceptT.mk fun w => ((task.run.run w.session).1, { w with session := (task.run.run w.session).2 })

def environment (tables : Tables) : Environment Watched where
  value name := do
    note (.value name)
    return tables.value? name
  isRecursive name := do
    note (.mark name)
    return tables.isRecursive name
  condition name := do
    note (.condition name)
    return tables.condition? name
  fetch name depth source := perform (Task.expand name depth source)

def evaluate (tables : Tables) (t : Template) : Watched String := do
  t.render (environment tables) (← get).session.engine.maxDepth

theorem run_get_bind (f : Watch → Watched α) (w : Watch) :
    (get >>= f).run.run w = (f w).run.run w := rfl

/-! ### Without the notes -/

/-- But for the notes, it does what the task does. -/
def Forgets (x : Watched α) (task : Task α) : Prop :=
  ∀ w, ((x.run.run w).1, (x.run.run w).2.session) = task.run.run w.session

theorem forgets_bind {β : Type} {x : Watched α} {task : Task α} {f : α → Watched β}
    {g : α → Task β} (first : x.Forgets task) (next : ∀ a, (f a).Forgets (g a)) :
    Forgets (x >>= f) (task >>= g) := by
  intro w
  have same := first w
  cases ran : x.run.run w with
  | mk result w' =>
    rw [ran] at same
    cases result with
    | error e => rw [run_bind_error ran, run_bind_error same.symm]
    | ok a =>
      rw [run_bind_ok ran, run_bind_ok same.symm]
      exact next a w'

def forgetting : Likeness Watched Task where
  Alike := Forgets
  pure _ _ := rfl
  bind := forgets_bind

theorem alike_forgetting (tables : Tables) :
    Environment.Alike forgetting (environment tables) (.ofTables tables Task.expand) where
  value _ _ := rfl
  isRecursive _ _ := rfl
  condition _ _ := rfl
  fetch _ _ _ _ := rfl
  layout := rfl
  fail _ _ := rfl

theorem forgets_evaluate (tables : Tables) (t : Template) :
    (evaluate tables t).Forgets (Task.evaluate tables t) := by
  intro w
  rw [evaluate, run_get_bind, Task.evaluate, Task.run_get_bind]
  exact Template.alike_renderWithin (alike_forgetting tables) _ _ t w

/-! ### With other tables -/

/-- If the second tables answer all that the first is seen to look up, the second does the same. -/
def Repeats (tables tables' : Tables) (x y : Watched α) : Prop :=
  ∀ w, ∃ new, (x.run.run w).2.lookups = new ++ w.lookups ∧
    ((∀ l ∈ new, l.Agrees tables tables') → y.run.run w = x.run.run w)

variable {tables tables' : Tables}

theorem repeats_refl {x : Watched α} (quiet : ∀ w, (x.run.run w).2.lookups = w.lookups) :
    Repeats tables tables' x x :=
  fun w => ⟨[], quiet w, fun _ => rfl⟩

theorem repeats_bind {β : Type} {x y : Watched α} {f g : α → Watched β}
    (first : Repeats tables tables' x y) (next : ∀ a, Repeats tables tables' (f a) (g a)) :
    Repeats tables tables' (x >>= f) (y >>= g) := by
  intro w
  obtain ⟨new, noted, same⟩ := first w
  cases ran : x.run.run w with
  | mk result w' =>
    rw [ran] at noted same
    cases result with
    | error e =>
      refine ⟨new, by rw [run_bind_error ran, noted], fun agree => ?_⟩
      rw [run_bind_error ran, run_bind_error (same agree)]
    | ok a =>
      obtain ⟨new', noted', same'⟩ := next a w'
      refine ⟨new' ++ new, ?_, fun agree => ?_⟩
      · rw [run_bind_ok ran, noted', noted, List.append_assoc]
      · -- The last lookups come first, so those of the second task stand in front.
        obtain ⟨later, earlier⟩ := List.forall_mem_append.mp agree
        rw [run_bind_ok ran, run_bind_ok (same earlier)]
        exact same' later

theorem repeats_lookup {l : Lookup} {answer answer' : α}
    (agrees : l.Agrees tables tables' → answer' = answer) :
    Repeats tables tables' (note l >>= fun _ => pure answer)
      (note l >>= fun _ => pure answer') := by
  intro w
  refine ⟨[l], rfl, fun agree => ?_⟩
  rw [agrees (agree l List.mem_cons_self)]

def repeating (tables tables' : Tables) : Likeness Watched Watched where
  Alike := Repeats tables tables'
  pure _ := repeats_refl fun _ => rfl
  bind := repeats_bind

theorem alike_repeating (tables tables' : Tables) :
    Environment.Alike (repeating tables tables') (environment tables) (environment tables') where
  value _ := repeats_lookup id
  isRecursive _ := repeats_lookup id
  condition _ := repeats_lookup id
  fetch _ _ _ := repeats_refl fun _ => rfl
  layout := rfl
  fail _ := repeats_refl fun _ => rfl

theorem repeats_evaluate (tables tables' : Tables) (t : Template) :
    Repeats tables tables' (evaluate tables t) (evaluate tables' t) := by
  intro w
  rw [evaluate, run_get_bind, evaluate, run_get_bind]
  exact Template.alike_renderWithin (alike_repeating tables tables') _ _ t w

end Watched

/-! ### Engines -/

def watch (e : Engine) (t : Template) (tables : Tables) : Outcome String × List Lookup :=
  let (result, w) := (Watched.evaluate tables t).run.run { session := { engine := e } }
  (⟨result, w.session.engine, w.session.records.reverse⟩, w.lookups.reverse)

/-- To watch a rendering makes no difference to it. -/
theorem watch_fst (e : Engine) (t : Template) (tables : Tables) :
    (e.watch t tables).1 = e.evaluate t tables := by
  have same := Watched.forgets_evaluate tables t { session := { engine := e } }
  rw [evaluate, run_eq, ← same]
  rfl

theorem watch_of_agrees {e : Engine} {t : Template} {tables tables' : Tables}
    (agree : ∀ l ∈ (e.watch t tables).2, l.Agrees tables tables') :
    e.watch t tables' = e.watch t tables := by
  obtain ⟨new, noted, same⟩ :=
    Watched.repeats_evaluate tables tables' t { session := { engine := e } }
  rw [List.append_nil] at noted
  have repeated := same fun l member => agree l (List.mem_reverse.mpr (noted ▸ member))
  simp only [watch, repeated]

/-- Under all tables that answer what a rendering looks up as its own do, it looks the same up and
comes to the same. -/
theorem evaluate_of_agrees (e : Engine) (t : Template) (tables : Tables) :
    (e.watch t tables).1 = e.evaluate t tables ∧
      ∀ tables', (∀ l ∈ (e.watch t tables).2, l.Agrees tables tables') →
        (e.watch t tables').2 = (e.watch t tables).2 ∧
          e.evaluate t tables' = e.evaluate t tables := by
  refine ⟨watch_fst e t tables, fun tables' agree => ?_⟩
  have same := watch_of_agrees agree
  refine ⟨congrArg Prod.snd same, ?_⟩
  rw [← watch_fst e t tables', ← watch_fst e t tables, same]

theorem evaluate_of_agrees_unselected :
    let t : Template := ⟨"%[%c%|%%[r]%%|%%[a]%%]%", [.choice ⟨⟨"c", ⟨3, 4⟩⟩, false, false⟩
      [.value ⟨⟨"r", ⟨9, 10⟩⟩, [], ⟨7, 12⟩⟩] [.value ⟨⟨"a", ⟨17, 18⟩⟩, [], ⟨15, 20⟩⟩]]⟩
    let b := ((Bindings.empty.insert "c" (.flag true)).insert "r"
      (.value "%[%c%]%")).insertRecursive "r"
    (watch {} t b.resolve).2 = [.condition "c", .value "r", .mark "r", .condition "c"] ∧
      evaluate {} t ((b.insert "a" (.value "y")).insertRecursive "c").resolve =
        evaluate {} t b.resolve := by
  have seen : (watch {} ⟨"%[%c%|%%[r]%%|%%[a]%%]%", [.choice ⟨⟨"c", ⟨3, 4⟩⟩, false, false⟩
      [.value ⟨⟨"r", ⟨9, 10⟩⟩, [], ⟨7, 12⟩⟩] [.value ⟨⟨"a", ⟨17, 18⟩⟩, [], ⟨15, 20⟩⟩]]⟩
      (((Bindings.empty.insert "c" (.flag true)).insert "r"
        (.value "%[%c%]%")).insertRecursive "r").resolve).2 =
      [.condition "c", .value "r", .mark "r", .condition "c"] := by decide +kernel
  intro t b
  refine ⟨seen, ((evaluate_of_agrees {} t b.resolve).2 _ fun l member => ?_).2⟩
  rw [seen] at member
  simp only [List.mem_cons, List.not_mem_nil, or_false] at member
  rcases member with rfl | rfl | rfl | rfl <;> rfl

end TextTemplate.Engine
