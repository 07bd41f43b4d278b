import TextTemplate.Engine
import TextTemplate.Proofs.Rendering

/-!
# The cache of an engine

What is kept is what would be read again, so no client of an engine can tell by its answers whether
and for how long templates are kept.
-/

namespace TextTemplate.Engine

/-! ### What is kept -/

/-- Each template kept is what its source reads as. -/
def Coherent (e : Engine) : Prop :=
  ∀ source t, e.cache[source]? = some t → Template.parse source = .ok t

theorem coherent_of_empty {e : Engine} (h : e.cache = ∅) : e.Coherent := by
  intro source t kept
  simp [h] at kept

theorem coherent_setMaxDepth {e : Engine} (h : e.Coherent) (depth : Nat) :
    (e.setMaxDepth depth).Coherent := h

theorem coherent_setCapacity {e : Engine} (h : e.Coherent) (capacity : Nat) :
    (e.setCapacity capacity).Coherent := by
  by_cases beyond : e.cached > capacity
  · exact coherent_of_empty (by simp [setCapacity, beyond])
  · intro source t kept
    exact h source t (by simpa [setCapacity, beyond] using kept)

theorem coherent_keep {e : Engine} (h : e.Coherent) {source : String} {t : Template}
    (read : Template.parse source = .ok t) : (e.keep t).Coherent := by
  intro source' t' kept
  have own := Template.source_of_parse read
  unfold keep at kept
  split at kept
  · exact h source' t' kept
  · simp only [own, Std.ExtTreeMap.getElem?_insert] at kept
    split at kept
    · rename_i same
      rw [Std.LawfulEqCmp.compare_eq_iff_eq] at same
      cases kept
      rwa [← same]
    · split at kept
      · simp at kept
      · exact h source' t' kept

theorem maxDepth_keep (e : Engine) (t : Template) : (e.keep t).maxDepth = e.maxDepth := by
  unfold keep
  split <;> rfl

/-! ### Tasks -/

/-- Whatever is kept by then, the task has this result, and it keeps nothing wrong. -/
def Task.HasResult {α : Type} (task : Task α) (result : Except Error α) : Prop :=
  ∀ s : Session, s.engine.Coherent →
    ∃ s', task.run.run s = (result, s') ∧ s'.engine.Coherent ∧
      s'.engine.maxDepth = s.engine.maxDepth

namespace Task

variable {α β : Type}

theorem hasResult_pure (a : α) : HasResult (pure a) (pure a) :=
  fun s h => ⟨s, rfl, h, rfl⟩

theorem hasResult_throw (e : Error) : HasResult (α := α) (throw e) (throw e) :=
  fun s h => ⟨s, rfl, h, rfl⟩

theorem hasResult_bind {task : Task α} {result : Except Error α} {f : α → Task β}
    {g : α → Except Error β} (first : task.HasResult result) (next : ∀ a, (f a).HasResult (g a)) :
    HasResult (task >>= f) (result >>= g) := by
  intro s h
  obtain ⟨s', ran, h', depth⟩ := first s h
  rw [ExceptT.run_bind, StateT.run_bind, ran]
  cases result with
  | error e => exact ⟨s', rfl, h', depth⟩
  | ok a =>
    obtain ⟨s'', ran', h'', depth'⟩ := next a s' h'
    exact ⟨s'', ran', h'', depth'.trans depth⟩

theorem hasResult_record (r : Record) : HasResult (record r) (pure ()) :=
  fun _ h => ⟨_, rfl, h, rfl⟩

/-- A task may look at what is kept before it goes on. -/
theorem run_get_bind (f : Session → Task α) (s : Session) :
    (get >>= f).run.run s = (f s).run.run s := rfl

theorem hasResult_keep {source : String} {t : Template} (read : Template.parse source = .ok t) :
    HasResult (keep t) (pure ()) := by
  have kept : HasResult (modify fun s => { s with engine := s.engine.keep t }) (pure ()) :=
    fun s h => ⟨_, rfl, coherent_keep h read, maxDepth_keep _ t⟩
  intro s h
  rw [keep, run_get_bind]
  dsimp only
  split
  · exact hasResult_bind (hasResult_record _) (fun _ => kept) s h
  · exact kept s h

def likeness : Likeness Task (Except Error) where
  Alike := HasResult
  pure := hasResult_pure
  bind := hasResult_bind

/-- A template that is fetched is what its source reads as, kept or not. -/
theorem hasResult_fetch (source : String) : HasResult (fetch source) (Template.parse source) := by
  intro s h
  rw [fetch, run_get_bind]
  cases kept : s.engine.cache[source]? with
  | some t =>
    rw [h source t kept]
    exact hasResult_bind (hasResult_record (.hit source)) (fun _ => hasResult_pure t) s h
  | none =>
    have next : HasResult (MonadExcept.ofExcept (Template.parse source) >>= fun t => do
        keep t
        return t) (Template.parse source) := by
      cases read : Template.parse source with
      | error e => exact hasResult_throw e
      | ok t => exact hasResult_bind (hasResult_keep read) fun _ => hasResult_pure t
    exact hasResult_bind (hasResult_record (.miss source)) (fun _ => next) s h

theorem alike_ofTables (tables : Tables) :
    Environment.Alike likeness
      (.ofTables tables fun name depth source => do
        record (.expanding name depth)
        fetch source)
      (.ofTables tables fun _ _ source => Template.parse source) where
  value name := hasResult_pure _
  isRecursive name := hasResult_pure _
  condition name := hasResult_pure _
  fetch name depth source := by
    have fetched := hasResult_bind (hasResult_record (.expanding name depth)) fun _ =>
      hasResult_fetch source
    exact fetched
  layout := rfl
  fail e := hasResult_throw e

theorem evaluate_run (tables : Tables) (t : Template) {s : Session} (h : s.engine.Coherent) :
    ∃ s', (evaluate tables t).run.run s = (t.evaluate s.engine.maxDepth tables, s') ∧
      s'.engine.Coherent ∧ s'.engine.maxDepth = s.engine.maxDepth := by
  rw [evaluate, run_get_bind]
  exact Template.alike_renderWithin (alike_ofTables tables) _ _ t s h

theorem format_run (source : String) (bindings : Bindings) {s : Session}
    (h : s.engine.Coherent) :
    ∃ s', (format source bindings).run.run s =
        (TextTemplate.format s.engine.maxDepth source bindings, s') ∧
      s'.engine.Coherent ∧ s'.engine.maxDepth = s.engine.maxDepth := by
  obtain ⟨s', ran, h', depth⟩ := hasResult_fetch source s h
  rw [format, ExceptT.run_bind, StateT.run_bind, ran, TextTemplate.format]
  cases Template.parse source with
  | error e => exact ⟨s', rfl, h', depth⟩
  | ok t =>
    obtain ⟨s'', ran', h'', depth'⟩ := evaluate_run bindings.resolve t h'
    rw [depth] at ran' depth'
    exact ⟨s'', ran', h'', depth'⟩

end Task

theorem result_format {e : Engine} (h : e.Coherent) (source : String) (bindings : Bindings) :
    (e.format source bindings).result = TextTemplate.format e.maxDepth source bindings := by
  obtain ⟨s', ran, -⟩ := Task.format_run source bindings (s := { engine := e }) h
  rw [format, run, ran]

/-! ### Clients -/

/-- What a client can ask of an engine. Templates that it has compiled are called by their places
in the order of their compilation. -/
inductive Request where
  | setMaxDepth (depth : Nat)
  | setCapacity (capacity : Nat)
  | clearCache
  | compile (source : String)
  | format (source : String) (bindings : Bindings)
  | render (place : Nat) (bindings : Bindings)
  | evaluate (place : Nat) (tables : Tables)

inductive Answer where
  | done
  /-- No template has been compiled under this place. -/
  | missing
  | template (result : Except Error Template)
  | text (result : Except Error String)

structure Client where
  engine : Engine := {}
  held : List Template := []

namespace Client

def serve (c : Client) : Request → Answer × Client
  | .setMaxDepth depth => (.done, { c with engine := c.engine.setMaxDepth depth })
  | .setCapacity capacity => (.done, { c with engine := c.engine.setCapacity capacity })
  | .clearCache => (.done, { c with engine := c.engine.clearCache })
  | .compile source =>
    let outcome := c.engine.compile source
    (.template outcome.result, ⟨outcome.engine, c.held ++ outcome.result.toOption.toList⟩)
  | .format source bindings =>
    let outcome := c.engine.format source bindings
    (.text outcome.result, { c with engine := outcome.engine })
  | .render place bindings =>
    match c.held[place]? with
    | none => (.missing, c)
    | some t =>
      let outcome := c.engine.render t bindings
      (.text outcome.result, { c with engine := outcome.engine })
  | .evaluate place tables =>
    match c.held[place]? with
    | none => (.missing, c)
    | some t =>
      let outcome := c.engine.evaluate t tables
      (.text outcome.result, { c with engine := outcome.engine })

def serveAll (c : Client) : List Request → List Answer × Client
  | [] => ([], c)
  | request :: requests =>
    let (answer, c) := c.serve request
    let (answers, c) := c.serveAll requests
    (answer :: answers, c)

end Client

/-- An engine that keeps nothing, and the sources of the templates that its client holds. -/
structure Plain where
  maxDepth : Nat := Engine.defaultDepth
  sources : List String := []

namespace Plain

def serve (p : Plain) : Request → Answer × Plain
  | .setMaxDepth depth => (.done, { p with maxDepth := depth })
  | .setCapacity _ | .clearCache => (.done, p)
  | .compile source =>
    let result := Template.parse source
    let compiled := result.toOption.map fun _ => source
    (.template result, { p with sources := p.sources ++ compiled.toList })
  | .format source bindings => (.text (TextTemplate.format p.maxDepth source bindings), p)
  | .render place bindings =>
    match p.sources[place]? with
    | none => (.missing, p)
    | some source => (.text (TextTemplate.format p.maxDepth source bindings), p)
  | .evaluate place tables =>
    match p.sources[place]? with
    | none => (.missing, p)
    | some source =>
      (.text (Template.parse source >>= fun t => t.evaluate p.maxDepth tables), p)

def serveAll (p : Plain) : List Request → List Answer
  | [] => []
  | request :: requests =>
    let (answer, p) := p.serve request
    answer :: p.serveAll requests

end Plain

structure Client.Mirrors (c : Client) (p : Plain) : Prop where
  coherent : c.engine.Coherent
  depth : c.engine.maxDepth = p.maxDepth
  held : c.held.map .ok = p.sources.map Template.parse

namespace Client

variable {c : Client} {p : Plain}

theorem mirrors_run {α : Type} (h : c.Mirrors p) {task : Task α} {result : Except Error α}
    (ran : ∃ s', task.run.run { engine := c.engine } = (result, s') ∧ s'.engine.Coherent ∧
      s'.engine.maxDepth = c.engine.maxDepth) :
    (c.engine.run task).result = result ∧
      Mirrors { c with engine := (c.engine.run task).engine } p := by
  obtain ⟨s', ran, coherent, depth⟩ := ran
  rw [Engine.run, ran]
  exact ⟨rfl, coherent, depth.trans h.depth, h.held⟩

theorem mirrors_held (h : c.Mirrors p) (place : Nat) :
    c.held[place]? = none ∧ p.sources[place]? = none ∨
      ∃ t source, c.held[place]? = some t ∧ p.sources[place]? = some source ∧
        Template.parse source = .ok t := by
  have same := congrArg (fun held => held[place]?) h.held
  simp only [List.getElem?_map] at same
  cases own : c.held[place]? with
  | none =>
    cases source : p.sources[place]? with
    | none => exact Or.inl ⟨rfl, rfl⟩
    | some source' => simp [own, source] at same
  | some t =>
    cases source : p.sources[place]? with
    | none => simp [own, source] at same
    | some source' =>
      simp only [own, source, Option.map_some, Option.some.injEq] at same
      exact Or.inr ⟨t, source', rfl, rfl, same.symm⟩

theorem mirrors_serve (h : c.Mirrors p) (request : Request) :
    (c.serve request).1 = (p.serve request).1 ∧
      (c.serve request).2.Mirrors (p.serve request).2 := by
  cases request with
  | setMaxDepth depth => exact ⟨rfl, coherent_setMaxDepth h.coherent depth, rfl, h.held⟩
  | setCapacity capacity => exact ⟨rfl, coherent_setCapacity h.coherent capacity, h.depth, h.held⟩
  | clearCache => exact ⟨rfl, coherent_of_empty rfl, h.depth, h.held⟩
  | compile source =>
    obtain ⟨same, mirrors⟩ := mirrors_run h (Task.hasResult_fetch source _ h.coherent)
    simp only [serve, Plain.serve, compile, same]
    refine ⟨trivial, mirrors.coherent, mirrors.depth, ?_⟩
    rw [List.map_append, List.map_append, h.held]
    cases read : Template.parse source <;> simp [Except.toOption, read]
  | format source bindings =>
    obtain ⟨same, mirrors⟩ := mirrors_run h (Task.format_run source bindings h.coherent)
    simp only [serve, Plain.serve, format, same, h.depth]
    exact ⟨trivial, mirrors⟩
  | render place bindings =>
    rcases mirrors_held h place with ⟨none, none'⟩ | ⟨t, source, some, some', read⟩
    · simp only [serve, Plain.serve, none, none']
      exact ⟨trivial, h⟩
    · obtain ⟨same, mirrors⟩ := mirrors_run h (Task.evaluate_run bindings.resolve t h.coherent)
      simp only [serve, Plain.serve, some, some', render, same, h.depth, TextTemplate.format, read]
      exact ⟨rfl, mirrors⟩
  | evaluate place tables =>
    rcases mirrors_held h place with ⟨none, none'⟩ | ⟨t, source, some, some', read⟩
    · simp only [serve, Plain.serve, none, none']
      exact ⟨trivial, h⟩
    · obtain ⟨same, mirrors⟩ := mirrors_run h (Task.evaluate_run tables t h.coherent)
      simp only [serve, Plain.serve, some, some', Engine.evaluate, same, h.depth, read]
      exact ⟨rfl, mirrors⟩

theorem mirrors_serveAll (h : c.Mirrors p) (requests : List Request) :
    (c.serveAll requests).1 = p.serveAll requests ∧
      (c.serveAll requests).2.engine.Coherent := by
  induction requests generalizing c p with
  | nil => exact ⟨rfl, h.coherent⟩
  | cons request requests ih =>
    obtain ⟨answer, mirrors⟩ := mirrors_serve h request
    obtain ⟨answers, coherent⟩ := ih mirrors
    simp only [serveAll, Plain.serveAll, answer, answers]
    exact ⟨trivial, coherent⟩

theorem mirrors_new : Mirrors {} {} where
  coherent := coherent_of_empty rfl
  depth := rfl
  held := rfl

theorem coherent_serveAll (requests : List Request) : (serveAll {} requests).2.engine.Coherent :=
  (mirrors_serveAll mirrors_new requests).2

/-- Whatever is asked of a new engine, the answers are those of an engine that keeps nothing. At any
time, what is kept under a source is what this source reads as. -/
theorem serveAll_eq_plain (requests : List Request) :
    (serveAll {} requests).1 = Plain.serveAll {} requests ∧
      ∀ source t, (serveAll {} requests).2.engine.cache[source]? = some t →
        Template.parse source = .ok t ∧ t.source = source := by
  obtain ⟨answers, coherent⟩ := mirrors_serveAll mirrors_new requests
  refine ⟨answers, fun source t kept => ?_⟩
  have read := coherent source t kept
  exact ⟨read, Template.source_of_parse read⟩

end Client

end TextTemplate.Engine
