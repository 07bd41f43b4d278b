import TextTemplate.Proofs.Points

/-!
# Sessions

What tasks do to the session in which they run. All that changes an engine at work is the fetching
of templates, so what a fetch keeps, every task keeps.
-/

namespace TextTemplate.Engine

theorem session_settle {α : Type} {next : α → Session → Config}
    (h : ∀ a s, (next a s).session = s) (x : Except Error α × Session) :
    (Config.settle next x).session = x.2 := by
  obtain ⟨result, s⟩ := x
  cases result with
  | error e => rfl
  | ok a => exact h a s

/-- A step leaves the session alone, or fetches the value of a recursive name. -/
theorem Point.session_advance (tables : Tables) (limit : Nat) (p : Point) (s : Session) :
    (p.advance tables limit s).session = s ∨
      ∃ v nodes text, p.Calls tables v nodes text ∧ p.expansions < limit ∧
        (p.advance tables limit s).session =
          ((Task.expand v.ident.name (p.expansions + 1) text).run.run s).2 := by
  have advanced := Point.advances_advance tables limit p s
  generalize p.advance tables limit s = c at advanced
  cases advanced with
  | @descend v nodes text calls free =>
    exact .inr ⟨v, nodes, text, calls, free, session_settle (fun _ _ => rfl) _⟩
  | _ => exact .inl rfl

/-! ### Tasks one after the other -/

section
variable {σ α β : Type} {x : ExceptT Error (StateM σ) α} {f : α → ExceptT Error (StateM σ) β}
  {s s' : σ}

theorem run_bind_ok {a : α} (ran : x.run.run s = (.ok a, s')) :
    (x >>= f).run.run s = (f a).run.run s' := by
  rw [ExceptT.run_bind, StateT.run_bind, ran]
  rfl

theorem run_bind_error {e : Error} (ran : x.run.run s = (.error e, s')) :
    (x >>= f).run.run s = (.error e, s') := by
  rw [ExceptT.run_bind, StateT.run_bind, ran]
  rfl

end

namespace Task

theorem run_record (r : Record) (s : Session) :
    (record r).run.run s = (.ok (), { s with records := r :: s.records }) := rfl

end Task

theorem run_eq {α : Type} (e : Engine) (task : Task α) :
    e.run task = ⟨(task.run.run { engine := e }).1, (task.run.run { engine := e }).2.engine,
      (task.run.run { engine := e }).2.records.reverse⟩ := rfl

/-! ### Fetching -/

def clearing (e : Engine) (source : String) : List Record :=
  if 0 < e.capacity && e.isFull source then [.full e.cached] else []

inductive Fetches (source : String) (s : Session) : Except Error Template × Session → Prop where
  | kept {t : Template} : s.engine.cache[source]? = some t →
      Fetches source s (.ok t, { s with records := .hit source :: s.records })
  | unread {e : Error} : s.engine.cache[source]? = none → Template.parse source = .error e →
      Fetches source s (.error e, { s with records := .miss source :: s.records })
  | read {t : Template} : s.engine.cache[source]? = none → Template.parse source = .ok t →
      Fetches source s
        (.ok t, ⟨s.engine.keep t, s.engine.clearing source ++ .miss source :: s.records⟩)

namespace Task

theorem run_keep (t : Template) (s : Session) :
    (keep t).run.run s =
      (.ok (), ⟨s.engine.keep t, s.engine.clearing t.source ++ s.records⟩) := by
  rw [keep, run_get_bind]
  dsimp only [clearing]
  split <;> rfl

theorem fetches_fetch (source : String) (s : Session) :
    Fetches source s ((fetch source).run.run s) := by
  rw [fetch, run_get_bind]
  cases found : s.engine.cache[source]? with
  | some t => exact .kept found
  | none =>
    dsimp only
    rw [run_bind_ok (run_record (.miss source) s)]
    cases read : Template.parse source with
    | error e => exact .unread found read
    | ok t =>
      cases Template.source_of_parse read
      let s' : Session := { s with records := .miss t.source :: s.records }
      have taken : (pure t : Task Template).run.run s' = (.ok t, s') := rfl
      rw [MonadExcept.ofExcept, run_bind_ok taken, run_bind_ok (run_keep t s')]
      exact .read found read

theorem run_expand (name : String) (depth : Nat) (source : String) (s : Session) :
    (expand name depth source).run.run s =
      (fetch source).run.run { s with records := .expanding name depth :: s.records } := by
  rw [expand, run_bind_ok (run_record _ s)]

/-! ### What tasks keep -/

def Keeps {α : Type} (p : Engine → Prop) (task : Task α) : Prop :=
  ∀ s : Session, p s.engine → p (task.run.run s).2.engine

variable {p : Engine → Prop}

theorem keeps_bind {α β : Type} {task : Task α} {f : α → Task β} (first : task.Keeps p)
    (next : ∀ a, (f a).Keeps p) : Keeps p (task >>= f) := by
  intro s h
  have kept := first s h
  cases ran : task.run.run s with
  | mk result s' =>
    rw [ran] at kept
    cases result with
    | error e => rwa [run_bind_error ran]
    | ok a =>
      rw [run_bind_ok ran]
      exact next a s' kept

section
variable (keep : ∀ e source t, Template.parse source = .ok t → p e → p (e.keep t))
include keep

theorem keeps_fetch (source : String) : (fetch source).Keeps p := by
  intro s h
  have fetched := fetches_fetch source s
  generalize (fetch source).run.run s = outcome at fetched
  cases fetched with
  | kept _ | unread _ _ => exact h
  | read _ read => exact keep _ source _ read h

theorem keeps_reaches {tables : Tables} {limit : Nat} {c c' : Config}
    (reached : Reaches tables limit c c') (h : p c.session.engine) : p c'.session.engine := by
  induction reached with
  | refl => exact h
  | tail _ step ih =>
    cases step with
    | advance q s =>
      rcases q.session_advance tables limit s with same | ⟨v, nodes, text, -, -, fetched⟩
      · rw [same]
        exact ih
      · rw [fetched, run_expand]
        exact keeps_fetch keep text _ ih

theorem keeps_evaluate (tables : Tables) (t : Template) : (evaluate tables t).Keeps p :=
  fun s h => keeps_reaches keep (evaluate_reaches tables t s) h

theorem keeps_format (source : String) (bindings : Bindings) :
    (format source bindings).Keeps p :=
  keeps_bind (keeps_fetch keep source) fun t => keeps_evaluate keep bindings.resolve t

end

end Task

/-! ### Requests -/

/-- What clients can do to an engine keeps the property. -/
structure Stable (p : Engine → Prop) : Prop where
  keep e source t : Template.parse source = .ok t → p e → p (e.keep t)
  setMaxDepth e depth : p e → p (e.setMaxDepth depth)
  setCapacity e capacity : p e → p (e.setCapacity capacity)
  clearCache e : p e → p e.clearCache

theorem stable_coherent : Stable Coherent where
  keep _ _ _ read h := coherent_keep h read
  setMaxDepth _ depth h := coherent_setMaxDepth h depth
  setCapacity _ capacity h := coherent_setCapacity h capacity
  clearCache _ _ := coherent_of_empty rfl

namespace Client

variable {p : Engine → Prop} {c : Client}

theorem stable_serve (stable : Stable p) (request : Request) (h : p c.engine) :
    p (c.serve request).2.engine := by
  cases request with
  | setMaxDepth depth => exact stable.setMaxDepth _ depth h
  | setCapacity capacity => exact stable.setCapacity _ capacity h
  | clearCache => exact stable.clearCache _ h
  | compile source => exact Task.keeps_fetch stable.keep source { engine := c.engine } h
  | format source bindings =>
    exact Task.keeps_format stable.keep source bindings { engine := c.engine } h
  | render place bindings =>
    rw [serve]
    cases c.held[place]? with
    | none => exact h
    | some t => exact Task.keeps_evaluate stable.keep bindings.resolve t { engine := c.engine } h
  | evaluate place tables =>
    rw [serve]
    cases c.held[place]? with
    | none => exact h
    | some t => exact Task.keeps_evaluate stable.keep tables t { engine := c.engine } h

/-- What each request keeps, a list of them keeps. -/
theorem invariant_serveAll {r : Client → Prop} (serves : ∀ c request, r c → r (c.serve request).2)
    (requests : List Request) (h : r c) : r (c.serveAll requests).2 := by
  induction requests generalizing c with
  | nil => exact h
  | cons request requests ih => exact ih (serves c request h)

theorem stable_serveAll (stable : Stable p) (requests : List Request) (h : p c.engine) :
    p (c.serveAll requests).2.engine :=
  invariant_serveAll (r := fun c => p c.engine) (fun _ => stable_serve stable) requests h

end Client

end TextTemplate.Engine
