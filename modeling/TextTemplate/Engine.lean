import TextTemplate.Render

/-!
# Engines

An engine renders templates and keeps those that it has read, by their sources, to use them again.
What it does with its cache, and each expansion of a recursive name, is put on record.
-/

namespace TextTemplate

open Std (ExtTreeMap)

def Engine.defaultDepth : Nat := 16

def Engine.defaultCapacity : Nat := 256

structure Engine where
  maxDepth : Nat := Engine.defaultDepth
  capacity : Nat := Engine.defaultCapacity
  cache : ExtTreeMap String Template := ∅

namespace Engine

def cached (e : Engine) : Nat :=
  e.cache.size

def setMaxDepth (e : Engine) (depth : Nat) : Engine :=
  { e with maxDepth := depth }

def setCapacity (e : Engine) (capacity : Nat) : Engine :=
  { e with capacity, cache := if e.cached > capacity then ∅ else e.cache }

def clearCache (e : Engine) : Engine :=
  { e with cache := ∅ }

/-- There is no room for a template with this source, which is not kept yet. -/
def isFull (e : Engine) (source : String) : Bool :=
  e.capacity ≤ e.cached && !e.cache.contains source

/-- Keeps a template. All others go if there is no room for it. -/
def keep (e : Engine) (t : Template) : Engine :=
  if e.capacity = 0 then e
  else
    let cache := if e.isFull t.source then ∅ else e.cache
    { e with cache := cache.insert t.source t }

/-! ### Records -/

inductive Record where
  /-- The template with this source was kept. -/
  | hit (source : String)
  /-- The template with this source was not kept, and is read. -/
  | miss (source : String)
  /-- So many templates are dropped, to make room. -/
  | full (entries : Nat)
  /-- The value of a recursive name is rendered. -/
  | expanding (name : String) (depth : Nat)
deriving DecidableEq, Repr

def Record.line : Record → String
  | .hit source => s!"TRACE template cache hit ({source.utf8ByteSize} bytes)"
  | .miss source => s!"TRACE template cache miss ({source.utf8ByteSize} bytes)"
  | .full entries => s!"DEBUG template cache full ({entries} entries), clearing"
  | .expanding name depth => s!"TRACE expanding `{name}` as a template at depth {depth}"

/-! ### Runs -/

/-- An engine at work, with its records, the last first. -/
structure Session where
  engine : Engine := {}
  records : List Record := []

/-- What an engine can be given to do. A task that fails leaves the cache and the records as they
are by then. -/
abbrev Task := ExceptT Error (StateM Session)

namespace Task

def record (r : Record) : Task Unit :=
  modify fun s => { s with records := r :: s.records }

/-- Keeps a template, with a record if others have to go. -/
def keep (t : Template) : Task Unit := do
  let e := (← get).engine
  if 0 < e.capacity && e.isFull t.source then record (.full e.cached)
  modify fun s => { s with engine := s.engine.keep t }

def fetch (source : String) : Task Template := do
  match (← get).engine.cache[source]? with
  | some t =>
    record (.hit source)
    return t
  | none =>
    record (.miss source)
    let t ← MonadExcept.ofExcept (Template.parse source)
    keep t
    return t

def evaluate (tables : Tables) (t : Template) : Task String := do
  let expand (name : String) (depth : Nat) (source : String) : Task Template := do
    record (.expanding name depth)
    fetch source
  t.render (.ofTables tables expand) (← get).engine.maxDepth

def format (source : String) (bindings : Bindings) : Task String := do
  evaluate bindings.resolve (← fetch source)

end Task

structure Outcome (α : Type) where
  result : Except Error α
  engine : Engine
  records : List Record

def run {α : Type} (e : Engine) (task : Task α) : Outcome α :=
  let (result, s) := task.run.run { engine := e }
  ⟨result, s.engine, s.records.reverse⟩

def compile (e : Engine) (source : String) : Outcome Template :=
  e.run (Task.fetch source)

def format (e : Engine) (source : String) (bindings : Bindings) : Outcome String :=
  e.run (Task.format source bindings)

def render (e : Engine) (t : Template) (bindings : Bindings) : Outcome String :=
  e.run (Task.evaluate bindings.resolve t)

def evaluate (e : Engine) (t : Template) (tables : Tables) : Outcome String :=
  e.run (Task.evaluate tables t)

end Engine

end TextTemplate
