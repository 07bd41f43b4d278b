import TextTemplate.Bindings
import TextTemplate.Template
import TextTemplate.Text.Dedent

/-!
# Rendering

A template renders to a string, or stops at the first error. Names are looked up as they are met,
and the value of a recursive name is rendered as a template of its own, one level deeper. How names
are looked up, and where templates come from, is left to an `Environment` over any monad with
errors.
-/

namespace TextTemplate

/-- The branch as it is written out. One that starts on a new line loses its indentation, unless
the condition is raw. -/
def Test.layout (test : Test) (branch : String) : String :=
  if !test.raw && Text.startsLine branch.toList then String.ofList (Text.dedent branch.toList)
  else branch

/-! ### Trees -/

structure Host (m : Type → Type) where
  value : Value → m String
  /-- Whether the true branch is taken. -/
  condition : Test → m Bool
  layout : Test → String → String

namespace Node

variable {m : Type → Type} [Monad m]

mutual

def render (host : Host m) : Node → m String
  | .text s => return s
  | .value v => host.value v
  | .probe test => do
    discard (host.condition test)
    return ""
  | .guard test yes => do
    if ← host.condition test then return host.layout test (← renderAll host yes)
    else return ""
  | .choice test yes no => do
    if ← host.condition test then return host.layout test (← renderAll host yes)
    else return host.layout test (← renderAll host no)

def renderAll (host : Host m) : List Node → m String
  | [] => return ""
  | node :: nodes => do
    let first ← render host node
    return first ++ (← renderAll host nodes)

end

end Node

/-! ### Templates -/

structure Environment (m : Type → Type) where
  value : String → m (Option String)
  isRecursive : String → m Bool
  condition : String → m (Option Bool)
  /-- The template that a recursive name stands for, given the name, the depth of its expansion and
  its value. -/
  fetch : String → Nat → String → m Template
  layout : Test → String → String := Test.layout

def Environment.ofTables {m : Type → Type} [Monad m] (tables : Tables)
    (fetch : String → Nat → String → m Template) : Environment m where
  value name := return tables.value? name
  isRecursive name := return tables.isRecursive name
  condition name := return tables.condition? name
  fetch

namespace Template

variable {m : Type → Type} [Monad m] [MonadExceptOf Error m]

def stop {α : Type} (t : Template) (cause : Cause) (span : Span) : m α :=
  throw (Fault.within t.source ⟨cause, span⟩)

/-- Renders a template, where `expand` renders the value of a recursive name. -/
def renderWith (env : Environment m) (expand : Value → String → m String) (t : Template) :
    m String :=
  let host : Host m := {
    value := fun v => do
      let some text ← env.value v.ident.name
        | t.stop (.unknownVariable v.ident.name) v.ident.span
      let text ← if ← env.isRecursive v.ident.name then expand v text else pure text
      return Conversion.applyAll v.conversions text
    condition := fun test => do
      let some holds ← env.condition test.ident.name
        | t.stop (.unknownCondition test.ident.name) test.ident.span
      return holds != test.negated
    layout := env.layout }
  Node.renderAll host t.nodes

/-- Renders a template with `left` of `limit` levels of expansion left to go. -/
def renderWithin (env : Environment m) (limit : Nat) : (left : Nat) → Template → m String
  | 0, t => t.renderWith env fun v _ => t.stop (.recursionLimit limit v.ident.name) v.span
  | left + 1, t => t.renderWith env fun v text => do
    renderWithin env limit left (← env.fetch v.ident.name (limit - left) text)

def render (env : Environment m) (limit : Nat) (t : Template) : m String :=
  t.renderWithin env limit limit

def evaluate (limit : Nat) (tables : Tables) (t : Template) : Except Error String :=
  t.render (.ofTables tables fun _ _ source => Template.parse source) limit

end Template

def format (limit : Nat) (source : String) (bindings : Bindings) : Except Error String := do
  let t ← Template.parse source
  t.evaluate limit bindings.resolve

end TextTemplate
