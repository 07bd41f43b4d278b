import Std.Data.ExtTreeMap
import Std.Data.ExtTreeSet
import TextTemplate.Unicode.Case

/-!
# Bindings

The names that a template can use. A name stands for a value, a flag or both, its letter case does
not matter, and its value may be a template itself. `Bindings.resolve` gives the tables in which
rendering looks names up.
-/

namespace TextTemplate

open Std (ExtTreeMap ExtTreeSet)

/-- The form under which a name is kept: its lowercase form if it has a capital. -/
def foldName (name : String) : String :=
  if name.toList.any Unicode.isUppercase then Unicode.lowercase name else name

inductive Binding where
  /-- Text to substitute. It is a condition too, which holds if the text is not empty. -/
  | value (text : String)
  | flag (holds : Bool)
deriving DecidableEq, Repr

/-- Values and flags by folded name, and the names whose values are templates. -/
structure Bindings where
  values : ExtTreeMap String String := ∅
  flags : ExtTreeMap String Bool := ∅
  recursive : ExtTreeSet String := ∅
deriving DecidableEq

/-- What rendering looks up: values and conditions by folded name, and the names whose values are
templates. -/
structure Tables where
  values : ExtTreeMap String String := ∅
  conditions : ExtTreeMap String Bool := ∅
  recursive : ExtTreeSet String := ∅
deriving DecidableEq

namespace Bindings

def empty : Bindings := {}

def insert (b : Bindings) (name : String) : Binding → Bindings
  | .value text => { b with values := b.values.insert (foldName name) text }
  | .flag holds => { b with flags := b.flags.insert (foldName name) holds }

def insertRecursive (b : Bindings) (name : String) : Bindings :=
  { b with recursive := b.recursive.insert (foldName name) }

/-- Nothing is bound, whatever names have been made recursive. -/
def isEmpty (b : Bindings) : Bool :=
  b.values.isEmpty && b.flags.isEmpty

/-- The tables for rendering. A flag decides a condition whose name has a value too. -/
def resolve (b : Bindings) : Tables where
  values := b.values
  conditions := b.values.map (fun _ text => !text.isEmpty) ∪ b.flags
  recursive := b.recursive

end Bindings

namespace Tables

def value? (t : Tables) (name : String) : Option String :=
  t.values[foldName name]?

def condition? (t : Tables) (name : String) : Option Bool :=
  t.conditions[foldName name]?

def isRecursive (t : Tables) (name : String) : Bool :=
  t.recursive.contains (foldName name)

end Tables

/-! ### What a query answers -/

namespace Bindings

@[simp] theorem value?_resolve (b : Bindings) (name : String) :
    b.resolve.value? name = b.values[foldName name]? := rfl

@[simp] theorem condition?_resolve (b : Bindings) (name : String) :
    b.resolve.condition? name =
      b.flags[foldName name]?.or (b.values[foldName name]?.map fun text => !text.isEmpty) := by
  simp [Tables.condition?, resolve, ExtTreeMap.getElem?_union]

@[simp] theorem isRecursive_resolve (b : Bindings) (name : String) :
    b.resolve.isRecursive name = b.recursive.contains (foldName name) := rfl

@[simp] theorem insert_value (b : Bindings) (name text : String) :
    b.insert name (.value text) = { b with values := b.values.insert (foldName name) text } := rfl

@[simp] theorem insert_flag (b : Bindings) (name : String) (holds : Bool) :
    b.insert name (.flag holds) = { b with flags := b.flags.insert (foldName name) holds } := rfl

end Bindings

end TextTemplate
