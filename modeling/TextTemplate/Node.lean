import TextTemplate.Conversion
import TextTemplate.Span

/-!
# Template trees

A template is a sequence of literal text, values and conditions. `Node.merge` brings a sequence
into the form in which no text is empty and no two texts are neighbours.
-/

namespace TextTemplate

/-- A name in a tag, in lowercase, and where it stands. -/
structure Ident where
  name : String
  span : Span
deriving DecidableEq, Repr

structure Value where
  ident : Ident
  conversions : List Conversion
  /-- The whole tag. -/
  span : Span
deriving DecidableEq, Repr

structure Test where
  ident : Ident
  negated : Bool := false
  /-- Branches keep their indentation. -/
  raw : Bool := false
deriving DecidableEq, Repr

inductive Node where
  | text (s : String)
  | value (v : Value)
  /-- A condition without branches. -/
  | probe (test : Test)
  /-- A condition with a true branch only. -/
  | guard (test : Test) (yes : List Node)
  | choice (test : Test) (yes no : List Node)
deriving Repr

namespace Node

/-! ### Equality -/

mutual

def decEq (a b : Node) : Decidable (a = b) :=
  match a, b with
  | .text s, .text t => decidable_of_decidable_of_eq (text.injEq s t).symm
  | .value v, .value w => decidable_of_decidable_of_eq (value.injEq v w).symm
  | .probe x, .probe y => decidable_of_decidable_of_eq (probe.injEq x y).symm
  | .guard x yes, .guard y yes' =>
    have := decEqAll yes yes'
    decidable_of_decidable_of_eq (guard.injEq x yes y yes').symm
  | .choice x yes no, .choice y yes' no' =>
    have := decEqAll yes yes'
    have := decEqAll no no'
    decidable_of_decidable_of_eq (choice.injEq x yes no y yes' no').symm
  | .text _, .value _ | .text _, .probe _ | .text _, .guard _ _ | .text _, .choice _ _ _
  | .value _, .text _ | .value _, .probe _ | .value _, .guard _ _ | .value _, .choice _ _ _
  | .probe _, .text _ | .probe _, .value _ | .probe _, .guard _ _ | .probe _, .choice _ _ _
  | .guard _ _, .text _ | .guard _ _, .value _ | .guard _ _, .probe _ | .guard _ _, .choice _ _ _
  | .choice _ _ _, .text _ | .choice _ _ _, .value _ | .choice _ _ _, .probe _
  | .choice _ _ _, .guard _ _ => isFalse nofun

def decEqAll (nodes nodes' : List Node) : Decidable (nodes = nodes') :=
  match nodes, nodes' with
  | [], [] => isTrue rfl
  | node :: nodes, node' :: nodes' =>
    have := decEq node node'
    have := decEqAll nodes nodes'
    decidable_of_decidable_of_eq (List.cons.injEq node nodes node' nodes').symm
  | [], _ :: _ | _ :: _, [] => isFalse nofun

end

instance : DecidableEq Node := decEq

/-! ### Sequences -/

def consText (s : String) : List Node → List Node
  | .text t :: nodes => .text (s ++ t) :: nodes
  | nodes => if s.isEmpty then nodes else .text s :: nodes

/-- Joins neighbouring texts and drops empty ones. -/
def merge : List Node → List Node
  | [] => []
  | .text s :: nodes => consText s (merge nodes)
  | node :: nodes => node :: merge nodes

@[simp] theorem merge_nil : merge [] = [] := rfl

@[simp] theorem merge_text (s : String) (nodes : List Node) :
    merge (.text s :: nodes) = consText s (merge nodes) := rfl

end Node

end TextTemplate
