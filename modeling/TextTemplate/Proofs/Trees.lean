import TextTemplate.Node

/-!
# Trees

`Node.merge` cuts no corners: however a text is cut into pieces, it merges to the same sequence.
`Node.nesting` counts the conditions with branches that stand inside each other, and `Node.values`
are the value tags of a tree.
-/

namespace TextTemplate.Node

/-! ### Merging -/

@[simp] theorem consText_empty (nodes : List Node) : consText "" nodes = nodes := by
  unfold consText
  split
  · simp
  · rfl

theorem consText_consText (s t : String) (nodes : List Node) :
    consText s (consText t nodes) = consText (s ++ t) nodes := by
  by_cases ht : t = ""
  · subst ht; simp
  cases nodes with
  | nil => simp [consText, ht]
  | cons node nodes => cases node <;> simp [consText, ht, String.append_assoc]

theorem merge_consText (s : String) (nodes : List Node) :
    merge (consText s nodes) = consText s (merge nodes) := by
  by_cases hs : s = ""
  · subst hs; simp
  cases nodes with
  | nil => simp [consText, hs]
  | cons node nodes =>
    cases node with
    | text t => exact (consText_consText s t (merge nodes)).symm
    | _ => simp [consText, merge, hs]

theorem merge_consText_append (s : String) (a b : List Node) :
    merge (consText s a ++ b) = consText s (merge (a ++ b)) := by
  by_cases hs : s = ""
  · subst hs; simp
  cases a with
  | nil => simp [consText, hs]
  | cons node a =>
    cases node with
    | text t => exact (consText_consText s t (merge (a ++ b))).symm
    | _ => simp [consText, merge, hs]

@[simp] theorem merge_merge (nodes : List Node) : merge (merge nodes) = merge nodes := by
  induction nodes with
  | nil => rfl
  | cons node nodes ih => cases node <;> simp [merge, merge_consText, ih]

@[simp] theorem merge_merge_append (a b : List Node) : merge (merge a ++ b) = merge (a ++ b) := by
  induction a with
  | nil => simp
  | cons node a ih => cases node <;> simp [merge, merge_consText_append, ih]

@[simp] theorem merge_append_merge (a b : List Node) : merge (a ++ merge b) = merge (a ++ b) := by
  induction a with
  | nil => simp
  | cons node a ih => cases node <;> simp [merge, ih]

/-! ### Nesting -/

mutual

/-- How many conditions with branches stand inside each other in a node, at most. -/
def nesting : Node → Nat
  | .text _ | .value _ | .probe _ => 0
  | .guard _ yes => nestingAll yes + 1
  | .choice _ yes no => max (nestingAll yes) (nestingAll no) + 1

def nestingAll : List Node → Nat
  | [] => 0
  | node :: nodes => max (nesting node) (nestingAll nodes)

end

theorem nestingAll_append (a b : List Node) :
    nestingAll (a ++ b) = max (nestingAll a) (nestingAll b) := by
  induction a with
  | nil => simp [nestingAll]
  | cons node a ih => simp [nestingAll, ih, Nat.max_assoc]

theorem nestingAll_consText (s : String) (nodes : List Node) :
    nestingAll (consText s nodes) = nestingAll nodes := by
  unfold consText
  split
  · simp [nestingAll, nesting]
  · split <;> simp [nestingAll, nesting]

@[simp] theorem nestingAll_merge (nodes : List Node) :
    nestingAll (merge nodes) = nestingAll nodes := by
  induction nodes with
  | nil => rfl
  | cons node nodes ih =>
    cases node <;> simp [merge, nestingAll, nestingAll_consText, nesting, ih]

/-! ### Value tags -/

mutual

def values : Node → List Value
  | .text _ | .probe _ => []
  | .value v => [v]
  | .guard _ yes => valuesAll yes
  | .choice _ yes no => valuesAll yes ++ valuesAll no

def valuesAll : List Node → List Value
  | [] => []
  | node :: nodes => values node ++ valuesAll nodes

end

@[simp] theorem valuesAll_append (a b : List Node) :
    valuesAll (a ++ b) = valuesAll a ++ valuesAll b := by
  induction a with
  | nil => rfl
  | cons node a ih => simp [valuesAll, ih]

theorem valuesAll_consText (s : String) (nodes : List Node) :
    valuesAll (consText s nodes) = valuesAll nodes := by
  unfold consText
  split
  · simp [valuesAll, values]
  · split <;> simp [valuesAll, values]

@[simp] theorem valuesAll_merge (nodes : List Node) :
    valuesAll (merge nodes) = valuesAll nodes := by
  induction nodes with
  | nil => rfl
  | cons node nodes ih =>
    cases node <;> simp [merge, valuesAll, valuesAll_consText, values, ih]

end TextTemplate.Node
