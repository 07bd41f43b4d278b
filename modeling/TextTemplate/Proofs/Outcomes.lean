import TextTemplate.Proofs.Parsing
import TextTemplate.Proofs.Rendering

/-!
# Outcomes

What comes of a source, where an error counts by its cause and not by its place. Items come to the
same wherever they stand.
-/

namespace TextTemplate
open Grammar Item

/-- What comes of reading and rendering a source. The cause of an error determines its kind, its
message and the name in it. -/
def outcome (limit : Nat) (source : String) (bindings : Bindings) : Except Cause String :=
  (format limit source bindings).mapError (·.cause)

theorem mapError_eq_ok {ε ε' α : Type} {x : Except ε α} {f : ε → ε'} {a : α} :
    x.mapError f = .ok a ↔ x = .ok a := by
  cases x with
  | error e => constructor <;> rintro ⟨⟩
  | ok b => constructor <;> rintro ⟨⟩ <;> rfl

theorem outcome_eq_ok {limit : Nat} {source s : String} {bindings : Bindings} :
    outcome limit source bindings = .ok s ↔ format limit source bindings = .ok s :=
  mapError_eq_ok

def Compiles (source : String) : Prop :=
  ∃ t, Template.parse source = .ok t

/-! ### Rendering without places -/

/-- Two outcomes that differ in the place of an error at most. -/
def causes : Likeness (Except Error) (Except Cause) where
  Alike x y := x.mapError (·.cause) = y
  pure a := rfl
  bind := by
    intro α β x y f g same next
    cases x with
    | error e =>
      cases same
      rfl
    | ok a =>
      cases same
      exact next a

def expansion (limit : Nat) (tables : Tables) (name text : String) : Except Cause String :=
  match limit with
  | 0 => .error (.recursionLimit 0 name)
  | left + 1 => do
    let t ← (Template.parse text).mapError (·.cause)
    (t.renderWithin (.ofTables tables fun _ _ source => Template.parse source) (left + 1)
      left).mapError (·.cause)

def bareHost (limit : Nat) (tables : Tables) : Host (Except Cause) where
  value v := do
    let some text := tables.value? v.ident.name | .error (.unknownVariable v.ident.name)
    let text ← if tables.isRecursive v.ident.name then expansion limit tables v.ident.name text
      else pure text
    return Conversion.applyAll v.conversions text
  condition test := do
    let some holds := tables.condition? test.ident.name
      | .error (.unknownCondition test.ident.name)
    return holds != test.negated
  layout := Test.layout

theorem renderWith_bare {limit : Nat} {tables : Tables}
    {fetch : String → Nat → String → Except Error Template}
    {expand : Value → String → Except Error String}
    (expands : ∀ v text,
      (expand v text).mapError (·.cause) = expansion limit tables v.ident.name text)
    (t : Template) :
    (t.renderWith (.ofTables tables fetch) expand).mapError (·.cause) =
      Node.renderAll (bareHost limit tables) t.nodes := by
  change causes.Alike (t.renderWith (.ofTables tables fetch) expand) _
  unfold Template.renderWith
  refine Node.alike_renderAll ?_ t.nodes
  refine ⟨fun v => ?_, fun test => ?_, rfl⟩
  · simp only [bareHost, Environment.ofTables, pure_bind]
    cases tables.value? v.ident.name with
    | none => rfl
    | some text =>
      cases tables.isRecursive v.ident.name with
      | true => exact causes.bind (expands v text) fun _ => rfl
      | false => rfl
  · simp only [bareHost, Environment.ofTables, pure_bind]
    cases tables.condition? test.ident.name <;> rfl

theorem evaluate_bare (limit : Nat) (tables : Tables) (t : Template) :
    (t.evaluate limit tables).mapError (·.cause) =
      Node.renderAll (bareHost limit tables) t.nodes := by
  cases limit with
  | zero => exact renderWith_bare (fun _ _ => rfl) t
  | succ left =>
    refine renderWith_bare (fun v text => ?_) t
    simp only [Environment.ofTables, expansion]
    cases Template.parse text with
    | error e => rfl
    | ok t => rfl

/-! ### Rendering items -/

section
variable (limit : Nat) (tables : Tables)

mutual

theorem render_placeless (start start' : Nat) :
    ∀ item : Item, Node.render (bareHost limit tables) (node start item) =
      Node.render (bareHost limit tables) (node start' item)
  | .char _ | .escape | .percent | .value _ | .probe _ => rfl
  | .guard h yes => by
    simp only [node, Node.render, Node.renderAll_merge]
    rw [renderAll_placeless _ (start' + byteLength h.spell + 3) yes]
    rfl
  | .choice h yes no => by
    simp only [node, Node.render, Node.renderAll_merge]
    rw [renderAll_placeless _ (start' + byteLength h.spell + 3) yes,
      renderAll_placeless _
        (start' + byteLength h.spell + 3 + byteLength (spellAll yes) + 3) no]
    rfl

/-- Where items stand does not matter. -/
theorem renderAll_placeless (start start' : Nat) :
    ∀ items : List Item, Node.renderAll (bareHost limit tables) (nodeAll start items) =
      Node.renderAll (bareHost limit tables) (nodeAll start' items)
  | [] => rfl
  | item :: items => by
    simp only [nodeAll, Node.renderAll]
    rw [render_placeless start start' item,
      renderAll_placeless _ (start' + byteLength (spell item)) items]

end

end

/-! ### Sources -/

def Grammar.depth (items : List Item) : Nat :=
  Node.nestingAll (nodeAll 0 items)

theorem depth_append (xs ys : List Item) : depth (xs ++ ys) = max (depth xs) (depth ys) := by
  rw [depth, nodeAll_append, Node.nestingAll_append, nesting_nodeAll _ 0 ys, depth, depth]

theorem depth_guard (h : Heading) (yes : List Item) : depth [.guard h yes] = depth yes + 1 := by
  simp only [depth, nodeAll, node, Node.nestingAll, Node.nesting, Node.nestingAll_merge,
    Nat.max_zero]
  rw [nesting_nodeAll _ 0 yes]

theorem depth_choice (h : Heading) (yes no : List Item) :
    depth [.choice h yes no] = max (depth yes) (depth no) + 1 := by
  simp only [depth, nodeAll, node, Node.nestingAll, Node.nesting, Node.nestingAll_merge,
    Nat.max_zero]
  rw [nesting_nodeAll _ 0 yes, nesting_nodeAll _ 0 no]

theorem parse_of_derives {source : String} {items : List Item} (h : Derives items source.toList [])
    (room : depth items ≤ maxNesting) :
    Template.parse source = .ok ⟨source, Node.merge (nodeAll 0 items)⟩ :=
  Template.parse_ok_iff.mpr ⟨_, Reader.read_of_derives h room, rfl⟩

theorem compiles_iff {source : String} :
    Compiles source ↔ ∃ items, Derives items source.toList [] ∧ depth items ≤ maxNesting := by
  constructor
  · rintro ⟨t, read⟩
    obtain ⟨nodes, read, -⟩ := Template.parse_ok_iff.mp read
    exact Reader.derives_of_read read
  · rintro ⟨items, derived, room⟩
    exact ⟨_, parse_of_derives derived room⟩

/-- A source comes to what its items come to. -/
theorem outcome_of_derives {source : String} {items : List Item}
    (h : Derives items source.toList []) (room : depth items ≤ maxNesting) (limit : Nat)
    (bindings : Bindings) :
    outcome limit source bindings =
      Node.renderAll (bareHost limit bindings.resolve) (nodeAll 0 items) := by
  rw [outcome, format, parse_of_derives h room]
  exact (evaluate_bare _ _ _).trans (Node.renderAll_merge _ _)

theorem compiles_of_derives {source : String} {items : List Item}
    (h : Derives items source.toList []) : Compiles source ↔ depth items ≤ maxNesting := by
  rw [compiles_iff]
  constructor
  · rintro ⟨items', derived, room⟩
    rwa [(h.unique derived rfl rfl).1]
  · intro room
    exact ⟨items, h, room⟩

/-- Nowhere in the source are as many conditions with branches open at once as there may be. -/
def Shallow (source : String) : Prop :=
  ∀ t, Template.parse source = .ok t → Node.nestingAll t.nodes < maxNesting

theorem shallow_of_derives {source : String} {items : List Item}
    (h : Derives items source.toList []) (room : depth items ≤ maxNesting) :
    Shallow source ↔ depth items < maxNesting := by
  have read := parse_of_derives h room
  constructor
  · intro shallow
    simpa [depth] using shallow _ read
  · intro less t read'
    cases read.symm.trans read'
    simpa [depth] using less

end TextTemplate
