import Mathlib.Control.Monad.Basic
import Mathlib.Data.List.Chain
import TextTemplate.Proofs.Faults
import TextTemplate.Proofs.Parsing
import TextTemplate.Proofs.Places

/-!
# Canonical trees

The tree of a template has one form, and shows where its parts stand: texts are joined, names and
tags are found at their spans, identifiers follow each other as the source has them, and conditions
stand inside each other no deeper than the limit.
-/

namespace TextTemplate
open Grammar Item

/-! ### Parts of a tree -/

namespace Node

def isText : Node → Bool
  | .text _ => true
  | _ => false

def ident? : Node → Option Ident
  | .text _ => none
  | .value v => some v.ident
  | .probe test | .guard test _ | .choice test _ _ => some test.ident

def yes? : Node → Option (List Node)
  | .guard _ yes | .choice _ yes _ => some yes
  | _ => none

def no? : Node → Option (List Node)
  | .choice _ _ no => some no
  | _ => none

/-- `nodes` is the tree `root` itself or a branch in it, and stands in `depth` conditions with
branches. -/
inductive Sequence (root : List Node) : (depth : Nat) → (nodes : List Node) → Prop where
  | root : Sequence root 0 root
  | yes {depth : Nat} {nodes branch : List Node} {node : Node} :
      Sequence root depth nodes → node ∈ nodes → node.yes? = some branch →
      Sequence root (depth + 1) branch
  | no {depth : Nat} {nodes branch : List Node} {node : Node} :
      Sequence root depth nodes → node ∈ nodes → node.no? = some branch →
      Sequence root (depth + 1) branch

mutual

/-- The identifiers of a node from left to right, that of a condition before those in its branches,
and the true branch before the false one. -/
def idents : Node → List Ident
  | .text _ => []
  | .value v => [v.ident]
  | .probe test => [test.ident]
  | .guard test yes => test.ident :: identsAll yes
  | .choice test yes no => test.ident :: (identsAll yes ++ identsAll no)

def identsAll : List Node → List Ident
  | [] => []
  | node :: nodes => idents node ++ identsAll nodes

end

theorem identsAll_consText (s : String) (nodes : List Node) :
    identsAll (consText s nodes) = identsAll nodes := by
  unfold consText
  split
  · simp [identsAll, idents]
  · split <;> simp [identsAll, idents]

@[simp] theorem identsAll_merge (nodes : List Node) :
    identsAll (merge nodes) = identsAll nodes := by
  induction nodes with
  | nil => rfl
  | cons node nodes ih =>
    cases node <;> simp [merge, identsAll, identsAll_consText, idents, ih]

/-! ### Neat sequences -/

/-- No text is empty, and no two texts are neighbours. -/
structure Neat (nodes : List Node) : Prop where
  filled : .text "" ∉ nodes
  apart : nodes.IsChain fun a b => ¬ (a.isText = true ∧ b.isText = true)

theorem neat_nil : Neat [] :=
  ⟨List.not_mem_nil, .nil⟩

theorem neat_cons {node : Node} {nodes : List Node} :
    Neat (node :: nodes) ↔
      node ≠ .text "" ∧ (node.isText = true → ∀ next ∈ nodes.head?, next.isText = false) ∧
        Neat nodes := by
  constructor
  · intro h
    obtain ⟨first, rest⟩ := List.isChain_cons.mp h.apart
    refine ⟨?_, ?_, ⟨fun member => h.filled (List.mem_cons_of_mem node member), rest⟩⟩
    · rintro rfl
      exact h.filled List.mem_cons_self
    · intro text next member
      simpa [text] using first next member
  · rintro ⟨filled, first, h⟩
    refine ⟨?_, List.isChain_cons.mpr ⟨?_, h.apart⟩⟩
    · intro member
      rcases List.mem_cons.mp member with same | behind
      · exact filled same.symm
      · exact h.filled behind
    · rintro next member ⟨text, text'⟩
      rw [first text next member] at text'
      cases text'

theorem Neat.cons {node : Node} {nodes : List Node} (h : Neat nodes)
    (other : node.isText = false) : Neat (node :: nodes) := by
  refine neat_cons.mpr ⟨?_, ?_, h⟩
  · rintro rfl
    cases other
  · intro text
    rw [other] at text
    cases text

theorem Neat.consText {nodes : List Node} (h : Neat nodes) (s : String) :
    Neat (consText s nodes) := by
  by_cases empty : s = ""
  · rw [empty, consText_empty]
    exact h
  · have lone : (∀ next ∈ nodes.head?, next.isText = false) → Neat (.text s :: nodes) := by
      intro first
      refine neat_cons.mpr ⟨?_, fun _ => first, h⟩
      intro same
      exact empty (Node.text.inj same)
    unfold Node.consText
    split
    · rename_i t rest
      obtain ⟨-, first, h⟩ := neat_cons.mp h
      refine neat_cons.mpr ⟨?_, fun _ => first rfl, h⟩
      intro same
      have joined := Node.text.inj same
      rw [String.append_eq_empty_iff] at joined
      exact empty joined.1
    · rename_i other
      have filled : s.isEmpty = false := by simpa using empty
      rw [filled]
      refine lone ?_
      intro next member
      obtain ⟨rest, rfl⟩ := List.head?_eq_some_iff.mp member
      cases next with
      | text t => exact absurd rfl (other t rest)
      | _ => rfl

theorem neat_merge (nodes : List Node) : Neat (merge nodes) := by
  induction nodes with
  | nil => exact neat_nil
  | cons node nodes ih =>
    cases node with
    | text s => exact ih.consText s
    | _ => exact ih.cons rfl

theorem mem_of_mem_consText {node : Node} {s : String} {nodes : List Node}
    (other : node.isText = false) (member : node ∈ consText s nodes) : node ∈ nodes := by
  unfold consText at member
  split at member
  · rcases List.mem_cons.mp member with rfl | behind
    · cases other
    · exact List.mem_cons_of_mem _ behind
  · split at member
    · exact member
    · rcases List.mem_cons.mp member with rfl | behind
      · cases other
      · exact behind

/-- Only texts are new in a merged sequence. -/
theorem mem_of_mem_merge {node : Node} {nodes : List Node} (other : node.isText = false)
    (member : node ∈ merge nodes) : node ∈ nodes := by
  induction nodes with
  | nil => exact member
  | cons first nodes ih =>
    cases first with
    | text s => exact List.mem_cons_of_mem _ (ih (mem_of_mem_consText other member))
    | _ =>
      rcases List.mem_cons.mp member with rfl | behind
      · exact List.mem_cons_self
      · exact List.mem_cons_of_mem _ (ih behind)

end Node

/-! ### Names and tags at their spans -/

def IsNameChar (c : Char) : Prop :=
  ('a' ≤ c ∧ c ≤ 'z') ∨ ('0' ≤ c ∧ c ≤ '9') ∨ c = '_'

structure Ident.StandsIn (source : List Char) (ident : Ident) : Prop where
  place : ident.span.Within source
  nonempty : ident.name ≠ ""
  chars : ∀ c ∈ ident.name.toList, IsNameChar c
  name : ident.name = String.ofList ((ident.span.text source).map Char.toLower)

structure Value.StandsIn (source : List Char) (v : Value) : Prop where
  place : v.span.Within source
  tag : ∃ inner, v.span.text source = '%' :: '[' :: (inner ++ [']', '%'])
  first : v.span.start ≤ v.ident.span.start
  last : v.ident.span.stop ≤ v.span.stop

/-- What the node says of the source is true, and it has no false branch without a true one. -/
structure Node.StandsIn (source : List Char) (node : Node) : Prop where
  ident : ∀ ident ∈ node.ident?, ident.StandsIn source
  value : ∀ v, node = .value v → v.StandsIn source
  branches : node.no?.isSome = true → node.yes?.isSome = true

theorem isNameChar_toLower {c : Char} (word : isWordChar c = true) : IsNameChar c.toLower := by
  by_cases capital : 'A'.val ≤ c.val ∧ c.val ≤ 'Z'.val
  · exact Or.inl (toLower_capital capital)
  · rw [toLower_of_not_capital capital]
    rcases isWordChar_iff.mp word with capital' | letter | digit | rfl
    · exact absurd capital' capital
    · exact Or.inl letter
    · exact Or.inr (Or.inl digit)
    · exact Or.inr (Or.inr rfl)

section
variable {source front rest : List Char}

theorem Grammar.Word.standsIn (w : Word) (same : source = front ++ (w.chars ++ rest)) :
    Ident.StandsIn source ⟨w.key, .ofText (byteLength front) w.chars⟩ where
  place := .ofText same w.ne_nil
  nonempty := by
    intro empty
    have chars := congrArg String.toList empty
    rw [key, String.toList_ofList] at chars
    exact w.ne_nil (List.map_eq_nil_iff.mp chars)
  chars := by
    intro c member
    rw [key, String.toList_ofList] at member
    obtain ⟨d, present, rfl⟩ := List.mem_map.mp member
    exact isNameChar_toLower (w.word d present)
  name := by
    rw [same, Span.text_ofText]
    rfl

theorem Grammar.Tag.ident_standsIn (t : Tag) (same : source = front ++ (t.spell ++ rest)) :
    (t.value (byteLength front)).ident.StandsIn source := by
  have place : byteLength front + 2 = byteLength (front ++ ['%', '[']) := by
    simp [utf8Size_mark]
  have same' : source =
      (front ++ ['%', '[']) ++ (t.name.chars ++ (t.suffix ++ ']' :: '%' :: rest)) := by
    simp [same, spell]
  rw [value, place]
  exact t.name.standsIn same'

theorem Grammar.Tag.standsIn (t : Tag) (same : source = front ++ (t.spell ++ rest)) :
    (t.value (byteLength front)).StandsIn source where
  place := .ofText same (by simp [spell])
  tag := by
    refine ⟨t.name.chars ++ t.suffix, ?_⟩
    rw [same, value, Span.text_ofText]
    simp [spell]
  first := by
    simp only [value, Span.ofText]
    omega
  last := by
    simp only [value, Span.ofText, t.byteLength_spell]
    omega

theorem Grammar.Heading.ident_standsIn (h : Heading) (same : source = front ++ (h.spell ++ rest)) :
    (h.test (byteLength front)).ident.StandsIn source := by
  have place : byteLength front + 3 + byteLength h.before + byteLength h.bang =
      byteLength (front ++ '%' :: '[' :: '%' :: (h.before ++ h.bang)) := by
    simp [utf8Size_mark]
    omega
  have same' : source = (front ++ '%' :: '[' :: '%' :: (h.before ++ h.bang)) ++
      (h.name.chars ++ (h.suffix ++ (h.after ++ rest))) := by
    simp [same, spell]
  rw [test, place]
  exact h.name.standsIn same'

end

/-! ### The items behind a tree -/

/-- The source has the items behind `front`, and `nodes` is what they stand for. -/
inductive Spelled (source : List Char) : List Node → Prop where
  | intro {front rest : List Char} {items : List Item} :
      source = front ++ (spellAll items ++ rest) →
      Spelled source (Node.merge (nodeAll (byteLength front) items))

theorem Grammar.Item.mem_nodeAll {start : Nat} {items : List Item} {node : Node}
    (member : node ∈ nodeAll start items) :
    ∃ before item after, items = before ++ item :: after ∧
      node = item.node (start + byteLength (spellAll before)) := by
  induction items generalizing start with
  | nil => cases member
  | cons item items ih =>
    rcases List.mem_cons.mp member with rfl | behind
    · exact ⟨[], item, items, rfl, rfl⟩
    · obtain ⟨before, item', after, rfl, rfl⟩ := ih behind
      refine ⟨item :: before, item', after, rfl, ?_⟩
      rw [spellAll, byteLength_append, Nat.add_assoc]

section
variable {source : List Char} {nodes branch : List Node} {node : Node}

/-- Each node but the texts is what one item stands for where it is. -/
theorem Spelled.item (h : Spelled source nodes) (other : node.isText = false)
    (member : node ∈ nodes) :
    ∃ (front rest : List Char) (item : Item), source = front ++ (item.spell ++ rest) ∧
      node = item.node (byteLength front) := by
  obtain @⟨front, rest, items, same⟩ := h
  obtain ⟨before, item, after, rfl, rfl⟩ := mem_nodeAll (Node.mem_of_mem_merge other member)
  refine ⟨front ++ spellAll before, spellAll after ++ rest, item, ?_, ?_⟩
  · simp [same, spellAll_append, spellAll]
  · rw [byteLength_append]

/-- A branch begins behind the header and its mark. -/
theorem spelled_yes {front : List Char} {h : Heading} {yes : List Item} (rest : List Char)
    (same : source = front ++ (h.spell ++ '%' :: '|' :: '%' :: (spellAll yes ++ rest))) :
    Spelled source (Node.merge (nodeAll (byteLength front + byteLength h.spell + 3) yes)) := by
  have place : byteLength front + byteLength h.spell + 3 =
      byteLength (front ++ (h.spell ++ ['%', '|', '%'])) := by
    simp [utf8Size_mark]
    omega
  rw [place]
  exact .intro (by simpa using same)

theorem spelled_no {front : List Char} {h : Heading} {yes no : List Item} (rest : List Char)
    (same : source = front ++ (h.spell ++ '%' :: '|' :: '%' ::
      (spellAll yes ++ '%' :: '|' :: '%' :: (spellAll no ++ rest)))) :
    Spelled source (Node.merge (nodeAll
      (byteLength front + byteLength h.spell + 3 + byteLength (spellAll yes) + 3) no)) := by
  have place : byteLength front + byteLength h.spell + 3 + byteLength (spellAll yes) + 3 =
      byteLength (front ++ (h.spell ++ '%' :: '|' :: '%' ::
        (spellAll yes ++ ['%', '|', '%']))) := by
    simp [utf8Size_mark]
    omega
  rw [place]
  exact .intro (by simpa using same)

theorem Spelled.yes (h : Spelled source nodes) (member : node ∈ nodes)
    (taken : node.yes? = some branch) : Spelled source branch := by
  have other : node.isText = false := by cases node <;> first | rfl | cases taken
  obtain ⟨front, rest, item, same, rfl⟩ := h.item other member
  cases item with
  | char | escape | percent | value | probe => cases taken
  | guard hd yes =>
    simp only [node, Node.yes?, Option.some.injEq] at taken
    subst taken
    exact spelled_yes (['%', ']', '%'] ++ rest) (by simp [same, spell])
  | choice hd yes no =>
    simp only [node, Node.yes?, Option.some.injEq] at taken
    subst taken
    exact spelled_yes ('%' :: '|' :: '%' :: (spellAll no ++ ['%', ']', '%'] ++ rest))
      (by simp [same, spell])

theorem Spelled.no (h : Spelled source nodes) (member : node ∈ nodes)
    (taken : node.no? = some branch) : Spelled source branch := by
  have other : node.isText = false := by cases node <;> first | rfl | cases taken
  obtain ⟨front, rest, item, same, rfl⟩ := h.item other member
  cases item with
  | char | escape | percent | value | probe | guard => cases taken
  | choice hd yes no =>
    simp only [node, Node.no?, Option.some.injEq] at taken
    subst taken
    exact spelled_no (['%', ']', '%'] ++ rest) (by simp [same, spell])

theorem Spelled.sequence {depth : Nat} (h : Spelled source nodes)
    (inside : Node.Sequence nodes depth branch) : Spelled source branch := by
  induction inside with
  | root => exact h
  | yes _ member taken ih => exact ih.yes member taken
  | no _ member taken ih => exact ih.no member taken

theorem Spelled.neat (h : Spelled source nodes) : Node.Neat nodes := by
  cases h
  exact Node.neat_merge _

theorem standsIn_of_heading {front : List Char} (h : Heading) (rest : List Char)
    (same : source = front ++ (h.spell ++ rest))
    (ident : node.ident? = some (h.test (byteLength front)).ident)
    (noTag : ∀ v, node ≠ .value v) (branches : node.no?.isSome = true → node.yes?.isSome = true) :
    node.StandsIn source := by
  refine ⟨?_, fun v tag => absurd tag (noTag v), branches⟩
  intro i found
  cases ident.symm.trans found
  exact h.ident_standsIn same

theorem Spelled.standsIn (h : Spelled source nodes) (member : node ∈ nodes) :
    node.StandsIn source := by
  by_cases text : node.isText = true
  · cases node with
    | text s =>
      refine ⟨?_, ?_, ?_⟩
      · rintro ident ⟨⟩
      · rintro v ⟨⟩
      · rintro ⟨⟩
    | _ => cases text
  · obtain ⟨front, rest, item, same, rfl⟩ := h.item (Bool.not_eq_true _ ▸ text) member
    cases item with
    | char | escape | percent => exact absurd rfl text
    | value t =>
      have ident := t.ident_standsIn same
      have tag := t.standsIn same
      refine ⟨?_, ?_, ?_⟩
      · rintro _ ⟨⟩
        exact ident
      · rintro _ ⟨⟩
        exact tag
      · rintro ⟨⟩
    | probe hd =>
      refine standsIn_of_heading hd (['%', ']', '%'] ++ rest) ?_ rfl ?_ ?_
      · simp [same, spell]
      · rintro v ⟨⟩
      · rintro ⟨⟩
    | guard hd yes =>
      refine standsIn_of_heading hd
        ('%' :: '|' :: '%' :: (spellAll yes ++ ['%', ']', '%'] ++ rest)) ?_ rfl ?_ ?_
      · simp [same, spell]
      · rintro v ⟨⟩
      · rintro ⟨⟩
    | choice hd yes no =>
      refine standsIn_of_heading hd
        ('%' :: '|' :: '%' :: (spellAll yes ++ '%' :: '|' :: '%' ::
          (spellAll no ++ ['%', ']', '%'] ++ rest))) ?_ rfl ?_ fun _ => rfl
      · simp [same, spell]
      · rintro v ⟨⟩

end

/-! ### Identifiers from left to right -/

/-- The identifiers stand between `start` and `stop`, each behind the end of those before it. -/
structure Ordered (start stop : Nat) (idents : List Ident) : Prop where
  inside : ∀ ident ∈ idents,
    start ≤ ident.span.start ∧ ident.span.start < ident.span.stop ∧ ident.span.stop ≤ stop
  apart : idents.Pairwise fun a b => a.span.stop ≤ b.span.start

namespace Ordered

variable {start mid stop : Nat} {as bs : List Ident}

theorem nil (start stop : Nat) : Ordered start stop [] :=
  ⟨by simp, .nil⟩

theorem ofText {start place stop : Nat} {text : List Char} (name : String) (after : start ≤ place)
    (filled : text ≠ []) (before : place + byteLength text ≤ stop) :
    Ordered start stop [⟨name, .ofText place text⟩] := by
  refine ⟨?_, List.pairwise_singleton _ _⟩
  intro ident member
  cases List.mem_singleton.mp member
  have length := byteLength_pos filled
  refine ⟨after, ?_, before⟩
  simp only [Span.ofText]
  omega

theorem append (left : Ordered start mid as) (right : Ordered mid stop bs) (first : start ≤ mid)
    (last : mid ≤ stop) : Ordered start stop (as ++ bs) := by
  constructor
  · intro ident member
    rcases List.mem_append.mp member with before | behind
    · obtain ⟨after, filled, before⟩ := left.inside ident before
      exact ⟨after, filled, by omega⟩
    · obtain ⟨after, filled, before⟩ := right.inside ident behind
      exact ⟨by omega, filled, before⟩
  · refine List.pairwise_append.mpr ⟨left.apart, right.apart, ?_⟩
    intro a before b behind
    have stops := (left.inside a before).2.2
    have starts := (right.inside b behind).1
    omega

theorem widen {start' stop' : Nat} (h : Ordered start stop as) (first : start' ≤ start)
    (last : stop ≤ stop') : Ordered start' stop' as := by
  refine ⟨?_, h.apart⟩
  intro ident member
  obtain ⟨after, filled, before⟩ := h.inside ident member
  exact ⟨by omega, filled, by omega⟩

end Ordered

theorem Grammar.Heading.ordered (h : Heading) (start : Nat) :
    Ordered start (start + byteLength h.spell) [(h.test start).ident] := by
  have length := h.byteLength_spell
  exact .ofText _ (by omega) h.name.ne_nil (by omega)

theorem Grammar.Tag.ordered (t : Tag) (start : Nat) :
    Ordered start (start + byteLength t.spell) [(t.value start).ident] := by
  have length := t.byteLength_spell
  exact .ofText _ (by omega) t.name.ne_nil (by omega)

mutual

theorem Grammar.Item.ordered_node (start : Nat) :
    ∀ item, Ordered start (start + byteLength (spell item)) (node start item).idents
  | .char _ | .escape | .percent => .nil _ _
  | .value t => t.ordered start
  | .probe h => by
    rw [spell, byteLength_append]
    exact (h.ordered start).widen (Nat.le_refl _) (by omega)
  | .guard h yes => by
    rw [byteLength_guard]
    simp only [node, Node.idents, Node.identsAll_merge]
    have first := h.ordered start
    have branch := ordered_nodeAll (start + byteLength h.spell + 3) yes
    exact first.append (branch.widen (Nat.le_add_right _ _) (by omega)) (by omega) (by omega)
  | .choice h yes no => by
    rw [byteLength_choice]
    simp only [node, Node.idents, Node.identsAll_merge]
    have first := h.ordered start
    have branch := ordered_nodeAll (start + byteLength h.spell + 3) yes
    have branch' := ordered_nodeAll
      (start + byteLength h.spell + 3 + byteLength (spellAll yes) + 3) no
    have both := branch.append (branch'.widen (Nat.le_add_right _ 3) (Nat.le_refl _)) (by omega)
      (by omega)
    exact first.append (both.widen (by omega) (by omega)) (by omega) (by omega)

/-- The identifiers of items are met in the order of the source. -/
theorem Grammar.Item.ordered_nodeAll (start : Nat) :
    ∀ items, Ordered start (start + byteLength (spellAll items))
      (Node.identsAll (nodeAll start items))
  | [] => .nil _ _
  | item :: items => by
    rw [spellAll, byteLength_append]
    have first := ordered_node start item
    have behind := ordered_nodeAll (start + byteLength (spell item)) items
    rw [Nat.add_assoc] at behind
    exact first.append behind (by omega) (by omega)

end

/-! ### Nesting -/

namespace Node

theorem nesting_le {node : Node} {nodes : List Node} (member : node ∈ nodes) :
    nesting node ≤ nestingAll nodes := by
  induction nodes with
  | nil => cases member
  | cons first nodes ih =>
    rw [nestingAll]
    rcases List.mem_cons.mp member with rfl | behind
    · exact Nat.le_max_left _ _
    · exact Nat.le_trans (ih behind) (Nat.le_max_right _ _)

theorem nesting_yes {node : Node} {branch : List Node} (taken : node.yes? = some branch) :
    nestingAll branch + 1 ≤ nesting node := by
  cases node with
  | text | value | probe => cases taken
  | guard test yes =>
    cases taken
    rw [nesting]
  | choice test yes no =>
    cases taken
    rw [nesting]
    omega

theorem nesting_no {node : Node} {branch : List Node} (taken : node.no? = some branch) :
    nestingAll branch + 1 ≤ nesting node := by
  cases node with
  | text | value | probe | guard => cases taken
  | choice test yes no =>
    cases taken
    rw [nesting]
    omega

/-- What stands around a branch counts for the nesting of the tree. -/
theorem depth_le {root branch : List Node} {depth : Nat} (inside : Sequence root depth branch) :
    depth + nestingAll branch ≤ nestingAll root := by
  induction inside with
  | root => omega
  | yes _ member taken ih =>
    have deeper := nesting_yes taken
    have within := nesting_le member
    omega
  | no _ member taken ih =>
    have deeper := nesting_no taken
    have within := nesting_le member
    omega

end Node

/-! ### Whole trees -/

namespace Template

/-- The tree has the one form for its content, and what it says of its source is true. -/
structure Canonical (t : Template) : Prop where
  neat : ∀ depth nodes, Node.Sequence t.nodes depth nodes → Node.Neat nodes
  standsIn : ∀ depth nodes, Node.Sequence t.nodes depth nodes →
    ∀ node ∈ nodes, node.StandsIn t.source.toList
  order : (Node.identsAll t.nodes).Pairwise fun a b =>
    a.span.start < b.span.start ∧ a.span.stop ≤ b.span.start
  depth : ∀ depth nodes, Node.Sequence t.nodes depth nodes → depth ≤ maxNesting

/-- Whatever template is read, its tree is canonical. -/
theorem canonical_of_parse {source : String} {t : Template} (read : parse source = .ok t) :
    t.source = source ∧ t.Canonical := by
  obtain ⟨nodes, found, rfl⟩ := parse_ok_iff.mp read
  obtain ⟨items, derived, room⟩ := Reader.derives_of_read found
  cases found.symm.trans (Reader.read_of_derives derived room)
  have same : source.toList = [] ++ (spellAll items ++ []) := derived.spells
  have spelled : Spelled source.toList (Node.merge (nodeAll (byteLength []) items)) := .intro same
  have ordered := Item.ordered_nodeAll 0 items
  refine ⟨rfl, ?_, ?_, ?_, ?_⟩
  · intro depth nodes inside
    exact (spelled.sequence inside).neat
  · intro depth nodes inside node member
    exact (spelled.sequence inside).standsIn member
  · rw [Node.identsAll_merge]
    refine ordered.apart.imp_of_mem ?_
    intro a b member _ apart
    have filled := (ordered.inside a member).2.1
    omega
  · intro depth nodes inside
    have within := Node.depth_le inside
    rw [Node.nestingAll_merge] at within
    omega

theorem canonical_of_parse_choice :
    let t : Template := ⟨"é%[%x%|%%[Y!u]%%|%%%%]%", [.text "é",
      .choice ⟨⟨"x", ⟨5, 6⟩⟩, false, false⟩ [.value ⟨⟨"y", ⟨11, 12⟩⟩, [.upper], ⟨9, 16⟩⟩] [.text "%"]]⟩
    parse "é%[%x%|%%[Y!u]%%|%%%%]%" = .ok t ∧ t.Canonical := by
  intro t
  have read : parse "é%[%x%|%%[Y!u]%%|%%%%]%" = .ok t := by decide +kernel
  exact ⟨read, (canonical_of_parse read).2⟩

end Template

end TextTemplate
