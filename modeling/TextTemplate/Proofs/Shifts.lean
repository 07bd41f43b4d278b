import TextTemplate.Proofs.Fronts

/-!
# Trees with text put in

Where a text is put into a source, all that stands behind it moves by the bytes of the text. In the
tree of the source, the spans behind the place move as well, and nothing else changes.
-/

namespace TextTemplate
open Grammar Item

/-! ### Spans that move -/

/-- The span once there are `k` more bytes at byte `place`. -/
def Span.shift (place k : Nat) (s : Span) : Span :=
  if s.start < place then s else ⟨s.start + k, s.stop + k⟩

def Ident.mapSpan (f : Span → Span) (ident : Ident) : Ident :=
  { ident with span := f ident.span }

def Value.mapSpans (f : Span → Span) (v : Value) : Value :=
  { v with ident := v.ident.mapSpan f, span := f v.span }

def Test.mapSpan (f : Span → Span) (test : Test) : Test :=
  { test with ident := test.ident.mapSpan f }

namespace Node

mutual

def mapSpans (f : Span → Span) : Node → Node
  | .text s => .text s
  | .value v => .value (v.mapSpans f)
  | .probe test => .probe (test.mapSpan f)
  | .guard test yes => .guard (test.mapSpan f) (mapSpansAll f yes)
  | .choice test yes no => .choice (test.mapSpan f) (mapSpansAll f yes) (mapSpansAll f no)

def mapSpansAll (f : Span → Span) : List Node → List Node
  | [] => []
  | node :: nodes => mapSpans f node :: mapSpansAll f nodes

end

variable {f : Span → Span}

theorem mapSpansAll_append (a b : List Node) :
    mapSpansAll f (a ++ b) = mapSpansAll f a ++ mapSpansAll f b := by
  induction a with
  | nil => rfl
  | cons node a ih => simp [mapSpansAll, ih]

theorem mapSpansAll_consText (s : String) (nodes : List Node) :
    mapSpansAll f (consText s nodes) = consText s (mapSpansAll f nodes) := by
  cases nodes with
  | nil =>
    simp only [consText, mapSpansAll]
    split <;> rfl
  | cons node nodes =>
    cases node <;> simp only [consText, mapSpansAll, mapSpans] <;> split <;> rfl

theorem mapSpansAll_merge (nodes : List Node) :
    mapSpansAll f (merge nodes) = merge (mapSpansAll f nodes) := by
  induction nodes with
  | nil => rfl
  | cons node nodes ih =>
    cases node with
    | text s => rw [mapSpansAll, mapSpans, merge_text, merge_text, ← ih, mapSpansAll_consText]
    | _ => simp only [mapSpansAll, mapSpans, merge, ih]

end Node

/-- All spans that start between the two bytes move by `d`. -/
def Moves (f : Span → Span) (d start stop : Nat) : Prop :=
  ∀ s : Span, start ≤ s.start → s.start < stop → f s = ⟨s.start + d, s.stop + d⟩

section
variable {f : Span → Span} {d start stop : Nat}

theorem Moves.within (h : Moves f d start stop) {start' stop' : Nat} (after : start ≤ start')
    (before : stop' ≤ stop) : Moves f d start' stop' :=
  fun s first last => h s (by omega) (by omega)

theorem Moves.ofText (h : Moves f d start stop) {n : Nat} (first : start ≤ n) (last : n < stop)
    (text : List Char) : f (.ofText n text) = .ofText (n + d) text := by
  rw [h _ first last]
  simp only [Span.ofText, Nat.add_right_comm]

theorem moves_before {place stop : Nat} (before : stop ≤ place) (start k : Nat) :
    Moves (Span.shift place k) 0 start stop := by
  intro s _ last
  rw [Span.shift, if_pos (by omega), Nat.add_zero, Nat.add_zero]

theorem moves_behind {place start : Nat} (behind : place ≤ start) (k stop : Nat) :
    Moves (Span.shift place k) k start stop := by
  intro s first _
  rw [Span.shift, if_neg (by omega)]

/-! ### Items that move -/

theorem Grammar.Heading.test_move (h : Heading)
    (moves : Moves f d start (start + byteLength h.spell)) :
    (h.test start).mapSpan f = h.test (start + d) := by
  have length := h.byteLength_spell
  have name := byteLength_pos h.name.ne_nil
  simp only [Heading.test, Test.mapSpan, Ident.mapSpan]
  rw [moves.ofText (by omega) (by omega)]
  congr 3
  omega

theorem Grammar.Tag.value_move (t : Tag)
    (moves : Moves f d start (start + byteLength t.spell)) :
    (t.value start).mapSpans f = t.value (start + d) := by
  have length := t.byteLength_spell
  simp only [Tag.value, Value.mapSpans, Ident.mapSpan]
  rw [moves.ofText (by omega) (by omega), moves.ofText (by omega) (by omega), Nat.add_right_comm]

mutual

theorem Grammar.Item.node_move (start : Nat) :
    ∀ item, Moves f d start (start + byteLength (spell item)) →
      (node start item).mapSpans f = node (start + d) item
  | .char _, _ | .escape, _ | .percent, _ => rfl
  | .value t, moves => by
    simp only [node, Node.mapSpans, t.value_move moves]
  | .probe h, moves => by
    simp only [spell, byteLength_append] at moves
    simp only [node, Node.mapSpans]
    rw [h.test_move (moves.within (by omega) (by omega))]
  | .guard h yes, moves => by
    rw [byteLength_guard] at moves
    simp only [node, Node.mapSpans, Node.mapSpansAll_merge]
    rw [h.test_move (moves.within (by omega) (by omega)),
      nodeAll_move _ yes (moves.within (by omega) (by omega))]
    congr 3
    omega
  | .choice h yes no, moves => by
    rw [byteLength_choice] at moves
    simp only [node, Node.mapSpans, Node.mapSpansAll_merge]
    rw [h.test_move (moves.within (by omega) (by omega)),
      nodeAll_move _ yes (moves.within (by omega) (by omega)),
      nodeAll_move _ no (moves.within (by omega) (by omega))]
    congr 3 <;> omega

/-- The items stand for the same nodes where they have moved to. -/
theorem Grammar.Item.nodeAll_move (start : Nat) :
    ∀ items, Moves f d start (start + byteLength (spellAll items)) →
      Node.mapSpansAll f (nodeAll start items) = nodeAll (start + d) items
  | [], _ => rfl
  | item :: items, moves => by
    simp only [spellAll, byteLength_append] at moves
    simp only [nodeAll, Node.mapSpansAll]
    rw [node_move start item (moves.within (by omega) (by omega)),
      nodeAll_move _ items (moves.within (by omega) (by omega)), Nat.add_right_comm]

end

/-- Items that stand before the place stay. -/
theorem Grammar.Item.nodeAll_before {place : Nat} (k : Nat) {items : List Item}
    (before : start + byteLength (spellAll items) ≤ place) :
    Node.mapSpansAll (.shift place k) (nodeAll start items) = nodeAll start items :=
  nodeAll_move start items (moves_before before start k)

/-- Items that stand behind the place move on. -/
theorem Grammar.Item.nodeAll_behind {place : Nat} (behind : place ≤ start) (k : Nat)
    (items : List Item) :
    Node.mapSpansAll (.shift place k) (nodeAll start items) = nodeAll (start + k) items :=
  nodeAll_move start items (moves_behind behind k _)

end

/-! ### Literal text -/

def literalItems (cs : List Char) : List Item :=
  cs.map fun c => if c = '%' then .escape else .char c

theorem stands_literal (cs : List Char) :
    Stands (literalItems cs) (cs.flatMap Literal.escapeChar) := by
  intro rest
  induction cs with
  | nil => exact .nil
  | cons c cs ih =>
    rw [List.flatMap_cons, List.append_assoc]
    by_cases hc : c = '%'
    · subst hc
      exact .escape ih
    · simp only [literalItems, Literal.escapeChar, List.map_cons, if_neg hc]
      exact .char hc ih

theorem nodeAll_literal (start : Nat) (cs : List Char) :
    nodeAll start (literalItems cs) = literalNodes cs := by
  induction cs generalizing start with
  | nil => rfl
  | cons c cs ih =>
    have first : node start (if c = '%' then .escape else .char c) =
        .text (String.singleton c) := by
      split
      · subst c
        rfl
      · rfl
    rw [literalItems, List.map_cons, nodeAll, first]
    exact congrArg _ (ih _)

theorem merge_literal (cs : List Char) (nodes : List Node) :
    Node.merge (literalNodes cs ++ nodes) = Node.merge (.text (String.ofList cs) :: nodes) := by
  induction cs with
  | nil => simp [literalNodes]
  | cons c cs ih =>
    have joined : String.singleton c ++ String.ofList cs = String.ofList (c :: cs) := by
      rw [String.singleton_eq_ofList, ← String.ofList_append]
      rfl
    rw [Node.merge_text] at ih
    rw [literalNodes, List.map_cons, List.cons_append, Node.merge_text, Node.merge_text, ← joined,
      ← Node.consText_consText, ← ih]
    rfl

/-! ### Gaps with text in them -/

namespace Grammar.Gap

def nodes (start : Nat) (held : List Node) : Gap → List Node
  | here before after =>
    nodeAll start before ++ (held ++ nodeAll (start + byteLength (spellAll before)) after)
  | inGuard before h inner after =>
    let header := start + byteLength (spellAll before)
    let yes := header + byteLength h.spell + 3
    let last := yes + byteLength (inner.left ++ inner.right) + 3
    nodeAll start before ++
      .guard (h.test header) (Node.merge (inner.nodes yes held)) :: nodeAll last after
  | inYes before h inner no after =>
    let header := start + byteLength (spellAll before)
    let yes := header + byteLength h.spell + 3
    let second := yes + byteLength (inner.left ++ inner.right) + 3
    let last := second + byteLength (spellAll no) + 3
    nodeAll start before ++
      .choice (h.test header) (Node.merge (inner.nodes yes held))
        (Node.merge (nodeAll second no)) :: nodeAll last after
  | inNo before h yes inner after =>
    let header := start + byteLength (spellAll before)
    let first := header + byteLength h.spell + 3
    let second := first + byteLength (spellAll yes) + 3
    let last := second + byteLength (inner.left ++ inner.right) + 3
    nodeAll start before ++
      .choice (h.test header) (Node.merge (nodeAll first yes))
        (Node.merge (inner.nodes second held)) :: nodeAll last after

theorem nodes_nil (start : Nat) (g : Gap) : g.nodes start [] = nodeAll start (g.fill []) := by
  induction g generalizing start with
  | here before after => simp [nodes, fill, nodeAll_append]
  | inGuard before h inner after ih =>
    simp [nodes, fill, nodeAll_append, nodeAll, node, ih, byteLength_guard, spell_fill, spellAll,
      Nat.add_assoc]
  | inYes before h inner no after ih =>
    simp [nodes, fill, nodeAll_append, nodeAll, node, ih, byteLength_choice, spell_fill, spellAll,
      Nat.add_assoc]
  | inNo before h yes inner after ih =>
    simp [nodes, fill, nodeAll_append, nodeAll, node, ih, byteLength_choice, spell_fill, spellAll,
      Nat.add_assoc]

/-- The tree with a text at the place is that without, but for the text and for the spans behind
it. -/
theorem merge_fill_literal (cs : List Char) {place start : Nat} (g : Gap)
    (seam : place = start + byteLength g.left) :
    Node.merge (nodeAll start (g.fill (literalItems cs))) =
      Node.merge (Node.mapSpansAll (.shift place (byteLength (cs.flatMap Literal.escapeChar)))
        (g.nodes start [.text (String.ofList cs)])) := by
  have length := congrArg byteLength (stands_literal cs).spells
  generalize byteLength (cs.flatMap Literal.escapeChar) = k at length ⊢
  -- Over all starts, since the items of a branch begin behind its header. Only at the place itself
  -- do the nodes differ before they are merged, where the text comes character by character.
  induction g generalizing start with
  | here before after =>
    simp only [left] at seam
    simp only [fill, nodes, nodeAll_append, Node.mapSpansAll_append, nodeAll_literal, length]
    rw [nodeAll_before k (by omega), nodeAll_behind (by omega) k after, ← Node.merge_append_merge,
      merge_literal, Node.merge_append_merge]
    rfl
  | inGuard before h inner after ih =>
    rw [byteLength_inGuard] at seam
    simp only [fill, nodes, nodeAll_append, nodeAll, node, Node.mapSpansAll_append,
      Node.mapSpansAll, Node.mapSpans, Node.mapSpansAll_merge, byteLength_guard, byteLength_append,
      byteLength_fill, length]
    rw [nodeAll_before k (by omega), h.test_move (moves_before (by omega) _ k), ih (by omega),
      nodeAll_behind (by omega) k after]
    ac_rfl
  | inYes before h inner no after ih =>
    rw [byteLength_inYes] at seam
    simp only [fill, nodes, nodeAll_append, nodeAll, node, Node.mapSpansAll_append,
      Node.mapSpansAll, Node.mapSpans, Node.mapSpansAll_merge, byteLength_choice, byteLength_append,
      byteLength_fill, length]
    rw [nodeAll_before k (by omega), h.test_move (moves_before (by omega) _ k), ih (by omega),
      nodeAll_behind (by omega) k no, nodeAll_behind (by omega) k after]
    ac_rfl
  | inNo before h yes inner after ih =>
    rw [byteLength_inNo] at seam
    simp only [fill, nodes, nodeAll_append, nodeAll, node, Node.mapSpansAll_append,
      Node.mapSpansAll, Node.mapSpans, Node.mapSpansAll_merge, byteLength_choice, byteLength_append,
      byteLength_fill, length]
    rw [nodeAll_before k (by omega), h.test_move (moves_before (by omega) _ k),
      nodeAll_before k (by omega), ih (by omega), nodeAll_behind (by omega) k after]
    ac_rfl

end Grammar.Gap

end TextTemplate
