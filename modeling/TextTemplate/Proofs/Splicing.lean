import TextTemplate.Proofs.Caching
import TextTemplate.Proofs.Lockstep
import TextTemplate.Proofs.Shifts

/-!
# Escaped text in a source

A text that is escaped stands for itself wherever a source is outside of tags. The rest of the
source is read as it would be without the text, whether it can be read or not.
-/

namespace TextTemplate
open Grammar Item Reader

/-! ### Reading on behind the text -/

theorem Reader.Similar.pushAll {r r' : Reader} (h : r.Similar r') (nodes : List Node) :
    r.Similar (r'.pushAll nodes) := by
  induction nodes generalizing r' with
  | nil => exact h
  | cons node nodes ih =>
    refine ih ⟨?_, ?_⟩
    · rw [branches_push, h.branches]
    · rw [push_stage]
      exact h.stage

theorem Reader.Similar.refl {r : Reader} (text : r.stage = .text) : r.Similar r :=
  ⟨rfl, by rw [text]; exact .text⟩

/-- With a text that is escaped in it, a source is read as without, or fails for the same cause. -/
theorem read_insert_parallel {p : String} (front : EndsInText p) (cs q : List Char) :
    Parallel (fun _ _ => True) (read (p.toList ++ q))
      (read (p.toList ++ (cs.flatMap Literal.escapeChar ++ q))) := by
  rw [read_eq_run, read_eq_run]
  rcases State.settled_of_takes front.text rfl front.closed {} rfl with
    ⟨fault, failed⟩ | ⟨r, text, same⟩
  · rw [failed q, failed (_ ++ q)]
    exact .error rfl
  · rw [same q, same (_ ++ q), State.run_literal text]
    exact State.run_parallel ((Reader.Similar.refl text).pushAll _) .text _ _ q

/-! ### The tree -/

theorem toList_escape (s : String) :
    (Literal.escape s).toList = s.toList.flatMap Literal.escapeChar := by
  rw [Literal.escape, String.toList_ofList]

theorem toList_insert (p s q : String) :
    (p ++ Literal.escape s ++ q).toList =
      p.toList ++ (s.toList.flatMap Literal.escapeChar ++ q.toList) := by
  rw [String.toList_append, String.toList_append, toList_escape, List.append_assoc]

theorem compiles_insert {p : String} (front : EndsInText p) (q s : String) :
    Compiles (p ++ Literal.escape s ++ q) ↔ Compiles (p ++ q) := by
  have both := read_insert_parallel front s.toList q.toList
  rw [← toList_insert, ← String.toList_append] at both
  simp only [Compiles, Template.parse_ok_iff]
  generalize read (p ++ q).toList = short at both ⊢
  generalize read (p ++ Literal.escape s ++ q).toList = long at both ⊢
  cases both <;> simp

theorem parse_insert_error {p q : String} (front : EndsInText p) (s : String) {e : Error}
    (failed : Template.parse (p ++ q) = .error e) :
    ∃ e', Template.parse (p ++ Literal.escape s ++ q) = .error e' ∧ e'.cause = e.cause := by
  have both := read_insert_parallel front s.toList q.toList
  rw [← toList_insert, ← String.toList_append] at both
  simp only [Template.parse] at failed ⊢
  generalize read (p ++ q).toList = short at both failed
  generalize read (p ++ Literal.escape s ++ q).toList = long at both ⊢
  cases both with
  | ok _ => cases failed
  | error same =>
    cases failed
    exact ⟨_, rfl, same.symm⟩

/-- The seam of two texts is a gap in what they derive together, and there is room for literal text
in it. -/
theorem Grammar.Derives.gap {p : String} (front : EndsInText p) {q : String} {items : List Item}
    (h : Derives items (p ++ q).toList []) :
    ∃ g : Gap, items = g.fill [] ∧ g.left = p.toList ∧ g.right = q.toList ∧
      ∀ s, Derives (g.fill (literalItems s.toList)) (p ++ Literal.escape s ++ q).toList [] := by
  rw [String.toList_append] at h
  have nothing : Stands [] [] := fun rest => .nil
  cases Derives.cut nothing (q := q.toList) h front.front rfl with
  | beyond p' nonempty _ _ ends => simp [nonempty] at ends
  | inside g filled left derives =>
    subst filled
    have spelled := h.spells
    rw [g.spell_fill, left, List.append_nil] at spelled
    refine ⟨g, rfl, left, (List.append_cancel_left spelled).symm, fun s => ?_⟩
    rw [toList_insert]
    exact derives _ _ (stands_literal s.toList)

/-! ### Escaped text alone -/

theorem format_escape (limit : Nat) (s : String) (bindings : Bindings) :
    format limit (Literal.escape s) bindings = .ok s := by
  have derived : Derives (literalItems s.toList) (Literal.escape s).toList [] := by
    have whole := stands_literal s.toList []
    rwa [List.append_nil, ← toList_escape] at whole
  have merged : Node.merge (literalNodes s.toList) = Node.merge [.text s] := by
    simpa using merge_literal s.toList []
  have room : depth (literalItems s.toList) ≤ maxNesting := by
    rw [depth, nodeAll_literal, ← Node.nestingAll_merge, merged, Node.nestingAll_merge]
    exact Nat.zero_le _
  rw [← outcome_eq_ok, outcome_of_derives derived room, nodeAll_literal, ← Node.renderAll_merge,
    merged, Node.renderAll_merge]
  simp [Node.renderAll, Node.render]
  rfl

/-- A text that is escaped stands for itself wherever the source in front of it is outside of tags.
What comes behind is read as without it, with all spans moved on, or fails for the same cause. A
text alone that is escaped is rendered as it was, by each engine and whatever was asked of it. -/
theorem parse_insert_escape :
    (∀ p q s : String, EndsInText p →
      (Compiles (p ++ Literal.escape s ++ q) ↔ Compiles (p ++ q)) ∧
      (∀ t, Template.parse (p ++ q) = .ok t →
        ∃ g : Gap, g.left = p.toList ∧ g.right = q.toList ∧
          Derives (g.fill []) (p ++ q).toList [] ∧ t.nodes = Node.merge (g.nodes 0 []) ∧
          Template.parse (p ++ Literal.escape s ++ q) = .ok ⟨p ++ Literal.escape s ++ q,
            Node.merge (Node.mapSpansAll
              (.shift p.utf8ByteSize (Literal.escape s).utf8ByteSize) (g.nodes 0 [.text s]))⟩) ∧
      (∀ e, Template.parse (p ++ q) = .error e →
        ∃ e', Template.parse (p ++ Literal.escape s ++ q) = .error e' ∧ e'.kind = e.kind ∧
          e'.message = e.message)) ∧
    ∀ (requests : List Engine.Request) (s : String) (bindings : Bindings),
      ((Engine.Client.serveAll {} requests).2.engine.format (Literal.escape s) bindings).result =
        .ok s := by
  constructor
  · intro p q s front
    refine ⟨compiles_insert front q s, fun t read => ?_, fun e failed => ?_⟩
    · -- That there is room for the conditions of the longer source is known from its run.
      have compiles := (compiles_insert front q s).mpr ⟨t, read⟩
      obtain ⟨items, derived, rfl, -⟩ := ((Template.parse_iff_derives _).2 t).mp read
      obtain ⟨g, rfl, left, right, derives⟩ := derived.gap front
      have room := (compiles_of_derives (derives s)).mp compiles
      have place : p.utf8ByteSize = 0 + byteLength g.left := by
        rw [left, byteLength_toList, Nat.zero_add]
      have merged := g.merge_fill_literal s.toList place
      rw [String.ofList_toList, ← toList_escape, byteLength_toList] at merged
      refine ⟨g, left, right, derived, by rw [g.nodes_nil], ?_⟩
      rw [parse_of_derives (derives s) room, merged]
    · obtain ⟨e', failed', same⟩ := parse_insert_error front s failed
      exact ⟨e', failed', congrArg Cause.kind same, congrArg Cause.message same⟩
  · intro requests s bindings
    rw [Engine.result_format (Engine.Client.coherent_serveAll requests), format_escape]

theorem parse_insert_escape_percent :
    EndsInText "%%" ∧ Compiles ("%%" ++ "%") ∧
      Compiles ("%%" ++ Literal.escape "%[x]%" ++ "%") ∧
      (∃ g : Gap, g.left = ['%', '%'] ∧ g.right = ['%'] ∧
        Template.parse ("%%" ++ Literal.escape "%[x]%" ++ "%") =
          .ok ⟨"%%" ++ Literal.escape "%[x]%" ++ "%", Node.merge (Node.mapSpansAll
            (.shift "%%".utf8ByteSize (Literal.escape "%[x]%").utf8ByteSize)
            (g.nodes 0 [.text "%[x]%"]))⟩) ∧
      ∃ e e', Template.parse ("%%" ++ "%|%") = .error e ∧
        Template.parse ("%%" ++ Literal.escape "%[x]%" ++ "%|%") = .error e' ∧
        e'.kind = e.kind ∧ e'.message = e.message := by
  have closed : ¬ EndsInPercent "%%" := by
    intro last
    have last' : PercentLast .text 0 ['%', '%'] := last
    exact percentLast_nil (percentLast_rest (List.cons_ne_nil _ _) rfl (by simp) last')
  have front : EndsInText "%%" := ⟨.cons (List.cons_ne_nil _ _) rfl .nil, closed⟩
  have derived : Derives [.escape, .percent] ("%%" ++ "%").toList [] :=
    .escape (.percent (by simp) .nil)
  have read := parse_of_derives derived (by decide)
  obtain ⟨fault, failed⟩ : ∃ fault, Reader.read ("%%" ++ "%|%").toList = .error fault := by
    obtain ⟨fault, failed⟩ := State.run_outside (.separator []) [.text "%"]
    exact ⟨fault, (State.run_step (State.step_escape rfl 0 _)).trans failed⟩
  obtain ⟨both, tree, -⟩ := parse_insert_escape.1 "%%" "%" "%[x]%" front
  obtain ⟨-, -, fails⟩ := parse_insert_escape.1 "%%" "%|%" "%[x]%" front
  obtain ⟨g, left, right, -, -, read'⟩ := tree _ read
  have refused : Template.parse ("%%" ++ "%|%") = .error (fault.within ("%%" ++ "%|%")) := by
    rw [Template.parse, failed]
  obtain ⟨e', failed', kind, message⟩ := fails _ refused
  exact ⟨front, ⟨_, read⟩, both.mpr ⟨_, read⟩, ⟨g, left, right, read'⟩, _, e', refused, failed',
    kind, message⟩

end TextTemplate
