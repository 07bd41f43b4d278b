import Mathlib.Control.Monad.Basic
import TextTemplate.Proofs.Outcomes
import TextTemplate.Proofs.Sessions

/-!
# Bounds of rendering

However recursive names refer to each other, no point of a rendering has more expansions around it
than the limit allows, nor more branches than that many templates can have open.
-/

namespace TextTemplate

theorem nesting_of_parse {source : String} {t : Template}
    (read : Template.parse source = .ok t) : Node.nestingAll t.nodes ≤ maxNesting := by
  obtain ⟨items, derived, room⟩ := compiles_iff.mp ⟨t, read⟩
  cases read.symm.trans (parse_of_derives derived room)
  rwa [Node.nestingAll_merge]

namespace Engine

/-! ### Branches -/

namespace Frame

def nodes : Frame → List Node
  | branch _ _ nodes | expansion _ _ _ nodes => nodes

def opened : List Frame → Nat
  | [] | expansion .. :: _ => 0
  | branch .. :: frames => opened frames + 1

end Frame

/-- In each template that is being rendered, the branches that are open and the conditions to come
are together nested no deeper than in a source. -/
def Fits (nodes : List Node) : List Frame → Prop
  | [] => Node.nestingAll nodes ≤ maxNesting
  | frame :: frames =>
    Node.nestingAll nodes + Frame.opened (frame :: frames) ≤ maxNesting ∧ Fits frame.nodes frames

section
variable {nodes nodes' : List Node} {frame : Frame} {frames : List Frame}

theorem Fits.room (h : Fits nodes frames) :
    Node.nestingAll nodes + Frame.opened frames ≤ maxNesting := by
  cases frames with
  | nil => exact h
  | cons frame frames => exact h.1

theorem Fits.of_le (h : Fits nodes frames)
    (less : Node.nestingAll nodes' ≤ Node.nestingAll nodes) : Fits nodes' frames := by
  have room := h.room
  cases frames with
  | nil => exact Nat.le_trans less h
  | cons frame frames => exact ⟨by omega, h.2⟩

theorem Fits.tail {node : Node} (h : Fits (node :: nodes) frames) : Fits nodes frames :=
  h.of_le (Nat.le_max_right _ _)

theorem Fits.branch {node : Node} {yes : List Node} (h : Fits (node :: nodes) frames)
    (deep : Node.nestingAll yes + 1 ≤ node.nesting) (test : Test) (text : String) :
    Fits yes (.branch test text nodes :: frames) := by
  have room := h.room
  refine ⟨?_, h.tail⟩
  simp only [Node.nestingAll, Frame.opened] at room ⊢
  omega

theorem branches_le_opened (h : Fits nodes frames) :
    Frame.branches frames ≤ Frame.opened frames + maxNesting * Frame.expansions frames := by
  induction frames generalizing nodes with
  | nil => exact Nat.zero_le _
  | cons frame frames ih =>
    have outer := ih h.2
    have room := h.2.room
    cases frame with
    | branch =>
      simp only [Frame.branches, Frame.opened, Frame.expansions]
      omega
    | expansion =>
      simp only [Frame.branches, Frame.opened, Frame.expansions, Nat.mul_succ]
      omega

theorem branches_le (h : Fits nodes frames) :
    Frame.branches frames ≤ maxNesting * (Frame.expansions frames + 1) := by
  have open' := branches_le_opened h
  have room := h.room
  rw [Nat.mul_succ]
  omega

end

/-! ### Records -/

def Task.Adds {α : Type} (p : Record → Prop) (task : Task α) : Prop :=
  ∀ s : Session, ∃ new, (task.run.run s).2.records = new ++ s.records ∧ ∀ r ∈ new, p r

namespace Task

variable {α β : Type} {p : Record → Prop}

theorem adds_pure (a : α) : Adds p (pure a) :=
  fun _ => ⟨[], rfl, List.forall_mem_nil _⟩

theorem adds_throw (e : Error) : Adds (α := α) p (throw e) :=
  fun _ => ⟨[], rfl, List.forall_mem_nil _⟩

theorem adds_record {r : Record} (h : p r) : Adds p (record r) :=
  fun _ => ⟨[r], rfl, List.forall_mem_singleton.mpr h⟩

theorem adds_bind {task : Task α} {f : α → Task β} (first : task.Adds p)
    (next : ∀ a, (f a).Adds p) : Adds p (task >>= f) := by
  intro s
  obtain ⟨new, added, all⟩ := first s
  rw [ExceptT.run_bind, StateT.run_bind]
  cases ran : task.run.run s with
  | mk result s' =>
    rw [ran] at added
    cases result with
    | error e => exact ⟨new, added, all⟩
    | ok a =>
      obtain ⟨new', added', all'⟩ := next a s'
      refine ⟨new' ++ new, ?_, List.forall_mem_append.mpr ⟨all', all⟩⟩
      rw [List.append_assoc, ← added]
      exact added'

theorem adds_get {f : Session → Task α} (next : ∀ s, (f s).Adds p) : Adds p (get >>= f) :=
  fun s => next s s

theorem adds_keep (full : ∀ entries, p (.full entries)) (t : Template) : Adds p (keep t) := by
  have kept : Adds p (modify fun s => { s with engine := s.engine.keep t }) :=
    fun _ => ⟨[], rfl, List.forall_mem_nil _⟩
  refine adds_get fun s => ?_
  dsimp only
  split
  · exact adds_bind (adds_record (full _)) fun _ => kept
  · exact kept

theorem adds_fetch (hit : ∀ source, p (.hit source)) (miss : ∀ source, p (.miss source))
    (full : ∀ entries, p (.full entries)) (source : String) : Adds p (fetch source) := by
  refine adds_get fun s => ?_
  cases s.engine.cache[source]? with
  | some t => exact adds_bind (adds_record (hit source)) fun _ => adds_pure t
  | none =>
    refine adds_bind (adds_record (miss source)) fun _ => adds_bind ?_ fun t =>
      adds_bind (adds_keep full t) fun _ => adds_pure t
    cases Template.parse source with
    | error e => exact adds_throw e
    | ok t => exact adds_pure t

end Task

def Record.AtDepth (depth : Nat) (r : Record) : Prop :=
  ∀ name depth', r = .expanding name depth' → depth' = depth

theorem Task.adds_expand (name : String) (depth : Nat) (source : String) :
    Adds (Record.AtDepth depth) (expand name depth source) := by
  refine adds_bind (adds_record ?_) fun _ => adds_fetch ?_ ?_ ?_ source
  · rintro _ _ ⟨⟩
    rfl
  all_goals rintro _ _ _ ⟨⟩

/-! ### Points -/

/-- The limit is kept, and each template that is being rendered came out of a source. -/
structure Point.Bounded (limit : Nat) (p : Point) : Prop where
  expansions : p.expansions ≤ limit
  fits : Fits p.nodes p.frames

def Config.Bounded (limit : Nat) : Config → Prop
  | running p s => p.Bounded limit ∧ s.engine.Coherent
  | done _ _ => True

section
variable {tables : Tables} {limit : Nat} {p : Point} {s : Session} {node : Node}
  {nodes : List Node}

theorem bounded_write (h : p.Bounded limit) (ahead : p.nodes = node :: nodes) (added : String) :
    (p.write added nodes).Bounded limit :=
  ⟨h.expansions, Fits.tail (ahead ▸ h.fits)⟩

theorem bounded_enter (h : p.Bounded limit) (ahead : p.nodes = node :: nodes) (test : Test)
    {branch : List Node} (deep : Node.nestingAll branch + 1 ≤ node.nesting) :
    (p.enter test branch nodes).Bounded limit :=
  ⟨h.expansions, Fits.branch (ahead ▸ h.fits) deep test p.text⟩

theorem bounded_expand (h : p.Bounded limit) (ahead : p.nodes = node :: nodes) (v : Value)
    (free : p.expansions < limit) {text : String} {t : Template}
    (read : Template.parse text = .ok t) : (p.expand v nodes t).Bounded limit :=
  ⟨free, nesting_of_parse read, Fits.tail (ahead ▸ h.fits)⟩

theorem bounded_settle (h : p.Bounded limit) (coherent : s.engine.Coherent) (v : Value)
    (ahead : p.nodes = node :: nodes) (text : String) (free : p.expansions < limit) :
    (Config.settle (fun t => .running (p.expand v nodes t))
      ((Task.expand v.ident.name (p.expansions + 1) text).run.run s)).Bounded limit := by
  have fetched : Task.HasResult (Task.expand v.ident.name (p.expansions + 1) text)
      (Template.parse text) :=
    Task.hasResult_bind (Task.hasResult_record _) fun _ => Task.hasResult_fetch text
  obtain ⟨s', ran, coherent', -⟩ := fetched s coherent
  rw [ran]
  cases read : Template.parse text with
  | error e => trivial
  | ok t => exact ⟨bounded_expand h ahead v free read, coherent'⟩

theorem nesting_branch {branch : List Node} (member : branch ∈ branchesOf node) :
    Node.nestingAll branch + 1 ≤ node.nesting := by
  cases node with
  | text | value | probe => cases member
  | guard test yes =>
    cases List.mem_singleton.mp member
    exact Nat.le_refl _
  | choice test yes no =>
    rcases List.mem_cons.mp member with rfl | last
    · exact Nat.succ_le_succ (Nat.le_max_left _ _)
    · cases List.mem_singleton.mp last
      exact Nat.succ_le_succ (Nat.le_max_right _ _)

/-- Each step keeps the bounds. -/
theorem bounded_advance (h : p.Bounded limit) (coherent : s.engine.Coherent) :
    (p.advance tables limit s).Bounded limit := by
  have advanced := Point.advances_advance tables limit p s
  generalize p.advance tables limit s = c at advanced
  cases advanced with
  | write added ahead => exact ⟨bounded_write h ahead added, coherent⟩
  | enter test ahead member => exact ⟨bounded_enter h ahead test (nesting_branch member), coherent⟩
  | descend calls free => exact bounded_settle h coherent _ calls.ahead _ free
  | leave ahead =>
    obtain ⟨depth, fits⟩ := h
    rw [Point.expansions, ahead] at depth
    rw [ahead] at fits
    exact ⟨⟨depth, fits.2⟩, coherent⟩
  | resume ahead =>
    obtain ⟨depth, fits⟩ := h
    rw [Point.expansions, ahead] at depth
    rw [ahead] at fits
    exact ⟨⟨Nat.le_of_succ_le depth, fits.2⟩, coherent⟩
  | finish => trivial

theorem bounded_of_reaches {c c' : Config} (h : c.Bounded limit)
    (reached : Reaches tables limit c c') : c'.Bounded limit := by
  induction reached with
  | refl => exact h
  | tail _ step ih =>
    cases step with
    | advance p s => exact bounded_advance ih.1 ih.2

/-! ### Records of steps -/

/-- An expansion is recorded one deeper than the point at which it comes up. -/
theorem records_advance (tables : Tables) (limit : Nat) (p : Point) (s : Session) :
    ∃ new, (p.advance tables limit s).session.records = new ++ s.records ∧
      ∀ name depth, .expanding name depth ∈ new → depth = p.expansions + 1 ∧ depth ≤ limit := by
  rcases p.session_advance tables limit s with same | ⟨v, nodes, text, -, free, fetched⟩
  · exact ⟨[], congrArg Session.records same, fun _ _ member => nomatch member⟩
  · obtain ⟨new, added, all⟩ := Task.adds_expand v.ident.name (p.expansions + 1) text s
    rw [fetched]
    refine ⟨new, added, fun name depth member => ?_⟩
    have deeper := all _ member name depth rfl
    exact ⟨deeper, by omega⟩

end

/-! ### Evaluations -/

/-- Whatever an engine has been asked before, its steps through a template come to an end, which is
what it answers. At each point on the way, expansions and branches are within their bounds, and the
expansion that the next step records is the next one. -/
theorem evaluate_bounded (requests : List Request) (tables : Tables) {source : String}
    {t : Template} (read : Template.parse source = .ok t) :
    let e := (Client.serveAll {} requests).2.engine
    let start := Config.running ⟨t.source, "", t.nodes, []⟩ { engine := e }
    (∃ result s, e.evaluate t tables = ⟨result, s.engine, s.records.reverse⟩ ∧
      Reaches tables e.maxDepth start (.done result s)) ∧
    ∀ p s, Reaches tables e.maxDepth start (.running p s) →
      p.expansions ≤ e.maxDepth ∧ p.branches ≤ maxNesting * (p.expansions + 1) ∧
        ∃ new, (p.advance tables e.maxDepth s).session.records = new ++ s.records ∧
          ∀ name depth, .expanding name depth ∈ new →
            depth = p.expansions + 1 ∧ depth ≤ e.maxDepth := by
  intro e start
  have coherent : e.Coherent := Client.coherent_serveAll requests
  have bounded : start.Bounded e.maxDepth := ⟨⟨Nat.zero_le _, nesting_of_parse read⟩, coherent⟩
  refine ⟨evaluate_reaches e tables t, fun p s reached => ?_⟩
  obtain ⟨within, -⟩ := bounded_of_reaches bounded reached
  exact ⟨within.expansions, branches_le within.fits, records_advance tables e.maxDepth p s⟩

theorem evaluate_bounded_loop :
    let source := "%[%a%|%%[a]%%]%"
    let t : Template := ⟨source, [.guard ⟨⟨"a", ⟨3, 4⟩⟩, false, false⟩
      [.value ⟨⟨"a", ⟨9, 10⟩⟩, [], ⟨7, 12⟩⟩]]⟩
    let tables := ((Bindings.empty.insert "a" (.value source)).insertRecursive "a").resolve
    let e := (Client.serveAll {} [.setMaxDepth 2]).2.engine
    let start := Config.running ⟨t.source, "", t.nodes, []⟩ { engine := e }
    Template.parse source = .ok t ∧
      (∃ result s, e.evaluate t tables = ⟨result, s.engine, s.records.reverse⟩ ∧
        Reaches tables 2 start (.done result s)) ∧
      ∀ p s, Reaches tables 2 start (.running p s) → p.expansions ≤ 2 ∧ p.branches ≤ 192 := by
  intro source t tables e start
  have read : Template.parse source = .ok t := by decide +kernel
  obtain ⟨ends, bounded⟩ := evaluate_bounded [.setMaxDepth 2] tables read
  refine ⟨read, ends, fun p s reached => ?_⟩
  obtain ⟨expansions, branches, -⟩ := bounded p s reached
  have deep : p.expansions ≤ 2 := expansions
  refine ⟨deep, ?_⟩
  rw [maxNesting] at branches
  omega

end Engine

end TextTemplate
