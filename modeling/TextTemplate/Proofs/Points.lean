import Mathlib.Logic.Relation
import TextTemplate.Proofs.Caching

/-!
# Rendering as a machine

A rendering goes from point to point, each with the branches and expansions that are open around it.
`Point.advance` is one step, and `evaluate_reaches` says that the steps end with what
`Engine.evaluate` comes to.
-/

namespace TextTemplate.Engine

/-! ### Points -/

/-- What is open around a point, with the text in front of it and the nodes behind it. -/
inductive Frame where
  | branch (test : Test) (text : String) (nodes : List Node)
  /-- The value of a recursive name, in a tag of the given source. -/
  | expansion (conversions : List Conversion) (source text : String) (nodes : List Node)

def Frame.expansions : List Frame → Nat
  | [] => 0
  | branch .. :: frames => expansions frames
  | expansion .. :: frames => expansions frames + 1

def Frame.branches : List Frame → Nat
  | [] => 0
  | branch .. :: frames => branches frames + 1
  | expansion .. :: frames => branches frames

structure Point where
  /-- The source of the innermost template. -/
  source : String
  /-- What the innermost sequence has come to so far. -/
  text : String
  /-- What is to follow in the innermost sequence. -/
  nodes : List Node
  /-- The innermost first. -/
  frames : List Frame

inductive Config where
  | running (p : Point) (s : Session)
  | done (result : Except Error String) (s : Session)

def Config.session : Config → Session
  | running _ s | done _ s => s

/-- Goes on with the result of a task, or ends with its error. -/
def Config.settle {α : Type} (next : α → Session → Config) : Except Error α × Session → Config
  | (.ok a, s) => next a s
  | (.error e, s) => .done (.error e) s

/-- The template of a recursive name, with a record of its expansion. -/
def Task.expand (name : String) (depth : Nat) (source : String) : Task Template := do
  record (.expanding name depth)
  fetch source

namespace Point

def start (t : Template) : Point :=
  ⟨t.source, "", t.nodes, []⟩

def expansions (p : Point) : Nat :=
  Frame.expansions p.frames

def branches (p : Point) : Nat :=
  Frame.branches p.frames

def write (p : Point) (added : String) (nodes : List Node) : Point :=
  { p with text := p.text ++ added, nodes }

def enter (p : Point) (test : Test) (branch nodes : List Node) : Point :=
  { p with text := "", nodes := branch, frames := .branch test p.text nodes :: p.frames }

def expand (p : Point) (v : Value) (nodes : List Node) (t : Template) : Point :=
  ⟨t.source, "", t.nodes, .expansion v.conversions p.source p.text nodes :: p.frames⟩

def stop (p : Point) (cause : Cause) (span : Span) (s : Session) : Config :=
  .done (.error (Fault.within p.source ⟨cause, span⟩)) s

def decide (tables : Tables) (p : Point) (test : Test) (next : Bool → Point) (s : Session) :
    Config :=
  match tables.condition? test.ident.name with
  | none => p.stop (.unknownCondition test.ident.name) test.ident.span s
  | some holds => .running (next (holds != test.negated)) s

def descend (limit : Nat) (p : Point) (v : Value) (text : String) (nodes : List Node)
    (s : Session) : Config :=
  if limit ≤ p.expansions then p.stop (.recursionLimit limit v.ident.name) v.span s
  else .settle (fun t => .running (p.expand v nodes t))
    ((Task.expand v.ident.name (p.expansions + 1) text).run.run s)

def close (p : Point) (s : Session) : Config :=
  match p.frames with
  | [] => .done (.ok p.text) s
  | .branch test text nodes :: frames =>
    .running ⟨p.source, text ++ test.layout p.text, nodes, frames⟩ s
  | .expansion conversions source text nodes :: frames =>
    .running ⟨source, text ++ Conversion.applyAll conversions p.text, nodes, frames⟩ s

def advance (tables : Tables) (limit : Nat) (p : Point) (s : Session) : Config :=
  match p.nodes with
  | [] => p.close s
  | .text added :: nodes => .running (p.write added nodes) s
  | .value v :: nodes =>
    match tables.value? v.ident.name with
    | none => p.stop (.unknownVariable v.ident.name) v.ident.span s
    | some text =>
      if tables.isRecursive v.ident.name then p.descend limit v text nodes s
      else .running (p.write (Conversion.applyAll v.conversions text) nodes) s
  | .probe test :: nodes => p.decide tables test (fun _ => p.write "" nodes) s
  | .guard test yes :: nodes =>
    p.decide tables test (fun holds => if holds then p.enter test yes nodes else p.write "" nodes) s
  | .choice test yes no :: nodes =>
    p.decide tables test (fun holds => p.enter test (if holds then yes else no) nodes) s

end Point

/-! ### Steps -/

inductive Step (tables : Tables) (limit : Nat) : Config → Config → Prop where
  | advance (p : Point) (s : Session) :
      Step tables limit (.running p s) (p.advance tables limit s)

abbrev Reaches (tables : Tables) (limit : Nat) : Config → Config → Prop :=
  Relation.ReflTransGen (Step tables limit)

def branchesOf : Node → List (List Node)
  | .text _ | .value _ | .probe _ => []
  | .guard _ yes => [yes]
  | .choice _ yes no => [yes, no]

/-- The next node is the value tag of a recursive name, which has this value. -/
structure Point.Calls (tables : Tables) (p : Point) (v : Value) (nodes : List Node)
    (text : String) : Prop where
  ahead : p.nodes = .value v :: nodes
  bound : tables.value? v.ident.name = some text
  recursive : tables.isRecursive v.ident.name = true

/-- All that a step from a point can come to. -/
inductive Point.Advances (tables : Tables) (limit : Nat) (p : Point) (s : Session) :
    Config → Prop where
  | write {node : Node} {nodes : List Node} (added : String) :
      p.nodes = node :: nodes → Advances tables limit p s (.running (p.write added nodes) s)
  | enter {node : Node} {nodes branch : List Node} (test : Test) :
      p.nodes = node :: nodes → branch ∈ branchesOf node →
      Advances tables limit p s (.running (p.enter test branch nodes) s)
  | descend {v : Value} {nodes : List Node} {text : String} :
      p.Calls tables v nodes text → p.expansions < limit →
      Advances tables limit p s
        (.settle (fun t => .running (p.expand v nodes t))
          ((Task.expand v.ident.name (p.expansions + 1) text).run.run s))
  | leave {test : Test} {text : String} {nodes : List Node} {frames : List Frame} :
      p.frames = .branch test text nodes :: frames →
      Advances tables limit p s (.running ⟨p.source, text ++ test.layout p.text, nodes, frames⟩ s)
  | resume {conversions : List Conversion} {source text : String} {nodes : List Node}
      {frames : List Frame} : p.frames = .expansion conversions source text nodes :: frames →
      Advances tables limit p s
        (.running ⟨source, text ++ Conversion.applyAll conversions p.text, nodes, frames⟩ s)
  | finish (result : Except Error String) : Advances tables limit p s (.done result s)

section
variable {tables : Tables} {limit : Nat} {p : Point} {s : Session}

theorem Point.advances_close : Advances tables limit p s (p.close s) := by
  unfold close
  split
  · exact .finish _
  · rename_i open'
    exact .leave open'
  · rename_i open'
    exact .resume open'

theorem Point.advances_decide {test : Test} {next : Bool → Point}
    (h : ∀ holds, Advances tables limit p s (.running (next holds) s)) :
    Advances tables limit p s (p.decide tables test next s) := by
  unfold decide
  split
  · exact .finish _
  · exact h _

theorem Point.advances_descend {v : Value} {nodes : List Node} {text : String}
    (calls : p.Calls tables v nodes text) :
    Advances tables limit p s (p.descend limit v text nodes s) := by
  unfold descend
  split
  · exact .finish _
  · rename_i free
    exact .descend calls (Nat.lt_of_not_le free)

/-- What a step comes to is among what it can come to. -/
theorem Point.advances_advance (tables : Tables) (limit : Nat) (p : Point) (s : Session) :
    Advances tables limit p s (p.advance tables limit s) := by
  unfold advance
  split
  · exact advances_close
  · rename_i ahead
    exact .write _ ahead
  · rename_i v nodes ahead
    split
    · exact .finish _
    · rename_i text bound
      split
      · rename_i recursive
        exact advances_descend ⟨ahead, bound, recursive⟩
      · exact .write _ ahead
  · rename_i ahead
    exact advances_decide fun _ => .write "" ahead
  · rename_i test yes nodes ahead
    refine advances_decide fun holds => ?_
    cases holds with
    | true => exact .enter test ahead (List.mem_singleton_self yes)
    | false => exact .write "" ahead
  · rename_i test yes no nodes ahead
    refine advances_decide fun holds => .enter test ahead ?_
    cases holds with
    | true => exact List.mem_cons_self
    | false => exact List.mem_cons_of_mem yes (List.mem_singleton_self no)

end

section
variable {tables : Tables} {limit : Nat} {α β : Type}

theorem Reaches.of_advance {p : Point} {s : Session} {c : Config}
    (h : Reaches tables limit (p.advance tables limit s) c) :
    Reaches tables limit (.running p s) c :=
  .head (.advance p s) h

/-- The steps from `start` do what the task does, and go on from its result. -/
def Leads (tables : Tables) (limit : Nat) (start : Session → Config) (task : Task α)
    (next : α → Session → Config) : Prop :=
  ∀ s, Reaches tables limit (start s) (.settle next (task.run.run s))

theorem leads_pure {start : Session → Config} {a : α} {next : α → Session → Config}
    (h : ∀ s, Reaches tables limit (start s) (next a s)) :
    Leads tables limit start (pure a) next := h

theorem leads_throw {start : Session → Config} {e : Error} {next : α → Session → Config}
    (h : ∀ s, Reaches tables limit (start s) (.done (.error e) s)) :
    Leads tables limit start (throw e) next := h

theorem leads_bind {start : Session → Config} {task : Task α} {f : α → Task β}
    {mid : α → Session → Config} {next : β → Session → Config}
    (first : Leads tables limit start task mid)
    (then' : ∀ a, Leads tables limit (mid a) (f a) next) :
    Leads tables limit start (task >>= f) next := by
  intro s
  have reached := first s
  rw [ExceptT.run_bind, StateT.run_bind]
  cases ran : task.run.run s with
  | mk result s' =>
    rw [ran] at reached
    cases result with
    | error e => exact reached
    | ok a => exact reached.trans (then' a s')

theorem leads_discard {start : Session → Config} {task : Task α} {next : Session → Config}
    (h : Leads tables limit start task fun _ => next) :
    Leads tables limit start (discard task) fun _ => next := by
  rw [Functor.discard, LawfulFunctor.map_const, Function.comp_apply, map_eq_pure_bind]
  exact leads_bind h fun _ => leads_pure fun _ => .refl

theorem Leads.head {start start' : Session → Config} {task : Task α}
    {next : α → Session → Config} (h : Leads tables limit start' task next)
    (before : ∀ s, Reaches tables limit (start s) (start' s)) :
    Leads tables limit start task next :=
  fun s => (before s).trans (h s)

theorem Leads.tail {start : Session → Config} {task : Task α} {next next' : α → Session → Config}
    (h : Leads tables limit start task next)
    (after : ∀ a s, Reaches tables limit (next a s) (next' a s)) :
    Leads tables limit start task next' := by
  intro s
  refine (h s).trans ?_
  cases ran : task.run.run s with
  | mk result s' =>
    cases result with
    | error e => exact .refl
    | ok a => exact after a s'

/-! ### Trees -/

/-- The surroundings answer as the steps go, in a source with so many expansions around it. -/
structure Follows (tables : Tables) (limit : Nat) (host : Host Task) (source : String)
    (depth : Nat) : Prop where
  value (v : Value) (text : String) (nodes : List Node) (frames : List Frame) :
    Frame.expansions frames = depth →
    Leads tables limit (.running ⟨source, text, .value v :: nodes, frames⟩) (host.value v)
      fun out => .running ⟨source, text ++ out, nodes, frames⟩
  condition (test : Test) (p : Point) (next : Bool → Point) : p.source = source →
    Leads tables limit (p.decide tables test next) (host.condition test)
      fun holds => .running (next holds)
  layout : host.layout = Test.layout

/-- Out of a branch, the steps lay out what it has come to. -/
theorem leads_branch {p : Point} {test : Test} {branch nodes : List Node} {task : Task String}
    (inner : Leads tables limit (.running (p.enter test branch nodes)) task
      fun out => .running { p.enter test branch nodes with text := "" ++ out, nodes := [] }) :
    Leads tables limit (.running (p.enter test branch nodes))
      (do return test.layout (← task)) fun out => .running (p.write out nodes) := by
  refine leads_bind inner fun out => leads_pure fun s => .of_advance ?_
  rw [String.empty_append]
  exact .refl

section
variable {host : Host Task} {source : String} {depth : Nat}

mutual

theorem leads_render (h : Follows tables limit host source depth) (text : String)
    (nodes : List Node) (frames : List Frame) (deep : Frame.expansions frames = depth) :
    ∀ node, Leads tables limit (.running ⟨source, text, node :: nodes, frames⟩)
      (node.render host) fun out => .running ⟨source, text ++ out, nodes, frames⟩
  | .text added => leads_pure fun s => .of_advance .refl
  | .value v => h.value v text nodes frames deep
  | .probe test => by
    let p : Point := ⟨source, text, .probe test :: nodes, frames⟩
    have decided := h.condition test p (fun _ => p.write "" nodes) rfl
    refine (leads_bind (leads_discard decided) fun _ => ?_).head fun s => .of_advance .refl
    exact leads_pure fun s => .refl
  | .guard test yes => by
    let p : Point := ⟨source, text, .guard test yes :: nodes, frames⟩
    have decided := h.condition test p
      (fun holds => if holds then p.enter test yes nodes else p.write "" nodes) rfl
    refine (leads_bind decided fun holds => ?_).head fun s => .of_advance .refl
    rw [h.layout]
    cases holds with
    | true => exact leads_branch (leads_renderAll h "" (.branch test text nodes :: frames) deep yes)
    | false => exact leads_pure fun s => .refl
  | .choice test yes no => by
    let p : Point := ⟨source, text, .choice test yes no :: nodes, frames⟩
    have decided := h.condition test p
      (fun holds => p.enter test (if holds then yes else no) nodes) rfl
    refine (leads_bind decided fun holds => ?_).head fun s => .of_advance .refl
    rw [h.layout]
    cases holds with
    | true => exact leads_branch (leads_renderAll h "" (.branch test text nodes :: frames) deep yes)
    | false => exact leads_branch (leads_renderAll h "" (.branch test text nodes :: frames) deep no)

/-- Where the surroundings answer as the steps go, the steps render a sequence. -/
theorem leads_renderAll (h : Follows tables limit host source depth) (text : String)
    (frames : List Frame) (deep : Frame.expansions frames = depth) :
    ∀ nodes, Leads tables limit (.running ⟨source, text, nodes, frames⟩)
      (Node.renderAll host nodes) fun out => .running ⟨source, text ++ out, [], frames⟩
  | [] => leads_pure fun s => by
    rw [String.append_empty]
  | node :: nodes => by
    refine leads_bind (leads_render h text nodes frames deep node) fun first => ?_
    refine leads_bind (leads_renderAll h (text ++ first) frames deep nodes) fun out => ?_
    rw [String.append_assoc]
    exact leads_pure fun s => .refl

end

theorem leads_nodes (h : Follows tables limit host source depth) (frames : List Frame)
    (deep : Frame.expansions frames = depth) (nodes : List Node) :
    Leads tables limit (.running ⟨source, "", nodes, frames⟩) (Node.renderAll host nodes)
      fun out => .running ⟨source, out, [], frames⟩ := by
  simpa only [String.empty_append] using leads_renderAll h "" frames deep nodes

end

/-! ### Templates -/

variable {fetch : String → Nat → String → Task Template} {t : Template} {depth : Nat}

theorem leads_renderWith {expand : Value → String → Task String}
    (expands : ∀ v text written nodes frames, Frame.expansions frames = depth →
      Leads tables limit
        (Point.descend limit ⟨t.source, written, .value v :: nodes, frames⟩ v text nodes)
        (expand v text)
        fun out =>
          .running ⟨t.source, written ++ Conversion.applyAll v.conversions out, nodes, frames⟩)
    {frames : List Frame} (deep : Frame.expansions frames = depth) :
    Leads tables limit (.running ⟨t.source, "", t.nodes, frames⟩)
      (t.renderWith (.ofTables tables fetch) expand)
      fun out => .running ⟨t.source, out, [], frames⟩ := by
  refine leads_nodes ⟨?_, ?_, rfl⟩ frames deep t.nodes
  · intro v written nodes frames deep s
    apply Reaches.of_advance
    simp only [Point.advance, Environment.ofTables, pure_bind]
    cases tables.value? v.ident.name with
    | none => exact .refl
    | some text =>
      cases tables.isRecursive v.ident.name with
      | true =>
        have expanded := expands v text written nodes frames deep
        refine leads_bind expanded (fun out => ?_) s
        exact leads_pure fun s => .refl
      | false => exact .refl
  · intro test p next same s
    simp only [Point.decide, Environment.ofTables, pure_bind]
    cases tables.condition? test.ident.name with
    | none =>
      rw [Point.stop, same]
      exact .refl
    | some holds => exact .refl

/-- With so many levels of expansion left as the limit leaves, the steps render a template. -/
theorem leads_renderWithin (left : Nat) (t : Template) (frames : List Frame)
    (room : Frame.expansions frames + left = limit) :
    Leads tables limit (.running ⟨t.source, "", t.nodes, frames⟩)
      (t.renderWithin (.ofTables tables Task.expand) limit left)
      fun out => .running ⟨t.source, out, [], frames⟩ := by
  induction left generalizing t frames with
  | zero =>
    refine leads_renderWith (fun v text written nodes frames' deep => ?_) rfl
    refine leads_throw fun s => ?_
    have full : limit ≤ Frame.expansions frames' := by omega
    rw [Point.descend, Point.expansions, if_pos full]
    exact .refl
  | succ left ih =>
    refine leads_renderWith (fun v text written nodes frames' deep => ?_) rfl
    let p : Point := ⟨t.source, written, .value v :: nodes, frames'⟩
    have fetched : Leads tables limit (p.descend limit v text nodes)
        (Task.expand v.ident.name (limit - left) text)
        fun t => .running (p.expand v nodes t) := by
      intro s
      have free : ¬ limit ≤ Frame.expansions frames' := by omega
      have next : limit - left = Frame.expansions frames' + 1 := by omega
      rw [Point.descend, Point.expansions, if_neg free, next]
    refine leads_bind fetched fun t' => ?_
    have below := ih t' (.expansion v.conversions t.source written nodes :: frames')
      (by simp only [Frame.expansions]; omega)
    exact below.tail fun out s => .of_advance .refl

/-- The steps from the beginning of a template end with what its evaluation comes to. -/
theorem Task.evaluate_reaches (tables : Tables) (t : Template) (s : Session) :
    Reaches tables s.engine.maxDepth (.running (.start t) s)
      (.done ((evaluate tables t).run.run s).1 ((evaluate tables t).run.run s).2) := by
  let task : Task String := t.render (.ofTables tables Task.expand) s.engine.maxDepth
  have rendered : Leads tables s.engine.maxDepth (.running (.start t)) task
      fun out => .done (.ok out) :=
    (leads_renderWithin s.engine.maxDepth t [] (Nat.zero_add _)).tail
      fun out s => .of_advance .refl
  have reached := rendered s
  have same : (evaluate tables t).run.run s = task.run.run s := by
    rw [evaluate, run_get_bind]
    rfl
  rw [same]
  cases ran : task.run.run s with
  | mk result s' =>
    rw [ran] at reached
    cases result <;> exact reached

/-- The steps from the beginning of a template end with what an engine makes of it. -/
theorem evaluate_reaches (e : Engine) (tables : Tables) (t : Template) :
    ∃ result s, e.evaluate t tables = ⟨result, s.engine, s.records.reverse⟩ ∧
      Reaches tables e.maxDepth (.running ⟨t.source, "", t.nodes, []⟩ { engine := e })
        (.done result s) :=
  ⟨_, _, rfl, Task.evaluate_reaches tables t { engine := e }⟩

end

end TextTemplate.Engine
