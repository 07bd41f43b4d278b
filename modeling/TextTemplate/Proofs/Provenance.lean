import TextTemplate.Proofs.Sessions

/-!
# Where parsed texts come from

An engine reads the sources that it is given, and the values of recursive names where rendering
comes to a value tag of such a name. No other text is read as a template, whatever it contains.
-/

namespace TextTemplate.Engine

/-! ### Tags and their sources -/

def TagsOf (source : String) (nodes : List Node) : Prop :=
  ∃ t, Template.parse source = .ok t ∧ Node.valuesAll nodes ⊆ Node.valuesAll t.nodes

theorem TagsOf.mono {source : String} {nodes nodes' : List Node} (h : TagsOf source nodes)
    (less : Node.valuesAll nodes' ⊆ Node.valuesAll nodes) : TagsOf source nodes' := by
  obtain ⟨t, read, within⟩ := h
  exact ⟨t, read, List.Subset.trans less within⟩

/-- At a point in the source, with these nodes to follow, all value tags to come stand in the
sources of their templates. -/
def Authentic (source : String) (nodes : List Node) : List Frame → Prop
  | [] => TagsOf source nodes
  | .branch _ _ behind :: frames => TagsOf source nodes ∧ Authentic source behind frames
  | .expansion _ outer _ behind :: frames => TagsOf source nodes ∧ Authentic outer behind frames

section
variable {source : String} {node : Node} {nodes nodes' branch : List Node} {frames : List Frame}

theorem Authentic.tags (h : Authentic source nodes frames) : TagsOf source nodes := by
  cases frames with
  | nil => exact h
  | cons frame frames => cases frame <;> exact h.1

theorem Authentic.mono (h : Authentic source nodes frames)
    (less : Node.valuesAll nodes' ⊆ Node.valuesAll nodes) : Authentic source nodes' frames := by
  cases frames with
  | nil => exact h.tags.mono less
  | cons frame frames =>
    cases frame with
    | branch | expansion => exact ⟨h.tags.mono less, h.2⟩

theorem values_branch (member : branch ∈ branchesOf node) :
    Node.valuesAll branch ⊆ node.values := by
  cases node with
  | text | value | probe => cases member
  | guard test yes =>
    cases List.mem_singleton.mp member
    exact List.Subset.refl _
  | choice test yes no =>
    rcases List.mem_cons.mp member with rfl | last
    · exact List.subset_append_left _ _
    · cases List.mem_singleton.mp last
      exact List.subset_append_right _ _

end

def Config.Authentic : Config → Prop
  | running p s => Engine.Authentic p.source p.nodes p.frames ∧ s.engine.Coherent
  | done _ _ => True

section
variable {tables : Tables} {limit : Nat} {p : Point} {s : Session}

theorem authentic_descend (h : Authentic p.source p.nodes p.frames) (coherent : s.engine.Coherent)
    {v : Value} {nodes : List Node} {text : String} (calls : p.Calls tables v nodes text) :
    (Config.settle (fun t => .running (p.expand v nodes t))
      ((Task.expand v.ident.name (p.expansions + 1) text).run.run s)).Authentic := by
  -- Kept or not, what is fetched is what the text reads as.
  obtain ⟨s', ran, coherent', -⟩ := Task.hasResult_fetch text
    { s with records := .expanding v.ident.name (p.expansions + 1) :: s.records } coherent
  rw [Task.run_expand, ran]
  cases read : Template.parse text with
  | error e => trivial
  | ok t =>
    cases Template.source_of_parse read
    rw [calls.ahead] at h
    refine ⟨⟨⟨t, read, List.Subset.refl _⟩, ?_⟩, coherent'⟩
    exact h.mono (List.subset_append_right _ _)

/-- Each step stays with tags that stand in their sources. -/
theorem authentic_advance (h : (Config.running p s).Authentic) :
    (p.advance tables limit s).Authentic := by
  obtain ⟨h, coherent⟩ := h
  have advanced := Point.advances_advance tables limit p s
  generalize p.advance tables limit s = c at advanced
  cases advanced with
  | write added ahead =>
    rw [ahead] at h
    exact ⟨h.mono (List.subset_append_right _ _), coherent⟩
  | enter test ahead member =>
    rw [ahead] at h
    refine ⟨⟨h.tags.mono ?_, h.mono (List.subset_append_right _ _)⟩, coherent⟩
    exact List.Subset.trans (values_branch member) (List.subset_append_left _ _)
  | descend calls free => exact authentic_descend h coherent calls
  | leave ahead | resume ahead =>
    rw [ahead] at h
    exact ⟨h.2, coherent⟩
  | finish => trivial

theorem authentic_reaches {c c' : Config} (reached : Reaches tables limit c c')
    (h : c.Authentic) : c'.Authentic := by
  induction reached with
  | refl => exact h
  | tail _ step ih =>
    cases step with
    | advance p s => exact authentic_advance ih

end

/-! ### What is read on the way -/

/-- From the one session to the other, only such texts are read, and no others come to be kept. -/
structure Session.Reads (origin : String → Prop) (s s' : Session) : Prop where
  records : ∃ new, s'.records = new ++ s.records ∧ ∀ text, .miss text ∈ new → origin text
  keys : ∀ key ∈ s'.engine.cache, key ∈ s.engine.cache ∨ origin key

namespace Session

variable {origin origin' : String → Prop} {s s' s'' : Session}

theorem Reads.refl (s : Session) : s.Reads origin s :=
  ⟨⟨[], rfl, fun _ member => nomatch member⟩, fun _ kept => .inl kept⟩

theorem Reads.trans (h : s.Reads origin s') (h' : s'.Reads origin s'') : s.Reads origin s'' := by
  obtain ⟨⟨new, added, first⟩, keys⟩ := h
  obtain ⟨⟨new', added', second⟩, keys'⟩ := h'
  refine ⟨⟨new' ++ new, ?_, fun text member => ?_⟩, fun key kept => ?_⟩
  · rw [added', added, List.append_assoc]
  · rcases List.mem_append.mp member with member | member
    · exact second text member
    · exact first text member
  · rcases keys' key kept with kept | from'
    · exact keys key kept
    · exact .inr from'

theorem Reads.mono (h : s.Reads origin s') (implies : ∀ text, origin text → origin' text) :
    s.Reads origin' s' := by
  obtain ⟨⟨new, added, first⟩, keys⟩ := h
  exact ⟨⟨new, added, fun text member => implies text (first text member)⟩,
    fun key kept => (keys key kept).imp_right (implies key)⟩

theorem reads_record {r : Record} (other : ∀ text, r ≠ .miss text) :
    s.Reads origin { s with records := r :: s.records } := by
  refine ⟨⟨[r], rfl, fun text member => ?_⟩, fun _ kept => .inl kept⟩
  exact absurd (List.mem_singleton.mp member).symm (other text)

end Session

theorem mem_keep {e : Engine} {t : Template} {key : String} (kept : key ∈ (e.keep t).cache) :
    key ∈ e.cache ∨ key = t.source := by
  unfold keep at kept
  split at kept
  · exact .inl kept
  · rcases Std.ExtTreeMap.mem_insert.mp kept with same | old
    · exact .inr (Std.LawfulEqCmp.compare_eq_iff_eq.mp same).symm
    · split at old
      · exact absurd old Std.ExtTreeMap.not_mem_empty
      · exact .inl old

theorem miss_not_mem_clearing (e : Engine) (source text : String) :
    .miss text ∉ e.clearing source := by
  unfold clearing
  split <;> simp

theorem reads_fetch (source : String) (s : Session) :
    s.Reads (· = source) ((Task.fetch source).run.run s).2 := by
  have fetched := Task.fetches_fetch source s
  generalize (Task.fetch source).run.run s = outcome at fetched
  have missed : s.Reads (· = source) { s with records := .miss source :: s.records } := by
    refine ⟨⟨[.miss source], rfl, fun text member => ?_⟩, fun _ kept => .inl kept⟩
    cases List.mem_singleton.mp member
    rfl
  cases fetched with
  | kept _ => exact Session.reads_record fun _ => nofun
  | unread _ _ => exact missed
  | read _ read =>
    refine missed.trans ⟨⟨s.engine.clearing source, rfl, fun text member => ?_⟩, fun key kept => ?_⟩
    · exact absurd member (miss_not_mem_clearing _ source text)
    · exact (mem_keep kept).imp_right fun same => same.trans (Template.source_of_parse read)

/-- The steps come to a point at which the text is the value of a recursive name, in a tag which
stands in a source that is being rendered there. -/
def CallsFor (tables : Tables) (limit : Nat) (start : Config) (text : String) : Prop :=
  ∃ p s v nodes, Reaches tables limit start (.running p s) ∧ p.Calls tables v nodes text ∧
    ∃ t, Template.parse p.source = .ok t ∧ v ∈ Node.valuesAll t.nodes

section
variable {tables : Tables} {limit : Nat}

theorem reads_reaches {start c : Config} (h : start.Authentic)
    (reached : Reaches tables limit start c) :
    start.session.Reads (CallsFor tables limit start) c.session := by
  induction reached with
  | refl => exact .refl _
  | tail reached step ih =>
    cases step with
    | advance p s =>
      rcases p.session_advance tables limit s with same | ⟨v, nodes, text, calls, -, fetched⟩
      · rw [same]
        exact ih
      · obtain ⟨t, read, within⟩ := (authentic_reaches reached h).1.tags
        have own : v ∈ Node.valuesAll t.nodes := within (by
          rw [calls.ahead]
          exact List.mem_cons_self)
        rw [fetched, Task.run_expand]
        have recorded : s.Reads (CallsFor tables limit start)
            { s with records := .expanding v.ident.name (p.expansions + 1) :: s.records } :=
          Session.reads_record fun _ => nofun
        refine ih.trans (recorded.trans ((reads_fetch text _).mono ?_))
        rintro _ rfl
        exact ⟨p, s, v, nodes, reached, calls, t, read, own⟩

theorem reads_evaluate {s : Session} (coherent : s.engine.Coherent) (tables : Tables)
    {t : Template} (read : Template.parse t.source = .ok t) :
    s.Reads (CallsFor tables s.engine.maxDepth (.running (.start t) s))
      ((Task.evaluate tables t).run.run s).2 := by
  have authentic : (Config.running (.start t) s).Authentic :=
    ⟨⟨t, read, List.Subset.refl _⟩, coherent⟩
  exact reads_reaches authentic (Task.evaluate_reaches tables t s)

end

/-! ### Requests -/

def Request.source? : Request → Option String
  | .compile source | .format source _ => some source
  | _ => none

namespace Client

def records (c : Client) : Request → List Record
  | .setMaxDepth _ | .setCapacity _ | .clearCache => []
  | .compile source => (c.engine.compile source).records
  | .format source bindings => (c.engine.format source bindings).records
  | .render place bindings =>
    match c.held[place]? with
    | none => []
    | some t => (c.engine.render t bindings).records
  | .evaluate place tables =>
    match c.held[place]? with
    | none => []
    | some t => (c.engine.evaluate t tables).records

inductive Renders (c : Client) : Request → Template → Tables → Session → Prop where
  | format {source : String} {bindings : Bindings} {t : Template} {s : Session} :
      (Task.fetch source).run.run { engine := c.engine } = (.ok t, s) →
      Renders c (.format source bindings) t bindings.resolve s
  | render {place : Nat} {bindings : Bindings} {t : Template} : c.held[place]? = some t →
      Renders c (.render place bindings) t bindings.resolve { engine := c.engine }
  | evaluate {place : Nat} {tables : Tables} {t : Template} : c.held[place]? = some t →
      Renders c (.evaluate place tables) t tables { engine := c.engine }

/-- The reasons to read a text when the request is served: the request passes it, or rendering
calls for it. -/
inductive Origin (c : Client) (request : Request) (text : String) : Prop where
  | passed : request.source? = some text → Origin c request text
  | called {t : Template} {tables : Tables} {s : Session} : c.Renders request t tables s →
      CallsFor tables s.engine.maxDepth (.running (.start t) s) text → Origin c request text

structure Faithful (c : Client) : Prop where
  coherent : c.engine.Coherent
  held : ∀ t ∈ c.held, Template.parse t.source = .ok t

section
variable {c : Client}

theorem faithful_serve (h : c.Faithful) (request : Request) : (c.serve request).2.Faithful := by
  refine ⟨stable_serve stable_coherent request h.coherent, ?_⟩
  cases request with
  | compile source =>
    intro t member
    rcases List.mem_append.mp member with old | new
    · exact h.held t old
    · obtain ⟨s', ran, -⟩ := Task.hasResult_fetch source { engine := c.engine } h.coherent
      rw [compile, run_eq, ran, Option.mem_toList] at new
      cases read : Template.parse source with
      | error e =>
        rw [read] at new
        cases new
      | ok t' =>
        rw [read] at new
        cases new
        cases Template.source_of_parse read
        exact read
  | render place bindings | evaluate place tables =>
    rw [serve]
    cases c.held[place]? <;> exact h.held
  | _ => exact h.held

theorem faithful_serveAll (h : c.Faithful) (requests : List Request) :
    (c.serveAll requests).2.Faithful :=
  invariant_serveAll (r := Faithful) (fun _ request held => faithful_serve held request) requests h

/-! ### Origins -/

theorem origins_run {α : Type} {origin : String → Prop} {e : Engine} {task : Task α}
    (reads : Session.Reads origin { engine := e } (task.run.run { engine := e }).2) :
    (∀ text, .miss text ∈ (e.run task).records → origin text) ∧
      ∀ key ∈ (e.run task).engine.cache, key ∈ e.cache ∨ origin key := by
  obtain ⟨⟨new, added, all⟩, keys⟩ := reads
  rw [List.append_nil] at added
  refine ⟨fun text member => all text ?_, keys⟩
  rw [run_eq, added] at member
  exact List.mem_reverse.mp member

theorem reads_format (h : c.Faithful) (source : String) (bindings : Bindings) :
    Session.Reads (c.Origin (.format source bindings)) { engine := c.engine }
      ((Task.format source bindings).run.run { engine := c.engine }).2 := by
  have fetched : Session.Reads (c.Origin (.format source bindings)) { engine := c.engine }
      ((Task.fetch source).run.run { engine := c.engine }).2 := by
    refine (reads_fetch source _).mono ?_
    rintro _ rfl
    exact .passed rfl
  -- The rendering starts from the session that the fetch leaves.
  obtain ⟨s, ran, coherent, -⟩ := Task.hasResult_fetch source { engine := c.engine } h.coherent
  rw [ran] at fetched
  cases read : Template.parse source with
  | error e =>
    rw [read] at ran
    rwa [Task.format, run_bind_error ran]
  | ok t =>
    rw [read] at ran
    cases Template.source_of_parse read
    rw [Task.format, run_bind_ok ran]
    exact fetched.trans ((reads_evaluate coherent _ read).mono fun _ => .called (.format ran))

theorem origins_idle {request : Request} (none : c.records request = [])
    (less : ∀ key ∈ (c.serve request).2.engine.cache, key ∈ c.engine.cache) :
    (∀ text, .miss text ∈ c.records request → c.Origin request text) ∧
      ∀ key ∈ (c.serve request).2.engine.cache, key ∈ c.engine.cache ∨ c.Origin request key := by
  refine ⟨fun text member => ?_, fun key kept => .inl (less key kept)⟩
  rw [none] at member
  cases member

/-- What is read to serve a request has an origin in it, and so has all that comes to be kept. -/
theorem origins_serve (h : c.Faithful) (request : Request) :
    (∀ text, .miss text ∈ c.records request → c.Origin request text) ∧
      ∀ key ∈ (c.serve request).2.engine.cache, key ∈ c.engine.cache ∨ c.Origin request key := by
  cases request with
  | setMaxDepth depth => exact origins_idle rfl fun _ kept => kept
  | setCapacity capacity =>
    refine origins_idle rfl fun key kept => ?_
    simp only [serve, setCapacity] at kept
    split at kept
    · exact absurd kept Std.ExtTreeMap.not_mem_empty
    · exact kept
  | clearCache => exact origins_idle rfl fun _ kept => absurd kept Std.ExtTreeMap.not_mem_empty
  | compile source =>
    have fetched : Session.Reads (c.Origin (.compile source)) { engine := c.engine }
        ((Task.fetch source).run.run { engine := c.engine }).2 := by
      refine (reads_fetch source _).mono ?_
      rintro _ rfl
      exact .passed rfl
    exact origins_run fetched
  | format source bindings => exact origins_run (reads_format h source bindings)
  | render place bindings =>
    cases found : c.held[place]? with
    | none => exact origins_idle (by simp [records, found]) (by simp [serve, found])
    | some t =>
      have read := h.held t (List.mem_of_getElem? found)
      simp only [records, serve, found]
      refine origins_run ((reads_evaluate h.coherent bindings.resolve read).mono fun _ => ?_)
      exact .called (.render found)
  | evaluate place tables =>
    cases found : c.held[place]? with
    | none => exact origins_idle (by simp [records, found]) (by simp [serve, found])
    | some t =>
      have read := h.held t (List.mem_of_getElem? found)
      simp only [records, serve, found]
      refine origins_run ((reads_evaluate h.coherent tables read).mono fun _ => ?_)
      exact .called (.evaluate found)

theorem origins_serveAll (h : c.Faithful) (requests : List Request) :
    ∀ key ∈ (c.serveAll requests).2.engine.cache, key ∈ c.engine.cache ∨
      ∃ before request after, requests = before ++ request :: after ∧
        (c.serveAll before).2.Origin request key := by
  induction requests generalizing c with
  | nil => exact fun _ kept => .inl kept
  | cons request requests ih =>
    intro key kept
    rcases ih (faithful_serve h request) key kept with kept | ⟨before, later, after, rfl, origin⟩
    · refine ((origins_serve h request).2 key kept).imp_right fun origin => ?_
      exact ⟨[], request, requests, rfl, origin⟩
    · exact .inr ⟨request :: before, later, after, rfl, origin⟩

theorem faithful_new : Faithful {} :=
  ⟨coherent_of_empty rfl, List.forall_mem_nil _⟩

end

/-- Whatever has been asked of an engine, a text that it reads to serve the next request is passed
by this request, or is the value of a recursive name in a tag that rendering comes to. Every text
under which a template is kept was once read for such a reason. -/
theorem origin_of_parsed (requests : List Request) :
    let c := (serveAll {} requests).2
    (∀ request text, .miss text ∈ c.records request → c.Origin request text) ∧
      ∀ key ∈ c.engine.cache, ∃ before request after, requests = before ++ request :: after ∧
        (serveAll {} before).2.Origin request key := by
  refine ⟨fun request => (origins_serve (faithful_serveAll faithful_new requests) request).1, ?_⟩
  intro key kept
  rcases origins_serveAll faithful_new requests key kept with none | origin
  · exact absurd none Std.ExtTreeMap.not_mem_empty
  · exact origin

theorem origin_of_parsed_literal :
    let bindings := ((Bindings.empty.insert "a" (.value "%[r]%")).insert "r"
      (.value "x")).insertRecursive "r"
    let request : Request := .format "%[a]%%[r]%" bindings
    records {} request = [.miss "%[a]%%[r]%", .expanding "r" 1, .miss "x"] ∧
      Origin {} request "x" := by
  have recorded : records {} (.format "%[a]%%[r]%" (((Bindings.empty.insert "a"
      (.value "%[r]%")).insert "r" (.value "x")).insertRecursive "r")) =
      [.miss "%[a]%%[r]%", .expanding "r" 1, .miss "x"] := by decide +kernel
  intro bindings request
  have last : .miss "x" ∈ records {} request := by
    rw [recorded]
    simp
  exact ⟨recorded, (origin_of_parsed []).1 request "x" last⟩

end Client

end TextTemplate.Engine
