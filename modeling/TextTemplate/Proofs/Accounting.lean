import TextTemplate.Proofs.Capacity
import TextTemplate.Proofs.Faults
import TextTemplate.Proofs.Outcomes
import TextTemplate.Proofs.Provenance

/-!
# What records tell of the cache

The records of a request tell how many templates are kept after it, from how many were kept before
it: a source that is read adds its template, and room is made when the cache is full. They tell
which values are expanded, and whether the request stops at a source that does not compile.
-/

namespace TextTemplate

def ErrorKind.ofReading : ErrorKind → Bool
  | .malformed | .unknownConversion => true
  | .unknownVariable | .unknownCondition | .recursionLimit => false

namespace Engine

/-! ### Walking through records -/

def Record.isMiss : Record → Bool
  | .miss _ => true
  | _ => false

def added (stopped : Bool) (later : List Record) : Nat :=
  if stopped && !later.any Record.isMiss then 0 else 1

/-- How many templates are kept after such records, if so many were kept before them. The last
reading of a request that stops at a source adds none. Records make no sense if room is made other
than for a source that is read, or other than in a full cache. -/
def tally (capacity : Nat) (stopped : Bool) : (count : Nat) → List Record → Option Nat
  | count, [] => some count
  | count, .miss _ :: .full entries :: later =>
    if entries = capacity ∧ entries = count then
      tally capacity stopped (0 + added stopped later) later
    else none
  | count, .miss _ :: later => tally capacity stopped (count + added stopped later) later
  | _, .full _ :: _ => none
  | count, .hit _ :: later => tally capacity stopped count later
  | count, .expanding _ _ :: later => tally capacity stopped count later

/-- The record is of looking for a source in the cache, and shows how many bytes the source has. -/
inductive Record.LooksFor (source : String) : Record → Prop where
  | hit : (hit source).line = s!"TRACE template cache hit ({source.utf8ByteSize} bytes)" →
      LooksFor source (hit source)
  | miss : (miss source).line = s!"TRACE template cache miss ({source.utf8ByteSize} bytes)" →
      LooksFor source (miss source)

/-- The record right after each expansion is of looking for the value of the name in the cache. -/
def Explained (tables : Tables) : List Record → Prop
  | [] => True
  | .expanding name _ :: later =>
    (∃ text r, tables.value? name = some text ∧ later.head? = some r ∧ r.LooksFor text) ∧
    Explained tables later
  | _ :: later => Explained tables later

def EndsUnread (records : List Record) : Prop :=
  ∃ source, records.getLast? = some (.miss source) ∧ ¬ Compiles source

/-- The records account for what has become of the one engine, and for whether this stopped at a
source. -/
structure Accounted (tables : Tables) (e : Engine) (records : List Record) (stopped : Bool)
    (e' : Engine) : Prop where
  count : tally e.capacity stopped e.cached records = some e'.cached
  explained : Explained tables records
  stopped : stopped = true ↔ EndsUnread records

theorem accounted_nil (tables : Tables) (e : Engine) : Accounted tables e [] false e :=
  ⟨rfl, trivial, by simp [EndsUnread]⟩

section
variable {capacity : Nat} {stopped : Bool} {tables : Tables} {new more : List Record}

theorem any_isMiss_of_endsUnread (h : EndsUnread new) : new.any Record.isMiss = true := by
  obtain ⟨source, last, -⟩ := h
  exact List.any_eq_true.mpr ⟨.miss source, List.mem_of_getLast? last, rfl⟩

/-- A later reading takes over from the last one before it. -/
theorem added_append (read : stopped = true → more.any Record.isMiss = true) :
    added stopped (new ++ more) = added false new := by
  cases stopped with
  | false => rfl
  | true => simp [added, List.any_append, read rfl]

theorem tally_append {count between total : Nat}
    (first : tally capacity false count new = some between)
    (next : tally capacity stopped between more = some total)
    (read : stopped = true → more.any Record.isMiss = true) :
    tally capacity stopped count (new ++ more) = some total := by
  fun_induction tally capacity false count new with
  | case1 count =>
    cases first
    exact next
  | case2 count source entries later full ih =>
    rw [List.cons_append, List.cons_append, tally, if_pos full, added_append read]
    exact ih first
  | case3 => cases first
  | case4 count source later other ih =>
    -- What follows makes sense by itself, so it does not begin with making room for this source.
    have other' : ∀ entries later', later ++ more = .full entries :: later' → False := by
      intro entries later' same
      cases later with
      | nil =>
        cases same
        cases next
      | cons r later =>
        cases same
        exact other entries later rfl
    rw [List.cons_append, tally, added_append read]
    · exact ih first
    · exact other'
  | case5 => cases first
  | case6 count source later ih | case7 count name depth later ih => exact ih first

/-- Room is made in a full cache alone. -/
theorem eq_capacity_of_tally {count total entries : Nat}
    (counted : tally capacity stopped count new = some total) (member : .full entries ∈ new) :
    entries = capacity := by
  fun_induction tally capacity stopped count new with
  | case1 => cases member
  | case2 count source entries' later full ih =>
    rcases List.mem_cons.mp member with same | member
    · cases same
    rcases List.mem_cons.mp member with same | member
    · cases same
      exact full.1
    · exact ih counted member
  | case3 => cases counted
  | case4 count source later _ ih | case6 count source later ih | case7 count name depth later ih =>
    rcases List.mem_cons.mp member with same | member
    · cases same
    · exact ih counted member
  | case5 => cases counted

theorem explained_append (first : Explained tables new) (next : Explained tables more) :
    Explained tables (new ++ more) := by
  induction new with
  | nil => exact next
  | cons r later ih =>
    cases r with
    | expanding name depth =>
      obtain ⟨⟨text, r, bound, next, looks⟩, rest⟩ := first
      refine ⟨⟨text, r, bound, ?_, looks⟩, ih rest⟩
      show (later ++ more).head? = some r
      rw [List.head?_append, next, Option.some_or]
    | hit | miss | full => exact ih first

theorem endsUnread_append :
    EndsUnread (new ++ more) ↔ EndsUnread more ∨ more = [] ∧ EndsUnread new := by
  cases more with
  | nil => simp [EndsUnread]
  | cons r more => simp [EndsUnread]

end

/-! ### Tasks -/

def unread {α : Type} : Except Error α → Bool
  | .ok _ => false
  | .error e => e.kind.ofReading

theorem unread_of_parse {α : Type} {source : String} {e : Error}
    (failed : Template.parse source = .error e) : unread (α := α) (.error e) = true := by
  obtain ⟨-, shows⟩ := Template.parse_error failed
  rw [unread, Error.kind]
  rcases shows.cause.kind with kind | kind <;> rw [kind] <;> rfl

/-- From one session to the other, the records added account for the engine. -/
structure Session.Accounts (tables : Tables) (s : Session) (new : List Record) (stopped : Bool)
    (s' : Session) : Prop extends Accounted tables s.engine new stopped s'.engine where
  records : s'.records = new.reverse ++ s.records
  capacity : s'.engine.capacity = s.engine.capacity
  sized : s'.engine.Sized

theorem Session.Accounts.append {tables : Tables} {s s' s'' : Session} {new more : List Record}
    {stopped : Bool} (first : s.Accounts tables new false s')
    (next : s'.Accounts tables more stopped s'') :
    s.Accounts tables (new ++ more) stopped s'' where
  count := by
    have counted := next.count
    rw [first.capacity] at counted
    refine tally_append first.count counted fun stop => ?_
    exact any_isMiss_of_endsUnread (next.stopped.mp stop)
  explained := explained_append first.explained next.explained
  stopped := by
    have read : ¬ EndsUnread new := fun unread => Bool.false_ne_true (first.stopped.mpr unread)
    rw [endsUnread_append, next.stopped]
    simp [read]
  records := by rw [next.records, first.records, List.reverse_append, List.append_assoc]
  capacity := next.capacity.trans first.capacity
  sized := next.sized

def Task.Accounts {α : Type} (tables : Tables) (task : Task α) : Prop :=
  ∀ s : Session, s.engine.Sized → 0 < s.engine.capacity →
    ∃ new, s.Accounts tables new (unread (task.run.run s).1) (task.run.run s).2

namespace Task

variable {α β : Type} {tables : Tables}

theorem accounts_idle {task : Task α} (idle : ∀ s, (task.run.run s).2 = s)
    (read : ∀ s, unread (task.run.run s).1 = false) : task.Accounts tables := by
  intro s sized _
  rw [idle, read]
  exact ⟨[], accounted_nil tables s.engine, rfl, rfl, sized⟩

theorem accounts_pure (a : α) : Accounts tables (pure a) :=
  accounts_idle (fun _ => rfl) fun _ => rfl

theorem accounts_throw {e : Error} (other : e.kind.ofReading = false) :
    Accounts (α := α) tables (throw e) :=
  accounts_idle (fun _ => rfl) fun _ => other

theorem accounts_bind {task : Task α} {f : α → Task β} (first : task.Accounts tables)
    (next : ∀ a, (f a).Accounts tables) : Accounts tables (task >>= f) := by
  intro s sized positive
  obtain ⟨new, done⟩ := first s sized positive
  cases ran : task.run.run s with
  | mk result s' =>
    rw [ran] at done
    cases result with
    | error e =>
      rw [run_bind_error ran]
      exact ⟨new, done⟩
    | ok a =>
      rw [run_bind_ok ran]
      obtain ⟨more, done'⟩ := next a s' done.sized (done.capacity ▸ positive)
      exact ⟨new ++ more, done.append done'⟩

/-- A source that is read adds its template, after all others have gone if there is no room. -/
theorem accounts_read {s : Session} {t : Template} (sized : s.engine.Sized)
    (positive : 0 < s.engine.capacity) (new : t.source ∉ s.engine.cache)
    (compiles : Compiles t.source) :
    s.Accounts tables (.miss t.source :: s.engine.clearing t.source) false
      ⟨s.engine.keep t, s.engine.clearing t.source ++ .miss t.source :: s.records⟩ := by
  by_cases room : s.engine.cached < s.engine.capacity
  · have clear : s.engine.clearing t.source = [] := by
      simp [clearing, isFull, Nat.not_le_of_lt room]
    rw [clear]
    refine ⟨⟨?_, trivial, ?_⟩, rfl, capacity_keep _ _, sized_keep sized t⟩
    · rw [cached_keep_of_lt room new]
      rfl
    · simp [EndsUnread, compiles]
  · -- A cache without room is full to the brim, never beyond it.
    have full : s.engine.cached = s.engine.capacity := Nat.le_antisymm sized (Nat.le_of_not_lt room)
    have clear : s.engine.clearing t.source = [.full s.engine.cached] := by
      simp [clearing, isFull, full, positive, new]
    rw [clear]
    refine ⟨⟨?_, trivial, ?_⟩, rfl, capacity_keep _ _, sized_keep sized t⟩
    · rw [cached_keep_of_le positive (Nat.le_of_eq full.symm) new, tally, if_pos ⟨full, rfl⟩]
      rfl
    · simp [EndsUnread]

theorem fetch_accounts (tables : Tables) (source : String) {s : Session} (sized : s.engine.Sized)
    (positive : 0 < s.engine.capacity) :
    ∃ r more, r.LooksFor source ∧
      s.Accounts tables (r :: more) (unread ((fetch source).run.run s).1)
        ((fetch source).run.run s).2 := by
  have fetched := fetches_fetch source s
  generalize (fetch source).run.run s = outcome at fetched
  cases fetched with
  | kept _ =>
    refine ⟨.hit source, [], .hit rfl, ⟨rfl, trivial, ?_⟩, rfl, rfl, sized⟩
    simp [EndsUnread, unread]
  | unread _ failed =>
    refine ⟨.miss source, [], .miss rfl, ?_⟩
    rw [unread_of_parse failed]
    refine ⟨⟨rfl, trivial, ?_⟩, rfl, rfl, sized⟩
    simp [EndsUnread, Compiles, failed]
  | read none read =>
    cases Template.source_of_parse read
    refine ⟨_, _, .miss rfl, accounts_read sized positive ?_ ⟨_, read⟩⟩
    rw [Std.ExtTreeMap.mem_iff_isSome_getElem?, none]
    exact Bool.false_ne_true

theorem accounts_fetch (source : String) : (fetch source).Accounts tables := by
  intro s sized positive
  obtain ⟨r, more, -, done⟩ := fetch_accounts tables source sized positive
  exact ⟨r :: more, done⟩

theorem accounts_expand {name text : String} (bound : tables.value? name = some text)
    (depth : Nat) : (expand name depth text).Accounts tables := by
  intro s sized positive
  rw [run_expand]
  generalize begun : { s with records := .expanding name depth :: s.records } = s'
  have same : s'.engine = s.engine := by rw [← begun]
  obtain ⟨r, more, looks, done⟩ := fetch_accounts tables text (same ▸ sized) (same ▸ positive)
  refine ⟨.expanding name depth :: r :: more, ⟨?_, ?_, ?_⟩, ?_, ?_, done.sized⟩
  · exact same ▸ done.count
  · exact ⟨⟨text, r, bound, rfl, looks⟩, done.explained⟩
  · exact done.stopped
  · rw [done.records, ← begun]
    simp
  · exact done.capacity.trans (congrArg capacity same)

end Task

/-! ### Rendering -/

def accounting (tables : Tables) : Likeness Task Task where
  Alike task _ := task.Accounts tables
  pure a := Task.accounts_pure a
  bind first next := Task.accounts_bind first next

section
variable {tables : Tables} {fetch : String → Nat → String → Task Template}

theorem accounts_renderAll {host : Host Task} (value : ∀ v, (host.value v).Accounts tables)
    (condition : ∀ test, (host.condition test).Accounts tables) (nodes : List Node) :
    (Node.renderAll host nodes).Accounts tables := by
  have answers : Host.Alike (accounting tables) host host := ⟨value, condition, rfl⟩
  exact Node.alike_renderAll answers nodes

theorem accounts_renderWith {expand : Value → String → Task String}
    (expands : ∀ v text, tables.value? v.ident.name = some text → (expand v text).Accounts tables)
    (t : Template) : (t.renderWith (.ofTables tables fetch) expand).Accounts tables := by
  refine accounts_renderAll (fun v => ?_) (fun test => ?_) t.nodes
  · simp only [Environment.ofTables, pure_bind]
    cases bound : tables.value? v.ident.name with
    | none => exact Task.accounts_throw rfl
    | some text =>
      cases tables.isRecursive v.ident.name with
      | true => exact Task.accounts_bind (expands v text bound) fun _ => Task.accounts_pure _
      | false => exact Task.accounts_pure _
  · simp only [Environment.ofTables, pure_bind]
    cases tables.condition? test.ident.name with
    | none => exact Task.accounts_throw rfl
    | some holds => exact Task.accounts_pure _

theorem accounts_renderWithin (limit left : Nat) (t : Template) :
    (t.renderWithin (.ofTables tables Task.expand) limit left).Accounts tables := by
  induction left generalizing t with
  | zero => exact accounts_renderWith (fun _ _ _ => Task.accounts_throw rfl) t
  | succ left ih =>
    refine accounts_renderWith (fun v text bound => ?_) t
    exact Task.accounts_bind (Task.accounts_expand bound _) ih

theorem accounts_evaluate (t : Template) : (Task.evaluate tables t).Accounts tables := by
  intro s
  rw [Task.evaluate, Task.run_get_bind]
  exact accounts_renderWithin _ _ t s

theorem accounts_format (source : String) (bindings : Bindings) :
    (Task.format source bindings).Accounts bindings.resolve :=
  Task.accounts_bind (Task.accounts_fetch source) accounts_evaluate

end

/-! ### Requests -/

def Request.isWork : Request → Bool
  | .compile _ | .format _ _ | .render _ _ | .evaluate _ _ => true
  | .setMaxDepth _ | .setCapacity _ | .clearCache => false

def Request.tables : Request → Tables
  | .format _ bindings | .render _ bindings => bindings.resolve
  | .evaluate _ tables => tables
  | _ => {}

def Answer.unread : Answer → Bool
  | .template result => Engine.unread result
  | .text result => Engine.unread result
  | .done | .missing => false

theorem accounted_run {α : Type} {tables : Tables} {task : Task α} {e : Engine}
    (accounts : task.Accounts tables) (sized : e.Sized) (positive : 0 < e.capacity) :
    Accounted tables e (e.run task).records (unread (e.run task).result) (e.run task).engine := by
  obtain ⟨new, done⟩ := accounts { engine := e } sized positive
  rw [run_eq, done.records, List.append_nil, List.reverse_reverse]
  exact done.toAccounted

namespace Client

theorem accounted_serve {c : Client} (sized : c.engine.Sized) (positive : 0 < c.engine.capacity)
    {request : Request} (work : request.isWork = true) :
    Accounted request.tables c.engine (c.records request) (c.serve request).1.unread
      (c.serve request).2.engine := by
  cases request with
  | setMaxDepth | setCapacity | clearCache => cases work
  | compile source => exact accounted_run (Task.accounts_fetch source) sized positive
  | format source bindings => exact accounted_run (accounts_format source bindings) sized positive
  | render place bindings =>
    rw [records, serve]
    cases c.held[place]? with
    | none => exact accounted_nil _ _
    | some t => exact accounted_run (accounts_evaluate t) sized positive
  | evaluate place tables =>
    rw [records, serve]
    cases c.held[place]? with
    | none => exact accounted_nil _ _
    | some t => exact accounted_run (accounts_evaluate t) sized positive

/-- Whatever an engine with room for templates has been asked before, the records of the next
request account for the number of templates kept after it, for the values that are expanded, and
for whether the request stops at a source that does not compile. A record of making room shows the
capacity. -/
theorem records_account (requests : List Request) {request : Request}
    (work : request.isWork = true) (positive : 0 < (serveAll {} requests).2.engine.capacity) :
    let c := (serveAll {} requests).2
    Accounted request.tables c.engine (c.records request) (c.serve request).1.unread
        (c.serve request).2.engine ∧
      ∀ entries, .full entries ∈ c.records request → (Record.full entries).line =
        s!"DEBUG template cache full ({c.engine.capacity} entries), clearing" := by
  intro c
  have sized : c.engine.Sized := stable_serveAll stable_sized requests (sized_of_empty rfl)
  have accounted := accounted_serve sized positive work
  refine ⟨accounted, fun entries member => ?_⟩
  rw [eq_capacity_of_tally accounted.count member]
  rfl

theorem records_account_unread :
    let bindings := (Bindings.empty.insert "r" (.value "%]")).insertRecursive "r"
    let request : Request := .format "%[r]%" bindings
    let c := (serveAll {} [.setCapacity 1, .compile "a"]).2
    c.records request = [.miss "%[r]%", .full 1, .expanding "r" 1, .miss "%]"] ∧
      Accounted bindings.resolve c.engine (c.records request) true (c.serve request).2.engine ∧
      (Record.full 1).line = "DEBUG template cache full (1 entries), clearing" ∧
      (c.serve request).2.engine.cached = 1 := by
  have recorded : (serveAll {} [.setCapacity 1, .compile "a"]).2.records (.format "%[r]%"
      ((Bindings.empty.insert "r" (.value "%]")).insertRecursive "r")) =
      [.miss "%[r]%", .full 1, .expanding "r" 1, .miss "%]"] := by decide +kernel
  have stopped : ((serveAll {} [.setCapacity 1, .compile "a"]).2.serve (.format "%[r]%"
      ((Bindings.empty.insert "r" (.value "%]")).insertRecursive "r"))).1.unread = true := by
    decide +kernel
  have one : (serveAll {} [.setCapacity 1, .compile "a"]).2.engine.capacity = 1 := by
    decide +kernel
  have full : (serveAll {} [.setCapacity 1, .compile "a"]).2.engine.cached = 1 := by
    decide +kernel
  intro bindings request c
  have work : request.isWork = true := rfl
  have positive : 0 < c.engine.capacity := one ▸ Nat.one_pos
  obtain ⟨accounted, shown⟩ := records_account [.setCapacity 1, .compile "a"] work positive
  rw [stopped] at accounted
  have room : .full 1 ∈ c.records request := by
    rw [recorded]
    simp
  refine ⟨recorded, accounted, ?_, ?_⟩
  · have line := shown 1 room
    rwa [one] at line
  have counted := accounted.count
  rw [recorded, one, full] at counted
  have one' : tally 1 true 1 [.miss "%[r]%", .full 1, .expanding "r" 1, .miss "%]"] = some 1 := rfl
  exact (Option.some.inj (one'.symm.trans counted)).symm

end Client

end Engine

end TextTemplate
