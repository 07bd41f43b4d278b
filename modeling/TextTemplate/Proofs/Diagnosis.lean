import TextTemplate.Proofs.Faults
import TextTemplate.Proofs.Names
import TextTemplate.Proofs.Outcomes
import TextTemplate.Proofs.Places

/-!
# Diagnosis

Rendering raises an error only where it meets the cause of it. `Raised` tells what can be raised
from a source, and on which chain of expansions the error has come up.
-/

namespace TextTemplate
open Grammar Item

/-! ### What rendering meets -/

def Grammar.Heading.taken? (tables : Tables) (h : Heading) : Option Bool :=
  (tables.condition? h.name.key).map (· != h.negated)

def Grammar.Item.heading? : Item → Option Heading
  | .probe h | .guard h _ | .choice h _ _ => some h
  | _ => none

namespace Grammar.Gap

/-- Each condition around the place takes the branch in which the place is. -/
def Taken (tables : Tables) : Gap → Prop
  | here _ _ => True
  | inGuard _ h inner _ | inYes _ h inner _ _ => h.taken? tables = some true ∧ inner.Taken tables
  | inNo _ h _ inner _ => h.taken? tables = some false ∧ inner.Taken tables

def append (g : Gap) (items : List Item) : Gap :=
  match g with
  | here before after => here before (after ++ items)
  | inGuard before h inner after => inGuard before h inner (after ++ items)
  | inYes before h inner no after => inYes before h inner no (after ++ items)
  | inNo before h yes inner after => inNo before h yes inner (after ++ items)

@[simp] theorem fill_append (g : Gap) (items more : List Item) :
    (g.append more).fill items = g.fill items ++ more := by
  cases g <;> simp [append, fill]

@[simp] theorem left_append (g : Gap) (more : List Item) : (g.append more).left = g.left := by
  cases g <;> rfl

@[simp] theorem taken_append {tables : Tables} {g : Gap} {more : List Item} :
    (g.append more).Taken tables ↔ g.Taken tables := by
  cases g <;> rfl

@[simp] theorem taken_cons {tables : Tables} {item : Item} {g : Gap} :
    (g.cons item).Taken tables ↔ g.Taken tables := by
  cases g <;> rfl

end Grammar.Gap

/-- Rendering the source comes to the item behind `before`, as the tables decide the conditions. -/
def Meets (tables : Tables) (source : String) (before : List Char) (item : Item) : Prop :=
  Compiles source ∧
    ∃ g : Gap, Derives (g.fill [item]) source.toList [] ∧ g.left = before ∧ g.Taken tables

def Expands (tables : Tables) (source text : String) : Prop :=
  ∃ before t, Meets tables source before (.value t) ∧
    tables.isRecursive t.name.key = true ∧ tables.value? t.name.key = some text

/-- So many expansions, one in the other, lead from the one source to the other. -/
inductive Chain (tables : Tables) : Nat → String → String → Prop where
  | refl {source : String} : Chain tables 0 source source
  | expand {depth : Nat} {source text last : String} :
      Expands tables source text → Chain tables depth text last →
      Chain tables (depth + 1) source last

/-! ### Where trees fail -/

theorem error_of_bind {ε α β : Type} {x : Except ε α} {f : α → Except ε β} {e : ε}
    (h : (x >>= f) = .error e) : x = .error e ∨ ∃ a, x = .ok a ∧ f a = .error e := by
  cases x with
  | error e' =>
    cases h
    exact Or.inl rfl
  | ok a => exact Or.inr ⟨a, rfl, h⟩

theorem error_of_discard {ε α : Type} {x : Except ε α} {e : ε} (h : discard x = .error e) :
    x = .error e := by
  cases x <;> cases h
  rfl

/-- The surroundings answer the item, which begins at byte `start`, with an error. -/
def Host.Refuses (host : Host (Except Error)) (e : Error) (start : Nat) : Item → Prop
  | .value t => host.value (t.value start) = .error e
  | .probe h | .guard h _ | .choice h _ _ => host.condition (h.test start) = .error e
  | _ => False

def Host.Follows (host : Host (Except Error)) (tables : Tables) : Prop :=
  ∀ (h : Heading) (start : Nat) (holds : Bool),
    host.condition (h.test start) = .ok holds → h.taken? tables = some holds

section
variable {host : Host (Except Error)} {tables : Tables} {e : Error}

/-- Among the items, which begin at byte `start`, is one that is refused. -/
def Fails (host : Host (Except Error)) (tables : Tables) (e : Error) (start : Nat)
    (items : List Item) : Prop :=
  ∃ (g : Gap) (x : Item), items = g.fill [x] ∧ g.Taken tables ∧
    host.Refuses e (start + byteLength g.left) x

theorem fails_here {start : Nat} {item : Item} (refused : host.Refuses e start item) :
    Fails host tables e start [item] :=
  ⟨.here [] [], item, rfl, trivial, by simpa [Gap.left, spellAll] using refused⟩

theorem fails_append {start : Nat} {items : List Item} (h : Fails host tables e start items)
    (more : List Item) : Fails host tables e start (items ++ more) := by
  obtain ⟨g, x, rfl, taken, refused⟩ := h
  exact ⟨g.append more, x, by simp, by simpa using taken, by simpa using refused⟩

theorem fails_cons {start : Nat} {item : Item} {items : List Item}
    (h : Fails host tables e (start + byteLength item.spell) items) :
    Fails host tables e start (item :: items) := by
  obtain ⟨g, x, rfl, taken, refused⟩ := h
  refine ⟨g.cons item, x, by simp, by simpa using taken, ?_⟩
  simpa [Nat.add_assoc] using refused

theorem fails_inGuard {start : Nat} {h : Heading} {yes : List Item}
    (taken : h.taken? tables = some true)
    (inner : Fails host tables e (start + byteLength h.spell + 3) yes) :
    Fails host tables e start [.guard h yes] := by
  obtain ⟨g, x, rfl, taken', refused⟩ := inner
  refine ⟨.inGuard [] h g [], x, rfl, ⟨taken, taken'⟩, ?_⟩
  have place : start + byteLength (Gap.inGuard [] h g []).left =
      start + byteLength h.spell + 3 + byteLength g.left := by
    rw [Gap.byteLength_inGuard, spellAll, byteLength_nil]
    omega
  rwa [place]

theorem fails_inYes {start : Nat} {h : Heading} {yes no : List Item}
    (taken : h.taken? tables = some true)
    (inner : Fails host tables e (start + byteLength h.spell + 3) yes) :
    Fails host tables e start [.choice h yes no] := by
  obtain ⟨g, x, rfl, taken', refused⟩ := inner
  refine ⟨.inYes [] h g no [], x, rfl, ⟨taken, taken'⟩, ?_⟩
  have place : start + byteLength (Gap.inYes [] h g no []).left =
      start + byteLength h.spell + 3 + byteLength g.left := by
    rw [Gap.byteLength_inYes, spellAll, byteLength_nil]
    omega
  rwa [place]

theorem fails_inNo {start : Nat} {h : Heading} {yes no : List Item}
    (taken : h.taken? tables = some false)
    (inner : Fails host tables e
      (start + byteLength h.spell + 3 + byteLength (spellAll yes) + 3) no) :
    Fails host tables e start [.choice h yes no] := by
  obtain ⟨g, x, rfl, taken', refused⟩ := inner
  refine ⟨.inNo [] h yes g [], x, rfl, ⟨taken, taken'⟩, ?_⟩
  have place : start + byteLength (Gap.inNo [] h yes g []).left =
      start + byteLength h.spell + 3 + byteLength (spellAll yes) + 3 + byteLength g.left := by
    rw [Gap.byteLength_inNo, spellAll, byteLength_nil]
    omega
  rwa [place]

mutual

theorem fails_of_render (follows : host.Follows tables) (start : Nat) :
    ∀ item, Node.render host (node start item) = .error e → Fails host tables e start [item]
  | .char _, failed | .escape, failed | .percent, failed => by cases failed
  | .value t, failed => fails_here failed
  | .probe h, failed => by
    rcases error_of_bind failed with refused | ⟨_, _, failed⟩
    · exact fails_here (error_of_discard refused)
    · cases failed
  | .guard h yes, failed => by
    rcases error_of_bind failed with refused | ⟨holds, found, failed⟩
    · exact fails_here refused
    have taken := follows h start holds found
    cases holds with
    | false => cases failed
    | true =>
      rcases error_of_bind failed with inner | ⟨_, _, failed⟩
      · rw [Node.renderAll_merge] at inner
        exact fails_inGuard taken (fails_of_renderAll follows _ yes inner)
      · cases failed
  | .choice h yes no, failed => by
    rcases error_of_bind failed with refused | ⟨holds, found, failed⟩
    · exact fails_here refused
    have taken := follows h start holds found
    cases holds with
    | false =>
      rcases error_of_bind failed with inner | ⟨_, _, failed⟩
      · rw [Node.renderAll_merge] at inner
        exact fails_inNo taken (fails_of_renderAll follows _ no inner)
      · cases failed
    | true =>
      rcases error_of_bind failed with inner | ⟨_, _, failed⟩
      · rw [Node.renderAll_merge] at inner
        exact fails_inYes taken (fails_of_renderAll follows _ yes inner)
      · cases failed

/-- A sequence that fails has an item which is refused. -/
theorem fails_of_renderAll (follows : host.Follows tables) (start : Nat) :
    ∀ items, Node.renderAll host (nodeAll start items) = .error e → Fails host tables e start items
  | [], failed => by cases failed
  | item :: items, failed => by
    rcases error_of_bind failed with first | ⟨_, _, failed⟩
    · exact fails_append (fails_of_render follows start item first) items
    · rcases error_of_bind failed with tail | ⟨_, _, failed⟩
      · exact fails_cons (fails_of_renderAll follows _ items tail)
      · cases failed

end

end

/-! ### Where templates fail -/

/-- What rendering can raise from a source with so many of `limit` levels of expansion left. -/
inductive Raised (tables : Tables) (limit : Nat) : (left : Nat) → String → Error → Prop where
  | unread {left : Nat} {source : String} {e : Error} :
      Template.parse source = .error e → Raised tables limit left source e
  | unknownVariable {left : Nat} {source : String} {before : List Char} {t : Tag} :
      Meets tables source before (.value t) → tables.value? t.name.key = none →
      Raised tables limit left source
        ⟨⟨.unknownVariable t.name.key, (t.value (byteLength before)).ident.span⟩, source⟩
  | unknownCondition {left : Nat} {source : String} {before : List Char} {item : Item}
      {h : Heading} :
      Meets tables source before item → item.heading? = some h →
      tables.condition? h.name.key = none →
      Raised tables limit left source
        ⟨⟨.unknownCondition h.name.key, (h.test (byteLength before)).ident.span⟩, source⟩
  | recursionLimit {source text : String} {before : List Char} {t : Tag} :
      Meets tables source before (.value t) → tables.isRecursive t.name.key = true →
      tables.value? t.name.key = some text →
      Raised tables limit 0 source
        ⟨⟨.recursionLimit limit t.name.key, (t.value (byteLength before)).span⟩, source⟩
  | expanded {left : Nat} {source text : String} {e : Error} :
      Expands tables source text → Raised tables limit left text e →
      Raised tables limit (left + 1) source e

def tableHost (tables : Tables) (expand : Value → String → Except Error String)
    (source : String) : Host (Except Error) where
  value v :=
    match tables.value? v.ident.name with
    | none => .error ⟨⟨.unknownVariable v.ident.name, v.ident.span⟩, source⟩
    | some text =>
      if tables.isRecursive v.ident.name then do
        let text ← expand v text
        return Conversion.applyAll v.conversions text
      else .ok (Conversion.applyAll v.conversions text)
  condition test :=
    match tables.condition? test.ident.name with
    | none => .error ⟨⟨.unknownCondition test.ident.name, test.ident.span⟩, source⟩
    | some holds => .ok (holds != test.negated)
  layout := Test.layout

section
variable {tables : Tables} {limit left : Nat} {source : String} {t : Template} {e : Error}
  {fetch : String → Nat → String → Except Error Template}
  {expand : Value → String → Except Error String}

theorem renderWith_tables (t : Template) :
    t.renderWith (.ofTables tables fetch) expand =
      Node.renderAll (tableHost tables expand t.source) t.nodes := by
  refine congrArg (Node.renderAll · t.nodes) ?_
  simp only [tableHost, Host.mk.injEq]
  refine ⟨?_, ?_, rfl⟩
  · funext v
    simp only [Environment.ofTables, pure_bind]
    cases tables.value? v.ident.name with
    | none => rfl
    | some text => cases tables.isRecursive v.ident.name <;> rfl
  · funext test
    simp only [Environment.ofTables, pure_bind]
    cases tables.condition? test.ident.name <;> rfl

theorem tableHost_follows : (tableHost tables expand source).Follows tables := by
  intro h start holds found
  simp only [tableHost, Heading.test] at found
  rw [Heading.taken?]
  cases decided : tables.condition? h.name.key with
  | none =>
    rw [decided] at found
    cases found
  | some holds' =>
    rw [decided] at found
    cases found
    rfl

theorem raised_of_condition {before : List Char} {item : Item} {h : Heading}
    (meets : Meets tables source before item) (heading : item.heading? = some h)
    (refused : (tableHost tables expand source).condition (h.test (byteLength before)) =
      .error e) : Raised tables limit left source e := by
  simp only [tableHost] at refused
  split at refused
  · rename_i none
    cases refused
    exact .unknownCondition meets heading none
  · cases refused

/-- An error comes from a name that is not in the tables, or from an expansion. -/
theorem raised_of_renderWith (read : Template.parse source = .ok t)
    (failed : t.renderWith (.ofTables tables fetch) expand = .error e)
    (expansion : ∀ before tag text, Meets tables source before (.value tag) →
      tables.isRecursive tag.name.key = true → tables.value? tag.name.key = some text →
      expand (tag.value (byteLength before)) text = .error e → Raised tables limit left source e) :
    Raised tables limit left source e := by
  have compiles : Compiles source := ⟨t, read⟩
  obtain ⟨items, derived, room⟩ := compiles_iff.mp compiles
  cases read.symm.trans (parse_of_derives derived room)
  rw [renderWith_tables, Node.renderAll_merge] at failed
  obtain ⟨g, item, rfl, taken, refused⟩ := fails_of_renderAll tableHost_follows 0 items failed
  have meets : Meets tables source g.left item := ⟨compiles, g, derived, rfl, taken⟩
  rw [Nat.zero_add] at refused
  cases item with
  | value tag =>
    simp only [Host.Refuses, tableHost] at refused
    split at refused
    · rename_i none
      cases refused
      exact .unknownVariable meets none
    · rename_i text bound
      split at refused
      · rename_i recursive
        rcases error_of_bind refused with refused | ⟨_, _, refused⟩
        · exact expansion g.left tag text meets recursive bound refused
        · cases refused
      · cases refused
  | probe h | guard h _ | choice h _ _ => exact raised_of_condition meets rfl refused
  | _ => exact refused.elim

/-- An error that rendering a template comes to is one that can be raised from its source. -/
theorem raised_of_renderWithin (read : Template.parse source = .ok t)
    (failed : t.renderWithin (.ofTables tables fun _ _ text => Template.parse text) limit left =
      .error e) : Raised tables limit left source e := by
  induction left generalizing source t with
  | zero =>
    refine raised_of_renderWith read failed fun before tag text meets recursive bound refused => ?_
    cases Template.source_of_parse read
    cases refused
    exact .recursionLimit meets recursive bound
  | succ left ih =>
    refine raised_of_renderWith read failed fun before tag text meets recursive bound refused => ?_
    refine .expanded ⟨before, tag, meets, recursive, bound⟩ ?_
    rcases error_of_bind refused with unread | ⟨t', read', failed'⟩
    · exact .unread unread
    · exact ih read' failed'

theorem format_of_derives {items : List Item} (h : Derives items source.toList [])
    (room : depth items ≤ maxNesting) (bindings : Bindings) :
    format limit source bindings =
      Template.renderWithin (.ofTables bindings.resolve fun _ _ text => Template.parse text)
        limit limit ⟨source, Node.merge (nodeAll 0 items)⟩ := by
  rw [format, parse_of_derives h room]
  rfl

theorem raised_of_format {bindings : Bindings} (failed : format limit source bindings = .error e) :
    Raised bindings.resolve limit limit source e := by
  rcases error_of_bind failed with unread | ⟨t, read, failed⟩
  · exact .unread unread
  · exact raised_of_renderWithin read failed

end

/-! ### Errors that are true -/

structure Error.PointsAt (e : Error) (front text : List Char) : Prop where
  stands : ∃ rest, e.source.toList = front ++ (text ++ rest)
  span : e.span = .ofText (byteLength front) text

/-- What the error says of its source is true, and it shows at the cause. -/
structure Error.Holds (tables : Tables) (e : Error) : Prop where
  unread : e.kind = .malformed ∨ e.kind = .unknownConversion →
    Template.parse e.source = .error e ∧ e.identifier? = none
  unknownVariable : e.kind = .unknownVariable → ∃ before t,
    Meets tables e.source before (.value t) ∧ e.identifier? = some t.name.key ∧
      tables.value? t.name.key = none ∧ e.PointsAt (before ++ ['%', '[']) t.name.chars
  unknownCondition : e.kind = .unknownCondition → ∃ before item h,
    Meets tables e.source before item ∧ item.heading? = some h ∧
      e.identifier? = some h.name.key ∧ tables.condition? h.name.key = none ∧
      e.PointsAt (before ++ '%' :: '[' :: '%' :: (h.before ++ h.bang)) h.name.chars
  recursionLimit : e.kind = .recursionLimit → ∃ before t,
    Meets tables e.source before (.value t) ∧ e.identifier? = some t.name.key ∧
      (tables.value? t.name.key).isSome ∧ tables.isRecursive t.name.key = true ∧
      e.PointsAt before t.spell

section
variable {tables : Tables} {source : String} {before : List Char} {e : Error}

theorem stands_of_meets {item : Item} (meets : Meets tables source before item) :
    ∃ rest, source.toList = before ++ (item.spell ++ rest) := by
  obtain ⟨-, g, derived, rfl, -⟩ := meets
  refine ⟨g.right, ?_⟩
  rw [derived.spells, Gap.spell_fill]
  simp [spellAll]

theorem holds_of_unread (unread : Template.parse source = .error e) : e.Holds tables := by
  obtain ⟨rfl, shows⟩ := Template.parse_error unread
  have kind := shows.cause.kind
  refine ⟨fun _ => ⟨unread, shows.cause.identifier?⟩, fun other => ?_, fun other => ?_,
    fun other => ?_⟩ <;>
  · rw [Error.kind] at other
    rw [other] at kind
    rcases kind with kind | kind <;> cases kind

theorem holds_of_unknownVariable {t : Tag} (meets : Meets tables source before (.value t))
    (unbound : tables.value? t.name.key = none) :
    Error.Holds tables
      ⟨⟨.unknownVariable t.name.key, (t.value (byteLength before)).ident.span⟩, source⟩ := by
  obtain ⟨rest, same⟩ := stands_of_meets meets
  refine ⟨(by rintro (kind | kind) <;> cases kind), fun _ => ?_, by rintro ⟨⟩, by rintro ⟨⟩⟩
  refine ⟨before, t, meets, rfl, unbound, ⟨t.suffix ++ ']' :: '%' :: rest, ?_⟩, ?_⟩
  · simp [same, spell, Tag.spell]
  · simp [Tag.value, utf8Size_mark]

theorem holds_of_unknownCondition {item : Item} {h : Heading}
    (meets : Meets tables source before item) (heading : item.heading? = some h)
    (unbound : tables.condition? h.name.key = none) :
    Error.Holds tables
      ⟨⟨.unknownCondition h.name.key, (h.test (byteLength before)).ident.span⟩, source⟩ := by
  obtain ⟨rest, same⟩ := stands_of_meets meets
  obtain ⟨tail, spelled⟩ : ∃ tail, item.spell = h.spell ++ tail := by
    cases item <;> cases heading <;> exact ⟨_, rfl⟩
  refine ⟨(by rintro (kind | kind) <;> cases kind), by rintro ⟨⟩, fun _ => ?_, by rintro ⟨⟩⟩
  refine ⟨before, item, h, meets, heading, rfl, unbound,
    ⟨h.suffix ++ (h.after ++ (tail ++ rest)), ?_⟩, ?_⟩
  · simp [same, spelled, Heading.spell]
  · have place : byteLength before + 3 + byteLength h.before + byteLength h.bang =
        byteLength (before ++ '%' :: '[' :: '%' :: (h.before ++ h.bang)) := by
      simp [utf8Size_mark]
      omega
    rw [← place]
    rfl

theorem holds_of_recursionLimit {limit : Nat} {text : String} {t : Tag}
    (meets : Meets tables source before (.value t))
    (recursive : tables.isRecursive t.name.key = true)
    (bound : tables.value? t.name.key = some text) :
    Error.Holds tables
      ⟨⟨.recursionLimit limit t.name.key, (t.value (byteLength before)).span⟩, source⟩ := by
  refine ⟨(by rintro (kind | kind) <;> cases kind), by rintro ⟨⟩, by rintro ⟨⟩, fun _ => ?_⟩
  exact ⟨before, t, meets, rfl, by simp [bound], recursive, stands_of_meets meets, rfl⟩

/-- What is raised is true of a source that a chain of expansions leads to. -/
theorem holds_of_raised {limit left : Nat} (raised : Raised tables limit left source e) :
    ∃ depth ≤ left, Chain tables depth source e.source ∧ e.Holds tables ∧
      (e.kind = .recursionLimit → depth = left) := by
  induction raised with
  | unread unread =>
    have holds := @holds_of_unread tables _ _ unread
    obtain ⟨rfl, shows⟩ := Template.parse_error unread
    refine ⟨0, Nat.zero_le _, .refl, holds, fun other => ?_⟩
    have kind := shows.cause.kind
    rw [Error.kind] at other
    rw [other] at kind
    rcases kind with kind | kind <;> cases kind
  | unknownVariable meets unbound =>
    exact ⟨0, Nat.zero_le _, .refl, holds_of_unknownVariable meets unbound, by rintro ⟨⟩⟩
  | unknownCondition meets heading unbound =>
    exact ⟨0, Nat.zero_le _, .refl, holds_of_unknownCondition meets heading unbound, by rintro ⟨⟩⟩
  | recursionLimit meets recursive bound =>
    exact ⟨0, Nat.le_refl _, .refl, holds_of_recursionLimit meets recursive bound, fun _ => rfl⟩
  | expanded expands _ ih =>
    obtain ⟨depth, within, chain, holds, exact'⟩ := ih
    exact ⟨depth + 1, Nat.succ_le_succ within, .expand expands chain, holds,
      fun limited => congrArg (· + 1) (exact' limited)⟩

/-- An error of rendering is true of the source that it carries, which is the template itself or a
value that it has come to by expansions. -/
theorem format_error {limit : Nat} {bindings : Bindings}
    (failed : format limit source bindings = .error e) :
    ∃ depth ≤ limit, Chain bindings.resolve depth source e.source ∧
      e.Holds bindings.resolve ∧ (e.kind = .recursionLimit → depth = limit) :=
  holds_of_raised (raised_of_format failed)

theorem format_error_nested :
    let bindings := (Bindings.empty.insert "a" (.value "%[A]%")).insertRecursive "a"
    let e : Error := ⟨⟨.recursionLimit 1 "a", ⟨0, 5⟩⟩, "%[A]%"⟩
    format 1 "n%[a]%" bindings = .error e ∧ Chain bindings.resolve 1 "n%[a]%" "%[A]%" ∧
      e.Holds bindings.resolve := by
  intro bindings e
  let a : Tag := ⟨@Word.ofRun ['a'] rfl, none, by simp⟩
  let a' : Tag := ⟨@Word.ofRun ['A'] rfl, none, by simp⟩
  have outer : Derives [.char 'n', .value a] "n%[a]%".toList [] :=
    .char (by decide) (.value (t := a) .nil)
  have inner : Derives [.value a'] "%[A]%".toList [] := .value (t := a') .nil
  have key : foldName "a" = "a" := a.name.foldName_key
  have bound : bindings.resolve.value? "a" = some "%[A]%" := by
    simp [bindings, Bindings.insertRecursive, key]
  have recursive : bindings.resolve.isRecursive "a" = true := by
    simp [bindings, Bindings.insertRecursive, key]
  have nodes : Node.merge (nodeAll 0 [.char 'n', .value a]) =
      [.text "n", .value ⟨⟨"a", ⟨3, 4⟩⟩, [], ⟨1, 6⟩⟩] := rfl
  have nodes' : Node.merge (nodeAll 0 [.value a']) = [.value ⟨⟨"a", ⟨2, 3⟩⟩, [], ⟨0, 5⟩⟩] := rfl
  let env : Environment (Except Error) :=
    .ofTables bindings.resolve fun _ _ source => Template.parse source
  have deeper : Template.renderWithin env 1 0 ⟨"%[A]%", Node.merge (nodeAll 0 [.value a'])⟩ =
      .error e := by
    rw [Template.renderWithin, renderWith_tables, nodes']
    simp only [Node.renderAll, Node.render, tableHost, bound, recursive]
    rfl
  have fetched : env.fetch "a" 1 "%[A]%" = .ok ⟨"%[A]%", Node.merge (nodeAll 0 [.value a'])⟩ :=
    parse_of_derives inner (by decide)
  have failed : format 1 "n%[a]%" bindings = .error e := by
    rw [format_of_derives outer (by decide), Template.renderWithin, renderWith_tables, nodes]
    simp only [Node.renderAll, Node.render, tableHost, bound, recursive]
    rw [fetched]
    simp only [env] at deeper
    simp only [bind, Except.bind, deeper]
    rfl
  obtain ⟨depth, -, chain, holds, reached⟩ := format_error failed
  cases reached rfl
  exact ⟨failed, chain, holds⟩

end

end TextTemplate
