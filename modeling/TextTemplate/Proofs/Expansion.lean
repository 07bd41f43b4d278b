import TextTemplate.Proofs.Fronts

/-!
# Expansion in place

A tag of a recursive name comes to the same as the value of the name in its place, one level of
expansion deeper.
-/

namespace TextTemplate
open Grammar Item

/-! ### Results that stay -/

/-- What the one comes to, the other comes to as well. Errors may differ. -/
def results (ε : Type) : Likeness (Except ε) (Except ε) where
  Alike x y := ∀ a, x = .ok a → y = .ok a
  pure a := fun _ h => h
  bind := by
    intro α β x y f g same next b h
    cases x with
    | error e => cases h
    | ok a =>
      rw [same a rfl]
      exact next a b h

theorem results_refl {ε α : Type} (x : Except ε α) : (results ε).Alike x x :=
  fun _ h => h

theorem results_error {ε α : Type} (e : ε) (y : Except ε α) : (results ε).Alike (.error e) y :=
  fun _ h => nomatch h

theorem results_mapError {ε ε' α : Type} {x y : Except ε α} (h : (results ε).Alike x y)
    (f : ε → ε') : (results ε').Alike (x.mapError f) (y.mapError f) :=
  fun a same => mapError_eq_ok.mpr (h a (mapError_eq_ok.mp same))

/-! ### More levels of expansion -/

section
variable {tables : Tables} {limit limit' : Nat}

/-- A template keeps its result with more levels of expansion left. -/
theorem renderWithin_results {left left' : Nat} (more : left ≤ left') (t : Template) :
    (results Error).Alike
      (t.renderWithin (.ofTables tables fun _ _ text => Template.parse text) limit left)
      (t.renderWithin (.ofTables tables fun _ _ text => Template.parse text) limit' left') := by
  have env : Environment.Alike (results Error)
      (.ofTables tables fun _ _ text => Template.parse text)
      (.ofTables tables fun _ _ text => Template.parse text) :=
    ⟨fun _ => results_refl _, fun _ => results_refl _, fun _ => results_refl _,
      fun _ _ _ => results_refl _, rfl, fun _ => results_refl _⟩
  exact Template.alike_levels env more (fun _ _ _ => results_error _ _)
    (fun _ _ _ _ => results_refl _) t

theorem expansion_results (more : limit ≤ limit') (name text : String) :
    (results Cause).Alike (expansion limit tables name text)
      (expansion limit' tables name text) := by
  cases limit with
  | zero => exact results_error _ _
  | succ left =>
    cases limit' with
    | zero => omega
    | succ left' =>
      refine (results Cause).bind (results_refl _) fun t => ?_
      exact results_mapError (renderWithin_results (by omega) t) _

theorem bareHost_results (more : limit ≤ limit') :
    (bareHost limit tables).Alike (results Cause) (bareHost limit' tables) where
  value v := by
    simp only [bareHost]
    cases tables.value? v.ident.name with
    | none => exact results_refl _
    | some text =>
      cases tables.isRecursive v.ident.name with
      | true =>
        exact (results Cause).bind (expansion_results more _ text) fun _ => results_refl _
      | false => exact results_refl _
  condition test := results_refl _
  layout := rfl

end

/-! ### Items in a gap -/

def rendered (limit : Nat) (tables : Tables) (items : List Item) : Except Cause String :=
  Node.renderAll (bareHost limit tables) (nodeAll 0 items)

section
variable {limit limit' : Nat} {tables : Tables}

theorem rendered_append (xs ys : List Item) :
    rendered limit tables (xs ++ ys) = (do
      let x ← rendered limit tables xs
      let y ← rendered limit tables ys
      return x ++ y) := by
  rw [rendered, nodeAll_append, Node.renderAll_append, renderAll_placeless _ _ _ 0 ys]
  rfl

theorem rendered_guard (h : Heading) (yes : List Item) :
    rendered limit tables [.guard h yes] = (do
      if ← (bareHost limit tables).condition (h.test 0) then
        return (h.test 0).layout (← rendered limit tables yes)
      else return "") := by
  rw [rendered, nodeAll, nodeAll, Node.renderAll_singleton]
  simp only [node, Node.render, Node.renderAll_merge]
  rw [renderAll_placeless _ _ _ 0 yes]
  rfl

theorem rendered_choice (h : Heading) (yes no : List Item) :
    rendered limit tables [.choice h yes no] = (do
      if ← (bareHost limit tables).condition (h.test 0) then
        return (h.test 0).layout (← rendered limit tables yes)
      else return (h.test 0).layout (← rendered limit tables no)) := by
  rw [rendered, nodeAll, nodeAll, Node.renderAll_singleton]
  simp only [node, Node.render, Node.renderAll_merge]
  rw [renderAll_placeless _ _ _ 0 yes, renderAll_placeless _ _ _ 0 no]
  rfl

theorem rendered_results (more : limit ≤ limit') (items : List Item) :
    (results Cause).Alike (rendered limit tables items) (rendered limit' tables items) :=
  Node.alike_renderAll (bareHost_results more) _

theorem append_results {xs ys xs' ys' : List Item}
    (first : (results Cause).Alike (rendered limit tables xs) (rendered limit' tables ys))
    (second : (results Cause).Alike (rendered limit tables xs') (rendered limit' tables ys')) :
    (results Cause).Alike (rendered limit tables (xs ++ xs'))
      (rendered limit' tables (ys ++ ys')) := by
  rw [rendered_append, rendered_append]
  exact (results Cause).bind first fun _ => (results Cause).bind second fun _ => results_refl _

/-- A template keeps its result where other items come to the same in its gap. -/
theorem fill_results (more : limit ≤ limit') {xs ys : List Item}
    (inner : (results Cause).Alike (rendered limit tables xs) (rendered limit' tables ys))
    (g : Gap) :
    (results Cause).Alike (rendered limit tables (g.fill xs))
      (rendered limit' tables (g.fill ys)) := by
  have around {before after : List Item} {x y : Item}
      (one : (results Cause).Alike (rendered limit tables [x]) (rendered limit' tables [y])) :
      (results Cause).Alike (rendered limit tables (before ++ x :: after))
        (rendered limit' tables (before ++ y :: after)) := by
    have behind := append_results one (rendered_results more after)
    exact append_results (rendered_results more before) behind
  have laid {test : Test} {a b : Except Cause String} (same : (results Cause).Alike a b) :
      (results Cause).Alike (do return test.layout (← a)) (do return test.layout (← b)) :=
    (results Cause).bind same fun _ => results_refl _
  induction g with
  | here before after =>
    exact append_results (rendered_results more before)
      (append_results inner (rendered_results more after))
  | inGuard before h g after ih =>
    refine around ?_
    rw [rendered_guard, rendered_guard]
    refine (results Cause).bind (results_refl _) fun holds => ?_
    cases holds with
    | true => exact laid ih
    | false => exact results_refl _
  | inYes before h g no after ih =>
    refine around ?_
    rw [rendered_choice, rendered_choice]
    refine (results Cause).bind (results_refl _) fun holds => ?_
    cases holds with
    | true => exact laid ih
    | false => exact laid (rendered_results more no)
  | inNo before h yes g after ih =>
    refine around ?_
    rw [rendered_choice, rendered_choice]
    refine (results Cause).bind (results_refl _) fun holds => ?_
    cases holds with
    | true => exact laid (rendered_results more yes)
    | false => exact laid ih

end

/-! ### Tags of recursive names -/

def Grammar.Word.tag (w : Word) : Tag :=
  ⟨w, none, by simp⟩

section
variable {tables : Tables} {limit : Nat} {w : Word} {v : String} {items : List Item}

theorem rendered_recursive (bound : tables.value? w.written = some v)
    (recursive : tables.isRecursive w.written = true) :
    rendered limit tables [.value w.tag] = expansion limit tables w.key v := by
  rw [← tables.value?_key] at bound
  rw [← tables.isRecursive_key] at recursive
  have name : (w.tag.value 0).ident.name = w.key := rfl
  rw [rendered, nodeAll, nodeAll, Node.renderAll_singleton]
  simp only [node, Node.render, bareHost, name, bound, recursive, if_true]
  cases expansion limit tables w.key v <;> rfl

theorem rendered_eq_evaluate (source : String) (items : List Item) :
    rendered limit tables items =
      ((⟨source, Node.merge (nodeAll 0 items)⟩ : Template).evaluate limit tables).mapError
        (·.cause) := by
  rw [evaluate_bare, Node.renderAll_merge, rendered]

theorem expansion_of_derives (h : Derives items v.toList []) (room : depth items ≤ maxNesting)
    (left : Nat) (name : String) :
    expansion (left + 1) tables name v =
      ((⟨v, Node.merge (nodeAll 0 items)⟩ : Template).renderWithin
        (.ofTables tables fun _ _ text => Template.parse text) (left + 1) left).mapError
          (·.cause) := by
  rw [expansion, parse_of_derives h room]
  rfl

/-- What the tag of a recursive name comes to, its value comes to. -/
theorem expansion_below (h : Derives items v.toList []) (room : depth items ≤ maxNesting)
    (limit : Nat) (name : String) :
    (results Cause).Alike (expansion limit tables name v) (rendered limit tables items) := by
  cases limit with
  | zero => exact results_error _ _
  | succ left =>
    rw [expansion_of_derives h room, rendered_eq_evaluate v]
    exact results_mapError (renderWithin_results (Nat.le_succ left) _) _

/-- What a value comes to, the tag of its name comes to with one level of expansion more. -/
theorem below_expansion (h : Derives items v.toList []) (room : depth items ≤ maxNesting)
    (limit : Nat) (name : String) :
    (results Cause).Alike (rendered limit tables items)
      (expansion (limit + 1) tables name v) := by
  rw [expansion_of_derives h room, rendered_eq_evaluate v]
  exact results_mapError (renderWithin_results (Nat.le_refl limit) _) _

end

/-- A source with the tag of a recursive name in it comes to the same as with the value in the place
of the tag, but for one level of expansion. -/
theorem format_expansion {p q v : String} {w : Word} {bindings : Bindings} (front : EndsInText p)
    (bound : bindings.resolve.value? w.written = some v)
    (recursive : bindings.resolve.isRecursive w.written = true) (compiles : Compiles v)
    (closed : ¬ EndsInPercent v) (named : Compiles (p ++ ("%[" ++ w.written ++ "]%") ++ q))
    (direct : Compiles (p ++ v ++ q)) (limit : Nat) (s : String) :
    (format limit (p ++ ("%[" ++ w.written ++ "]%") ++ q) bindings = .ok s →
        format limit (p ++ v ++ q) bindings = .ok s) ∧
      (format limit (p ++ v ++ q) bindings = .ok s →
        format (limit + 1) (p ++ ("%[" ++ w.written ++ "]%") ++ q) bindings = .ok s) := by
  obtain ⟨held, derived, room⟩ := compiles_iff.mp compiles
  obtain ⟨items, derived', room'⟩ := compiles_iff.mp direct
  have stands : Stands held v.toList := fun rest => derives_front derived closed rest
  have tagged : Stands [.value w.tag] w.tag.spell := fun rest => .value .nil
  have spelled : (p ++ ("%[" ++ w.written ++ "]%") ++ q).toList =
      p.toList ++ (w.tag.spell ++ q.toList) := by
    simp [Tag.spell, Word.tag, Tag.suffix, Word.written]
  simp only [String.toList_append, List.append_assoc] at derived'
  cases derived'.cut stands front.front rfl with
  | beyond p' nonempty _ _ ends => simp [nonempty] at ends
  | inside g filled left derives =>
    subst filled
    have derivedTag : Derives (g.fill [.value w.tag])
        (p ++ ("%[" ++ w.written ++ "]%") ++ q).toList [] := by
      rw [spelled]
      exact derives _ _ tagged
    have roomTag := (compiles_of_derives derivedTag).mp named
    have derivedValue : Derives (g.fill held) (p ++ v ++ q).toList [] := by
      simpa using derived'
    have onTag (limit : Nat) := outcome_of_derives derivedTag roomTag limit bindings
    have onValue (limit : Nat) := outcome_of_derives derivedValue room' limit bindings
    have value (limit : Nat) : rendered limit bindings.resolve [.value w.tag] =
        expansion limit bindings.resolve w.key v := rendered_recursive bound recursive
    simp only [← outcome_eq_ok, onTag, onValue]
    constructor
    · refine fill_results (Nat.le_refl limit) ?_ g s
      rw [value]
      exact expansion_below derived room limit w.key
    · refine fill_results (Nat.le_succ limit) ?_ g s
      rw [value]
      exact below_expansion derived room limit w.key

theorem format_expansion_escape :
    let bindings := ((Bindings.empty.insert "c" (.flag true)).insert "x"
      (.value "%%1")).insertRecursive "x"
    format 0 "%[%c%|%%%1%]%" bindings = .ok "%1" ∧
      format 1 "%[%c%|%%[X]%%]%" bindings = .ok "%1" := by
  intro bindings
  let w : Word := @Word.ofRun ['X'] rfl
  let h : Heading := ⟨[], false, @Word.ofRun ['c'] rfl, [], [], List.forall_mem_nil _,
    List.forall_mem_nil _, List.forall_mem_nil _⟩
  have opened : Lexer.read .text 0 ['%', '[', '%', 'c', '%', '|', '%'] =
      .ok ⟨.openCondition, ['%', '[', '%'], ['c', '%', '|', '%'], .header ⟨0, 3⟩⟩ := rfl
  have name : Lexer.read (.header ⟨0, 3⟩) 3 ['c', '%', '|', '%'] =
      .ok ⟨.word, ['c'], ['%', '|', '%'], .header ⟨0, 3⟩⟩ := rfl
  have ended : Lexer.read (.header ⟨0, 3⟩) 4 ['%', '|', '%'] =
      .ok ⟨.separator, ['%', '|', '%'], [], .text⟩ := rfl
  have front : EndsInText "%[%c%|%" := by
    refine ⟨.cons (List.cons_ne_nil _ _) opened (.cons (List.cons_ne_nil _ _) name
      (.cons (List.cons_ne_nil _ _) ended .nil)), fun last => ?_⟩
    have inHeader := percentLast_rest (List.cons_ne_nil _ _) opened (by simp) last
    have behindName := percentLast_rest (List.cons_ne_nil _ _) name (by simp) inHeader
    exact percentLast_nil (percentLast_rest (List.cons_ne_nil _ _) ended (by simp) behindName)
  have value : Derives [.escape, .char '1'] "%%1".toList [] := .escape (.char (by decide) .nil)
  have closed : ¬ EndsInPercent "%%1" := by
    intro last
    have escape : Lexer.read .text 0 ['%', '%', '1'] =
        .ok ⟨.escapedPercent, ['%', '%'], ['1'], .text⟩ := rfl
    have digit : Lexer.read .text 2 ['1'] = .ok ⟨.text, ['1'], [], .text⟩ := rfl
    have behind := percentLast_rest (List.cons_ne_nil _ _) escape (by simp) last
    exact percentLast_nil (percentLast_rest (List.cons_ne_nil _ _) digit (by simp) behind)
  have direct : Derives [.guard h [.escape, .char '1']] "%[%c%|%%%1%]%".toList [] :=
    .guard (h := h) (.escape (.char (by decide) .nil)) .nil
  have named : Derives [.guard h [.value w.tag]] "%[%c%|%%[X]%%]%".toList [] :=
    .guard (h := h) (.value (t := w.tag) .nil) .nil
  have key : foldName "x" = w.key := w.foldName_key
  have key' : foldName "c" = h.name.key := h.name.foldName_key
  have bound : bindings.resolve.value? w.written = some "%%1" := by
    simp [bindings, Bindings.insertRecursive, w.foldName_written, key]
  have recursive : bindings.resolve.isRecursive w.written = true := by
    simp [bindings, Bindings.insertRecursive, w.foldName_written, key]
  have holds : bindings.resolve.condition? h.name.written = some true := by
    simp [bindings, Bindings.insertRecursive, h.name.foldName_written, key']
  have result : format 0 "%[%c%|%%%1%]%" bindings = .ok "%1" := by
    have items : rendered 0 bindings.resolve [.guard h [.escape, .char '1']] = _ :=
      rendered_guard h _
    rw [condition_bare, holds] at items
    rw [← outcome_eq_ok, outcome_of_derives direct (by decide)]
    exact items
  refine ⟨result, ?_⟩
  have expanded := format_expansion (q := "%]%") front bound recursive
    ⟨_, parse_of_derives value (by decide)⟩ closed ⟨_, parse_of_derives named (by decide)⟩
    ⟨_, parse_of_derives direct (by decide)⟩ 0 "%1"
  exact expanded.2 result

end TextTemplate
