import Mathlib.Control.Monad.Basic
import TextTemplate.Proofs.LineBreaks
import TextTemplate.Proofs.Trees
import TextTemplate.Render

/-!
# What dedenting leaves alone

Dedenting drops and adds white space and line boundaries only. However often it is done on the way,
what else a template renders to is what it would render to without it.
-/

namespace TextTemplate

namespace Text

/-! ### Ink -/

/-- The file, group and record separators. -/
def separators : List Char :=
  ['\x1c', '\x1d', '\x1e']

def isInk (c : Char) : Bool :=
  !Unicode.isWhiteSpace c && !separators.contains c

def ink (text : List Char) : List Char :=
  text.filter isInk

theorem isInk_of_isWhiteSpace {c : Char} (h : Unicode.isWhiteSpace c = true) :
    isInk c = false := by
  rw [isInk, h]
  rfl

theorem isInk_of_isLineBoundary {c : Char} (h : isLineBoundary c = true) : isInk c = false := by
  rw [isLineBoundary_iff] at h
  simp only [List.mem_cons, List.not_mem_nil, or_false] at h
  rcases h with rfl | rfl | rfl | rfl | rfl | rfl | rfl | rfl | rfl | rfl <;> decide

theorem ink_append (a b : List Char) : ink (a ++ b) = ink a ++ ink b :=
  List.filter_append a b

theorem ink_cons_of_not {c : Char} (h : isInk c = false) (text : List Char) :
    ink (c :: text) = ink text :=
  List.filter_cons_of_neg (by simp [h])

/-! ### Lines -/

theorem flatMap_consLine (c : Char) (ls : List (List Char)) :
    (consLine c ls).flatMap ink = ink [c] ++ ls.flatMap ink := by
  cases ls with
  | nil => rfl
  | cons line ls =>
    rw [consLine, List.flatMap_cons, List.flatMap_cons, ← List.append_assoc, ← ink_append]
    rfl

/-- A text is cut into lines at characters without ink. -/
theorem flatMap_lines (text : List Char) : (lines text).flatMap ink = ink text := by
  fun_induction lines text with
  | case1 => rfl
  | case2 rest ih => exact ih
  | case3 c rest _ boundary ih =>
    rw [List.flatMap_cons, ih, ink_cons_of_not (isInk_of_isLineBoundary boundary)]
    rfl
  | case4 c rest _ _ ih =>
    rw [flatMap_consLine, ih, ← ink_append]
    rfl

theorem ink_intercalate (ls : List (List Char)) :
    ink (List.intercalate ['\n'] ls) = ls.flatMap ink := by
  induction ls with
  | nil => rfl
  | cons line ls ih =>
    cases ls with
    | nil => rw [List.intercalate_singleton, List.flatMap_singleton]
    | cons next ls =>
      have feed : ink ['\n'] = [] := by decide
      rw [List.intercalate_cons_cons, ink_append, ink_append, ih, feed, List.append_nil]
      exact List.flatMap_cons.symm

theorem ink_dropWhile (line : List Char) :
    ink (line.dropWhile Unicode.isWhiteSpace) = ink line := by
  induction line with
  | nil => rfl
  | cons c line ih =>
    rw [List.dropWhile_cons]
    split
    · rename_i white
      rw [ih, ink_cons_of_not (isInk_of_isWhiteSpace white)]
    · rfl

theorem ink_of_isBlank {line : List Char} (h : isBlank line = true) : ink line = [] := by
  simp only [isBlank, Bool.and_eq_true, List.all_eq_true] at h
  refine List.filter_eq_nil_iff.mpr fun c member => ?_
  have blank : c = ' ' ∨ c = '\t' := by simpa using h.2 c member
  rcases blank with rfl | rfl <;> decide

theorem flatMap_dropBlankLast (ls : List (List Char)) :
    (dropBlankLast ls).flatMap ink = ls.flatMap ink := by
  unfold dropBlankLast
  split
  · rename_i blank
    cases found : ls.getLast? with
    | none =>
      rw [found] at blank
      cases blank
    | some last =>
      rw [found] at blank
      obtain ⟨front, rfl⟩ := List.getLast?_eq_some_iff.mp found
      rw [List.dropLast_concat, List.flatMap_append, List.flatMap_singleton, ink_of_isBlank blank,
        List.append_nil]
  · rfl

/-! ### Dedenting -/

/-- A text that starts on a new line has nothing on its first line. -/
theorem lines_of_startsLine {text : List Char} (h : startsLine text = true) :
    ∃ rest, lines text = [] :: rest := by
  obtain ⟨rest, rfl | rfl⟩ := startsLine_iff.mp h
  · exact ⟨_, lines_boundary rfl (by decide) rest⟩
  · exact ⟨_, lines_crlf rest⟩

theorem ink_dedent {text : List Char} (h : startsLine text = true) :
    ink (dedent text) = ink text := by
  obtain ⟨rest, first⟩ := lines_of_startsLine h
  calc ink (dedent text)
      = (dropBlankLast ((lines text).drop 1)).flatMap ink := by
        simp only [dedent, ink_intercalate, List.flatMap_map, ink_dropWhile]
    _ = ((lines text).drop 1).flatMap ink := flatMap_dropBlankLast _
    _ = (lines text).flatMap ink := by rw [first]; rfl
    _ = ink text := flatMap_lines text

end Text

/-- However a branch is laid out, its ink is left alone. -/
theorem Test.ink_layout (test : Test) (branch : String) :
    Text.ink (test.layout branch).toList = Text.ink branch.toList := by
  unfold layout
  split
  · rename_i dedented
    rw [Bool.and_eq_true] at dedented
    rw [String.toList_ofList, Text.ink_dedent dedented.2]
  · rfl

/-! ### Outcomes -/

inductive SameInk : Except Error String → Except Error String → Prop where
  | failed (e : Error) : SameInk (.error e) (.error e)
  | done {a b : String} : Text.ink a.toList = Text.ink b.toList → SameInk (.ok a) (.ok b)

namespace SameInk

theorem refl (x : Except Error String) : SameInk x x := by
  cases x with
  | error e => exact .failed e
  | ok a => exact .done rfl

theorem bind {x y : Except Error String} {f g : String → Except Error String} (h : SameInk x y)
    (next : ∀ {a b : String}, Text.ink a.toList = Text.ink b.toList → SameInk (f a) (g b)) :
    SameInk (x >>= f) (y >>= g) := by
  cases h with
  | failed e => exact .failed e
  | done same => exact next same

theorem after {α : Type} (x : Except Error α) {f g : α → Except Error String}
    (next : ∀ a, x = .ok a → SameInk (f a) (g a)) : SameInk (x >>= f) (x >>= g) := by
  cases x with
  | error e => exact .failed e
  | ok a => exact next a rfl

end SameInk

/-! ### Trees -/

/-- The surroundings answer conditions alike and leave the ink of branches alone. -/
structure Host.SameInk (host host' : Host (Except Error)) : Prop where
  condition test : host.condition test = host'.condition test
  layout test branch : Text.ink (host.layout test branch).toList = Text.ink branch.toList
  layout' test branch : Text.ink (host'.layout test branch).toList = Text.ink branch.toList

namespace Node

variable {host host' : Host (Except Error)}

theorem sameInk_layout (h : host.SameInk host') (test : Test) {x y : Except Error String}
    (branch : SameInk x y) :
    SameInk (do return host.layout test (← x)) (do return host'.layout test (← y)) :=
  branch.bind fun {a b} same => .done (by rw [h.layout test a, h.layout' test b, same])

mutual

theorem sameInk_render (h : host.SameInk host') :
    ∀ node : Node, (∀ v ∈ values node, SameInk (host.value v) (host'.value v)) →
      SameInk (render host node) (render host' node)
  | .text s, _ => .refl _
  | .value v, alike => alike v List.mem_cons_self
  | .probe test, _ => by
    rw [render, render, h.condition]
    exact .refl _
  | .guard test yes, alike => by
    rw [render, render, h.condition]
    refine .after _ fun holds _ => ?_
    cases holds with
    | true => exact sameInk_layout h test (sameInk_renderAll h yes alike)
    | false => exact .refl _
  | .choice test yes no, alike => by
    obtain ⟨first, second⟩ := List.forall_mem_append.mp alike
    rw [render, render, h.condition]
    refine .after _ fun holds _ => ?_
    cases holds with
    | true => exact sameInk_layout h test (sameInk_renderAll h yes first)
    | false => exact sameInk_layout h test (sameInk_renderAll h no second)

/-- A sequence has the same ink where its values have. -/
theorem sameInk_renderAll (h : host.SameInk host') :
    ∀ nodes : List Node, (∀ v ∈ valuesAll nodes, SameInk (host.value v) (host'.value v)) →
      SameInk (renderAll host nodes) (renderAll host' nodes)
  | [], _ => .refl _
  | node :: nodes, alike => by
    obtain ⟨first, rest⟩ := List.forall_mem_append.mp alike
    refine (sameInk_render h node first).bind fun {a b} same => ?_
    refine (sameInk_renderAll h nodes rest).bind fun {c d} same' => .done ?_
    rw [String.toList_append, String.toList_append, Text.ink_append, Text.ink_append, same, same']

end

end Node

/-! ### Templates -/

def Environment.raw {m : Type → Type} (env : Environment m) : Environment m :=
  { env with layout := fun test => Test.layout { test with raw := true } }

namespace Template

/-- The outcome of rendering a template as if all conditions were raw, in it and in the templates
that it expands. -/
def evaluateRaw (limit : Nat) (tables : Tables) (t : Template) : Except Error String :=
  t.render (Environment.ofTables tables fun _ _ source => Template.parse source).raw limit

/-- No value tag converts the value of a recursive name. -/
def Unconverted (tables : Tables) (t : Template) : Prop :=
  ∀ v ∈ Node.valuesAll t.nodes, tables.isRecursive v.ident.name = true → v.conversions = []

end Template

/-- No value tag in the value of a recursive name converts the value of one. -/
def Tables.Unconverted (tables : Tables) : Prop :=
  ∀ name text t, tables.isRecursive name = true → tables.value? name = some text →
    Template.parse text = .ok t → t.Unconverted tables

namespace Template

variable {tables : Tables} {t : Template}

theorem sameInk_renderWith (plain : t.Unconverted tables)
    {expand expand' : Value → String → Except Error String}
    (expands : ∀ v text, tables.isRecursive v.ident.name = true →
      tables.value? v.ident.name = some text → SameInk (expand v text) (expand' v text)) :
    SameInk (t.renderWith (.ofTables tables fun _ _ source => Template.parse source) expand)
      (t.renderWith (Environment.ofTables tables fun _ _ source => Template.parse source).raw
        expand') := by
  refine Node.sameInk_renderAll ⟨fun _ => ?_, fun test => ?_, fun test => ?_⟩ t.nodes
    fun v member => ?_
  · rfl
  · exact test.ink_layout
  · exact Test.ink_layout { test with raw := true }
  · simp only [Environment.raw, Environment.ofTables, pure_bind]
    cases bound : tables.value? v.ident.name with
    | none => exact .refl _
    | some text =>
      cases recursive : tables.isRecursive v.ident.name with
      | true =>
        -- Nothing is converted, so what is written is what the expansion comes to.
        rw [plain v member recursive]
        exact (expands v text recursive bound).bind fun same => .done same
      | false => exact .refl _

theorem sameInk_renderWithin (inner : tables.Unconverted) (limit left : Nat)
    (plain : t.Unconverted tables) :
    SameInk (t.renderWithin (.ofTables tables fun _ _ source => Template.parse source) limit left)
      (t.renderWithin (Environment.ofTables tables fun _ _ source => Template.parse source).raw
        limit left) := by
  induction left generalizing t with
  | zero => exact sameInk_renderWith plain fun _ _ _ _ => .refl _
  | succ left ih =>
    refine sameInk_renderWith plain fun v text recursive bound => ?_
    exact .after (Template.parse text) fun t' read => ih (inner _ text t' recursive bound read)

/-- If no conversion is applied to the value of a recursive name, a template comes to the same with
and without dedenting, but for white space and separators. -/
theorem sameInk_evaluate (inner : tables.Unconverted) (plain : t.Unconverted tables)
    (limit : Nat) : SameInk (t.evaluate limit tables) (t.evaluateRaw limit tables) :=
  sameInk_renderWithin inner limit limit plain

theorem sameInk_evaluate_nested :
    let text := "%[%c%|%\n  a\n  b%]%"
    let tables := ((Bindings.empty.insert "c" (.flag true)).insert "r"
      (.value text)).insertRecursive "r" |>.resolve
    let t : Template := ⟨"%[%c%|%\n  %[r]%\n%]%", [.guard ⟨⟨"c", ⟨3, 4⟩⟩, false, false⟩
      [.text "\n  ", .value ⟨⟨"r", ⟨12, 13⟩⟩, [], ⟨10, 15⟩⟩, .text "\n"]]⟩
    t.evaluate 1 tables = .ok "a\nb" ∧ t.evaluateRaw 1 tables = .ok "\n  \n  a\n  b\n" ∧
      SameInk (t.evaluate 1 tables) (t.evaluateRaw 1 tables) := by
  intro text tables t
  have read : Template.parse text = .ok ⟨text, [.guard ⟨⟨"c", ⟨3, 4⟩⟩, false, false⟩
      [.text "\n  a\n  b"]]⟩ := by decide +kernel
  have inner : tables.Unconverted := by
    intro name text' t' recursive bound read'
    have named : foldName "r" = foldName name := by
      simpa [tables, Tables.isRecursive, Bindings.resolve, Bindings.insertRecursive,
        Bindings.empty] using recursive
    have same : tables.value? name = some text := by
      rw [Tables.value?, ← named]
      rfl
    cases same.symm.trans bound
    cases read.symm.trans read'
    exact List.forall_mem_nil _
  have plain : t.Unconverted tables := by
    intro v member recursive
    cases List.mem_singleton.mp member
    rfl
  have dedented : t.evaluate 1 tables = .ok "a\nb" := by decide +kernel
  have kept : t.evaluateRaw 1 tables = .ok "\n  \n  a\n  b\n" := by decide +kernel
  exact ⟨dedented, kept, sameInk_evaluate inner plain 1⟩

end Template

end TextTemplate
