import TextTemplate.Proofs.Trees
import TextTemplate.Token

/-!
# The grammar of templates

A template is a list of items. `Derives items input rest` says that the items spell what `input`
has in front of `rest`, and `Item.nodeAll` is the tree that they stand for. A source has at most
one derivation.
-/

namespace TextTemplate.Grammar

/-! ### Runs of characters -/

section
variable {p : Char → Bool} {run run' rest rest' : List Char}

theorem takeWhile_run (h : ∀ c ∈ run, p c = true) (stop : ∀ c ∈ rest.head?, p c = false) :
    (run ++ rest).takeWhile p = run := by
  rw [List.takeWhile_append_of_pos h]
  cases rest with
  | nil => simp
  | cons c rest => simp [stop c rfl]

theorem dropWhile_run (h : ∀ c ∈ run, p c = true) (stop : ∀ c ∈ rest.head?, p c = false) :
    (run ++ rest).dropWhile p = rest := by
  rw [List.dropWhile_append_of_pos h]
  cases rest with
  | nil => simp
  | cons c rest => simp [stop c rfl]

/-- A run ends where the next character is not one of it. -/
theorem run_unique (h : ∀ c ∈ run, p c = true) (h' : ∀ c ∈ run', p c = true)
    (stop : ∀ c ∈ rest.head?, p c = false) (stop' : ∀ c ∈ rest'.head?, p c = false)
    (same : run ++ rest = run' ++ rest') : run = run' ∧ rest = rest' := by
  have left := takeWhile_run h stop
  have right := dropWhile_run h stop
  rw [same, takeWhile_run h' stop'] at left
  rw [same, dropWhile_run h' stop'] at right
  exact ⟨left.symm, right.symm⟩

end

theorem isBlankChar_of_isWordChar {c : Char} (h : isWordChar c = true) : isBlankChar c = false := by
  cases blank : isBlankChar c with
  | false => rfl
  | true =>
    simp only [isBlankChar_iff, List.mem_cons, List.not_mem_nil, or_false] at blank
    rcases blank with rfl | rfl | rfl | rfl <;> cases h

theorem utf8Size_mark {c : Char} (h : c ∈ ['%', '[', ']', '|', '!']) : c.utf8Size = 1 := by
  simp only [List.mem_cons, List.not_mem_nil, or_false] at h
  rcases h with rfl | rfl | rfl | rfl | rfl <;> rfl

/-! ### Tags -/

@[ext] structure Word where
  chars : List Char
  ne_nil : chars ≠ []
  word : ∀ c ∈ chars, isWordChar c = true

def Word.key (w : Word) : String :=
  String.ofList (w.chars.map Char.toLower)

def Word.ofRun {cs : List Char} (h : cs.head?.any isWordChar = true) : Word where
  chars := cs.takeWhile isWordChar
  ne_nil := by cases cs <;> simp_all
  word := List.all_eq_true.mp List.all_takeWhile

@[simp] theorem Word.chars_ofRun {cs : List Char} (h : cs.head?.any isWordChar = true) :
    (ofRun h).chars = cs.takeWhile isWordChar := rfl

/-- A value tag as it is written: a name, and the letters behind the `!` if there is one. -/
@[ext] structure Tag where
  name : Word
  codes : Option (List Char)
  known : ∀ letters ∈ codes, ∀ c ∈ letters, c ∈ ['j', 'J', 'u', 'U', 'l', 'L']

namespace Tag

def suffix (t : Tag) : List Char :=
  match t.codes with
  | none => []
  | some letters => '!' :: letters

def spell (t : Tag) : List Char :=
  '%' :: '[' :: (t.name.chars ++ (t.suffix ++ [']', '%']))

theorem byteLength_spell (t : Tag) :
    byteLength t.spell = 2 + byteLength t.name.chars + byteLength t.suffix + 2 := by
  simp [spell, utf8Size_mark]
  omega

def conversions (t : Tag) : List Conversion :=
  (t.codes.getD []).filterMap Conversion.ofCode?

def value (start : Nat) (t : Tag) : Value :=
  ⟨⟨t.name.key, .ofText (start + 2) t.name.chars⟩, t.conversions, .ofText start t.spell⟩

end Tag

/-- The header of a condition as it is written, without the mark that ends it. -/
@[ext] structure Heading where
  before : List Char
  negated : Bool
  name : Word
  /-- The letters behind the second `!`. None if there is no such mark. -/
  marks : List Char
  after : List Char
  before_blank : ∀ c ∈ before, isBlankChar c = true
  marks_raw : ∀ c ∈ marks, c = 'r' ∨ c = 'R'
  after_blank : ∀ c ∈ after, isBlankChar c = true

namespace Heading

def bang (h : Heading) : List Char :=
  if h.negated then ['!'] else []

def suffix (h : Heading) : List Char :=
  match h.marks with
  | [] => []
  | marks => '!' :: marks

def spell (h : Heading) : List Char :=
  '%' :: '[' :: '%' :: (h.before ++ (h.bang ++ (h.name.chars ++ (h.suffix ++ h.after))))

theorem byteLength_spell (h : Heading) :
    byteLength h.spell = 3 + byteLength h.before + byteLength h.bang + byteLength h.name.chars +
      byteLength h.suffix + byteLength h.after := by
  simp [spell, utf8Size_mark]
  omega

def test (start : Nat) (h : Heading) : Test where
  ident := ⟨h.name.key, .ofText (start + 3 + byteLength h.before + byteLength h.bang) h.name.chars⟩
  negated := h.negated
  raw := h.marks ≠ []

/-- Where a header with a separator stands that begins at byte `start`. -/
def span (start : Nat) (h : Heading) : Span :=
  (Span.ofText start ['%', '[', '%']).cover
    (.ofText (start + byteLength h.spell) ['%', '|', '%'])

end Heading

/-! ### Items -/

inductive Item where
  | char (c : Char)
  /-- `%%` -/
  | escape
  /-- A `%` that starts nothing. -/
  | percent
  | value (t : Tag)
  /-- A condition without branches. -/
  | probe (h : Heading)
  /-- A condition with a true branch only. -/
  | guard (h : Heading) (yes : List Item)
  | choice (h : Heading) (yes no : List Item)

namespace Item

mutual

def spell : Item → List Char
  | .char c => [c]
  | .escape => ['%', '%']
  | .percent => ['%']
  | .value t => t.spell
  | .probe h => h.spell ++ ['%', ']', '%']
  | .guard h yes => h.spell ++ ('%' :: '|' :: '%' :: (spellAll yes ++ ['%', ']', '%']))
  | .choice h yes no =>
    h.spell ++ ('%' :: '|' :: '%' :: (spellAll yes ++
      ('%' :: '|' :: '%' :: (spellAll no ++ ['%', ']', '%']))))

def spellAll : List Item → List Char
  | [] => []
  | item :: items => spell item ++ spellAll items

end

theorem byteLength_guard (h : Heading) (yes : List Item) :
    byteLength (spell (.guard h yes)) = byteLength h.spell + 3 + byteLength (spellAll yes) + 3 := by
  simp [spell, utf8Size_mark]
  omega

theorem byteLength_choice (h : Heading) (yes no : List Item) :
    byteLength (spell (.choice h yes no)) = byteLength h.spell + 3 + byteLength (spellAll yes) + 3 +
      byteLength (spellAll no) + 3 := by
  simp [spell, utf8Size_mark]
  omega

mutual

def node (start : Nat) : Item → Node
  | .char c => .text (String.singleton c)
  | .escape | .percent => .text "%"
  | .value t => .value (t.value start)
  | .probe h => .probe (h.test start)
  | .guard h yes =>
    .guard (h.test start) (Node.merge (nodeAll (start + byteLength h.spell + 3) yes))
  | .choice h yes no =>
    let yesStart := start + byteLength h.spell + 3
    .choice (h.test start) (Node.merge (nodeAll yesStart yes))
      (Node.merge (nodeAll (yesStart + byteLength (spellAll yes) + 3) no))

def nodeAll (start : Nat) : List Item → List Node
  | [] => []
  | item :: items => node start item :: nodeAll (start + byteLength (spell item)) items

end

end Item

open Item

/-- The items spell what `input` has in front of `rest`. -/
inductive Derives : (items : List Item) → (input rest : List Char) → Prop where
  | nil {rest} : Derives [] rest rest
  | char {c items cs rest} :
      c ≠ '%' → Derives items cs rest → Derives (.char c :: items) (c :: cs) rest
  | escape {items cs rest} :
      Derives items cs rest → Derives (.escape :: items) ('%' :: '%' :: cs) rest
  | percent {items cs rest} :
      (∀ c ∈ cs.head?, c ∉ ['%', '[', '|', ']']) → Derives items cs rest →
      Derives (.percent :: items) ('%' :: cs) rest
  | value {t items cs rest} :
      Derives items cs rest → Derives (.value t :: items) (t.spell ++ cs) rest
  | probe {h items cs rest} :
      Derives items cs rest →
      Derives (.probe h :: items) (h.spell ++ '%' :: ']' :: '%' :: cs) rest
  | guard {h yes items body cs rest} :
      Derives yes body ('%' :: ']' :: '%' :: cs) → Derives items cs rest →
      Derives (.guard h yes :: items) (h.spell ++ '%' :: '|' :: '%' :: body) rest
  | choice {h yes no items body body' cs rest} :
      Derives yes body ('%' :: '|' :: '%' :: body') →
      Derives no body' ('%' :: ']' :: '%' :: cs) → Derives items cs rest →
      Derives (.choice h yes no :: items) (h.spell ++ '%' :: '|' :: '%' :: body) rest

theorem Item.nodeAll_append (start : Nat) (xs ys : List Item) :
    nodeAll start (xs ++ ys) =
      nodeAll start xs ++ nodeAll (start + byteLength (spellAll xs)) ys := by
  induction xs generalizing start with
  | nil => simp [nodeAll, spellAll]
  | cons x xs ih => simp [nodeAll, spellAll, ih, Nat.add_assoc]

mutual

theorem Item.nesting_node (start start' : Nat) :
    ∀ item, Node.nesting (node start item) = Node.nesting (node start' item)
  | .char _ | .escape | .percent | .value _ | .probe _ => rfl
  | .guard h yes => by
    simp only [node, Node.nesting, Node.nestingAll_merge]
    rw [nesting_nodeAll _ (start' + byteLength h.spell + 3) yes]
  | .choice h yes no => by
    simp only [node, Node.nesting, Node.nestingAll_merge]
    rw [nesting_nodeAll _ (start' + byteLength h.spell + 3) yes,
      nesting_nodeAll _ (start' + byteLength h.spell + 3 + byteLength (spellAll yes) + 3) no]

/-- How deep items are nested does not depend on where they stand. -/
theorem Item.nesting_nodeAll (start start' : Nat) :
    ∀ items, Node.nestingAll (nodeAll start items) = Node.nestingAll (nodeAll start' items)
  | [] => rfl
  | item :: items => by
    simp only [nodeAll, Node.nestingAll]
    rw [nesting_node start start' item, nesting_nodeAll _ (start' + byteLength (spell item)) items]

end

theorem Derives.spells {items : List Item} {cs rest : List Char} (h : Derives items cs rest) :
    cs = spellAll items ++ rest := by
  induction h with
  | nil => rfl
  | char _ _ ih | escape _ ih | percent _ _ ih | value _ ih | probe _ ih =>
    simp [spellAll, spell, ih]
  | guard _ _ yes ih => simp [spellAll, spell, yes, ih]
  | choice _ _ _ yes no ih => simp [spellAll, spell, yes, no, ih]

theorem Derives.append {xs ys : List Item} {cs mid rest : List Char} (h : Derives xs cs mid)
    (h' : Derives ys mid rest) : Derives (xs ++ ys) cs rest := by
  induction h with
  | nil => exact h'
  | char hc _ ih => exact .char hc (ih h')
  | escape _ ih => exact .escape (ih h')
  | percent hc _ ih => exact .percent hc (ih h')
  | value _ ih => exact .value (ih h')
  | probe _ ih => exact .probe (ih h')
  | guard yes _ _ ih => exact .guard yes (ih h')
  | choice yes no _ _ _ ih => exact .choice yes no (ih h')

theorem Derives.of_nil {items : List Item} {rest : List Char} (h : Derives items [] rest) :
    items = [] ∧ rest = [] := by
  generalize empty : [] = cs at h
  cases h with
  | nil => exact ⟨rfl, rfl⟩
  | _ => simp [Tag.spell, Heading.spell] at empty

theorem closed_tail {item : Item} {items : List Item} {rest : List Char}
    (closed : rest = [] → (item :: items).getLast? ≠ some .percent) :
    rest = [] → items.getLast? ≠ some .percent := by
  intro empty last
  exact closed empty (by simp [List.getLast?_cons, last])

/-- A lone `%` at the end may have to be read differently if something follows. All else stays
what it is. -/
theorem Derives.extend {items : List Item} {cs rest : List Char} (h : Derives items cs rest)
    (closed : rest = [] → items.getLast? ≠ some .percent) (more : List Char) :
    Derives items (cs ++ more) (rest ++ more) := by
  induction h with
  | nil => exact .nil
  | char hc _ ih => exact .char hc (ih (closed_tail closed))
  | escape _ ih => exact .escape (ih (closed_tail closed))
  | @percent items cs rest hc tail ih =>
    refine .percent ?_ (ih (closed_tail closed))
    cases cs with
    | nil =>
      obtain ⟨rfl, rfl⟩ := tail.of_nil
      exact absurd rfl (closed rfl)
    | cons c cs => exact hc
  | value _ ih =>
    rw [List.append_assoc]
    exact .value (ih (closed_tail closed))
  | probe _ ih =>
    rw [List.append_assoc]
    exact .probe (ih (closed_tail closed))
  | guard _ _ ihYes ih =>
    rw [List.append_assoc]
    exact .guard (ihYes (by simp)) (ih (closed_tail closed))
  | choice _ _ _ ihYes ihNo ih =>
    rw [List.append_assoc]
    exact .choice (ihYes (by simp)) (ihNo (by simp)) (ih (closed_tail closed))

theorem Derives.split {xs ys : List Item} {cs rest : List Char} (h : Derives (xs ++ ys) cs rest) :
    ∃ mid, Derives xs cs mid ∧ Derives ys mid rest := by
  induction xs generalizing cs with
  | nil => exact ⟨cs, .nil, h⟩
  | cons item xs ih =>
    cases h with
    | char hc tail =>
      obtain ⟨mid, left, right⟩ := ih tail
      exact ⟨mid, .char hc left, right⟩
    | escape tail =>
      obtain ⟨mid, left, right⟩ := ih tail
      exact ⟨mid, .escape left, right⟩
    | percent hc tail =>
      obtain ⟨mid, left, right⟩ := ih tail
      exact ⟨mid, .percent hc left, right⟩
    | value tail =>
      obtain ⟨mid, left, right⟩ := ih tail
      exact ⟨mid, .value left, right⟩
    | probe tail =>
      obtain ⟨mid, left, right⟩ := ih tail
      exact ⟨mid, .probe left, right⟩
    | guard yes tail =>
      obtain ⟨mid, left, right⟩ := ih tail
      exact ⟨mid, .guard yes left, right⟩
    | choice yes no tail =>
      obtain ⟨mid, left, right⟩ := ih tail
      exact ⟨mid, .choice yes no left, right⟩

/-! ### Unambiguity -/

theorem Word.head_word (w : Word) (rest : List Char) :
    ∃ c cs, w.chars ++ rest = c :: cs ∧ isWordChar c = true := by
  obtain ⟨c, cs, same⟩ := List.exists_cons_of_ne_nil w.ne_nil
  exact ⟨c, cs ++ rest, by rw [same]; rfl, w.word c (by simp [same])⟩

theorem Word.unique {w w' : Word} {rest rest' : List Char}
    (stop : ∀ c ∈ rest.head?, isWordChar c = false)
    (stop' : ∀ c ∈ rest'.head?, isWordChar c = false)
    (same : w.chars ++ rest = w'.chars ++ rest') : w = w' ∧ rest = rest' := by
  obtain ⟨chars, tail⟩ := run_unique w.word w'.word stop stop' same
  exact ⟨Word.ext chars, tail⟩

theorem Tag.word_of_known (t : Tag) : ∀ letters ∈ t.codes, ∀ c ∈ letters, isWordChar c = true := by
  intro letters member c present
  have known := t.known letters member c present
  simp only [List.mem_cons, List.not_mem_nil, or_false] at known
  rcases known with rfl | rfl | rfl | rfl | rfl | rfl <;> decide

theorem Tag.suffix_stop (t : Tag) (rest : List Char) :
    ∀ c ∈ (t.suffix ++ ']' :: rest).head?, isWordChar c = false := by
  unfold suffix
  cases t.codes <;> simp <;> decide

theorem Tag.unique {t t' : Tag} {rest rest' : List Char}
    (same : t.spell ++ rest = t'.spell ++ rest') : t = t' ∧ rest = rest' := by
  simp only [spell, List.cons_append, List.append_assoc, List.nil_append, List.cons.injEq,
    true_and] at same
  obtain ⟨name, same⟩ := Word.unique (t.suffix_stop _) (t'.suffix_stop _) same
  have known := t.word_of_known
  have known' := t'.word_of_known
  unfold suffix at same
  cases codes : t.codes with
  | none =>
    cases codes' : t'.codes with
    | none =>
      simp only [codes, codes', List.nil_append, List.cons.injEq, true_and] at same
      exact ⟨Tag.ext name (by rw [codes, codes']), same⟩
    | some letters' => simp [codes, codes'] at same
  | some letters =>
    cases codes' : t'.codes with
    | none => simp [codes, codes'] at same
    | some letters' =>
      simp only [codes, codes', List.cons_append, List.cons.injEq, true_and] at same
      obtain ⟨rfl, tail⟩ := run_unique (known letters codes) (known' letters' codes')
        (by simp; decide) (by simp; decide) same
      simp only [List.cons.injEq, true_and] at tail
      exact ⟨Tag.ext name (by rw [codes, codes']), tail⟩

theorem Heading.word_of_raw (h : Heading) : ∀ c ∈ h.marks, isWordChar c = true := by
  intro c member
  rcases h.marks_raw c member with rfl | rfl <;> decide

/-- The next character behind the first blank of a header. -/
theorem Heading.name_stop (h : Heading) (rest : List Char) :
    ∀ c ∈ (h.bang ++ (h.name.chars ++ rest)).head?, isBlankChar c = false := by
  unfold bang
  cases h.negated with
  | true => simp; decide
  | false =>
    obtain ⟨c, cs, same, word⟩ := h.name.head_word rest
    simp [same, isBlankChar_of_isWordChar word]

theorem not_word_of_blank {cs rest : List Char} (h : ∀ c ∈ cs, isBlankChar c = true) :
    ∀ c ∈ (cs ++ '%' :: rest).head?, isWordChar c = false := by
  cases cs with
  | nil => simp; decide
  | cons c cs =>
    simp only [List.cons_append, List.head?_cons, Option.mem_def, Option.some.injEq,
      forall_eq']
    cases word : isWordChar c with
    | false => rfl
    | true => simpa [isBlankChar_of_isWordChar word] using h c (by simp)

/-- The next character behind the name of a header. -/
theorem Heading.suffix_stop (h : Heading) (rest : List Char) :
    ∀ c ∈ (h.suffix ++ (h.after ++ '%' :: rest)).head?, isWordChar c = false := by
  unfold suffix
  cases h.marks with
  | nil => exact not_word_of_blank h.after_blank
  | cons c marks => simp; decide

theorem Heading.bang_unique {h h' : Heading} {rest rest' : List Char}
    (same : h.bang ++ (h.name.chars ++ rest) = h'.bang ++ (h'.name.chars ++ rest')) :
    h.negated = h'.negated ∧ h.name.chars ++ rest = h'.name.chars ++ rest' := by
  obtain ⟨c, cs, first, word⟩ := h.name.head_word rest
  obtain ⟨c', cs', first', word'⟩ := h'.name.head_word rest'
  unfold bang at same
  cases negated : h.negated <;> cases negated' : h'.negated
  case false.true =>
    simp only [negated, negated', first, reduceIte, Bool.false_eq_true, List.nil_append,
      List.cons_append, List.cons.injEq] at same
    exact absurd (same.1 ▸ word) (by decide)
  case true.false =>
    simp only [negated, negated', first', reduceIte, Bool.false_eq_true, List.nil_append,
      List.cons_append, List.cons.injEq] at same
    exact absurd (same.1.symm ▸ word') (by decide)
  all_goals simpa [negated, negated'] using same

theorem Heading.suffix_unique {h h' : Heading} {rest rest' : List Char}
    (same : h.suffix ++ (h.after ++ '%' :: rest) = h'.suffix ++ (h'.after ++ '%' :: rest')) :
    h.marks = h'.marks ∧ h.after ++ '%' :: rest = h'.after ++ '%' :: rest' := by
  have bang_apart : ∀ h : Heading, ∀ cs rest, '!' :: cs ≠ h.after ++ '%' :: rest := by
    intro h cs rest same
    cases after : h.after with
    | nil => simp [after] at same
    | cons c tail =>
      simp only [after, List.cons_append, List.cons.injEq] at same
      exact absurd (h.after_blank c (by simp [after])) (by rw [← same.1]; decide)
  unfold suffix at same
  cases marks : h.marks with
  | nil =>
    cases marks' : h'.marks with
    | nil => exact ⟨rfl, by simpa [marks, marks'] using same⟩
    | cons c' cs' =>
      rw [marks, marks'] at same
      exact absurd same.symm (bang_apart h _ _)
  | cons c cs =>
    cases marks' : h'.marks with
    | nil =>
      rw [marks, marks'] at same
      exact absurd same (bang_apart h' _ _)
    | cons c' cs' =>
      rw [marks, marks'] at same
      have word := marks ▸ h.word_of_raw
      have word' := marks' ▸ h'.word_of_raw
      exact run_unique word word' (not_word_of_blank h.after_blank)
        (not_word_of_blank h'.after_blank) (List.cons.inj same).2

theorem Heading.unique {h h' : Heading} {rest rest' : List Char}
    (same : h.spell ++ '%' :: rest = h'.spell ++ '%' :: rest') : h = h' ∧ rest = rest' := by
  simp only [spell, List.cons_append, List.append_assoc, List.cons.injEq, true_and] at same
  obtain ⟨before, same⟩ := run_unique h.before_blank h'.before_blank (h.name_stop _)
    (h'.name_stop _) same
  obtain ⟨negated, same⟩ := bang_unique same
  obtain ⟨name, same⟩ := Word.unique (h.suffix_stop _) (h'.suffix_stop _) same
  obtain ⟨marks, same⟩ := suffix_unique same
  obtain ⟨after, same⟩ := run_unique h.after_blank h'.after_blank (by simp; decide)
    (by simp; decide) same
  exact ⟨Heading.ext before negated name marks after, (List.cons.inj same).2⟩

inductive Opening where
  | nothing | char | escape | percent | value | condition
deriving DecidableEq

def opening : List Char → Opening
  | [] => .nothing
  | '%' :: '|' :: _ | '%' :: ']' :: _ => .nothing
  | '%' :: '%' :: _ => .escape
  | '%' :: '[' :: '%' :: _ => .condition
  | '%' :: '[' :: _ => .value
  | '%' :: _ => .percent
  | _ => .char

def Item.opening : Item → Opening
  | .char _ => .char
  | .escape => .escape
  | .percent => .percent
  | .value _ => .value
  | .probe _ | .guard _ _ | .choice _ _ _ => .condition

theorem opening_char {c : Char} (h : c ≠ '%') (cs : List Char) : opening (c :: cs) = .char := by
  unfold opening
  split <;> grind

theorem opening_percent {cs : List Char} (h : ∀ c ∈ cs.head?, c ∉ ['%', '[', '|', ']']) :
    opening ('%' :: cs) = .percent := by
  unfold opening
  split <;> simp_all

theorem opening_value {c : Char} (h : c ≠ '%') (cs : List Char) :
    opening ('%' :: '[' :: c :: cs) = .value := by
  unfold opening
  split <;> grind

theorem Derives.opening_eq {item : Item} {items : List Item} {cs rest : List Char}
    (h : Derives (item :: items) cs rest) : opening cs = item.opening := by
  cases h with
  | char hc tail => exact opening_char hc _
  | percent hc tail => exact opening_percent hc
  | @value t _ tail _ _ =>
    obtain ⟨c, cs, first, word⟩ := t.name.head_word (t.suffix ++ (']' :: '%' :: tail))
    simp only [Tag.spell, List.cons_append, List.append_assoc, List.nil_append, first]
    exact opening_value (by rintro rfl; exact absurd word (by decide)) cs
  | _ => rfl

theorem Derives.of_nothing {items : List Item} {cs rest : List Char} (h : Derives items cs rest)
    (stop : opening cs = .nothing) : items = [] ∧ cs = rest := by
  cases items with
  | nil => cases h; exact ⟨rfl, rfl⟩
  | cons item items =>
    rw [h.opening_eq] at stop
    cases item <;> cases stop

theorem Derives.value_inv {t : Tag} {items : List Item} {input rest : List Char}
    (h : Derives (.value t :: items) input rest) :
    ∃ cs, input = t.spell ++ cs ∧ Derives items cs rest := by
  cases h with
  | value tail => exact ⟨_, rfl, tail⟩

theorem Derives.probe_inv {hd : Heading} {items : List Item} {input rest : List Char}
    (h : Derives (.probe hd :: items) input rest) :
    ∃ cs, input = hd.spell ++ '%' :: ']' :: '%' :: cs ∧ Derives items cs rest := by
  cases h with
  | probe tail => exact ⟨_, rfl, tail⟩

theorem Derives.guard_inv {hd : Heading} {yes items : List Item} {input rest : List Char}
    (h : Derives (.guard hd yes :: items) input rest) :
    ∃ body cs, input = hd.spell ++ '%' :: '|' :: '%' :: body ∧
      Derives yes body ('%' :: ']' :: '%' :: cs) ∧ Derives items cs rest := by
  cases h with
  | guard inner tail => exact ⟨_, _, rfl, inner, tail⟩

theorem Derives.choice_inv {hd : Heading} {yes no items : List Item} {input rest : List Char}
    (h : Derives (.choice hd yes no :: items) input rest) :
    ∃ body body' cs, input = hd.spell ++ '%' :: '|' :: '%' :: body ∧
      Derives yes body ('%' :: '|' :: '%' :: body') ∧
      Derives no body' ('%' :: ']' :: '%' :: cs) ∧ Derives items cs rest := by
  cases h with
  | choice inner inner' tail => exact ⟨_, _, _, rfl, inner, inner', tail⟩

theorem Derives.same_opening {x : Item} {xs ys : List Item} {cs rest rest' : List Char}
    (h : Derives (x :: xs) cs rest) (h' : Derives ys cs rest') (stop' : opening rest' = .nothing) :
    ∃ y ys', ys = y :: ys' ∧ x.opening = y.opening := by
  cases ys with
  | nil =>
    cases h'
    rw [h.opening_eq] at stop'
    cases x <;> cases stop'
  | cons y ys' => exact ⟨y, ys', rfl, h.opening_eq.symm.trans h'.opening_eq⟩

/-- Items of which the first is a condition with this heading, derived from behind the heading. -/
inductive Headed (h : Heading) (rest : List Char) :
    (items : List Item) → (cs : List Char) → Prop where
  | probe {items cs} :
      Derives items cs rest → Headed h rest (.probe h :: items) (']' :: '%' :: cs)
  | guard {yes items body cs} :
      Derives yes body ('%' :: ']' :: '%' :: cs) → Derives items cs rest →
      Headed h rest (.guard h yes :: items) ('|' :: '%' :: body)
  | choice {yes no items body body' cs} :
      Derives yes body ('%' :: '|' :: '%' :: body') →
      Derives no body' ('%' :: ']' :: '%' :: cs) → Derives items cs rest →
      Headed h rest (.choice h yes no :: items) ('|' :: '%' :: body)

theorem Derives.headed {hd : Heading} {items : List Item} {cs rest : List Char}
    (h : Derives items (hd.spell ++ '%' :: cs) rest) (stop : opening rest = .nothing) :
    Headed hd rest items cs := by
  cases items with
  | nil =>
    cases h
    cases stop
  | cons item items =>
    have kind : Opening.condition = item.opening := h.opening_eq
    cases item with
    | probe =>
      obtain ⟨cs', same, tail⟩ := h.probe_inv
      obtain ⟨rfl, rfl⟩ := Heading.unique same
      exact .probe tail
    | guard =>
      obtain ⟨body, cs', same, inner, tail⟩ := h.guard_inv
      obtain ⟨rfl, rfl⟩ := Heading.unique same
      exact .guard inner tail
    | choice =>
      obtain ⟨body, body', cs', same, inner, inner', tail⟩ := h.choice_inv
      obtain ⟨rfl, rfl⟩ := Heading.unique same
      exact .choice inner inner' tail
    | _ => cases kind

/-- Items that go on from where no item begins do not go on. -/
theorem eq_of_remainder {xs ys : List Item} {mid rest : List Char}
    (h : ∃ zs, ys = xs ++ zs ∧ Derives zs mid rest) (stop : opening mid = .nothing) :
    xs = ys ∧ mid = rest := by
  obtain ⟨zs, rfl, between⟩ := h
  obtain ⟨rfl, same⟩ := between.of_nothing stop
  exact ⟨by simp, same⟩

theorem remainder_cons {x : Item} {xs ys : List Item} {mid rest : List Char}
    (h : ∃ zs, ys = xs ++ zs ∧ Derives zs mid rest) :
    ∃ zs, x :: ys = x :: xs ++ zs ∧ Derives zs mid rest := by
  obtain ⟨zs, rfl, derived⟩ := h
  exact ⟨zs, rfl, derived⟩

/-- Where items have been derived from the front of a source, a derivation of more begins with
them. -/
theorem Derives.remainder {xs ys : List Item} {cs mid rest : List Char} (h : Derives xs cs mid)
    (h' : Derives ys cs rest) (stop : opening rest = .nothing) :
    ∃ zs, ys = xs ++ zs ∧ Derives zs mid rest := by
  -- The first characters announce the next item, so both derivations go the same way.
  induction h generalizing ys rest with
  | nil => exact ⟨ys, rfl, h'⟩
  | char hc tail ih =>
    obtain ⟨y, ys, rfl, kind⟩ := (Derives.char hc tail).same_opening h' stop
    cases y <;> cases kind
    cases h' with
    | char hc' tail' => exact remainder_cons (ih tail' stop)
  | escape tail ih =>
    obtain ⟨y, ys, rfl, kind⟩ := (Derives.escape tail).same_opening h' stop
    cases y <;> cases kind
    cases h' with
    | escape tail' => exact remainder_cons (ih tail' stop)
  | percent hc tail ih =>
    obtain ⟨y, ys, rfl, kind⟩ := (Derives.percent hc tail).same_opening h' stop
    cases y <;> cases kind
    cases h' with
    | percent hc' tail' => exact remainder_cons (ih tail' stop)
  | @value t items cs mid tail ih =>
    obtain ⟨y, ys, rfl, kind⟩ := (Derives.value (t := t) tail).same_opening h' stop
    cases y <;> cases kind
    obtain ⟨cs', same, tail'⟩ := h'.value_inv
    obtain ⟨rfl, rfl⟩ := Tag.unique same
    exact remainder_cons (ih tail' stop)
  | probe tail ih =>
    cases h'.headed stop with
    | probe tail' => exact remainder_cons (ih tail' stop)
  | guard inner tail ihYes ih =>
    cases h'.headed stop with
    | guard inner' tail' =>
      obtain ⟨rfl, mark⟩ := eq_of_remainder (ihYes inner' rfl) rfl
      cases mark
      exact remainder_cons (ih tail' stop)
    | choice inner' _ _ => cases (eq_of_remainder (ihYes inner' rfl) rfl).2
  | choice inner inner₁ tail ihYes ihNo ih =>
    cases h'.headed stop with
    | guard inner' _ => cases (eq_of_remainder (ihYes inner' rfl) rfl).2
    | choice inner' inner₁' tail' =>
      obtain ⟨rfl, mark⟩ := eq_of_remainder (ihYes inner' rfl) rfl
      cases mark
      obtain ⟨rfl, mark⟩ := eq_of_remainder (ihNo inner₁' rfl) rfl
      cases mark
      exact remainder_cons (ih tail' stop)

/-- A source has only one derivation before a place where no item begins. -/
theorem Derives.unique {xs ys : List Item} {cs rest rest' : List Char} (h : Derives xs cs rest)
    (h' : Derives ys cs rest') (stop : opening rest = .nothing) (stop' : opening rest' = .nothing) :
    xs = ys ∧ rest = rest' :=
  eq_of_remainder (h.remainder h' stop') stop

end TextTemplate.Grammar
