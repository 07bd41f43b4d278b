import TextTemplate.Proofs.Grammar

/-!
# Places in a source

A `Gap` is a template with a place between two items, inside any number of conditions. Where a
source goes on from a `Front`, which ends between tags, its derivation has a gap at the seam, and
other items can be derived there.
-/

namespace TextTemplate.Grammar
open Item

/-! ### Gaps -/

/-- The items of a template, with a place between two of them. -/
inductive Gap where
  | here (before after : List Item)
  /-- In a condition with a true branch only. -/
  | inGuard (before : List Item) (h : Heading) (inner : Gap) (after : List Item)
  | inYes (before : List Item) (h : Heading) (inner : Gap) (no after : List Item)
  | inNo (before : List Item) (h : Heading) (yes : List Item) (inner : Gap) (after : List Item)

namespace Gap

def fill (items : List Item) : Gap → List Item
  | here before after => before ++ (items ++ after)
  | inGuard before h inner after => before ++ .guard h (inner.fill items) :: after
  | inYes before h inner no after => before ++ .choice h (inner.fill items) no :: after
  | inNo before h yes inner after => before ++ .choice h yes (inner.fill items) :: after

def left : Gap → List Char
  | here before _ => spellAll before
  | inGuard before h inner _ | inYes before h inner _ _ =>
    spellAll before ++ (h.spell ++ '%' :: '|' :: '%' :: inner.left)
  | inNo before h yes inner _ =>
    spellAll before ++ (h.spell ++ '%' :: '|' :: '%' ::
      (spellAll yes ++ '%' :: '|' :: '%' :: inner.left))

def right : Gap → List Char
  | here _ after => spellAll after
  | inGuard _ _ inner after | inNo _ _ _ inner after =>
    inner.right ++ '%' :: ']' :: '%' :: spellAll after
  | inYes _ _ inner no after =>
    inner.right ++ '%' :: '|' :: '%' :: (spellAll no ++ '%' :: ']' :: '%' :: spellAll after)

def cons (item : Item) : Gap → Gap
  | here before after => here (item :: before) after
  | inGuard before h inner after => inGuard (item :: before) h inner after
  | inYes before h inner no after => inYes (item :: before) h inner no after
  | inNo before h yes inner after => inNo (item :: before) h yes inner after

end Gap

theorem Item.spellAll_append (xs ys : List Item) :
    spellAll (xs ++ ys) = spellAll xs ++ spellAll ys := by
  induction xs with
  | nil => rfl
  | cons x xs ih => simp [spellAll, ih]

namespace Gap

@[simp] theorem fill_cons (item : Item) (items : List Item) (g : Gap) :
    (g.cons item).fill items = item :: g.fill items := by
  cases g <;> rfl

@[simp] theorem left_cons (item : Item) (g : Gap) :
    (g.cons item).left = item.spell ++ g.left := by
  cases g <;> simp [cons, left, spellAll]

theorem spell_fill (items : List Item) (g : Gap) :
    spellAll (g.fill items) = g.left ++ (spellAll items ++ g.right) := by
  induction g with
  | here before after => simp [fill, left, right, spellAll_append]
  | inGuard before h inner after ih =>
    simp [fill, left, right, spellAll_append, spellAll, spell, ih]
  | inYes before h inner no after ih =>
    simp [fill, left, right, spellAll_append, spellAll, spell, ih]
  | inNo before h yes inner after ih =>
    simp [fill, left, right, spellAll_append, spellAll, spell, ih]

theorem byteLength_fill (items : List Item) (g : Gap) :
    byteLength (spellAll (g.fill items)) =
      byteLength g.left + (byteLength (spellAll items) + byteLength g.right) := by
  rw [spell_fill, byteLength_append, byteLength_append]

theorem byteLength_inGuard (before after : List Item) (h : Heading) (inner : Gap) :
    byteLength (inGuard before h inner after).left =
      byteLength (spellAll before) + byteLength h.spell + 3 + byteLength inner.left := by
  simp [left, utf8Size_mark]
  omega

theorem byteLength_inYes (before no after : List Item) (h : Heading) (inner : Gap) :
    byteLength (inYes before h inner no after).left =
      byteLength (spellAll before) + byteLength h.spell + 3 + byteLength inner.left := by
  simp [left, utf8Size_mark]
  omega

theorem byteLength_inNo (before yes after : List Item) (h : Heading) (inner : Gap) :
    byteLength (inNo before h yes inner after).left =
      byteLength (spellAll before) + byteLength h.spell + 3 + byteLength (spellAll yes) + 3 +
        byteLength inner.left := by
  simp [left, utf8Size_mark]
  omega

end Gap

/-! ### Fronts -/

/-- Text, marks and closed tags, whatever stands in the tags. A lone `%` is not the last of them. -/
inductive Front : List Char → Prop where
  | nil : Front []
  | char {c : Char} {cs : List Char} : c ≠ '%' → Front cs → Front (c :: cs)
  | escape {cs : List Char} : Front cs → Front ('%' :: '%' :: cs)
  | percent {c : Char} {cs : List Char} :
      c ∉ ['%', '[', '|', ']'] → Front (c :: cs) → Front ('%' :: c :: cs)
  | separator {cs : List Char} : Front cs → Front ('%' :: '|' :: '%' :: cs)
  | close {cs : List Char} : Front cs → Front ('%' :: ']' :: '%' :: cs)
  | value {tag cs : List Char} :
      (∀ c ∈ tag, isWordChar c = true ∨ c = '!') → Front cs →
      Front ('%' :: '[' :: (tag ++ ']' :: '%' :: cs))
  | header {tag cs : List Char} :
      (∀ c ∈ tag, c ≠ '%') → Front ('%' :: cs) → opening ('%' :: cs) = .nothing →
      Front ('%' :: '[' :: '%' :: (tag ++ '%' :: cs))

namespace Front

variable {p x cs : List Char}

theorem char_inv (h : Front p) {c : Char} (hc : c ≠ '%') (same : p ++ x = c :: cs) :
    p = [] ∨ ∃ p', p = c :: p' ∧ Front p' ∧ p' ++ x = cs := by
  cases h with
  | nil => exact Or.inl rfl
  | char _ tail =>
    obtain ⟨rfl, rest⟩ := List.cons.inj same
    exact Or.inr ⟨_, rfl, tail, rest⟩
  | _ => exact absurd (List.cons.inj same).1.symm hc

/-- The second character of a front is seen if the first is a `%`. -/
theorem second (h : Front p) {c : Char} (same : p ++ x = '%' :: c :: cs) :
    p = [] ∨ ∃ p', p = '%' :: c :: p' ∧ p' ++ x = cs := by
  cases h with
  | nil => exact Or.inl rfl
  | char hc _ => exact absurd (List.cons.inj same).1 hc
  | _ =>
    simp only [List.cons_append, List.cons.injEq, true_and] at same
    obtain ⟨rfl, same⟩ := same
    exact Or.inr ⟨_, rfl, by simpa using same⟩

theorem of_escape (h : Front ('%' :: '%' :: cs)) : Front cs := by
  cases h with
  | escape tail => exact tail
  | char hc _ => exact absurd rfl hc
  | percent hc _ => exact absurd hc (by decide)

theorem percent_inv (h : Front p) (next : ∀ c ∈ cs.head?, c ∉ ['%', '[', '|', ']'])
    (same : p ++ x = '%' :: cs) :
    p = [] ∨ ∃ p', p = '%' :: p' ∧ p' ≠ [] ∧ Front p' ∧ p' ++ x = cs := by
  cases h with
  | nil => exact Or.inl rfl
  | char hc _ => exact absurd (List.cons.inj same).1 hc
  | percent _ tail =>
    exact Or.inr ⟨_, rfl, List.cons_ne_nil _ _, tail, (List.cons.inj same).2⟩
  | _ =>
    simp only [List.cons_append, List.cons.injEq, true_and] at same
    rw [← same] at next
    exact absurd (next _ rfl) (by decide)

/-- Behind a mark in text the front goes on. -/
theorem of_mark {c : Char} (hc : c = '|' ∨ c = ']') (h : Front ('%' :: c :: cs)) :
    ∃ cs', cs = '%' :: cs' ∧ Front cs' := by
  cases h with
  | separator tail | close tail => exact ⟨_, rfl, tail⟩
  | char hc' _ => exact absurd rfl hc'
  | percent hc' _ => rcases hc with rfl | rfl <;> exact absurd hc' (by decide)
  | _ => rcases hc with hc | hc <;> cases hc

theorem mark_inv (h : Front p) {c : Char} (hc : c = '|' ∨ c = ']')
    (same : p ++ x = '%' :: c :: '%' :: cs) :
    p = [] ∨ ∃ p', p = '%' :: c :: '%' :: p' ∧ Front p' ∧ p' ++ x = cs := by
  rcases h.second same with empty | ⟨p', rfl, same⟩
  · exact Or.inl empty
  · obtain ⟨p', rfl, tail⟩ := h.of_mark hc
    exact Or.inr ⟨p', rfl, tail, by simpa using same⟩

end Front

theorem Tag.inner_ne (t : Tag) : ∀ c ∈ t.name.chars ++ t.suffix, (c != ']') = true := by
  intro c member
  rw [bne_iff_ne]
  rintro rfl
  rcases List.mem_append.mp member with name | suffix
  · exact absurd (t.name.word _ name) (by decide)
  · unfold Tag.suffix at suffix
    cases codes : t.codes with
    | none => simp [codes] at suffix
    | some letters =>
      simp only [codes, List.mem_cons] at suffix
      rcases suffix with bang | letter
      · cases bang
      · exact absurd (t.word_of_known letters codes _ letter) (by decide)

theorem Heading.inner_ne (h : Heading) :
    ∀ c ∈ h.before ++ (h.bang ++ (h.name.chars ++ (h.suffix ++ h.after))),
      (c != '%') = true := by
  intro c member
  rw [bne_iff_ne]
  rintro rfl
  simp only [List.mem_append] at member
  rcases member with before | bang | name | suffix | after
  · exact absurd (h.before_blank _ before) (by decide)
  · unfold Heading.bang at bang
    split at bang <;> simp at bang
  · exact absurd (h.name.word _ name) (by decide)
  · unfold Heading.suffix at suffix
    split at suffix
    · simp at suffix
    · rcases List.mem_cons.mp suffix with bang | mark
      · cases bang
      · exact absurd (h.word_of_raw _ mark) (by decide)
  · exact absurd (h.after_blank _ after) (by decide)

namespace Front

variable {p x cs : List Char}

theorem value_inv (h : Front p) (t : Tag) (same : p ++ x = t.spell ++ cs) :
    p = [] ∨ ∃ p', p = t.spell ++ p' ∧ Front p' ∧ p' ++ x = cs := by
  obtain ⟨c, cs', first, word⟩ := t.name.head_word (t.suffix ++ (']' :: '%' :: cs))
  have spelled : t.spell ++ cs = '%' :: '[' :: c :: cs' := by
    rw [← first]
    simp [Tag.spell]
  cases h with
  | nil => exact Or.inl rfl
  | char hc _ =>
    rw [spelled] at same
    exact absurd (List.cons.inj same).1 hc
  | percent hc _ =>
    rw [spelled] at same
    simp only [List.cons_append, List.cons.injEq, true_and] at same
    rw [same.1] at hc
    exact absurd hc (by decide)
  | @value tag tail inner front =>
    have ends : ∀ d ∈ (']' :: '%' :: (tail ++ x)).head?, (d != ']') = false := by simp
    have ends' : ∀ d ∈ (']' :: '%' :: cs).head?, (d != ']') = false := by simp
    have plain : ∀ d ∈ tag, (d != ']') = true := by
      intro d member
      rw [bne_iff_ne]
      rintro rfl
      rcases inner _ member with word | bang
      · exact absurd word (by decide)
      · cases bang
    simp only [Tag.spell, List.cons_append, List.append_assoc, List.cons.injEq, true_and,
      List.nil_append] at same
    rw [← List.append_assoc t.name.chars] at same
    obtain ⟨rfl, behind⟩ := run_unique plain t.inner_ne ends ends' same
    exact Or.inr ⟨tail, by simp [Tag.spell], front, by simpa using behind⟩
  | header _ _ _ =>
    rw [spelled] at same
    simp only [List.cons_append, List.cons.injEq, true_and] at same
    rw [← same.1] at word
    exact absurd word (by decide)
  | _ =>
    rw [spelled] at same
    simp at same

theorem header_inv (h : Front p) (hd : Heading) (same : p ++ x = hd.spell ++ '%' :: cs) :
    p = [] ∨ ∃ p', p = hd.spell ++ '%' :: p' ∧ Front ('%' :: p') ∧ p' ++ x = cs := by
  cases h with
  | nil => exact Or.inl rfl
  | char hc _ => exact absurd (List.cons.inj same).1 hc
  | percent hc _ =>
    simp only [Heading.spell, List.cons_append, List.cons.injEq, true_and] at same
    rw [same.1] at hc
    exact absurd hc (by decide)
  | @value tag tail inner front =>
    simp only [Heading.spell, List.cons_append, List.append_assoc, List.cons.injEq,
      true_and] at same
    cases tag with
    | nil => simp at same
    | cons c tag =>
      simp only [List.cons_append, List.cons.injEq] at same
      have first := inner c (by simp)
      rw [same.1] at first
      exact absurd first (by decide)
  | @header tag tail inner front _ =>
    have ends : ∀ d ∈ ('%' :: (tail ++ x)).head?, (d != '%') = false := by simp
    have ends' : ∀ d ∈ ('%' :: cs).head?, (d != '%') = false := by simp
    have plain : ∀ d ∈ tag, (d != '%') = true := fun d member => bne_iff_ne.mpr (inner d member)
    simp only [Heading.spell, List.cons_append, List.append_assoc, List.cons.injEq,
      true_and] at same
    have whole : tag ++ '%' :: (tail ++ x) =
        (hd.before ++ (hd.bang ++ (hd.name.chars ++ (hd.suffix ++ hd.after)))) ++ '%' :: cs := by
      simpa using same
    obtain ⟨rfl, behind⟩ := run_unique plain hd.inner_ne ends ends' whole
    exact Or.inr ⟨tail, by simp [Heading.spell], front, by simpa using behind⟩
  | _ => simp [Heading.spell] at same

/-- A front that goes into a header goes beyond the mark that ends it. -/
theorem condition_inv (h : Front p) (hd : Heading) {c : Char} (hc : c = '|' ∨ c = ']')
    (same : p ++ x = hd.spell ++ '%' :: c :: '%' :: cs) :
    p = [] ∨ ∃ p', p = hd.spell ++ '%' :: c :: '%' :: p' ∧ Front p' ∧ p' ++ x = cs := by
  rcases h.header_inv hd same with empty | ⟨p', rfl, front, same⟩
  · exact Or.inl empty
  · rcases front.mark_inv hc (congrArg ('%' :: ·) same) with empty | ⟨p'', mark, front, same⟩
    · cases empty
    · exact Or.inr ⟨p'', by rw [mark], front, same⟩

end Front

/-! ### Derivations with a seam -/

/-- The items are what the text stands for, whatever comes after it. -/
def Stands (items : List Item) (text : List Char) : Prop :=
  ∀ rest, Derives items (text ++ rest) rest

theorem Stands.spells {items : List Item} {text : List Char} (h : Stands items text) :
    spellAll items = text := by
  simpa using (h []).spells.symm

/-- What comes behind items does not matter to them, its first character apart. -/
theorem Derives.behind {items : List Item} {cs rest : List Char} (h : Derives items cs rest)
    (rest' : List Char) (same : rest'.head? = rest.head?) :
    Derives items (spellAll items ++ rest') rest' := by
  induction h generalizing rest' with
  | nil => exact .nil
  | char hc _ ih => exact .char hc (ih _ same)
  | escape _ ih => exact .escape (ih _ same)
  | @percent items cs rest hc tail ih =>
    refine .percent ?_ (ih _ same)
    rw [tail.spells] at hc
    cases spelled : spellAll items with
    | nil => simpa [spelled, same] using hc
    | cons c cs => simpa [spelled] using hc
  | value _ ih =>
    rw [spellAll, spell, List.append_assoc]
    exact .value (ih _ same)
  | probe _ ih =>
    rw [spellAll, spell, List.append_assoc, List.append_assoc]
    exact .probe (ih _ same)
  | guard _ _ ihYes ih =>
    simp only [spellAll, spell, List.append_assoc, List.cons_append, List.nil_append]
    exact .guard (ihYes _ rfl) (ih _ same)
  | choice _ _ _ ihYes ihNo ih =>
    simp only [spellAll, spell, List.append_assoc, List.cons_append, List.nil_append]
    exact .choice (ihYes _ rfl) (ihNo _ rfl) (ih _ same)

/-- Where items derived from `p`, then from the text of `held`, then from `q` come to the seam. -/
inductive Cut (held : List Item) (p q rest : List Char) (items : List Item) : Prop where
  /-- They have a gap with `held` in it, where other items can be derived. -/
  | inside (g : Gap) : items = g.fill held → g.left = p →
      (∀ others text, Stands others text → Derives (g.fill others) (p ++ (text ++ q)) rest) →
      Cut held p q rest items
  /-- They end in front of it. -/
  | beyond (p' : List Char) : p' ≠ [] → Front p' → p = spellAll items ++ p' →
      rest = p' ++ (spellAll held ++ q) → Cut held p q rest items

namespace Cut

variable {held items : List Item} {p q rest : List Char}

theorem cons (h : Cut held p q rest items) (item : Item)
    (next : ∀ {items} cs, Derives items (p ++ cs) rest →
      Derives (item :: items) (item.spell ++ (p ++ cs)) rest) :
    Cut held (item.spell ++ p) q rest (item :: items) := by
  cases h with
  | inside g filled left derives =>
    refine .inside (g.cons item) (by rw [filled, Gap.fill_cons]) (by rw [Gap.left_cons, left]) ?_
    intro others text stands
    rw [Gap.fill_cons, List.append_assoc]
    exact next _ (derives others text stands)
  | beyond p' nonempty front same tail =>
    exact .beyond p' nonempty front (by rw [same, spellAll, List.append_assoc]) tail

/-- At the seam itself. -/
theorem here {v : List Char} (stands : Stands held v) (derived : Derives items (v ++ q) rest)
    (stop : opening rest = .nothing) : Cut held [] q rest items := by
  obtain ⟨after, rfl, tail⟩ := (stands q).remainder derived stop
  refine .inside (.here [] after) rfl rfl ?_
  intro others text stands'
  exact (stands' q).append tail

/-- The seam is in a branch, or behind the mark that ends the branch. -/
theorem branch {c : Char} {cs : List Char} (hc : c = '|' ∨ c = ']')
    (h : Cut held p q ('%' :: c :: '%' :: cs) items) :
    (∃ g : Gap, items = g.fill held ∧ g.left = p ∧
      ∀ others text, Stands others text →
        Derives (g.fill others) (p ++ (text ++ q)) ('%' :: c :: '%' :: cs)) ∨
      ∃ p', Front p' ∧ p = spellAll items ++ '%' :: c :: '%' :: p' ∧
        p' ++ (spellAll held ++ q) = cs := by
  cases h with
  | inside g filled left derives => exact Or.inl ⟨g, filled, left, derives⟩
  | beyond p' nonempty front spelled same =>
    rcases front.mark_inv hc same.symm with empty | ⟨p', rfl, front, same⟩
    · exact absurd empty nonempty
    · exact Or.inr ⟨p', front, spelled, same⟩

section
variable {h : Heading} {yes no : List Item} {body cs : List Char} {g : Gap}

theorem inGuard (filled : yes = g.fill held) (left : g.left = p)
    (derives : ∀ others text, Stands others text →
      Derives (g.fill others) (p ++ (text ++ q)) ('%' :: ']' :: '%' :: cs))
    (tail : Derives items cs rest) :
    Cut held (h.spell ++ '%' :: '|' :: '%' :: p) q rest (.guard h yes :: items) := by
  subst filled left
  refine .inside (.inGuard [] h g items) rfl rfl fun others text stands => ?_
  simpa [Gap.fill] using Derives.guard (h := h) (derives others text stands) tail

theorem inYes (filled : yes = g.fill held) (left : g.left = p)
    (derives : ∀ others text, Stands others text →
      Derives (g.fill others) (p ++ (text ++ q)) ('%' :: '|' :: '%' :: body))
    (second : Derives no body ('%' :: ']' :: '%' :: cs)) (tail : Derives items cs rest) :
    Cut held (h.spell ++ '%' :: '|' :: '%' :: p) q rest (.choice h yes no :: items) := by
  subst filled left
  refine .inside (.inYes [] h g no items) rfl rfl fun others text stands => ?_
  simpa [Gap.fill] using Derives.choice (h := h) (derives others text stands) second tail

theorem inNo (first : Derives yes body ('%' :: '|' :: '%' :: cs)) (filled : no = g.fill held)
    (left : g.left = p) {behind : List Char}
    (derives : ∀ others text, Stands others text →
      Derives (g.fill others) (p ++ (text ++ q)) ('%' :: ']' :: '%' :: behind))
    (tail : Derives items behind rest) :
    Cut held (h.spell ++ '%' :: '|' :: '%' :: (spellAll yes ++ '%' :: '|' :: '%' :: p)) q rest
      (.choice h yes no :: items) := by
  subst filled left
  refine .inside (.inNo [] h yes g items) rfl rfl fun others text stands => ?_
  have first' := first.behind ('%' :: '|' :: '%' :: (g.left ++ (text ++ q))) rfl
  simpa [Gap.fill] using Derives.choice (h := h) first' (derives others text stands) tail

theorem overProbe (cut : Cut held p q rest items) :
    Cut held (h.spell ++ '%' :: ']' :: '%' :: p) q rest (.probe h :: items) := by
  have passed := cut.cons (.probe h) fun cs derived => by
    simpa [spell] using Derives.probe (h := h) derived
  simpa [spell] using passed

theorem overGuard (first : Derives yes body ('%' :: ']' :: '%' :: cs))
    (cut : Cut held p q rest items) :
    Cut held (h.spell ++ '%' :: '|' :: '%' :: (spellAll yes ++ '%' :: ']' :: '%' :: p)) q rest
      (.guard h yes :: items) := by
  have passed := cut.cons (.guard h yes) fun more derived => by
    have first' := first.behind ('%' :: ']' :: '%' :: (p ++ more)) rfl
    simpa [spell] using Derives.guard (h := h) first' derived
  simpa [spell] using passed

theorem overChoice {behind : List Char} (first : Derives yes body ('%' :: '|' :: '%' :: cs))
    (second : Derives no cs ('%' :: ']' :: '%' :: behind)) (cut : Cut held p q rest items) :
    Cut held (h.spell ++ '%' :: '|' :: '%' :: (spellAll yes ++ '%' :: '|' :: '%' ::
      (spellAll no ++ '%' :: ']' :: '%' :: p))) q rest (.choice h yes no :: items) := by
  have passed := cut.cons (.choice h yes no) fun more derived => by
    have second' := second.behind ('%' :: ']' :: '%' :: (p ++ more)) rfl
    have first' := first.behind
      ('%' :: '|' :: '%' :: (spellAll no ++ '%' :: ']' :: '%' :: (p ++ more))) rfl
    simpa [spell] using Derives.choice (h := h) first' second' derived
  simpa [spell] using passed

end

end Cut

/-- A front ends in a gap of what is derived, or behind it. -/
theorem Derives.cut {held items : List Item} {v p q rest : List Char} (stands : Stands held v)
    (derived : Derives items (p ++ (v ++ q)) rest) (front : Front p)
    (stop : opening rest = .nothing) : Cut held p q rest items := by
  -- Over all fronts, since inside a condition the seam is sought in the branches from where the
  -- header ends.
  obtain rfl := stands.spells
  generalize same : p ++ (spellAll held ++ q) = input at derived
  induction derived generalizing p with
  | nil =>
    by_cases empty : p = []
    · subst empty
      subst same
      exact .here stands .nil stop
    · exact .beyond p empty front rfl same.symm
  | @char c items cs rest hc tail ih =>
    rcases front.char_inv hc same with rfl | ⟨p, rfl, front, same⟩
    · exact .here stands (same ▸ .char hc tail) stop
    · exact (ih front stop same).cons (.char c) fun _ => .char hc
  | escape tail ih =>
    rcases front.second same with rfl | ⟨p, rfl, behind⟩
    · exact .here stands (same ▸ .escape tail) stop
    · exact (ih front.of_escape stop behind).cons .escape fun _ => .escape
  | percent next tail ih =>
    rcases front.percent_inv next same with rfl | ⟨p, rfl, nonempty, front, same⟩
    · exact .here stands (same ▸ .percent next tail) stop
    · obtain ⟨c, p, rfl⟩ := List.exists_cons_of_ne_nil nonempty
      refine (ih front stop same).cons .percent fun _ => .percent ?_
      rw [← same] at next
      exact next
  | @value t items cs rest tail ih =>
    rcases front.value_inv t same with rfl | ⟨p, rfl, front, same⟩
    · exact .here stands (same ▸ .value tail) stop
    · exact (ih front stop same).cons (.value t) fun _ => .value
  | @probe h items cs rest tail ih =>
    rcases front.condition_inv h (Or.inr rfl) same with rfl | ⟨p, rfl, front, same⟩
    · exact .here stands (same ▸ .probe tail) stop
    · exact (ih front stop same).overProbe
  | @guard h yes items body cs rest first tail ihYes ih =>
    rcases front.condition_inv h (Or.inl rfl) same with rfl | ⟨p₁, rfl, front₁, same₁⟩
    · exact .here stands (same ▸ .guard first tail) stop
    rcases (ihYes front₁ rfl same₁).branch (Or.inr rfl) with
      ⟨g, filled, left, derives⟩ | ⟨p₂, front₂, rfl, same₂⟩
    · exact .inGuard filled left derives tail
    · exact .overGuard first (ih front₂ stop same₂)
  | @choice h yes no items body body' cs rest first second tail ihYes ihNo ih =>
    rcases front.condition_inv h (Or.inl rfl) same with rfl | ⟨p₁, rfl, front₁, same₁⟩
    · exact .here stands (same ▸ .choice first second tail) stop
    rcases (ihYes front₁ rfl same₁).branch (Or.inl rfl) with
      ⟨g, filled, left, derives⟩ | ⟨p₂, front₂, rfl, same₂⟩
    · exact .inYes filled left derives second tail
    rcases (ihNo front₂ rfl same₂).branch (Or.inr rfl) with
      ⟨g, filled, left, derives⟩ | ⟨p₃, front₃, rfl, same₃⟩
    · exact .inNo first filled left derives tail
    · exact .overChoice first second (ih front₃ stop same₃)

end TextTemplate.Grammar
