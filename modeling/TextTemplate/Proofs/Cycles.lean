import Mathlib.Control.Monad.Basic
import Mathlib.Data.List.Chain
import Mathlib.Data.List.Perm.Subperm
import TextTemplate.Proofs.Diagnosis

/-!
# Cycles of recursive names

With as many levels of expansion as there are recursive names, the limit is reached only if some
name refers to itself, directly or through others.
-/

namespace TextTemplate
open Grammar Item

/-! ### Names that refer to names -/

def Mentions (source name : String) : Prop :=
  ∃ t, Template.parse source = .ok t ∧ ∃ v ∈ Node.valuesAll t.nodes, v.ident.name = name

namespace Tables

def recursiveNames (tables : Tables) : List String :=
  tables.values.keys.filter fun name => tables.recursive.contains name

/-- The first name is bound and recursive, and its value mentions the second. -/
def Refers (tables : Tables) (name next : String) : Prop :=
  tables.isRecursive name = true ∧
    ∃ text, tables.value? name = some text ∧ Mentions text next

def Acyclic (tables : Tables) : Prop :=
  ∀ name, ¬ Relation.TransGen tables.Refers name name

theorem key_mem_recursiveNames {tables : Tables} {w : Word} {text : String}
    (bound : tables.value? w.key = some text) (recursive : tables.isRecursive w.key = true) :
    w.key ∈ tables.recursiveNames := by
  rw [value?, w.foldName_key] at bound
  rw [isRecursive, w.foldName_key] at recursive
  refine List.mem_filter.mpr ⟨?_, recursive⟩
  rw [Std.ExtTreeMap.mem_keys, Std.ExtTreeMap.mem_iff_isSome_getElem?, bound]
  rfl

end Tables

/-! ### Tags that are met -/

/-- The tag that fills a gap is in the tree. -/
theorem value_mem_fill (g : Gap) (t : Tag) (start : Nat) :
    t.value (start + byteLength g.left) ∈ Node.valuesAll (nodeAll start (g.fill [.value t])) := by
  induction g generalizing start with
  | here before after =>
    simp [Gap.fill, Gap.left, nodeAll_append, nodeAll, node, Node.valuesAll, Node.values]
  | inGuard before h inner after ih =>
    rw [Gap.byteLength_inGuard]
    have inside := ih (start + byteLength (spellAll before) + byteLength h.spell + 3)
    simp only [Nat.add_assoc] at inside
    simp [Gap.fill, nodeAll_append, nodeAll, node, Node.valuesAll, Node.values, Nat.add_assoc,
      inside]
  | inYes before h inner no after ih =>
    rw [Gap.byteLength_inYes]
    have inside := ih (start + byteLength (spellAll before) + byteLength h.spell + 3)
    simp only [Nat.add_assoc] at inside
    simp [Gap.fill, nodeAll_append, nodeAll, node, Node.valuesAll, Node.values, Nat.add_assoc,
      inside]
  | inNo before h yes inner after ih =>
    rw [Gap.byteLength_inNo]
    have inside := ih (start + byteLength (spellAll before) + byteLength h.spell + 3 +
      byteLength (spellAll yes) + 3)
    simp only [Nat.add_assoc] at inside
    simp [Gap.fill, nodeAll_append, nodeAll, node, Node.valuesAll, Node.values, Nat.add_assoc,
      inside]

section
variable {tables : Tables}

theorem Meets.mentions {source : String} {before : List Char} {t : Tag}
    (meets : Meets tables source before (.value t)) : Mentions source t.name.key := by
  obtain ⟨compiles, g, derived, -, -⟩ := meets
  refine ⟨_, parse_of_derives derived ((compiles_of_derives derived).mp compiles), ?_⟩
  refine ⟨t.value (0 + byteLength g.left), ?_, rfl⟩
  rw [Node.valuesAll_merge]
  exact value_mem_fill g t 0

/-! ### The names on a chain -/

/-- On a chain of expansions that comes to one more recursive name, each name refers to the
next. -/
theorem names_of_chain {depth : Nat} {source last text : String} {before : List Char} {t : Tag}
    (chain : Chain tables depth source last) (meets : Meets tables last before (.value t))
    (recursive : tables.isRecursive t.name.key = true)
    (bound : tables.value? t.name.key = some text) :
    ∃ name names, names.length = depth ∧ Mentions source name ∧
      List.IsChain tables.Refers (name :: names) ∧ name :: names ⊆ tables.recursiveNames := by
  induction chain with
  | refl =>
    refine ⟨t.name.key, [], rfl, meets.mentions, List.IsChain.singleton _, ?_⟩
    exact List.cons_subset.mpr
      ⟨Tables.key_mem_recursiveNames bound recursive, List.nil_subset _⟩
  | expand expands _ ih =>
    obtain ⟨_, t', meets', recursive', bound'⟩ := expands
    obtain ⟨next, names, length, mentions, refer, within⟩ := ih meets
    refine ⟨t'.name.key, next :: names, congrArg (· + 1) length, meets'.mentions, ?_, ?_⟩
    · exact List.isChain_cons_cons.mpr ⟨⟨recursive', _, bound', mentions⟩, refer⟩
    · exact List.cons_subset.mpr ⟨Tables.key_mem_recursiveNames bound' recursive', within⟩

/-- Without a cycle, no name is twice on a chain. -/
theorem Tables.Acyclic.nodup (acyclic : tables.Acyclic) {names : List String}
    (refer : List.IsChain tables.Refers names) : names.Nodup := by
  have reach : names.Pairwise (Relation.TransGen tables.Refers) :=
    (refer.imp fun _ _ => Relation.TransGen.single).pairwise
  refine reach.imp fun path => ?_
  rintro rfl
  exact acyclic _ path

theorem Tables.Acyclic.length_le (acyclic : tables.Acyclic) {names : List String}
    (refer : List.IsChain tables.Refers names) (within : names ⊆ tables.recursiveNames) :
    names.length ≤ tables.recursiveNames.length :=
  (List.subperm_of_subset (acyclic.nodup refer) within).length_le

end

/-! ### Reaching the limit -/

section
variable {bindings : Bindings} {limit : Nat} {source : String} {e : Error}

theorem not_acyclic_of_limit (room : bindings.resolve.recursiveNames.length ≤ limit)
    (failed : format limit source bindings = .error e) (limited : e.kind = .recursionLimit) :
    ¬ bindings.resolve.Acyclic := by
  intro acyclic
  obtain ⟨depth, -, chain, holds, reached⟩ := holds_of_raised (raised_of_format failed)
  obtain ⟨before, t, meets, -, isBound, recursive, -⟩ := holds.recursionLimit limited
  obtain ⟨text, bound⟩ := Option.isSome_iff_exists.mp isBound
  obtain ⟨name, names, length, -, refer, within⟩ := names_of_chain chain meets recursive bound
  have short := acyclic.length_le refer within
  -- The names on the chain are one more than the expansions.
  rw [List.length_cons, length, reached limited] at short
  omega

/-- Where rendering ends at a limit that is no less than the number of recursive names, one of them
comes back to itself. Where none does, that many levels are enough. -/
theorem cycle_of_limit (source : String) (bindings : Bindings) :
    (∀ limit e, bindings.resolve.recursiveNames.length ≤ limit →
        format limit source bindings = .error e → e.kind = .recursionLimit →
        ∃ name, Relation.TransGen bindings.resolve.Refers name name) ∧
      (bindings.resolve.Acyclic → ∀ e,
        format bindings.resolve.recursiveNames.length source bindings = .error e →
        e.kind ≠ .recursionLimit) := by
  constructor
  · intro limit e room failed limited
    by_contra none
    exact not_acyclic_of_limit room failed limited (not_exists.mp none)
  · intro acyclic e failed limited
    exact not_acyclic_of_limit (Nat.le_refl _) failed limited acyclic

end

theorem cycle_of_limit_mutual :
    let cyclic := (((Bindings.empty.insert "a" (.value "%[b]%")).insert "b"
      (.value "x%[A]%")).insertRecursive "a").insertRecursive "b"
    let plain := (Bindings.empty.insert "a" (.value "1")).insertRecursive "a"
    format 2 "%[a]%" cyclic = .error ⟨⟨.recursionLimit 2 "a", ⟨1, 6⟩⟩, "x%[A]%"⟩ ∧
      (∃ name, Relation.TransGen cyclic.resolve.Refers name name) ∧
      plain.resolve.Acyclic ∧
      ∀ e, format plain.resolve.recursiveNames.length "%[a]%" plain = .error e →
        e.kind ≠ .recursionLimit := by
  intro cyclic plain
  have failed : format 2 "%[a]%" cyclic =
      .error ⟨⟨.recursionLimit 2 "a", ⟨1, 6⟩⟩, "x%[A]%"⟩ := by decide +kernel
  have two : cyclic.resolve.recursiveNames.length ≤ 2 := by decide +kernel
  have silent : ∀ next, ¬ Mentions "1" next := by
    rintro next ⟨t, read, v, member, -⟩
    have text : Template.parse "1" = .ok ⟨"1", [.text "1"]⟩ := by decide +kernel
    cases text.symm.trans read
    simp [Node.valuesAll, Node.values] at member
  have acyclic : plain.resolve.Acyclic := by
    intro name path
    obtain ⟨next, ⟨-, text, bound, mentions⟩, -⟩ := Relation.TransGen.head'_iff.mp path
    obtain ⟨-, rfl⟩ : foldName "a" = foldName name ∧ "1" = text := by
      simpa [plain, Bindings.insertRecursive, Bindings.empty,
        Std.ExtTreeMap.getElem?_insert] using bound
    exact silent next mentions
  refine ⟨failed, ?_, acyclic, (cycle_of_limit "%[a]%" plain).2 acyclic⟩
  exact (cycle_of_limit "%[a]%" cyclic).1 2 _ two failed rfl

end TextTemplate
