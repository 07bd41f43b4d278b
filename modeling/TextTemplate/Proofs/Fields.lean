import TextTemplate.Proofs.Escaping

/-!
# Delimited fields

Fields that are escaped can be joined with one of the escapable characters. Protecting hides what
the fields have of the delimiter, so splitting finds those places only where fields were joined.
-/

namespace TextTemplate.Escaper

variable {e : Escaper} {d : Char}

/-! ### Protected fields -/

variable (e) in
/-- What becomes of a character that is escaped and then protected. -/
def shield (c : Char) : Char :=
  e.hide (if c ∈ e.escapable then .escaped c else .plain c)

/-- An escaped field is protected by itself, whatever stands behind it. -/
theorem protectChars_escapeChars_append (cs rest : List Char) :
    e.protectChars (e.escapeChars cs ++ rest) = cs.map e.shield ++ e.protectChars rest := by
  rw [protectChars_eq, glyphs_escapeChars_append, List.map_append, List.map_map, ← protectChars_eq]
  rfl

theorem protectChars_delimiter (other : d ≠ e.escapeChar) (rest : List Char) :
    e.protectChars (d :: rest) = d :: e.protectChars rest := by
  have plain : e.glyphs (d :: rest) = .plain d :: e.glyphs rest := by
    apply glyphs_plain
    intro sequence
    exact other sequence.1
  rw [protectChars_eq, plain, List.map_cons, ← protectChars_eq]
  rfl

theorem protectChars_join (other : d ≠ e.escapeChar) :
    ∀ fields : List (List Char), e.protectChars ([d].intercalate (fields.map e.escapeChars)) =
      [d].intercalate (fields.map (List.map e.shield))
  | [] => rfl
  | [field] => by
    have alone := protectChars_escapeChars_append (e := e) field []
    rw [List.append_nil, protectChars, List.append_nil] at alone
    simpa using alone
  | field :: next :: fields => by
    have later := protectChars_join other (next :: fields)
    simp only [List.map_cons, List.intercalate_cons_cons, List.append_assoc,
      List.singleton_append] at later ⊢
    -- The delimiter is read afresh, for what the field ends in is complete.
    rw [protectChars_escapeChars_append, protectChars_delimiter other, later]

theorem shield_ne (escapable : d ∈ e.escapable) (free : ¬ e.IsPlaceholder d) (c : Char) :
    e.shield c ≠ d := by
  intro same
  unfold shield at same
  split at same
  · rename_i member
    have reserved := (standsFor_hide member).isPlaceholder
    rw [same] at reserved
    exact free reserved
  · rename_i member
    obtain rfl : c = d := same
    exact member escapable

theorem restored_shield {c : Char} (plain : c ∉ e.escapable → ¬ e.IsPlaceholder c) :
    e.restored (e.shield c) = c := by
  unfold shield
  split
  · rename_i member
    exact restored_of_standsFor (standsFor_hide member)
  · rename_i member
    exact restored_of_free (plain member)

variable (e) in
def shielded (field : String) : String :=
  String.ofList (field.toList.map e.shield)

theorem protect_join (other : d ≠ e.escapeChar) (fields : List String) :
    e.protect ((String.singleton d).intercalate (fields.map e.escape)) =
      (String.singleton d).intercalate (fields.map e.shielded) := by
  have joined := protectChars_join other (fields.map String.toList)
  apply String.toList_inj.mp
  simpa [protect, escape, shielded, String.toList_intercalate, Function.comp_def] using joined

theorem not_mem_shielded (escapable : d ∈ e.escapable) (free : ¬ e.IsPlaceholder d)
    (field : String) : d ∉ (e.shielded field).toList := by
  rw [shielded, String.toList_ofList]
  intro inside
  obtain ⟨c, -, same⟩ := List.mem_map.mp inside
  exact shield_ne escapable free c same

theorem restore_shielded {field : String}
    (plain : ∀ c ∈ field.toList, c ∉ e.escapable → ¬ e.IsPlaceholder c) :
    e.restore (e.shielded field) = field := by
  have same : (field.toList.map e.shield).map e.restored = field.toList := by
    rw [List.map_map, map_eq_self_iff]
    intro c inside
    exact restored_shield (plain c inside)
  rw [restore, shielded, String.toList_ofList, restoreChars_eq, same, String.ofList_toList]

/-! ### Splitting -/

/-- Fields that are escaped and joined with a delimiter come back when the text is protected, split
at the delimiter and restored piece by piece. -/
theorem restore_split_protect (e : Escaper) {d : Char} (escapable : d ∈ e.escapable)
    (other : d ≠ e.escapeChar) (free : ¬ e.IsPlaceholder d) {fields : List String}
    (nonempty : fields ≠ [])
    (plain : ∀ field ∈ fields, ∀ c ∈ field.toList, c ∉ e.escapable → ¬ e.IsPlaceholder c) :
    ((e.protect ((String.singleton d).intercalate (fields.map e.escape))).split d).toList.map
      (fun piece => e.restore piece.copy) = fields := by
  have undelimited : ∀ piece ∈ fields.map e.shielded, d ∉ piece.toList := by
    intro piece member
    obtain ⟨field, -, rfl⟩ := List.mem_map.mp member
    exact not_mem_shielded escapable free field
  have some : fields.map e.shielded ≠ [] := by
    intro none
    exact nonempty (List.map_eq_nil_iff.mp none)
  have pieces := String.toList_split_intercalate undelimited
  rw [if_neg some] at pieces
  calc _ = ((((String.singleton d).intercalate (fields.map e.shielded)).split d).toList.map
          (·.copy)).map e.restore := by rw [protect_join other, List.map_map]; rfl
    _ = fields.map (e.restore ∘ e.shielded) := by rw [pieces, List.map_map]
    _ = fields := by
      nth_rewrite 2 [← List.map_id fields]
      apply List.map_congr_left
      intro field member
      exact restore_shielded (plain field member)

/-- The first field ends in an escape character, right in front of a delimiter. -/
theorem restore_split_protect_comma :
    let fields := ["a,\\", "", ",,"]
    let line := "a\\,\\\\,,\\,\\,"
    ∃ e, ofChars '\\' [','] = .ok e ∧
      (',' ∈ e.escapable ∧ ',' ≠ e.escapeChar ∧ ¬ e.IsPlaceholder ',' ∧ fields ≠ [] ∧
        ∀ field ∈ fields, ∀ c ∈ field.toList, c ∉ e.escapable → ¬ e.IsPlaceholder c) ∧
      (String.singleton ',').intercalate (fields.map e.escape) = line ∧
      ((e.protect line).split ',').toList.map (fun piece => e.restore piece.copy) = fields := by
  intro fields line
  let e : Escaper := ⟨'\\', ['\\', ','], rfl, by decide, by decide⟩
  have free : ¬ e.IsPlaceholder ',' := by decide
  have plain : ∀ field ∈ fields, ∀ c ∈ field.toList, c ∉ e.escapable → ¬ e.IsPlaceholder c := by
    have checked : (fields.flatMap String.toList).all
        (fun c => decide (¬ e.IsPlaceholder c)) = true := by decide
    intro field member c inside _
    exact of_decide_eq_true (List.all_eq_true.mp checked c
      (List.mem_flatMap.mpr ⟨field, member, inside⟩))
  have joined : (String.singleton ',').intercalate (fields.map e.escape) = line := by decide
  have back := restore_split_protect e (by decide) (by decide) free (by decide) plain
  rw [joined] at back
  exact ⟨e, rfl, ⟨by decide, by decide, free, by decide, plain⟩, joined, back⟩

end TextTemplate.Escaper
