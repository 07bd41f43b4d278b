import TextTemplate.Error.Snippet
import TextTemplate.Proofs.Diagnosis

/-!
# Errors that can be shown

Every error shows at whole characters of the source that it carries, and the line and the column
that are told of it are found there. A snippet is drawn unless its carets end too far to the right.
-/

namespace TextTemplate
open Grammar Unicode

namespace Error

/-! ### Lines -/

def lastLine (cs : List Char) : List Char :=
  (cs.reverse.takeWhile (· != '\n')).reverse

theorem lastLine_of_not_mem {cs : List Char} (h : '\n' ∉ cs) : lastLine cs = cs := by
  have none : ∀ c ∈ cs.reverse, (c != '\n') = true := by
    intro c member
    exact bne_iff_ne.mpr fun same => h (same ▸ List.mem_reverse.mp member)
  have ends : ∀ c ∈ ([] : List Char).head?, (c != '\n') = false := by simp
  have whole := takeWhile_run none ends
  rw [List.append_nil] at whole
  rw [lastLine, whole, List.reverse_reverse]

theorem lastLine_append (line cs : List Char) : lastLine (line ++ '\n' :: cs) = lastLine cs := by
  rw [lastLine, lastLine, List.reverse_append, List.reverse_cons, List.append_assoc,
    List.takeWhile_append]
  split
  · rename_i whole
    have all : cs.reverse.takeWhile (· != '\n') = cs.reverse :=
      List.IsPrefix.eq_of_length (List.takeWhile_prefix _) whole
    simp [all]
  · rfl

theorem sourceLines_cons {c : Char} (hc : c ≠ '\n') (cs : List Char) :
    sourceLines (c :: cs) = Text.consLine c (sourceLines cs) := by
  rw [sourceLines]
  rintro rfl
  exact hc rfl

theorem sourceLines_line {line : List Char} (h : '\n' ∉ line) (cs : List Char) :
    sourceLines (line ++ '\n' :: cs) = line :: sourceLines cs := by
  induction line with
  | nil => rfl
  | cons c line ih =>
    simp only [List.mem_cons, not_or] at h
    rw [List.cons_append, sourceLines_cons (Ne.symm h.1), ih h.2]
    rfl

/-- The first line of a text. -/
theorem sourceLines_first {cs : List Char} (h : cs ≠ []) :
    ∃ lines, sourceLines cs = cs.takeWhile (· != '\n') :: lines := by
  induction cs with
  | nil => exact absurd rfl h
  | cons c cs ih =>
    by_cases hc : c = '\n'
    · subst hc
      exact ⟨sourceLines cs, rfl⟩
    · rw [sourceLines_cons hc]
      by_cases empty : cs = []
      · subst empty
        exact ⟨[], by simp [sourceLines, Text.consLine, hc]⟩
      · obtain ⟨lines, first⟩ := ih empty
        exact ⟨lines, by simp [first, Text.consLine, hc]⟩

def ended (lines : List (List Char)) : List Char :=
  lines.flatMap (· ++ ['\n'])

theorem ended_cons (line : List Char) (lines : List (List Char)) :
    ended (line :: lines) = line ++ '\n' :: ended lines := by
  simp [ended]

theorem bne_of_mem_lastLine (cs : List Char) : ∀ c ∈ lastLine cs, (c != '\n') = true := by
  intro c member
  rw [lastLine, List.mem_reverse] at member
  exact List.all_eq_true.mp List.all_takeWhile c member

/-- A text consists of lines that are ended and a last line that is not. -/
theorem exists_ended (front : List Char) : ∃ above : List (List Char),
    front = ended above ++ lastLine front ∧ above.length = front.count '\n' ∧
      ∀ line ∈ above, '\n' ∉ line := by
  -- Over the first line of the front, as long as there is one that ends in it.
  induction length : front.length using Nat.strongRecOn generalizing front with
  | ind n ih =>
    subst length
    by_cases newline : '\n' ∈ front
    · obtain ⟨line, behind, rfl, whole⟩ := List.eq_append_cons_of_mem newline
      obtain ⟨above, same, length, others⟩ := ih behind.length (by simp; omega) behind rfl
      refine ⟨line :: above, ?_, ?_, List.forall_mem_cons.mpr ⟨whole, others⟩⟩
      · rw [lastLine_append, ended_cons, List.append_assoc, List.cons_append, ← same]
      · simp [List.count_eq_zero.mpr whole, length]
    · refine ⟨[], ?_, (List.count_eq_zero.mpr newline).symm, List.forall_mem_nil _⟩
      rw [lastLine_of_not_mem newline]
      rfl

theorem cut_eq_ok {s : Span} {source text : List Char} :
    cut s source = .ok text ↔
      ∃ front rest, source = front ++ (text ++ rest) ∧ s = .ofText (byteLength front) text := by
  rw [← Span.slice?_eq_some, cut]
  cases s.slice? source <;> simp

theorem cut_front (front rest : List Char) :
    cut ⟨0, byteLength front⟩ (front ++ rest) = .ok front :=
  cut_eq_ok.mpr ⟨[], rest, rfl, by simp [Span.ofText]⟩

/-- The search for a place passes the lines that are ended in front of it. -/
theorem find?_ended {above : List (List Char)} (whole : ∀ line ∈ above, '\n' ∉ line)
    {before rest : List Char} (before_whole : ∀ c ∈ before, (c != '\n') = true) (h : rest ≠ [])
    (number : Nat) :
    Place.find? (sourceLines (ended above ++ (before ++ rest))) number
      (byteLength (ended above ++ before)) =
        .ok (some ⟨number + above.length, before ++ rest.takeWhile (· != '\n'),
          displayWidth before⟩) := by
  induction above generalizing number with
  | nil =>
    have nonempty : before ++ rest ≠ [] := by simp [h]
    obtain ⟨lines, first⟩ := sourceLines_first nonempty
    rw [List.takeWhile_append_of_pos before_whole] at first
    show Place.find? (sourceLines (before ++ rest)) number (byteLength before) = _
    rw [first, Place.find?, if_pos (by simp), cut_front]
    rfl
  | cons line above ih =>
    obtain ⟨line_whole, others⟩ := List.forall_mem_cons.mp whole
    have feed : '\n'.utf8Size = 1 := rfl
    have past : byteLength (ended (line :: above) ++ before) =
        byteLength (ended above ++ before) + (byteLength line + 1) := by
      simp only [ended_cons, byteLength_append, byteLength_cons, feed]
      omega
    rw [past, ended_cons, List.append_assoc, List.cons_append, sourceLines_line line_whole,
      Place.find?, if_neg (by omega), Nat.add_sub_cancel, ih others, List.length_cons]
    congr 3
    omega

/-- A place in front of a character is found in the line of this character. -/
theorem find?_sourceLines (front : List Char) {rest : List Char} (h : rest ≠ []) (number : Nat) :
    Place.find? (sourceLines (front ++ rest)) number (byteLength front) =
      .ok (some ⟨number + front.count '\n', lastLine front ++ rest.takeWhile (· != '\n'),
        displayWidth (lastLine front)⟩) := by
  obtain ⟨above, split, length, whole⟩ := exists_ended front
  have found := find?_ended whole (bne_of_mem_lastLine front) h number
  rwa [← List.append_assoc, ← split, length] at found

/-! ### Widths -/

theorem displayWidth_printed {cs : List Char}
    (printed : ∀ c ∈ cs, 0x20 ≤ c.toNat ∧ c.toNat < 0x80) : displayWidth cs = cs.length := by
  have columns : cs.foldr (fun c state => (state.1 + (Unicode.measure c state.2).1,
      (Unicode.measure c state.2).2)) ((0 : Int), ({} : Ahead)) = ((cs.length : Int), {}) := by
    induction cs with
    | nil => rfl
    | cons c cs ih =>
      obtain ⟨⟨low, high⟩, others⟩ := List.forall_mem_cons.mp printed
      have feed : c ≠ '\n' := by rintro rfl; exact absurd low (by decide)
      have back : c ≠ '\r' := by rintro rfl; exact absurd low (by decide)
      have small : c.toNat ≤ 0xA0 := by omega
      have one : Unicode.measure c {} = (1, {}) := by
        simp [Unicode.measure, measurePlain, small, feed, back]
      rw [List.foldr_cons, ih others, one]
      rfl
  exact congrArg (fun state => state.1.toNat) columns

theorem displayWidth_replicate {c : Char} (printed : 0x20 ≤ c.toNat ∧ c.toNat < 0x80) (n : Nat) :
    displayWidth (List.replicate n c) = n := by
  rw [displayWidth_printed, List.length_replicate]
  intro d member
  rwa [(List.mem_replicate.mp member).2]

/-! ### Snippets -/

/-- A line with its number, and a row of carets with a message below it. The gutter is as wide as
the number. -/
def drawing (number : Nat) (line : List Char) (indent width : Nat) (message : String) : String :=
  let number := toString number
  let gutter := row (displayWidth number.toList) ' '
  let line := String.ofList line
  let indent := row indent ' '
  let carets := row width '^'
  s!"\n {gutter} |\n {number} | {line}\n {gutter} | {indent}{carets} {message}\n"

section
variable {e : Error} {front text rest : List Char}

theorem lineColumn_of_start (same : e.source.toList = front ++ rest)
    (start : e.span.start = byteLength front) :
    e.lineColumn = .ok (front.count '\n' + 1, (lastLine front).length + 1) := by
  rw [lineColumn, same, start, cut_front, lastLine, List.length_reverse]
  rfl

theorem ofOffset_of_start (same : e.source.toList = front ++ rest) (nonempty : rest ≠ [])
    (start : e.span.start = byteLength front) :
    Place.ofOffset e.source.toList e.span.start =
      .ok ⟨front.count '\n' + 1, lastLine front ++ rest.takeWhile (· != '\n'),
        displayWidth (lastLine front)⟩ := by
  rw [Place.ofOffset, same, start, find?_sourceLines front nonempty, Nat.add_comm]
  rfl

/-- A snippet of whole characters is drawn if its carets end in time. -/
theorem snippet_eq (same : e.source.toList = front ++ (text ++ rest)) (nonempty : text ≠ [])
    (span : e.span = .ofText (byteLength front) text) :
    e.snippet =
      if displayWidth (lastLine front) + max 1 (displayWidth text) ≤ lastColumn then
        .ok (drawing (front.count '\n' + 1)
          (lastLine front ++ (text ++ rest).takeWhile (· != '\n'))
          (displayWidth (lastLine front)) (max 1 (displayWidth text)) e.message)
      else .error .pastLastColumn := by
  have behind : text ++ rest ≠ [] := by simp [nonempty]
  have start : e.span.start = byteLength front := by rw [span]; rfl
  have about : cut e.span e.source.toList = .ok text := cut_eq_ok.mpr ⟨front, rest, same, span⟩
  rw [snippet, ofOffset_of_start same behind start, about]
  simp only [bind, Except.bind]
  split <;> rfl

end

/-! ### What can be shown -/

/-- The error stands at whole characters of its source, in the line and at the column that are told
of it, and it can be shown there if its carets end in time. It is none of a reader that has lost its
way. -/
structure Shown (e : Error) : Prop where
  expected : ∀ found, e.cause ≠ .strayToken found
  nonempty : e.span.start < e.span.stop
  inside : e.span.stop ≤ e.source.utf8ByteSize
  start : (String.Pos.Raw.mk e.span.start).IsValid e.source
  stop : (String.Pos.Raw.mk e.span.stop).IsValid e.source
  oneLine : e.oneLine = s!"{e.message} between bytes {e.span.start} and {e.span.stop}"
  place : ∃ (number : Nat) (before behind text : List Char),
    e.lineColumn = .ok (number, before.length + 1) ∧
      Place.find? (sourceLines e.source.toList) 1 e.span.start =
        .ok (some ⟨number, before ++ behind, displayWidth before⟩) ∧
      cut e.span e.source.toList = .ok text ∧
      ((∃ drawn, e.snippet = .ok drawn) ↔
        displayWidth before + max 1 (displayWidth text) ≤ lastColumn) ∧
      ∀ obstacle, e.snippet = .error obstacle → obstacle = .pastLastColumn

theorem isValid_of_isBoundary {source : String} {n : Nat} (h : IsBoundary source.toList n) :
    (String.Pos.Raw.mk n).IsValid source := by
  obtain ⟨front, rest, same, rfl⟩ := h
  refine String.Pos.Raw.isValid_iff_exists_append.mpr
    ⟨String.ofList front, String.ofList rest, ?_, ?_⟩
  · rw [← String.ofList_append, ← same, String.ofList_toList]
  · have size := byteLength_toList (String.ofList front)
    rw [String.toList_ofList] at size
    rw [size]
    rfl

theorem le_of_isBoundary {source : List Char} {n : Nat} (h : IsBoundary source n) :
    n ≤ byteLength source := by
  obtain ⟨front, rest, rfl, rfl⟩ := h
  simp

theorem shown_of_within {e : Error} (expected : ∀ found, e.cause ≠ .strayToken found)
    (within : e.span.Within e.source.toList) : e.Shown := by
  have inside := le_of_isBoundary within.stop
  obtain ⟨front, text, rest, same, nonempty, span⟩ := within.exists_text
  have behind : text ++ rest ≠ [] := by simp [nonempty]
  have start : e.span.start = byteLength front := by rw [span]; rfl
  have found := find?_sourceLines front behind 1
  rw [← same, ← start, Nat.add_comm] at found
  refine ⟨expected, within.nonempty, by simpa using inside, isValid_of_isBoundary within.start,
    isValid_of_isBoundary within.stop, rfl, _, lastLine front, _, text,
    lineColumn_of_start same start, found, cut_eq_ok.mpr ⟨front, rest, same, span⟩, ?_⟩
  rw [snippet_eq same nonempty span]
  split <;> simp_all

theorem PointsAt.within {e : Error} {front text : List Char} (h : e.PointsAt front text)
    (nonempty : text ≠ []) : e.span.Within e.source.toList := by
  obtain ⟨rest, same⟩ := h.stands
  rw [h.span]
  exact .ofText same nonempty

theorem shown_of_showsIn {e : Error} (h : e.toFault.ShowsIn e.source.toList) : e.Shown := by
  refine shown_of_within ?_ h.place
  intro found stray
  have reading := h.cause
  rw [stray] at reading
  exact reading

/-- An error that is true stands at whole characters of its source. -/
theorem Holds.within {tables : Tables} {e : Error} (h : e.Holds tables) :
    e.span.Within e.source.toList := by
  have unread (kind : e.kind = .malformed ∨ e.kind = .unknownConversion) :
      e.span.Within e.source.toList :=
    (Template.parse_error (h.unread kind).1).2.place
  cases kind : e.kind with
  | malformed => exact unread (Or.inl kind)
  | unknownConversion => exact unread (Or.inr kind)
  | unknownVariable =>
    obtain ⟨before, t, -, -, -, points⟩ := h.unknownVariable kind
    exact points.within t.name.ne_nil
  | unknownCondition =>
    obtain ⟨before, item, heading, -, -, -, -, points⟩ := h.unknownCondition kind
    exact points.within heading.name.ne_nil
  | recursionLimit =>
    obtain ⟨before, t, -, -, -, -, points⟩ := h.recursionLimit kind
    exact points.within (List.cons_ne_nil _ _)

/-- An error that is true can be shown. -/
theorem Holds.shown {tables : Tables} {e : Error} (h : e.Holds tables) : e.Shown := by
  refine shown_of_within ?_ h.within
  intro found stray
  have kind : e.kind = .malformed := by
    rw [kind, stray]
    rfl
  have reading := (Template.parse_error (h.unread (Or.inl kind)).1).2.cause
  rw [stray] at reading
  exact reading

/-- A source falls into pieces that stand in it, and whatever error comes of it can be shown, if its
carets end in time. -/
theorem shown_of_source (source : String) :
    (∀ l ∈ (Lexer.scan .text 0 source.toList).1, l.StandsIn source.toList) ∧
      (∀ e, Template.parse source = .error e → e.source = source ∧ e.Shown) ∧
      ∀ limit bindings e, format limit source bindings = .error e → e.Shown := by
  refine ⟨@standsIn_of_scan _ [] _ _ rfl, fun e failed => ?_,
    fun limit bindings e failed => ?_⟩
  · obtain ⟨rfl, shows⟩ := Template.parse_error failed
    exact ⟨rfl, shown_of_showsIn shows⟩
  · obtain ⟨_, _, _, holds, _⟩ := holds_of_raised (raised_of_format failed)
    exact holds.shown

theorem shown_incomplete :
    let e : Error := ⟨⟨.incompleteMark .separator, ⟨2, 4⟩⟩, "é%|"⟩
    (⟨.text, 0, ['é']⟩ ∈ (Lexer.scan .text 0 "é%|".toList).1 ∧ Template.parse "é%|" = .error e ∧
      format 0 "é%|" .empty = .error e) ∧
    Lexeme.StandsIn "é%|".toList ⟨.text, 0, ['é']⟩ ∧ e.source = "é%|" ∧ e.Shown := by
  intro e
  have chars : "é%|".toList = ['é', '%', '|'] := rfl
  have piece : Lexer.read .text 0 ['é', '%', '|'] = .ok ⟨.text, ['é'], ['%', '|'], .text⟩ := rfl
  have first : ⟨.text, 0, ['é']⟩ ∈ (Lexer.scan .text 0 "é%|".toList).1 := by
    rw [chars, Reader.State.scan_of_read (List.cons_ne_nil _ _) piece]
    exact List.mem_cons_self
  have failed : Template.parse "é%|" = .error e := by
    have run : Reader.read "é%|".toList = .error e.toFault := by
      rw [Reader.read_eq_run, chars, Reader.State.run_of_read (List.cons_ne_nil _ _) piece]
      exact Reader.State.run_of_fault (List.cons_ne_nil _ _) rfl
    rw [Template.parse, run]
    rfl
  have failed' : format 0 "é%|" .empty = .error e := by
    rw [format, failed]
    rfl
  obtain ⟨stands, read, shown⟩ := shown_of_source "é%|"
  exact ⟨⟨first, failed, failed'⟩, stands _ first, (read e failed).1, shown 0 .empty e failed'⟩

/-! ### Carets too far to the right -/

theorem run_plain {r : Reader} (text : r.stage = .text) (outside : r.blocks = []) {line : List Char}
    (plain : '%' ∉ line) (start : Nat) (cs : List Char) :
    ∃ r' : Reader, r'.stage = .text ∧ r'.blocks = [] ∧
      Reader.State.run ⟨r, .text, start, line ++ cs⟩ =
        Reader.State.run ⟨r', .text, start + byteLength line, cs⟩ := by
  induction line generalizing r start with
  | nil => exact ⟨r, text, outside, rfl⟩
  | cons c line ih =>
    simp only [List.mem_cons, not_or] at plain
    obtain ⟨hc, others⟩ := plain
    have stays : (r.push (.text (String.singleton c))).blocks = [] := by
      simp [Reader.push, outside]
    obtain ⟨r', text', outside', same⟩ :=
      ih ((Reader.push_stage r _).trans text) stays others (start + c.utf8Size)
    refine ⟨r', text', outside', ?_⟩
    rw [List.cons_append, Reader.State.run_char text (Ne.symm hc), same, byteLength_cons,
      Nat.add_assoc]

/-- A separator behind plain text. -/
theorem parse_outside {front : String} (plain : '%' ∉ front.toList) :
    Template.parse (front ++ "%|%") = .error ⟨⟨.outsideCondition .separator,
      .ofText (byteLength front.toList) ['%', '|', '%']⟩, front ++ "%|%"⟩ := by
  obtain ⟨r, text, outside, same⟩ := run_plain (r := {}) rfl rfl plain 0 ['%', '|', '%']
  have piece : Lexer.read .text (0 + byteLength front.toList) ['%', '|', '%'] =
      .ok ⟨.separator, ['%', '|', '%'], [], .text⟩ := rfl
  have stray : r.step ⟨.separator, 0 + byteLength front.toList, ['%', '|', '%']⟩ =
      .error ⟨.outsideCondition .separator,
        .ofText (byteLength front.toList) ['%', '|', '%']⟩ := by
    simp [Reader.step, text, Reader.stepText, Reader.separate, outside, Lexeme.span]
  have chars : (front ++ "%|%").toList = front.toList ++ ['%', '|', '%'] := by
    rw [String.toList_append]
    rfl
  rw [Template.parse, chars, Reader.read_eq_run, same,
    Reader.State.run_of_read (List.cons_ne_nil _ _) piece, stray]
  rfl

/-- Its carets end three columns behind the text. -/
theorem snippet_outside {front : String} (plain : '%' ∉ front.toList)
    (oneLine : '\n' ∉ front.toList) {e : Error}
    (failed : Template.parse (front ++ "%|%") = .error e) :
    e.snippet = .error .pastLastColumn ↔ lastColumn < displayWidth front.toList + 3 := by
  cases (parse_outside plain).symm.trans failed
  have same : (front ++ "%|%").toList = front.toList ++ (['%', '|', '%'] ++ []) := by
    rw [String.toList_append]
    rfl
  have three : max 1 (displayWidth ['%', '|', '%']) = 3 := by decide
  rw [snippet_eq same (List.cons_ne_nil _ _) rfl, lastLine_of_not_mem oneLine, three]
  split <;> simp_all

theorem not_mem_row {c d : Char} (other : d ≠ c) (n : Nat) : d ∉ (row n c).toList := by
  rw [row, String.toList_ofList]
  exact fun member => other (List.mem_replicate.mp member).2

theorem snippet_row {c : Char} (printed : 0x20 ≤ c.toNat ∧ c.toNat < 0x80) (plain : '%' ≠ c)
    {n : Nat} {e : Error} (failed : Template.parse (row n c ++ "%|%") = .error e) :
    e.snippet = .error .pastLastColumn ↔ lastColumn < n + 3 := by
  have line : '\n' ≠ c := by
    rintro rfl
    exact absurd printed.1 (by decide)
  rw [snippet_outside (not_mem_row plain n) (not_mem_row line n) failed, row,
    String.toList_ofList, displayWidth_replicate printed]

/-- No snippet is drawn of a separator behind so many spaces. -/
theorem not_drawn_spaces :
    ∃ e, Template.parse (row 65533 ' ' ++ "%|%") = .error e ∧
      e.snippet = .error .pastLastColumn := by
  have failed := parse_outside (not_mem_row (by decide : '%' ≠ ' ') 65533)
  exact ⟨_, failed, (snippet_row (by decide) (by decide) failed).mpr (by decide)⟩

end Error
end TextTemplate
