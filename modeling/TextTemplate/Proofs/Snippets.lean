import Mathlib.Control.Monad.Basic
import TextTemplate.Proofs.ErrorPlaces

/-!
# What a snippet shows

A snippet shows the line that is told of an error, with its number, and the carets stand below what
the error is about. The line is found by the bytes in front of the error, and told by the line feeds
in front of it.
-/

namespace TextTemplate
open Unicode

namespace Error

/-! ### The lines of a source -/

theorem splitOn_ended {above : List (List Char)} (whole : ∀ line ∈ above, '\n' ∉ line)
    (cs : List Char) : (ended above ++ cs).splitOn '\n' = above ++ cs.splitOn '\n' := by
  induction above with
  | nil => rfl
  | cons line above ih =>
    obtain ⟨first, others⟩ := List.forall_mem_cons.mp whole
    rw [ended_cons, List.append_assoc, List.cons_append,
      List.splitOn_append_cons_self_of_not_mem first, ih others]
    rfl

theorem splitOn_takeWhile (cs : List Char) :
    ∃ below, cs.splitOn '\n' = cs.takeWhile (· != '\n') :: below := by
  induction cs with
  | nil => exact ⟨[], rfl⟩
  | cons c cs ih =>
    obtain ⟨below, first⟩ := ih
    rw [List.splitOn_cons_eq_if_modifyHead, first]
    by_cases feed : c = '\n'
    · exact ⟨cs.takeWhile (· != '\n') :: below, by simp [feed]⟩
    · exact ⟨below, by simp [feed]⟩

/-! ### Places -/

/-- The place of an error in its source: behind the lines `above` and, in a line of its own, between
`before` and `behind`. The error is about `text`. -/
structure StandsAt (e : Error) (above : List (List Char)) (before behind text : List Char) :
    Prop where
  line : ∃ below, e.source.toList.splitOn '\n' = above ++ (before ++ behind) :: below
  lineColumn : e.lineColumn = .ok (above.length + 1, before.length + 1)
  start : ∃ rest, e.source.toList = ended above ++ before ++ (text ++ rest) ∧
    behind <+: text ++ rest
  span : e.span = .ofText (byteLength (ended above ++ before)) text

/-- The line and the column that are told of an error are those that its bytes lead to. -/
theorem standsAt_of_start {e : Error} {above : List (List Char)} {front text rest : List Char}
    (same : e.source.toList = front ++ (text ++ rest))
    (span : e.span = .ofText (byteLength front) text)
    (split : front = ended above ++ lastLine front) (length : above.length = front.count '\n')
    (whole : ∀ line ∈ above, '\n' ∉ line) :
    e.StandsAt above (lastLine front) ((text ++ rest).takeWhile (· != '\n')) text := by
  have start : e.span.start = byteLength front := by rw [span]; rfl
  refine ⟨?_, ?_, ⟨rest, ?_, List.takeWhile_prefix _⟩, ?_⟩
  · obtain ⟨below, first⟩ := splitOn_takeWhile (lastLine front ++ (text ++ rest))
    rw [List.takeWhile_append_of_pos (bne_of_mem_lastLine front)] at first
    refine ⟨below, ?_⟩
    have pieces := splitOn_ended whole (lastLine front ++ (text ++ rest))
    rwa [first, ← List.append_assoc, ← split, ← same] at pieces
  · rw [lineColumn_of_start same start, length]
  · rw [← split, same]
  · rw [← split, span]

theorem within_of_failed {e : Error} (failed : (∃ source, Template.parse source = .error e) ∨
    ∃ limit source bindings, format limit source bindings = .error e) :
    e.span.Within e.source.toList := by
  rcases failed with ⟨source, failed⟩ | ⟨limit, source, bindings, failed⟩
  · obtain ⟨rfl, shows⟩ := Template.parse_error failed
    exact shows.place
  · obtain ⟨_, _, _, holds, _⟩ := holds_of_raised (raised_of_format failed)
    exact holds.within

/-- A snippet shows in full the line that is told of an error, with its number. What is in front of
the error is as wide as the space in front of the carets, and there are as many carets as what the
error is about is wide, but one at least. It is drawn if the carets end in time. -/
theorem snippet_of_failed {e : Error} (failed : (∃ source, Template.parse source = .error e) ∨
    ∃ limit source bindings, format limit source bindings = .error e) :
    ∃ above before behind text, e.StandsAt above before behind text ∧
      e.snippet =
        if displayWidth before + max 1 (displayWidth text) ≤ lastColumn then
          .ok (drawing (above.length + 1) (before ++ behind) (displayWidth before)
            (max 1 (displayWidth text)) e.message)
        else .error .pastLastColumn := by
  obtain ⟨front, text, rest, same, nonempty, span⟩ := (within_of_failed failed).exists_text
  obtain ⟨above, split, length, whole⟩ := exists_ended front
  refine ⟨above, _, _, text, standsAt_of_start same span split length whole, ?_⟩
  rw [length]
  exact snippet_eq same nonempty span

/-- The error stands behind characters of two and of four bytes, the second of which is two columns
wide. -/
theorem snippet_of_failed_secondLine :
    let e : Error := ⟨⟨.unknownConversion 'q', ⟨13, 14⟩⟩, "ab\né👋%[x!q]%"⟩
    Template.parse "ab\né👋%[x!q]%" = .error e ∧ e.lineColumn = .ok (2, 7) ∧
      e.snippet = .ok "\n   |\n 2 | é👋%[x!q]%\n   |        ^ unknown conversion `q`\n" ∧
      ∃ above before behind text, e.StandsAt above before behind text ∧
        e.snippet =
          if displayWidth before + max 1 (displayWidth text) ≤ lastColumn then
            .ok (drawing (above.length + 1) (before ++ behind) (displayWidth before)
              (max 1 (displayWidth text)) e.message)
          else .error .pastLastColumn := by
  intro e
  have failed : Template.parse "ab\né👋%[x!q]%" = .error e := by decide +kernel
  exact ⟨failed, by decide +kernel, by decide +kernel, snippet_of_failed (.inl ⟨_, failed⟩)⟩

/-- No line is shown in which so many letters stand in front of the error. -/
theorem not_drawn_letters :
    ∃ e, format 16 (row 65535 'x' ++ "%|%") .empty = .error e ∧
      ¬ ∃ above before behind text, e.StandsAt above before behind text ∧
        e.snippet = .ok (drawing (above.length + 1) (before ++ behind) (displayWidth before)
          (max 1 (displayWidth text)) e.message) := by
  have failed := parse_outside (not_mem_row (by decide : '%' ≠ 'x') 65535)
  have far := (snippet_row (by decide) (by decide) failed).mpr (by decide)
  refine ⟨_, by rw [format, failed]; rfl, ?_⟩
  rintro ⟨above, before, behind, text, -, drawn⟩
  cases far.symm.trans drawn

end Error
end TextTemplate
