import TextTemplate.Proofs.Parsing

/-!
# Lookahead

To know where a piece ends, the lexer looks no further than at the next character.
-/

namespace TextTemplate
open Grammar Reader

/-- The character does not belong to a piece in front of it. -/
def Token.EndsBefore : Token → Char → Prop
  | .text, c => c = '%'
  | .percent, c => c ∉ ['%', '[', '|', ']']
  | .openValue, c => c ≠ '%'
  | .word, c => isWordChar c = false
  | .blank, c => isBlankChar c = false
  | .escapedPercent, _ | .closeValue, _ | .openCondition, _ | .separator, _ | .closeCondition, _
  | .bang, _ => True

instance : (token : Token) → (c : Char) → Decidable (token.EndsBefore c)
  | .text, c => inferInstanceAs (Decidable (c = '%'))
  | .percent, c => inferInstanceAs (Decidable (c ∉ ['%', '[', '|', ']']))
  | .openValue, c => inferInstanceAs (Decidable (c ≠ '%'))
  | .word, c => inferInstanceAs (Decidable (isWordChar c = false))
  | .blank, c => inferInstanceAs (Decidable (isBlankChar c = false))
  | .escapedPercent, _ | .closeValue, _ | .openCondition, _ | .separator, _ | .closeCondition, _
  | .bang, _ => inferInstanceAs (Decidable True)

namespace Lexer

variable {mode : Mode} {start : Nat} {cs more : List Char} {piece : Piece}

/-! ### Where pieces end -/

theorem Piece.run_ends (token : Token) (p : Char → Bool) (cs : List Char) (mode : Mode) :
    ∀ c ∈ (Piece.run token p cs mode).rest.head?, p c = false := by
  intro c next
  obtain ⟨tail, same⟩ := List.head?_eq_some_iff.mp next
  have nonempty : cs.dropWhile p ≠ [] := by
    intro empty
    rw [Piece.run, empty] at same
    cases same
  have first := List.head_dropWhile_not p nonempty
  simp only [Piece.run] at same
  simpa [same] using first

theorem readText_ends (nonempty : cs ≠ []) (h : read .text start cs = .ok piece) :
    ∀ c ∈ piece.rest.head?, piece.token.EndsBefore c := by
  cases State.readText_ok nonempty h with
  | @char c hc cs =>
    rw [State.read_char hc] at h
    cases h
    intro d next
    have ends := Piece.run_ends .text (· != '%') cs .text d next
    exact bne_eq_false_iff_eq.mp ends
  | percent next => exact next
  | openValue cs =>
    rintro c next rfl
    obtain ⟨tail, rfl⟩ := List.head?_eq_some_iff.mp next
    cases h
  | _ => exact fun _ _ => trivial

theorem readValue_ends {opening : Span} (h : read (.value opening) start cs = .ok piece) :
    ∀ c ∈ piece.rest.head?, piece.token.EndsBefore c := by
  change readValue opening start cs = _ at h
  unfold readValue at h
  split at h
  case h_3 => cases h
  case h_4 =>
    split at h <;> cases h
    exact Piece.run_ends .word isWordChar cs _
  all_goals
    cases h
    exact fun _ _ => trivial

theorem readHeader_ends {opening : Span} (h : read (.header opening) start cs = .ok piece) :
    ∀ c ∈ piece.rest.head?, piece.token.EndsBefore c := by
  change readHeader opening start cs = _ at h
  unfold readHeader at h
  split at h
  case h_4 => cases h
  case h_5 =>
    split at h
    · cases h
      exact Piece.run_ends .blank isBlankChar cs _
    · split at h <;> cases h
      exact Piece.run_ends .word isWordChar cs _
  all_goals
    cases h
    exact fun _ _ => trivial

/-- The character behind a piece does not belong to it. -/
theorem read_ends (nonempty : cs ≠ []) (h : read mode start cs = .ok piece) :
    ∀ c ∈ piece.rest.head?, piece.token.EndsBefore c := by
  cases mode with
  | text => exact readText_ends nonempty h
  | value _ => exact readValue_ends h
  | header _ => exact readHeader_ends h

/-! ### Pieces with something else behind them -/

theorem readText_swap (nonempty : cs ≠ []) (h : read .text start cs = .ok piece)
    (ends : ∀ c ∈ more.head?, piece.token.EndsBefore c) :
    read .text start (piece.text ++ more) = .ok { piece with rest := more } := by
  cases State.readText_ok nonempty h with
  | @char c hc cs =>
    rw [State.read_char hc] at h
    cases h
    have plain : ∀ d ∈ cs.takeWhile (· != '%'), (d != '%') = true :=
      List.all_eq_true.mp List.all_takeWhile
    have stop : ∀ d ∈ more.head?, (d != '%') = false := fun d next =>
      bne_eq_false_iff_eq.mpr (ends d next)
    rw [List.cons_append, State.read_char hc, takeWhile_run plain stop, dropWhile_run plain stop]
  | percent => exact State.read_percent ends start
  | openValue cs =>
    cases more with
    | nil => rfl
    | cons c more => exact State.read_openValue (ends c rfl) start more
  | _ => rfl

theorem readValue_swap {opening : Span} (h : read (.value opening) start cs = .ok piece)
    (ends : ∀ c ∈ more.head?, piece.token.EndsBefore c) :
    read (.value opening) start (piece.text ++ more) = .ok { piece with rest := more } := by
  cases State.readValue_ok h with
  | word w rest => exact readValue_word w opening start ends
  | _ => rfl

theorem readHeader_swap {opening : Span} (h : read (.header opening) start cs = .ok piece)
    (ends : ∀ c ∈ more.head?, piece.token.EndsBefore c) :
    read (.header opening) start (piece.text ++ more) = .ok { piece with rest := more } := by
  have filled := readHeader_ne_nil h
  cases State.readHeader_ok h with
  | blank all rest => exact readHeader_blank opening start filled all ends
  | word w rest => exact readHeader_word w opening start ends
  | _ => rfl

/-- A piece is read alike whatever comes behind it, if it ends there as well. -/
theorem read_swap (nonempty : cs ≠ []) (h : read mode start cs = .ok piece)
    (ends : ∀ c ∈ more.head?, piece.token.EndsBefore c) :
    read mode start (piece.text ++ more) = .ok { piece with rest := more } := by
  cases mode with
  | text => exact readText_swap nonempty h ends
  | value _ => exact readValue_swap h ends
  | header _ => exact readHeader_swap h ends

/-- In the place of a word any other word is read as well. -/
theorem word_of_read (nonempty : cs ≠ []) (h : read mode start cs = .ok piece)
    (token : piece.token = .word) :
    (∃ w : Word, w.chars = piece.text) ∧ piece.mode = mode ∧
      ∀ (w : Word) (more : List Char), (∀ c ∈ more.head?, isWordChar c = false) →
        read mode start (w.chars ++ more) = .ok ⟨.word, w.chars, more, mode⟩ := by
  cases mode with
  | text =>
    cases State.readText_ok nonempty h with
    | char hc cs =>
      rw [State.read_char hc] at h
      cases h
      cases token
    | _ => cases token
  | value opening =>
    cases State.readValue_ok h with
    | word own => exact ⟨⟨own, rfl⟩, rfl, fun w _ stop => readValue_word w opening start stop⟩
    | _ => cases token
  | header opening =>
    cases State.readHeader_ok h with
    | word own => exact ⟨⟨own, rfl⟩, rfl, fun w _ stop => readHeader_word w opening start stop⟩
    | _ => cases token

end Lexer

end TextTemplate
