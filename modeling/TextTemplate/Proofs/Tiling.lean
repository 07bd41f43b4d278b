import Mathlib.Data.List.Chain
import TextTemplate.Proofs.Faults
import TextTemplate.Proofs.Lookahead

/-!
# Tilings

A lexer that is asked for one piece after the other comes to an end. Its pieces tile the source up
to there: each begins where the one in front of it ends, is spelled as its kind is, and goes on for
as long as it can.
-/

namespace TextTemplate
open Grammar Reader

/-! ### How pieces are spelled -/

def Token.Spells : Token → List Char → Prop
  | .text, cs => '%' ∉ cs
  | .escapedPercent, cs => cs = ['%', '%']
  | .percent, cs => cs = ['%']
  | .openValue, cs => cs = ['%', '[']
  | .closeValue, cs => cs = [']', '%']
  | .openCondition, cs => cs = ['%', '[', '%']
  | .separator, cs => cs = ['%', '|', '%']
  | .closeCondition, cs => cs = ['%', ']', '%']
  | .bang, cs => cs = ['!']
  | .word, cs =>
    ∀ c ∈ cs, ('A' ≤ c ∧ c ≤ 'Z') ∨ ('a' ≤ c ∧ c ≤ 'z') ∨ ('0' ≤ c ∧ c ≤ '9') ∨ c = '_'
  | .blank, cs => ∀ c ∈ cs, c ∈ [' ', '\t', '\r', '\n']

def Token.IsRun (token : Token) : Prop :=
  token ∈ [.text, .word, .blank]

namespace Token

theorem spells_word {cs : List Char} (h : ∀ c ∈ cs, isWordChar c = true) : Token.word.Spells cs :=
  fun c member => isWordChar_iff.mp (h c member)

theorem spells_blank {cs : List Char} (h : ∀ c ∈ cs, isBlankChar c = true) :
    Token.blank.Spells cs :=
  fun c member => isBlankChar_iff.mp (h c member)

/-- No character of a run ends it. -/
theorem not_endsBefore {token : Token} (run : token.IsRun) {cs : List Char}
    (spelled : token.Spells cs) {c : Char} (member : c ∈ cs) : ¬ token.EndsBefore c := by
  simp only [IsRun, List.mem_cons, List.not_mem_nil, or_false] at run
  rcases run with rfl | rfl | rfl
  · rintro rfl
    exact spelled member
  · intro stranger
    rw [EndsBefore, isWordChar_iff.mpr (spelled c member)] at stranger
    cases stranger
  · intro stranger
    rw [EndsBefore, isBlankChar_iff.mpr (spelled c member)] at stranger
    cases stranger

end Token

namespace Lexer

variable {mode : Mode} {start : Nat} {cs : List Char} {piece : Piece}

theorem readText_spells (nonempty : cs ≠ []) (h : read .text start cs = .ok piece) :
    piece.token.Spells piece.text := by
  cases State.readText_ok nonempty h with
  | @char c hc cs =>
    rw [State.read_char hc] at h
    cases h
    intro member
    rcases List.mem_cons.mp member with rfl | member
    · exact hc rfl
    · have plain := List.all_eq_true.mp List.all_takeWhile _ member
      cases plain
  | _ => rfl

theorem readValue_spells {opening : Span} (h : read (.value opening) start cs = .ok piece) :
    piece.token.Spells piece.text := by
  cases State.readValue_ok h with
  | word w => exact Token.spells_word w.word
  | _ => rfl

theorem readHeader_spells {opening : Span} (h : read (.header opening) start cs = .ok piece) :
    piece.token.Spells piece.text := by
  cases State.readHeader_ok h with
  | blank all => exact Token.spells_blank all
  | word w => exact Token.spells_word w.word
  | _ => rfl

theorem read_spells (nonempty : cs ≠ []) (h : read mode start cs = .ok piece) :
    piece.token.Spells piece.text := by
  cases mode with
  | text => exact readText_spells nonempty h
  | value _ => exact readValue_spells h
  | header _ => exact readHeader_spells h

/-! ### One piece after the other -/

/-- Where a lexer is: how it reads on, the byte at which it stands, and what is left to read. -/
structure Cursor where
  mode : Mode
  start : Nat
  rest : List Char

def Cursor.next (k : Cursor) : Except Fault (Option (Lexeme × Cursor)) :=
  if k.rest = [] then .ok none
  else do
    let piece ← read k.mode k.start k.rest
    return some (⟨piece.token, k.start, piece.text⟩,
      ⟨piece.mode, k.start + byteLength piece.text, piece.rest⟩)

/-- Asked for the next piece over and over, the lexer gives these lexemes, and then the fault, or
nothing more. -/
inductive Gives : Cursor → List Lexeme → Option Fault → Prop where
  | ended {k : Cursor} : k.next = .ok none → Gives k [] none
  | failed {k : Cursor} {fault : Fault} : k.next = .error fault → Gives k [] (some fault)
  | piece {k k' : Cursor} {l : Lexeme} {lexemes : List Lexeme} {fault : Option Fault} :
      k.next = .ok (some (l, k')) → Gives k' lexemes fault → Gives k (l :: lexemes) fault

structure Advances (k : Cursor) (l : Lexeme) (k' : Cursor) : Prop where
  start : l.span.start = k.start
  stop : l.span.stop = k'.start
  rest : k.rest = l.text ++ k'.rest
  nonempty : l.text ≠ []
  spelled : l.token.Spells l.text
  ends : ∀ c ∈ k'.rest.head?, l.token.EndsBefore c

variable {k k' : Cursor} {l : Lexeme} {lexemes : List Lexeme} {fault : Option Fault}

theorem advances_of_next (h : k.next = .ok (some (l, k'))) : Advances k l k' := by
  unfold Cursor.next at h
  split at h
  · cases h
  · rename_i nonempty
    cases found : read k.mode k.start k.rest with
    | error fault =>
      rw [found] at h
      cases h
    | ok piece =>
      rw [found] at h
      cases h
      exact ⟨rfl, rfl, (read_append found).symm, read_ne_nil nonempty found,
        read_spells nonempty found, read_ends nonempty found⟩

theorem rest_of_ended (h : k.next = .ok none) : k.rest = [] := by
  unfold Cursor.next at h
  split at h
  · assumption
  · cases found : read k.mode k.start k.rest <;> rw [found] at h <;> cases h

/-- The lexer comes to an end, and `scan` is what it gives until then. -/
theorem gives_scan (mode : Mode) (start : Nat) (cs : List Char) :
    Gives ⟨mode, start, cs⟩ (scan mode start cs).1 (scan mode start cs).2 := by
  by_cases empty : cs = []
  · subst empty
    rw [scan]
    exact .ended rfl
  · cases found : read mode start cs with
    | error fault =>
      rw [State.scan_of_fault empty found]
      refine .failed ?_
      simp only [Cursor.next, empty, found, if_false]
      rfl
    | ok piece =>
      have shorter := length_rest_lt empty found
      rw [State.scan_of_read empty found]
      refine .piece ?_ (gives_scan piece.mode (start + byteLength piece.text) piece.rest)
      simp only [Cursor.next, empty, found, if_false]
      rfl
termination_by cs.length

/-! ### Pieces side by side -/

/-- The lexemes stand one behind the other, from byte `start` to byte `stop`. -/
def Adjoin (stop : Nat) : (start : Nat) → List Lexeme → Prop
  | start, [] => start = stop
  | start, l :: lexemes => l.span.start = start ∧ Adjoin stop l.span.stop lexemes

theorem Adjoin.start_le {stop start : Nat} {lexemes : List Lexeme} (h : Adjoin stop start lexemes) :
    ∀ l ∈ lexemes, start ≤ l.span.start := by
  induction lexemes generalizing start with
  | nil => exact List.forall_mem_nil _
  | cons l lexemes ih =>
    obtain ⟨rfl, behind⟩ := h
    refine List.forall_mem_cons.mpr ⟨Nat.le_refl _, fun l' member => ?_⟩
    exact Nat.le_trans (Nat.le_add_right _ _) (ih behind l' member)

/-- The second lexeme does not go on with what the first one is a run of. -/
def Apart (l l' : Lexeme) : Prop :=
  l.token.IsRun → l'.token ≠ l.token

theorem adjoin_of_gives (h : Gives k lexemes fault) :
    ∃ stop, Adjoin stop k.start lexemes ∧
      (fault = none → stop = k.start + byteLength k.rest) := by
  induction h with
  | ended ended =>
    refine ⟨_, rfl, fun _ => ?_⟩
    rw [rest_of_ended ended, byteLength_nil, Nat.add_zero]
  | failed => exact ⟨_, rfl, fun none => by cases none⟩
  | piece first _ ih =>
    have advances := advances_of_next first
    obtain ⟨stop, adjoin, whole⟩ := ih
    rw [← advances.stop] at adjoin
    refine ⟨stop, ⟨advances.start, adjoin⟩, fun none => ?_⟩
    rw [whole none, ← advances.stop, ← advances.start, advances.rest, byteLength_append,
      ← Nat.add_assoc]
    rfl

theorem spelled_of_gives (h : Gives k lexemes fault) :
    ∀ l ∈ lexemes, l.token.Spells l.text := by
  induction h with
  | ended | failed => exact List.forall_mem_nil _
  | piece first _ ih => exact List.forall_mem_cons.mpr ⟨(advances_of_next first).spelled, ih⟩

/-- A piece that begins with a character which ends the one in front of it is not of its kind. -/
theorem Advances.apart {l l' : Lexeme} {k k' k'' : Cursor} (h : Advances k l k')
    (h' : Advances k' l' k'') : Apart l l' := by
  intro run same
  obtain ⟨c, cs, first⟩ := List.exists_cons_of_ne_nil h'.nonempty
  have ends : l.token.EndsBefore c := h.ends c (by rw [h'.rest, first]; rfl)
  have spelled : l.token.Spells l'.text := same ▸ h'.spelled
  exact Token.not_endsBefore run spelled (by rw [first]; exact List.mem_cons_self) ends

theorem apart_of_gives (h : Gives k lexemes fault) : lexemes.IsChain Apart := by
  induction h with
  | ended | failed => exact .nil
  | piece first behind ih =>
    refine List.isChain_cons.mpr ⟨fun l' next => ?_, ih⟩
    cases behind with
    | ended | failed => cases next
    | piece second =>
      cases next
      exact (advances_of_next first).apart (advances_of_next second)

/-- Asked for its pieces one by one, the lexer comes to an end. The pieces stand in the source, one
behind the other from its first byte on, and reach its last byte if there is no fault. Each is
spelled as its kind is, and no text, word or blank goes on in the next piece. -/
theorem scan_tiles (source : List Char) :
    ∃ lexemes fault stop, Gives ⟨.text, 0, source⟩ lexemes fault ∧
      scan .text 0 source = (lexemes, fault) ∧ Adjoin stop 0 lexemes ∧
      (fault = none → stop = byteLength source) ∧
      (∀ l ∈ lexemes, l.StandsIn source ∧ l.token.Spells l.text) ∧ lexemes.IsChain Apart := by
  have gives := gives_scan .text 0 source
  obtain ⟨stop, adjoin, whole⟩ := adjoin_of_gives gives
  refine ⟨_, _, stop, gives, rfl, adjoin, fun none => ?_, fun l member => ?_, apart_of_gives gives⟩
  · rw [whole none, Nat.zero_add]
  · exact ⟨@standsIn_of_scan source [] source .text rfl l member, spelled_of_gives gives l member⟩

end Lexer

end TextTemplate
