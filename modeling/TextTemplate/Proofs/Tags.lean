import TextTemplate.Proofs.Grammar
import TextTemplate.Proofs.Machine

/-!
# Reading value tags

A value tag of the grammar is read as the node it stands for, and what is read without a fault is a
value tag of the grammar.
-/

namespace TextTemplate.Reader
open Grammar

/-! ### Places -/

theorem cover_ofText (start : Nat) (a b c : List Char) :
    (Span.ofText start a).cover (.ofText (start + byteLength (a ++ b)) c) =
      .ofText start (a ++ (b ++ c)) := by
  simp only [Span.cover, Span.ofText, byteLength_append, Span.mk.injEq]
  omega

/-! ### Pieces -/

theorem piece_run {p : Char → Bool} {cs rest : List Char} (h : ∀ c ∈ cs, p c = true)
    (stop : ∀ c ∈ rest.head?, p c = false) (token : Token) (mode : Lexer.Mode) :
    Lexer.Piece.run token p (cs ++ rest) mode = ⟨token, cs, rest, mode⟩ := by
  rw [Lexer.Piece.run, takeWhile_run h stop, dropWhile_run h stop]

theorem readValue_of_word {c : Char} (word : isWordChar c = true) (opening : Span) (start : Nat)
    (cs : List Char) :
    Lexer.read (.value opening) start (c :: cs) =
      .ok (.run .word isWordChar (c :: cs) (.value opening)) := by
  change Lexer.readValue opening start (c :: cs) = _
  unfold Lexer.readValue
  split
  case h_4 => rw [if_pos (by simp [word])]
  all_goals
    rename_i same
    obtain ⟨rfl, -⟩ := List.cons.inj same
    exact absurd word (by decide)

theorem readValue_word (w : Word) {rest : List Char} (opening : Span) (start : Nat)
    (stop : ∀ c ∈ rest.head?, isWordChar c = false) :
    Lexer.read (.value opening) start (w.chars ++ rest) =
      .ok ⟨.word, w.chars, rest, .value opening⟩ := by
  obtain ⟨c, cs, first, word⟩ := w.head_word rest
  rw [first, readValue_of_word word, ← first, piece_run w.word stop]

/-! ### Letters -/

theorem eq_or_toUpper_of_toLower {c d : Char} (h : c.toLower = d) : c = d ∨ c = d.toUpper := by
  subst h
  unfold Char.toLower Char.toUpper
  split
  · right
    have back : c.val = c.val + 32 + 4294967264 := by
      rw [UInt32.add_assoc]
      exact (UInt32.add_zero _).symm
    split
    · exact Char.ext back
    · grind
  · left; rfl

theorem ofCode?_known {c : Char} :
    (∃ conversion, Conversion.ofCode? c = some conversion) ↔
      c ∈ ['j', 'J', 'u', 'U', 'l', 'L'] := by
  constructor
  · rintro ⟨conversion, coded⟩
    unfold Conversion.ofCode? at coded
    split at coded
    case h_4 => cases coded
    all_goals
      rename_i lower
      rcases eq_or_toUpper_of_toLower lower with rfl | rfl <;> decide
  · intro h
    simp only [List.mem_cons, List.not_mem_nil, or_false] at h
    rcases h with rfl | rfl | rfl | rfl | rfl | rfl <;> exact ⟨_, rfl⟩

theorem readConversions_known {letters : List Char}
    (known : ∀ c ∈ letters, c ∈ ['j', 'J', 'u', 'U', 'l', 'L']) (start : Nat) :
    readConversions start letters = .ok (letters.filterMap Conversion.ofCode?) := by
  induction letters generalizing start with
  | nil => rfl
  | cons c letters ih =>
    obtain ⟨conversion, coded⟩ := ofCode?_known.mpr (known c (by simp))
    rw [readConversions, coded, List.filterMap_cons, coded]
    simp only [ih fun d member => known d (List.mem_cons_of_mem c member), bind, Except.bind,
      pure, Except.pure]

theorem readConversions_ok {letters : List Char} {start : Nat} {conversions : List Conversion}
    (h : readConversions start letters = .ok conversions) :
    ∀ c ∈ letters, c ∈ ['j', 'J', 'u', 'U', 'l', 'L'] := by
  induction letters generalizing start conversions with
  | nil => simp
  | cons c letters ih =>
    rw [readConversions] at h
    cases coded : Conversion.ofCode? c with
    | none => simp [coded] at h
    | some conversion =>
      cases tail : readConversions (start + c.utf8Size) letters with
      | error fault => simp [coded, tail, bind, Except.bind] at h
      | ok conversions' =>
        intro d member
        rcases List.mem_cons.mp member with rfl | member
        · exact ofCode?_known.mp ⟨conversion, coded⟩
        · exact ih tail d member

abbrev enter (r : Reader) (stage : Stage) : Reader :=
  { r with stage }

/-- What a value tag has named, if it may end here. -/
def ValueStage.done? : ValueStage → Option (Ident × List Conversion)
  | .opened => none
  | .named ident | .marked ident => some (ident, [])
  | .converted ident conversions => some (ident, conversions)

namespace State

theorem read_openValue {c : Char} (hc : c ≠ '%') (start : Nat) (cs : List Char) :
    Lexer.read .text start ('%' :: '[' :: c :: cs) =
      .ok ⟨.openValue, ['%', '['], c :: cs, .value (.ofText start ['%', '['])⟩ := by
  change Lexer.readText start _ = _
  unfold Lexer.readText
  split <;> grind

theorem step_openValue {r : Reader} {c : Char} (text : r.stage = .text) (hc : c ≠ '%')
    (start : Nat) (cs : List Char) :
    Step ⟨r, .text, start, '%' :: '[' :: c :: cs⟩
      ⟨r.enter (.value (.ofText start ['%', '[']) .opened), .value (.ofText start ['%', '[']),
        start + 2, c :: cs⟩ := by
  refine .of_piece (List.cons_ne_nil _ _) (read_openValue hc start cs) ?_ rfl
  simp [step, text, stepText, Lexeme.span]

theorem step_valueWord (r : Reader) (w : Word) {rest : List Char} (opening : Span) (start : Nat)
    (stop : ∀ c ∈ rest.head?, isWordChar c = false) :
    Step ⟨r.enter (.value opening .opened), .value opening, start, w.chars ++ rest⟩
      ⟨r.enter (.value opening (.named ⟨w.key, .ofText start w.chars⟩)), .value opening,
        start + byteLength w.chars, rest⟩ :=
  .of_piece (by simp [w.ne_nil]) (readValue_word w opening start stop) rfl rfl

theorem step_valueBang (r : Reader) (ident : Ident) (opening : Span) (start : Nat)
    (rest : List Char) :
    Step ⟨r.enter (.value opening (.named ident)), .value opening, start, '!' :: rest⟩
      ⟨r.enter (.value opening (.marked ident)), .value opening, start + 1, rest⟩ :=
  .of_piece (List.cons_ne_nil _ _) rfl rfl rfl

theorem step_valueLetters (r : Reader) (ident : Ident) {letters rest : List Char} (opening : Span)
    (start : Nat) (nonempty : letters ≠ [])
    (known : ∀ c ∈ letters, c ∈ ['j', 'J', 'u', 'U', 'l', 'L'])
    (word : ∀ c ∈ letters, isWordChar c = true)
    (stop : ∀ c ∈ rest.head?, isWordChar c = false) :
    Step ⟨r.enter (.value opening (.marked ident)), .value opening, start, letters ++ rest⟩
      ⟨r.enter (.value opening (.converted ident (letters.filterMap Conversion.ofCode?))),
        .value opening, start + byteLength letters, rest⟩ := by
  have piece_read := readValue_word ⟨letters, nonempty, word⟩ opening start stop
  refine .of_piece (by simp [nonempty]) piece_read ?_ rfl
  simp [step, stepValue, readConversions_known known, Functor.map, Except.map]

theorem step_closeValue {stage : ValueStage} {ident : Ident} {conversions : List Conversion}
    (done : stage.done? = some (ident, conversions)) (r : Reader) (opening : Span) (start : Nat)
    (rest : List Char) :
    Step ⟨r.enter (.value opening stage), .value opening, start, ']' :: '%' :: rest⟩
      ⟨(r.enter .text).push
          (.value ⟨ident, conversions, opening.cover (.ofText start [']', '%'])⟩),
        .text, start + 2, rest⟩ := by
  refine .of_piece (List.cons_ne_nil _ _) rfl ?_ rfl
  cases stage <;> cases done <;> rfl

/-- The letters of a tag are taken as they are known. -/
theorem reaches_suffix (r : Reader) (ident : Ident) (t : Tag) (opening : Span) (start : Nat)
    (rest : List Char) :
    ∃ stage, stage.done? = some (ident, t.conversions) ∧
      Reaches ⟨r.enter (.value opening (.named ident)), .value opening, start,
          t.suffix ++ ']' :: rest⟩
        ⟨r.enter (.value opening stage), .value opening, start + byteLength t.suffix,
          ']' :: rest⟩ := by
  unfold Tag.suffix Tag.conversions
  cases codes : t.codes with
  | none => exact ⟨.named ident, rfl, .refl⟩
  | some letters =>
    have marked := Relation.ReflTransGen.single
      (step_valueBang r ident opening start (letters ++ ']' :: rest))
    cases letters with
    | nil => exact ⟨.marked ident, rfl, marked⟩
    | cons c letters =>
      refine ⟨.converted ident _, rfl, marked.tail ?_⟩
      rw [byteLength_cons, ← Nat.add_assoc]
      exact step_valueLetters r ident opening (start + 1) (List.cons_ne_nil _ _)
        (t.known _ codes) (t.word_of_known _ codes) (by simp; decide)

/-- A value tag is read as what it stands for. -/
theorem reaches_value {r : Reader} (text : r.stage = .text) (t : Tag) (start : Nat)
    (rest : List Char) :
    Reaches ⟨r, .text, start, t.spell ++ rest⟩
      ⟨r.push (.value (t.value start)), .text, start + byteLength t.spell, rest⟩ := by
  obtain ⟨c, cs, first, word⟩ := t.name.head_word (t.suffix ++ (']' :: '%' :: rest))
  have hc : c ≠ '%' := by rintro rfl; exact absurd word (by decide)
  have opened := step_openValue text hc start cs
  have named := step_valueWord r t.name (.ofText start ['%', '[']) (start + 2)
    (t.suffix_stop ('%' :: rest))
  obtain ⟨stage, done, marked⟩ := reaches_suffix r ⟨t.name.key, .ofText (start + 2) t.name.chars⟩ t
    (.ofText start ['%', '[']) (start + 2 + byteLength t.name.chars) ('%' :: rest)
  have closed := step_closeValue done r (.ofText start ['%', '['])
    (start + 2 + byteLength t.name.chars + byteLength t.suffix) rest
  have back : r.enter .text = r := by rw [← text]
  have place : (Span.ofText start ['%', '[']).cover
      (.ofText (start + 2 + byteLength t.name.chars + byteLength t.suffix) [']', '%']) =
        .ofText start t.spell := by
    have before : start + 2 + byteLength t.name.chars + byteLength t.suffix =
        start + byteLength (['%', '['] ++ (t.name.chars ++ t.suffix)) := by
      simp [utf8Size_mark]
      omega
    rw [before, cover_ofText, List.append_assoc]
    rfl
  have length : start + byteLength t.spell =
      start + 2 + byteLength t.name.chars + byteLength t.suffix + 2 := by
    rw [t.byteLength_spell]
    omega
  rw [← first] at opened
  rw [back, place] at closed
  rw [length, Tag.value]
  refine .trans (.tail (.single ?_) named) (marked.tail closed)
  simpa [Tag.spell] using opened

inductive ValuePiece (opening : Span) : List Char → Lexer.Piece → Prop where
  | close (rest : List Char) :
      ValuePiece opening (']' :: '%' :: rest) ⟨.closeValue, [']', '%'], rest, .text⟩
  | bang (rest : List Char) : ValuePiece opening ('!' :: rest) ⟨.bang, ['!'], rest, .value opening⟩
  | word (w : Word) (rest : List Char) :
      ValuePiece opening (w.chars ++ rest) ⟨.word, w.chars, rest, .value opening⟩

theorem readValue_ok {opening : Span} {start : Nat} {cs : List Char} {piece : Lexer.Piece}
    (h : Lexer.read (.value opening) start cs = .ok piece) : ValuePiece opening cs piece := by
  change Lexer.readValue opening start cs = _ at h
  unfold Lexer.readValue at h
  split at h
  · cases h
    exact .close _
  · cases h
    exact .bang _
  · cases h
  · split at h
    · rename_i word
      cases h
      have first := @ValuePiece.word opening (.ofRun word) (cs.dropWhile isWordChar)
      rwa [Word.chars_ofRun, List.takeWhile_append_dropWhile] at first
    · cases h

variable {r : Reader} {opening : Span} {start : Nat} {cs : List Char} {nodes : List Node}

theorem value_ok {stage : ValueStage}
    (h : run ⟨r.enter (.value opening stage), .value opening, start, cs⟩ = .ok nodes) :
    ∃ piece r', ValuePiece opening cs piece ∧
      r.stepValue opening stage ⟨piece.token, start, piece.text⟩ = .ok r' ∧
      run ⟨r', piece.mode, start + byteLength piece.text, piece.rest⟩ = .ok nodes := by
  rcases run_ok h with ⟨_, finished⟩ | ⟨_, piece, r', piece_read, taken, tail⟩
  · cases finished
  · exact ⟨piece, r', readValue_ok piece_read, taken, tail⟩

theorem converted_ok {ident : Ident} {conversions : List Conversion}
    (h : run ⟨r.enter (.value opening (.converted ident conversions)), .value opening, start, cs⟩ =
      .ok nodes) : ∃ rest, cs = ']' :: '%' :: rest := by
  obtain ⟨piece, r', first, taken, _⟩ := value_ok h
  cases first with
  | close rest => exact ⟨rest, rfl⟩
  | bang rest => cases taken
  | word w rest => cases taken

theorem marked_ok {ident : Ident}
    (h : run ⟨r.enter (.value opening (.marked ident)), .value opening, start, cs⟩ = .ok nodes) :
    ∃ letters rest, (∀ c ∈ letters, c ∈ ['j', 'J', 'u', 'U', 'l', 'L']) ∧
      cs = letters ++ ']' :: '%' :: rest := by
  obtain ⟨piece, r', first, taken, tail⟩ := value_ok h
  cases first with
  | close rest => exact ⟨[], rest, by simp, rfl⟩
  | bang rest => cases taken
  | word w rest =>
    simp only [stepValue] at taken
    cases converted : readConversions start w.chars with
    | error fault =>
      rw [converted] at taken
      cases taken
    | ok conversions =>
      rw [converted] at taken
      cases taken
      obtain ⟨rest', rfl⟩ := converted_ok tail
      exact ⟨w.chars, rest', readConversions_ok converted, rfl⟩

theorem named_ok {ident : Ident}
    (h : run ⟨r.enter (.value opening (.named ident)), .value opening, start, cs⟩ = .ok nodes)
    (w : Word) : ∃ t : Tag, t.name = w ∧ ∃ rest, cs = t.suffix ++ ']' :: '%' :: rest := by
  obtain ⟨piece, r', first, taken, tail⟩ := value_ok h
  cases first with
  | close rest => exact ⟨⟨w, none, by simp⟩, rfl, rest, rfl⟩
  | bang rest =>
    cases taken
    obtain ⟨letters, rest', known, rfl⟩ := marked_ok tail
    exact ⟨⟨w, some letters, by simpa using known⟩, rfl, rest', rfl⟩
  | word w rest => cases taken

/-- A value tag that is read without a fault is one of the grammar. -/
theorem openedValue_ok
    (h : run ⟨r.enter (.value opening .opened), .value opening, start, cs⟩ = .ok nodes) :
    ∃ (t : Tag) (rest : List Char), '%' :: '[' :: cs = t.spell ++ rest := by
  obtain ⟨piece, r', first, taken, tail⟩ := value_ok h
  cases first with
  | close rest => cases taken
  | bang rest => cases taken
  | word w rest =>
    cases taken
    obtain ⟨t, rfl, rest', rfl⟩ := named_ok tail w
    exact ⟨t, rest', by simp [Tag.spell]⟩

end State

end TextTemplate.Reader
