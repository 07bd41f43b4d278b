import TextTemplate.Proofs.Tags

/-!
# Reading headers

The header of a condition in the grammar brings the reader to the mark that ends it, and a header
that is read without a fault is one of the grammar.
-/

namespace TextTemplate.Reader
open Grammar

/-! ### Pieces -/

theorem readHeader_of_word {c : Char} (word : isWordChar c = true) (opening : Span) (start : Nat)
    (cs : List Char) :
    Lexer.read (.header opening) start (c :: cs) =
      .ok (.run .word isWordChar (c :: cs) (.header opening)) := by
  change Lexer.readHeader opening start (c :: cs) = _
  unfold Lexer.readHeader
  split
  case h_5 => rw [if_neg (by simp [isBlankChar_of_isWordChar word]), if_pos (by simp [word])]
  all_goals
    rename_i same
    obtain ⟨rfl, -⟩ := List.cons.inj same
    exact absurd word (by decide)

theorem readHeader_of_blank {c : Char} (blank : isBlankChar c = true) (opening : Span)
    (start : Nat) (cs : List Char) :
    Lexer.read (.header opening) start (c :: cs) =
      .ok (.run .blank isBlankChar (c :: cs) (.header opening)) := by
  change Lexer.readHeader opening start (c :: cs) = _
  unfold Lexer.readHeader
  split
  case h_5 => rw [if_pos (by simp [blank])]
  all_goals
    rename_i same
    obtain ⟨rfl, -⟩ := List.cons.inj same
    exact absurd blank (by decide)

theorem readHeader_word (w : Word) {rest : List Char} (opening : Span) (start : Nat)
    (stop : ∀ c ∈ rest.head?, isWordChar c = false) :
    Lexer.read (.header opening) start (w.chars ++ rest) =
      .ok ⟨.word, w.chars, rest, .header opening⟩ := by
  obtain ⟨c, cs, first, word⟩ := w.head_word rest
  rw [first, readHeader_of_word word, ← first, piece_run w.word stop]

theorem readHeader_blank {blank rest : List Char} (opening : Span) (start : Nat)
    (nonempty : blank ≠ []) (all : ∀ c ∈ blank, isBlankChar c = true)
    (stop : ∀ c ∈ rest.head?, isBlankChar c = false) :
    Lexer.read (.header opening) start (blank ++ rest) =
      .ok ⟨.blank, blank, rest, .header opening⟩ := by
  obtain ⟨c, cs, rfl⟩ := List.exists_cons_of_ne_nil nonempty
  rw [List.cons_append, readHeader_of_blank (all c (by simp)), ← List.cons_append,
    piece_run all stop]

/-! ### Reading on to the end -/

theorem readRawMarks_raw {marks : List Char} (raw : ∀ c ∈ marks, c = 'r' ∨ c = 'R')
    (start : Nat) : readRawMarks start marks = .ok () := by
  induction marks generalizing start with
  | nil => rfl
  | cons c marks ih =>
    have lower : c.toLower = 'r' := by rcases raw c (by simp) with rfl | rfl <;> rfl
    rw [readRawMarks, if_pos lower]
    exact ih (fun d member => raw d (List.mem_cons_of_mem c member)) _

theorem readRawMarks_ok {marks : List Char} {start : Nat} (h : readRawMarks start marks = .ok ()) :
    ∀ c ∈ marks, c = 'r' ∨ c = 'R' := by
  induction marks generalizing start with
  | nil => simp
  | cons c marks ih =>
    rw [readRawMarks] at h
    split at h
    · rename_i lower
      intro d member
      rcases List.mem_cons.mp member with rfl | member
      · exact eq_or_toUpper_of_toLower lower
      · exact ih h d member
    · cases h

/-- Whether a name is negated that comes now, if one may come. -/
def HeaderStage.negated? : HeaderStage → Option Bool
  | .opened | .spaced => some false
  | .negated => some true
  | _ => none

/-- What a header has named, if a blank may come now. -/
def HeaderStage.named? : HeaderStage → Option Test
  | .named test | .converted test => some test
  | _ => none

/-- What a header has named, if it may end now. -/
def HeaderStage.done? : HeaderStage → Option Test
  | .finished test => some test
  | stage => stage.named?

namespace State

variable (r : Reader) (opening : Span) (start : Nat) (rest : List Char)

theorem reaches_before (h : Heading) :
    ∃ stage, stage.negated? = some false ∧
      Reaches
        ⟨r.enter (.header opening .opened), .header opening, start,
          h.before ++ (h.bang ++ (h.name.chars ++ rest))⟩
        ⟨r.enter (.header opening stage), .header opening, start + byteLength h.before,
          h.bang ++ (h.name.chars ++ rest)⟩ := by
  by_cases empty : h.before = []
  · rw [empty]
    exact ⟨.opened, rfl, .refl⟩
  · have blank := readHeader_blank opening start empty h.before_blank (h.name_stop rest)
    exact ⟨.spaced, rfl, .single (.of_piece (by simp [empty]) blank rfl rfl)⟩

theorem reaches_bang {stage : HeaderStage} (h : Heading) (waits : stage.negated? = some false) :
    ∃ stage', stage'.negated? = some h.negated ∧
      Reaches ⟨r.enter (.header opening stage), .header opening, start, h.bang ++ rest⟩
        ⟨r.enter (.header opening stage'), .header opening, start + byteLength h.bang, rest⟩ := by
  unfold Heading.bang
  cases h.negated with
  | false => exact ⟨stage, waits, .refl⟩
  | true =>
    refine ⟨.negated, rfl, .single (.of_piece (List.cons_ne_nil _ _) rfl ?_ rfl)⟩
    cases stage <;> cases waits <;> rfl

theorem step_name {stage : HeaderStage} {negated : Bool} {rest : List Char}
    (waits : stage.negated? = some negated) (w : Word)
    (stop : ∀ c ∈ rest.head?, isWordChar c = false) :
    Step ⟨r.enter (.header opening stage), .header opening, start, w.chars ++ rest⟩
      ⟨r.enter (.header opening (.named ⟨⟨w.key, .ofText start w.chars⟩, negated, false⟩)),
        .header opening, start + byteLength w.chars, rest⟩ := by
  refine .of_piece (by simp [w.ne_nil]) (readHeader_word w opening start stop) ?_ rfl
  cases stage <;> cases waits <;> rfl

theorem step_rawMarks {marks rest : List Char} (test : Test) (nonempty : marks ≠ [])
    (raw : ∀ c ∈ marks, c = 'r' ∨ c = 'R') (stop : ∀ c ∈ rest.head?, isWordChar c = false) :
    Step ⟨r.enter (.header opening (.marked test)), .header opening, start, marks ++ rest⟩
      ⟨r.enter (.header opening (.converted { test with raw := true })), .header opening,
        start + byteLength marks, rest⟩ := by
  have word : ∀ c ∈ marks, isWordChar c = true := by
    intro c member
    rcases raw c member with rfl | rfl <;> decide
  refine .of_piece (by simp [nonempty]) (readHeader_word ⟨marks, nonempty, word⟩ opening start stop)
    ?_ rfl
  simp [step, stepHeader, readRawMarks_raw raw, Functor.map, Except.map]

theorem reaches_marks (h : Heading) (ident : Ident) (negated : Bool) :
    ∃ stage, stage.named? = some ⟨ident, negated, h.marks ≠ []⟩ ∧
      Reaches
        ⟨r.enter (.header opening (.named ⟨ident, negated, false⟩)), .header opening, start,
          h.suffix ++ (h.after ++ '%' :: rest)⟩
        ⟨r.enter (.header opening stage), .header opening, start + byteLength h.suffix,
          h.after ++ '%' :: rest⟩ := by
  unfold Heading.suffix
  cases marks : h.marks with
  | nil => exact ⟨.named _, rfl, .refl⟩
  | cons c marks' =>
    have marked : Step
        ⟨r.enter (.header opening (.named ⟨ident, negated, false⟩)), .header opening, start,
          '!' :: (c :: marks' ++ (h.after ++ '%' :: rest))⟩
        ⟨r.enter (.header opening (.marked ⟨ident, negated, false⟩)), .header opening, start + 1,
          c :: marks' ++ (h.after ++ '%' :: rest)⟩ :=
      .of_piece (List.cons_ne_nil _ _) rfl rfl rfl
    have raw := step_rawMarks r opening (start + 1) ⟨ident, negated, false⟩
      (List.cons_ne_nil c marks') (marks ▸ h.marks_raw)
      (@not_word_of_blank h.after rest h.after_blank)
    have length : start + byteLength ('!' :: c :: marks') = start + 1 + byteLength (c :: marks') :=
      (Nat.add_assoc _ _ _).symm
    refine ⟨.converted ⟨ident, negated, true⟩, by simp [HeaderStage.named?], ?_⟩
    simp only [length]
    exact .tail (.single marked) raw

theorem reaches_after {stage : HeaderStage} {test : Test} (h : Heading)
    (named : stage.named? = some test) :
    ∃ stage', stage'.done? = some test ∧
      Reaches ⟨r.enter (.header opening stage), .header opening, start, h.after ++ '%' :: rest⟩
        ⟨r.enter (.header opening stage'), .header opening, start + byteLength h.after,
          '%' :: rest⟩ := by
  by_cases empty : h.after = []
  · rw [empty]
    refine ⟨stage, ?_, .refl⟩
    cases stage <;> cases named <;> rfl
  · have stop : ∀ c ∈ ('%' :: rest).head?, isBlankChar c = false := by simp; decide
    have blank := readHeader_blank opening start empty h.after_blank stop
    refine ⟨.finished test, rfl, .single (.of_piece (by simp [empty]) blank ?_ rfl)⟩
    cases stage <;> cases named <;> rfl

/-- A header brings the reader to the mark that ends it, with what it stands for. -/
theorem reaches_header {r : Reader} (text : r.stage = .text) (h : Heading) :
    ∃ stage, stage.done? = some (h.test start) ∧
      Reaches ⟨r, .text, start, h.spell ++ '%' :: rest⟩
        ⟨r.enter (.header (.ofText start ['%', '[', '%']) stage),
          .header (.ofText start ['%', '[', '%']), start + byteLength h.spell, '%' :: rest⟩ := by
  let opening := Span.ofText start ['%', '[', '%']
  have opened : Step ⟨r, .text, start, h.spell ++ '%' :: rest⟩
      ⟨r.enter (.header opening .opened), .header opening, start + 3, h.before ++ (h.bang ++
        (h.name.chars ++ (h.suffix ++ (h.after ++ '%' :: rest))))⟩ := by
    rw [Heading.spell]
    simp only [List.cons_append, List.append_assoc]
    refine .of_piece (List.cons_ne_nil _ _) rfl ?_ rfl
    simp only [step, text]
    rfl
  obtain ⟨stage, waits, before⟩ := reaches_before r opening (start + 3)
    (h.suffix ++ (h.after ++ '%' :: rest)) h
  obtain ⟨stage', waits', bang⟩ := reaches_bang r opening (start + 3 + byteLength h.before)
    (h.name.chars ++ (h.suffix ++ (h.after ++ '%' :: rest))) h waits
  have named := step_name r opening (start + 3 + byteLength h.before + byteLength h.bang) waits'
    h.name (h.suffix_stop rest)
  obtain ⟨stage'', named', marks⟩ := reaches_marks r opening
    (start + 3 + byteLength h.before + byteLength h.bang + byteLength h.name.chars) rest h
    ⟨h.name.key, .ofText (start + 3 + byteLength h.before + byteLength h.bang) h.name.chars⟩
    h.negated
  obtain ⟨last, done, after⟩ := reaches_after r opening (start + 3 + byteLength h.before +
    byteLength h.bang + byteLength h.name.chars + byteLength h.suffix) rest h named'
  have length : start + byteLength h.spell = start + 3 + byteLength h.before + byteLength h.bang +
      byteLength h.name.chars + byteLength h.suffix + byteLength h.after := by
    rw [h.byteLength_spell]
    omega
  refine ⟨last, done, ?_⟩
  rw [length]
  exact ((((Relation.ReflTransGen.single opened).trans before).trans bang).tail named).trans
    (marks.trans after)

/-! ### Headers that are read without a fault -/

inductive HeaderPiece (opening : Span) : List Char → Lexer.Piece → Prop where
  | separator (rest : List Char) :
      HeaderPiece opening ('%' :: '|' :: '%' :: rest) ⟨.separator, ['%', '|', '%'], rest, .text⟩
  | close (rest : List Char) :
      HeaderPiece opening ('%' :: ']' :: '%' :: rest)
        ⟨.closeCondition, ['%', ']', '%'], rest, .text⟩
  | bang (rest : List Char) :
      HeaderPiece opening ('!' :: rest) ⟨.bang, ['!'], rest, .header opening⟩
  | blank {cs : List Char} (h : ∀ c ∈ cs, isBlankChar c = true) (rest : List Char) :
      HeaderPiece opening (cs ++ rest) ⟨.blank, cs, rest, .header opening⟩
  | word (w : Word) (rest : List Char) :
      HeaderPiece opening (w.chars ++ rest) ⟨.word, w.chars, rest, .header opening⟩

theorem readHeader_ok {opening : Span} {start : Nat} {cs : List Char} {piece : Lexer.Piece}
    (h : Lexer.read (.header opening) start cs = .ok piece) : HeaderPiece opening cs piece := by
  change Lexer.readHeader opening start cs = _ at h
  unfold Lexer.readHeader at h
  split at h
  · cases h
    exact .separator _
  · cases h
    exact .close _
  · cases h
    exact .bang _
  · cases h
  · split at h
    · cases h
      have first := @HeaderPiece.blank opening (cs.takeWhile isBlankChar)
        (List.all_eq_true.mp List.all_takeWhile) (cs.dropWhile isBlankChar)
      rwa [List.takeWhile_append_dropWhile] at first
    · split at h
      · rename_i word
        cases h
        have first := @HeaderPiece.word opening (.ofRun word) (cs.dropWhile isWordChar)
        rwa [Word.chars_ofRun, List.takeWhile_append_dropWhile] at first
      · cases h

inductive HeaderEnd : List Char → Prop where
  | separator (cs : List Char) : HeaderEnd ('|' :: '%' :: cs)
  | close (cs : List Char) : HeaderEnd (']' :: '%' :: cs)

variable {r : Reader} {opening : Span} {start : Nat} {cs : List Char} {nodes : List Node}

theorem header_ok {stage : HeaderStage}
    (h : run ⟨r.enter (.header opening stage), .header opening, start, cs⟩ = .ok nodes) :
    ∃ piece r', HeaderPiece opening cs piece ∧
      r.stepHeader opening stage ⟨piece.token, start, piece.text⟩ = .ok r' ∧
      run ⟨r', piece.mode, start + byteLength piece.text, piece.rest⟩ = .ok nodes := by
  rcases run_ok h with ⟨_, finished⟩ | ⟨_, piece, r', piece_read, taken, tail⟩
  · cases finished
  · exact ⟨piece, r', readHeader_ok piece_read, taken, tail⟩

theorem finished_ok {test : Test}
    (h : run ⟨r.enter (.header opening (.finished test)), .header opening, start, cs⟩ =
      .ok nodes) : ∃ rest, HeaderEnd rest ∧ cs = '%' :: rest := by
  obtain ⟨piece, r', first, taken, _⟩ := header_ok h
  cases first with
  | separator rest => exact ⟨_, .separator rest, rfl⟩
  | close rest => exact ⟨_, .close rest, rfl⟩
  | bang rest => cases taken
  | blank _ rest => cases taken
  | word w rest => cases taken

theorem blank_ok {test : Test}
    (h : run ⟨r.enter (.header opening (.converted test)), .header opening, start, cs⟩ =
      .ok nodes) :
    ∃ after rest, (∀ c ∈ after, isBlankChar c = true) ∧ HeaderEnd rest ∧
      cs = after ++ '%' :: rest := by
  obtain ⟨piece, r', first, taken, tail⟩ := header_ok h
  cases first with
  | separator rest => exact ⟨[], _, by simp, .separator rest, rfl⟩
  | close rest => exact ⟨[], _, by simp, .close rest, rfl⟩
  | bang rest => cases taken
  | blank after rest =>
    cases taken
    obtain ⟨rest', ended, rfl⟩ := finished_ok tail
    exact ⟨_, rest', after, ended, rfl⟩
  | word w rest => cases taken

theorem rawMark_ok {test : Test}
    (h : run ⟨r.enter (.header opening (.marked test)), .header opening, start, cs⟩ = .ok nodes) :
    ∃ c marks after rest, (∀ d ∈ c :: marks, d = 'r' ∨ d = 'R') ∧
      (∀ c ∈ after, isBlankChar c = true) ∧ HeaderEnd rest ∧
      cs = c :: marks ++ (after ++ '%' :: rest) := by
  obtain ⟨piece, r', first, taken, tail⟩ := header_ok h
  cases first with
  | separator rest => cases taken
  | close rest => cases taken
  | bang rest => cases taken
  | blank _ rest => cases taken
  | word w rest =>
    simp only [stepHeader] at taken
    cases raw : readRawMarks start w.chars with
    | error fault =>
      rw [raw] at taken
      cases taken
    | ok _ =>
      rw [raw] at taken
      cases taken
      obtain ⟨after, rest', blank, ended, rfl⟩ := blank_ok tail
      obtain ⟨c, marks, same⟩ := List.exists_cons_of_ne_nil w.ne_nil
      rw [same] at raw ⊢
      exact ⟨c, marks, after, rest', readRawMarks_ok raw, blank, ended, rfl⟩

theorem name_ok {test : Test}
    (h : run ⟨r.enter (.header opening (.named test)), .header opening, start, cs⟩ = .ok nodes)
    {before : List Char} (blank : ∀ c ∈ before, isBlankChar c = true) (negated : Bool) (w : Word) :
    ∃ hd : Heading, hd.before = before ∧ hd.negated = negated ∧ hd.name = w ∧
      ∃ rest, HeaderEnd rest ∧ cs = hd.suffix ++ (hd.after ++ '%' :: rest) := by
  obtain ⟨piece, r', first, taken, tail⟩ := header_ok h
  cases first with
  | separator rest =>
    exact ⟨⟨before, negated, w, [], [], blank, by simp, by simp⟩, rfl, rfl, rfl, _,
      .separator rest, rfl⟩
  | close rest =>
    exact ⟨⟨before, negated, w, [], [], blank, by simp, by simp⟩, rfl, rfl, rfl, _,
      .close rest, rfl⟩
  | bang rest =>
    cases taken
    obtain ⟨c, marks, after, rest', raw, blank', ended, rfl⟩ := rawMark_ok tail
    exact ⟨⟨before, negated, w, c :: marks, after, blank, raw, blank'⟩, rfl, rfl, rfl, rest',
      ended, rfl⟩
  | blank after rest =>
    cases taken
    obtain ⟨rest', ended, rfl⟩ := finished_ok tail
    exact ⟨⟨before, negated, w, [], _, blank, by simp, after⟩, rfl, rfl, rfl, rest', ended, rfl⟩
  | word w' rest => cases taken

theorem negated_ok
    (h : run ⟨r.enter (.header opening .negated), .header opening, start, cs⟩ = .ok nodes)
    {before : List Char} (blank : ∀ c ∈ before, isBlankChar c = true) :
    ∃ hd : Heading, hd.before = before ∧ hd.negated = true ∧
      ∃ rest, HeaderEnd rest ∧
        cs = hd.name.chars ++ (hd.suffix ++ (hd.after ++ '%' :: rest)) := by
  obtain ⟨piece, r', first, taken, tail⟩ := header_ok h
  cases first with
  | separator rest => cases taken
  | close rest => cases taken
  | bang rest => cases taken
  | blank _ rest => cases taken
  | word w rest =>
    cases taken
    obtain ⟨hd, same, negated, rfl, rest', ended, rfl⟩ := name_ok tail blank true w
    exact ⟨hd, same, negated, rest', ended, rfl⟩

/-- Where no blank comes any more, a name follows with or without a `!`. -/
theorem unblanked_ok {stage : HeaderStage} (waits : stage.negated? = some false)
    {piece : Lexer.Piece} {r' : Reader} (first : HeaderPiece opening cs piece)
    (taken : r.stepHeader opening stage ⟨piece.token, start, piece.text⟩ = .ok r')
    (tail : run ⟨r', piece.mode, start + byteLength piece.text, piece.rest⟩ = .ok nodes)
    (token : piece.token ≠ .blank) {before : List Char}
    (blank : ∀ c ∈ before, isBlankChar c = true) :
    ∃ hd : Heading, hd.before = before ∧
      ∃ rest, HeaderEnd rest ∧
        cs = hd.bang ++ (hd.name.chars ++ (hd.suffix ++ (hd.after ++ '%' :: rest))) := by
  cases first with
  | separator rest => cases stage <;> cases waits <;> cases taken
  | close rest => cases stage <;> cases waits <;> cases taken
  | bang rest =>
    have next : r' = r.enter (.header opening .negated) := by
      cases stage <;> cases waits <;> cases taken <;> rfl
    subst next
    obtain ⟨hd, same, negated, rest', ended, rfl⟩ := negated_ok tail blank
    exact ⟨hd, same, rest', ended, by simp [Heading.bang, negated]⟩
  | blank _ rest => exact absurd rfl token
  | word w rest =>
    have next : r' =
        r.enter (.header opening (.named { ident := .ofLexeme ⟨.word, start, w.chars⟩ })) := by
      cases stage <;> cases waits <;> cases taken <;> rfl
    subst next
    obtain ⟨hd, same, negated, rfl, rest', ended, rfl⟩ := name_ok tail blank false w
    exact ⟨hd, same, rest', ended, by simp [Heading.bang, negated]⟩

theorem spaced_ok
    (h : run ⟨r.enter (.header opening .spaced), .header opening, start, cs⟩ = .ok nodes)
    {before : List Char} (blank : ∀ c ∈ before, isBlankChar c = true) :
    ∃ hd : Heading, hd.before = before ∧
      ∃ rest, HeaderEnd rest ∧
        cs = hd.bang ++ (hd.name.chars ++ (hd.suffix ++ (hd.after ++ '%' :: rest))) := by
  obtain ⟨piece, r', first, taken, tail⟩ := header_ok h
  refine unblanked_ok rfl first taken tail ?_ blank
  rintro token
  cases first <;> cases token
  cases taken

/-- A header that is read without a fault is one of the grammar. -/
theorem openedHeader_ok
    (h : run ⟨r.enter (.header opening .opened), .header opening, start, cs⟩ = .ok nodes) :
    ∃ (hd : Heading) (rest : List Char), HeaderEnd rest ∧
      '%' :: '[' :: '%' :: cs = hd.spell ++ '%' :: rest := by
  obtain ⟨piece, r', first, taken, tail⟩ := header_ok h
  by_cases token : piece.token = .blank
  · cases first with
    | blank before rest =>
      cases taken
      obtain ⟨hd, rfl, rest', ended, rfl⟩ := spaced_ok tail before
      exact ⟨hd, rest', ended, by simp [Heading.spell]⟩
    | _ => cases token
  · have none_blank : ∀ c ∈ ([] : List Char), isBlankChar c = true := by simp
    obtain ⟨hd, same, rest', ended, rfl⟩ := unblanked_ok rfl first taken tail token none_blank
    exact ⟨hd, rest', ended, by simp [Heading.spell, same]⟩

end State

end TextTemplate.Reader
