import Mathlib.Control.Monad.Basic
import TextTemplate.Proofs.Calls
import TextTemplate.Proofs.Names
import TextTemplate.Proofs.Rendering
import TextTemplate.Proofs.Tiling

/-!
# Letter case

The case of the letters in words makes no difference to what is read: sources that differ in it
alone have the same tree, or errors of the same kind at the same place. Nor does the case of ASCII
letters in a name make a difference to what the name is bound to.
-/

namespace TextTemplate
open Grammar

/-! ### Characters in either case -/

section
variable {c d : Char}

theorem toLower_eq_iff (mark : d ∈ ['%', '[', ']', '|', ' ', '\t', '\n', '\r']) :
    c.toLower = d ↔ c = d := by
  have fixed : d.toLower = d ∧ d.toUpper = d := by
    simp only [List.mem_cons, List.not_mem_nil, or_false] at mark
    rcases mark with rfl | rfl | rfl | rfl | rfl | rfl | rfl | rfl <;> decide
  constructor
  · intro lower
    rcases Reader.eq_or_toUpper_of_toLower lower with rfl | rfl
    · rfl
    · exact fixed.2
  · rintro rfl
    exact fixed.1

theorem isWordChar_toLower (c : Char) : isWordChar c.toLower = isWordChar c := by
  by_cases capital : 'A'.val ≤ c.val ∧ c.val ≤ 'Z'.val
  · rw [isWordChar_iff.mpr (Or.inl capital), isWordChar_iff]
    exact Or.inr (Or.inl (toLower_capital capital))
  · rw [toLower_of_not_capital capital]

theorem isBlankChar_toLower (c : Char) : isBlankChar c.toLower = isBlankChar c := by
  have blank {d : Char} (mark : d ∈ ['%', '[', ']', '|', ' ', '\t', '\n', '\r']) :
      c.toLower = d ↔ c = d := toLower_eq_iff mark
  rw [Bool.eq_iff_iff, isBlankChar_iff, isBlankChar_iff]
  simp only [List.mem_cons, List.not_mem_nil, or_false, blank (by decide : ' ' ∈ _),
    blank (by decide : '\t' ∈ _), blank (by decide : '\r' ∈ _), blank (by decide : '\n' ∈ _)]

theorem utf8Size_toLower (c : Char) : c.toLower.utf8Size = c.utf8Size := by
  by_cases capital : 'A'.val ≤ c.val ∧ c.val ≤ 'Z'.val
  · have ascii {d : Char} (small : d.val ≤ 'z'.val) : d.utf8Size = 1 :=
      Char.utf8Size_eq_one_iff.mpr (UInt32.le_trans small (by decide))
    rw [ascii (toLower_capital capital).2, ascii (UInt32.le_trans capital.2 (by decide))]
  · rw [toLower_of_not_capital capital]

theorem byteLength_toLower (cs : List Char) : byteLength (cs.map Char.toLower) = byteLength cs := by
  induction cs with
  | nil => rfl
  | cons c cs ih => rw [List.map_cons, byteLength_cons, byteLength_cons, utf8Size_toLower, ih]

theorem isWordChar_of_toLower (same : c.toLower = d.toLower) : isWordChar c = isWordChar d := by
  rw [← isWordChar_toLower, same, isWordChar_toLower]

theorem isBlankChar_of_toLower (same : c.toLower = d.toLower) :
    isBlankChar c = isBlankChar d := by
  rw [← isBlankChar_toLower, same, isBlankChar_toLower]

theorem utf8Size_of_toLower (same : c.toLower = d.toLower) : c.utf8Size = d.utf8Size := by
  rw [← utf8Size_toLower, same, utf8Size_toLower]

variable {cs ds : List Char}

theorem byteLength_of_toLower (same : cs.map Char.toLower = ds.map Char.toLower) :
    byteLength cs = byteLength ds := by
  rw [← byteLength_toLower, same, byteLength_toLower]

/-- Texts that differ in letter case alone take up the same place. -/
theorem Span.ofText_of_toLower (start : Nat) (same : cs.map Char.toLower = ds.map Char.toLower) :
    ofText start cs = ofText start ds := by
  rw [ofText, ofText, byteLength_of_toLower same]

/-- A word is a word in other case too. -/
theorem Grammar.Word.exists_of_toLower (w : Word)
    (same : w.chars.map Char.toLower = ds.map Char.toLower) : ∃ w' : Word, w'.chars = ds := by
  refine ⟨⟨ds, ?_, fun d member => ?_⟩, rfl⟩
  · rintro rfl
    exact w.ne_nil (List.map_eq_nil_iff.mp same)
  · have image : d.toLower ∈ w.chars.map Char.toLower := same ▸ List.mem_map_of_mem member
    obtain ⟨c, present, lower⟩ := List.mem_map.mp image
    rw [← isWordChar_of_toLower lower, w.word c present]

/-- Where a piece ends does not depend on the case of what is behind it. -/
theorem Token.EndsBefore.of_toLower {token : Token} (h : token.EndsBefore c)
    (same : c.toLower = d.toLower) : token.EndsBefore d := by
  cases token with
  | text =>
    obtain rfl : c = '%' := h
    exact (toLower_eq_iff (by decide)).mp same.symm
  | percent =>
    intro mark
    have marks : ['%', '[', '|', ']'] ⊆ ['%', '[', ']', '|', ' ', '\t', '\n', '\r'] := by decide
    have fixed : d.toLower = d := (toLower_eq_iff (marks mark)).mpr rfl
    obtain rfl := (toLower_eq_iff (marks mark)).mp (same.trans fixed)
    exact h mark
  | openValue =>
    rintro rfl
    exact h ((toLower_eq_iff (by decide)).mp same)
  | word =>
    rw [EndsBefore] at h ⊢
    rw [← isWordChar_of_toLower same, h]
  | blank =>
    rw [EndsBefore] at h ⊢
    rw [← isBlankChar_of_toLower same, h]
  | _ => trivial

end

/-! ### Texts in other case -/

namespace Lexer

def InWord (mode : Mode) (start : Nat) (cs : List Char) (n : Nat) : Prop :=
  ∃ l ∈ (scan mode start cs).1, l.token = .word ∧ l.span.start ≤ n ∧ n < l.span.stop

/-- The second text differs from the first in the case of letters alone, and in the words of the
first alone. -/
structure Recased (mode : Mode) (start : Nat) (cs cs' : List Char) : Prop where
  lower : cs.map Char.toLower = cs'.map Char.toLower
  outside : ∀ i < cs.length, ¬ InWord mode start cs (start + byteLength (cs.take i)) →
    cs[i]? = cs'[i]?

end Lexer

structure Lexeme.Recased (l l' : Lexeme) : Prop where
  token : l.token = l'.token
  start : l.start = l'.start
  lower : l.text.map Char.toLower = l'.text.map Char.toLower
  same : l.token ≠ .word → l.text = l'.text

namespace Lexer

variable {mode : Mode} {start : Nat} {cs cs' : List Char} {piece : Piece}

theorem start_le_of_scan {l : Lexeme} (member : l ∈ (scan mode start cs).1) :
    start ≤ l.span.start := by
  obtain ⟨stop, adjoin, -⟩ := adjoin_of_gives (gives_scan mode start cs)
  exact adjoin.start_le l member

theorem byteLength_take_lt {i : Nat} (h : i < cs.length) :
    byteLength (cs.take i) < byteLength cs := by
  have behind : cs.drop i ≠ [] := by simpa using h
  have positive := byteLength_pos behind
  have parts := congrArg byteLength (List.take_append_drop i cs)
  rw [byteLength_append] at parts
  omega

theorem not_inWord_of_lt {n : Nat} (before : n < start) : ¬ InWord mode start cs n := by
  rintro ⟨l, member, -, from_start, -⟩
  have := start_le_of_scan member
  omega

theorem inWord_of_read (nonempty : cs ≠ []) (found : read mode start cs = .ok piece) {n : Nat}
    (inside : InWord mode start cs n) :
    piece.token = .word ∧ n < start + byteLength piece.text ∨
      InWord piece.mode (start + byteLength piece.text) piece.rest n := by
  obtain ⟨l, member, word, from_start, to_stop⟩ := inside
  rw [Reader.State.scan_of_read nonempty found] at member
  rcases List.mem_cons.mp member with rfl | behind
  · exact Or.inl ⟨word, to_stop⟩
  · exact Or.inr ⟨l, behind, word, from_start, to_stop⟩

/-- A piece that is no word is the same in both texts. -/
theorem Recased.text_eq {text rest : List Char} (nonempty : cs ≠ [])
    (found : read mode start cs = .ok piece) (h : Recased mode start cs (text ++ rest))
    (length : text.length = piece.text.length) (other : piece.token ≠ .word) :
    piece.text = text := by
  have tiles := read_append found
  apply List.ext_getElem? fun i => ?_
  by_cases inside : i < piece.text.length
  · have same := h.outside i (by rw [← tiles, List.length_append]; omega) fun word => ?_
    · rwa [← tiles, List.getElem?_append_left inside, List.getElem?_append_left (by omega)] at same
    · rcases inWord_of_read nonempty found word with ⟨word, -⟩ | word
      · exact other word
      · refine not_inWord_of_lt ?_ word
        have shorter := byteLength_take_lt inside
        rw [← tiles, List.take_append_of_le_length (Nat.le_of_lt inside)]
        omega
  · rw [List.getElem?_eq_none (by omega), List.getElem?_eq_none (by omega)]

theorem Recased.behind {text rest : List Char} (nonempty : cs ≠ [])
    (found : read mode start cs = .ok piece) (h : Recased mode start cs (text ++ rest))
    (length : text.length = piece.text.length)
    (lower : piece.rest.map Char.toLower = rest.map Char.toLower) :
    Recased piece.mode (start + byteLength piece.text) piece.rest rest := by
  have tiles := read_append found
  refine ⟨lower, fun i inside stranger => ?_⟩
  have same := h.outside (piece.text.length + i)
    (by rw [← tiles, List.length_append]; omega) fun word => ?_
  · rwa [← tiles, List.getElem?_append_right (by omega), List.getElem?_append_right (by omega),
      length, Nat.add_sub_cancel_left] at same
  · rw [← tiles, List.take_length_add_append, byteLength_append, ← Nat.add_assoc, tiles] at word
    rcases inWord_of_read nonempty found word with ⟨-, front⟩ | word
    · omega
    · exact stranger word

/-- Where no piece can be read there are no words. -/
theorem Recased.eq_of_fault {fault : Fault} (h : Recased mode start cs cs') (nonempty : cs ≠ [])
    (failed : read mode start cs = .error fault) : cs' = cs := by
  have length : cs'.length = cs.length := by simpa using congrArg List.length h.lower.symm
  apply List.ext_getElem? fun i => ?_
  by_cases inside : i < cs.length
  · refine (h.outside i inside ?_).symm
    rintro ⟨l, member, -⟩
    rw [Reader.State.scan_of_fault nonempty failed] at member
    cases member
  · rw [List.getElem?_eq_none (by omega), List.getElem?_eq_none (by omega)]

/-- The piece at the front of a text in other case. -/
theorem Recased.read (h : Recased mode start cs cs') (nonempty : cs ≠ [])
    (found : read mode start cs = .ok piece) :
    ∃ text rest, Lexer.read mode start cs' = .ok { piece with text, rest } ∧
      Lexeme.Recased ⟨piece.token, start, piece.text⟩ ⟨piece.token, start, text⟩ ∧
      Recased piece.mode (start + byteLength piece.text) piece.rest rest := by
  have lower := h.lower
  rw [← read_append found, List.map_append] at lower
  obtain ⟨text, rest, rfl, sameText, sameRest⟩ := List.map_eq_append_iff.mp lower.symm
  have length : text.length = piece.text.length := by
    simpa using congrArg List.length sameText
  have kept := h.text_eq nonempty found length
  refine ⟨text, rest, ?_, ⟨rfl, rfl, sameText.symm, kept⟩,
    h.behind nonempty found length sameRest.symm⟩
  have ends : ∀ c ∈ rest.head?, piece.token.EndsBefore c := by
    intro c next
    have heads := congrArg List.head? sameRest
    rw [List.head?_map, List.head?_map, Option.mem_def.mp next] at heads
    obtain ⟨d, next', same⟩ := Option.map_eq_some_iff.mp heads.symm
    exact (read_ends nonempty found d next').of_toLower same
  by_cases word : piece.token = .word
  · obtain ⟨⟨own, spelled⟩, mode_eq, others⟩ := word_of_read nonempty found word
    obtain ⟨w, rfl⟩ := own.exists_of_toLower (spelled ▸ sameText.symm)
    rw [word] at ends
    rw [others w rest ends, word, mode_eq]
  · rw [← kept word]
    exact read_swap nonempty found ends

end Lexer

/-! ### Alike outcomes -/

/-- Both come to the same, or both fail, and in ways that are so related. -/
inductive Agree {ε α : Type} (R : ε → ε → Prop) : Except ε α → Except ε α → Prop where
  | ok (a : α) : Agree R (.ok a) (.ok a)
  | error {e e' : ε} : R e e' → Agree R (.error e) (.error e')

structure Fault.Alike (fault fault' : Fault) : Prop where
  kind : fault.cause.kind = fault'.cause.kind
  identifier : fault.cause.identifier? = fault'.cause.identifier?
  span : fault.span = fault'.span

/-- The errors are of the same kind, for the same name and at the same place. -/
def Error.Alike (e e' : Error) : Prop :=
  e.toFault.Alike e'.toFault

theorem Fault.Alike.refl (fault : Fault) : fault.Alike fault :=
  ⟨rfl, rfl, rfl⟩

theorem Error.Alike.refl (e : Error) : e.Alike e :=
  Fault.Alike.refl e.toFault

namespace Agree

variable {ε α β : Type} {R : ε → ε → Prop} {x y : Except ε α} {f g : α → Except ε β}

theorem refl (same : ∀ e, R e e) (x : Except ε α) : Agree R x x := by
  cases x with
  | error e => exact .error (same e)
  | ok a => exact .ok a

theorem bind (h : Agree R x y) (next : ∀ a, Agree R (f a) (g a)) :
    Agree R (x >>= f) (y >>= g) := by
  cases h with
  | ok a => exact next a
  | error related => exact .error related

end Agree

/-! ### Reading -/

namespace Reader

variable {l l' : Lexeme}

theorem span_recased (h : l.Recased l') : l.span = l'.span := by
  rw [Lexeme.span, Lexeme.span, h.start, Span.ofText_of_toLower _ h.lower]

theorem ofLexeme_recased (h : l.Recased l') : Ident.ofLexeme l = Ident.ofLexeme l' := by
  rw [Ident.ofLexeme, Ident.ofLexeme, h.lower, span_recased h]

theorem readConversions_recased (start : Nat) {cs cs' : List Char}
    (same : cs.map Char.toLower = cs'.map Char.toLower) :
    Agree Fault.Alike (readConversions start cs) (readConversions start cs') := by
  induction cs generalizing start cs' with
  | nil =>
    obtain rfl := List.map_eq_nil_iff.mp same.symm
    exact .ok _
  | cons c cs ih =>
    obtain ⟨c', cs', rfl, first, others⟩ := List.map_eq_cons_iff.mp same.symm
    have code : Conversion.ofCode? c = Conversion.ofCode? c' := by
      rw [Conversion.ofCode?, Conversion.ofCode?, first]
    rw [readConversions, readConversions, code, utf8Size_of_toLower first.symm]
    cases Conversion.ofCode? c' with
    | none => exact .error ⟨rfl, rfl, Span.ofText_of_toLower start (congrArg ([·]) first.symm)⟩
    | some conversion => exact (ih _ others.symm).bind fun _ => .ok _

theorem readRawMarks_recased (start : Nat) {cs cs' : List Char}
    (same : cs.map Char.toLower = cs'.map Char.toLower) :
    Agree Fault.Alike (readRawMarks start cs) (readRawMarks start cs') := by
  induction cs generalizing start cs' with
  | nil =>
    obtain rfl := List.map_eq_nil_iff.mp same.symm
    exact .ok _
  | cons c cs ih =>
    obtain ⟨c', cs', rfl, first, others⟩ := List.map_eq_cons_iff.mp same.symm
    rw [readRawMarks, readRawMarks, first, utf8Size_of_toLower first.symm]
    split
    · exact ih _ others.symm
    · exact .error ⟨rfl, rfl, Span.ofText_of_toLower start (congrArg ([·]) first.symm)⟩

variable {r : Reader}

theorem stepValue_recased (h : l.Recased l') (word : l.token = .word) (opening : Span)
    (stage : ValueStage) :
    Agree Fault.Alike (r.stepValue opening stage l) (r.stepValue opening stage l') := by
  have word' : l'.token = .word := h.token ▸ word
  cases stage with
  | opened =>
    simp only [stepValue, word, word', ofLexeme_recased h]
    exact .ok _
  | marked ident =>
    simp only [stepValue, word, word', h.start]
    exact (readConversions_recased _ h.lower).bind fun _ => .ok _
  | _ =>
    simp only [stepValue, word, word', unexpected, span_recased h]
    exact .error (.refl _)

theorem stepHeader_recased (h : l.Recased l') (word : l.token = .word) (opening : Span)
    (stage : HeaderStage) :
    Agree Fault.Alike (r.stepHeader opening stage l) (r.stepHeader opening stage l') := by
  have word' : l'.token = .word := h.token ▸ word
  cases stage with
  | opened | spaced | negated =>
    simp only [stepHeader, word, word', ofLexeme_recased h]
    exact .ok _
  | marked test =>
    simp only [stepHeader, word, word', h.start]
    exact (readRawMarks_recased _ h.lower).bind fun _ => .ok _
  | _ =>
    simp only [stepHeader, endHeader, word, word', unexpected, span_recased h]
    exact .error (.refl _)

/-- A reader takes a word in either case in the same way. -/
theorem step_recased (h : l.Recased l') : Agree Fault.Alike (r.step l) (r.step l') := by
  by_cases word : l.token = .word
  · unfold step
    cases r.stage with
    | text =>
      simp only [stepText, word, ← h.token, span_recased h]
      exact .error (.refl _)
    | value opening stage => exact stepValue_recased h word opening stage
    | header opening stage => exact stepHeader_recased h word opening stage
  · have same : l = l' := by
      obtain ⟨token, start, text⟩ := l
      obtain ⟨token', start', text'⟩ := l'
      exact (Lexeme.mk.injEq ..).mpr ⟨h.token, h.start, h.same word⟩
    rw [same]
    exact .refl Fault.Alike.refl _

theorem run_recased (r : Reader) {mode : Lexer.Mode} {start : Nat} {cs cs' : List Char}
    (h : Lexer.Recased mode start cs cs') :
    Agree Fault.Alike (State.run ⟨r, mode, start, cs⟩) (State.run ⟨r, mode, start, cs'⟩) := by
  by_cases empty : cs = []
  · obtain rfl : cs' = [] := List.map_eq_nil_iff.mp (by rw [← h.lower, empty]; rfl)
    rw [empty]
    exact .refl Fault.Alike.refl _
  · cases found : Lexer.read mode start cs with
    | error fault =>
      rw [h.eq_of_fault empty found]
      exact .refl Fault.Alike.refl _
    | ok piece =>
      obtain ⟨text, rest, found', same, behind⟩ := h.read empty found
      have nonempty' : cs' ≠ [] := by
        rintro rfl
        exact empty (List.map_eq_nil_iff.mp h.lower)
      have shorter := Lexer.length_rest_lt empty found
      have stop : byteLength text = byteLength piece.text := byteLength_of_toLower same.lower.symm
      rw [State.run_of_read empty found, State.run_of_read nonempty' found', stop]
      exact (step_recased same).bind fun r' => run_recased r' behind
termination_by cs.length

end Reader

/-! ### Rendering -/

def Agree.likeness : Likeness (Except Error) (Except Error) where
  Alike := Agree Error.Alike
  pure := .ok
  bind := Agree.bind

theorem Environment.alike_self (env : Environment (Except Error)) :
    env.Alike Agree.likeness env := by
  have self {α : Type} (x : Except Error α) : Agree Error.Alike x x := .refl Error.Alike.refl x
  exact ⟨fun _ => self _, fun _ => self _, fun _ => self _, fun _ _ _ => self _, rfl,
    fun _ => self _⟩

/-- Templates with the same tree are rendered alike, whatever their sources are. -/
theorem Template.renderWithin_agree (env : Environment (Except Error)) {t t' : Template}
    (same : t.nodes = t'.nodes) (limit left : Nat) :
    Agree Error.Alike (t.renderWithin env limit left) (t'.renderWithin env limit left) := by
  have stops {α : Type} (cause : Cause) (span : Span) :
      Agree Error.Alike (t.stop cause span : Except Error α) (t'.stop cause span) :=
    .error (.refl _)
  cases left with
  | zero => exact alike_renderWith_of_nodes env.alike_self same stops fun _ _ => stops _ _
  | succ left =>
    exact alike_renderWith_of_nodes env.alike_self same stops fun _ _ =>
      .refl Error.Alike.refl _

/-! ### Names in other case -/

def SameName (name name' : String) : Prop :=
  name = name' ∨
    ((∀ c ∈ name.toList, Unicode.isAscii c = true) ∧
      (∀ c ∈ name'.toList, Unicode.isAscii c = true) ∧
      name.toList.map Char.toLower = name'.toList.map Char.toLower)

theorem foldName_sameName {name name' : String} (h : SameName name name') :
    foldName name = foldName name' := by
  rcases h with rfl | ⟨ascii, ascii', same⟩
  · rfl
  · have folded := foldName_ascii ascii
    have folded' := foldName_ascii ascii'
    rw [String.ofList_toList] at folded folded'
    rw [folded, folded', same]

namespace Bindings

inductive Call.Recased : Call → Call → Prop where
  | insert {name name' : String} (binding : Binding) :
      SameName name name' → Recased (.insert name binding) (.insert name' binding)
  | insertRecursive {name name' : String} :
      SameName name name' → Recased (.insertRecursive name) (.insertRecursive name')

theorem Call.Recased.apply {call call' : Call} (h : call.Recased call') (b : Bindings) :
    call.apply b = call'.apply b := by
  cases h with
  | insert binding same => cases binding <;> simp [Call.apply, foldName_sameName same]
  | insertRecursive same => simp [Call.apply, Bindings.insertRecursive, foldName_sameName same]

theorem ofCalls_recased {calls calls' : List Call} (h : List.Forall₂ Call.Recased calls calls') :
    ofCalls calls = ofCalls calls' := by
  unfold ofCalls
  generalize empty = b
  induction h generalizing b with
  | nil => rfl
  | cons first _ ih => rw [List.foldl_cons, List.foldl_cons, first.apply, ih]

end Bindings

/-! ### Templates in other case -/

theorem Template.parse_recased {s s' : String} (h : Lexer.Recased .text 0 s.toList s'.toList) :
    Agree Error.Alike ((parse s).map fun t => { t with source := s' }) (parse s') := by
  have read := Reader.run_recased {} h
  rw [← Reader.read_eq_run, ← Reader.read_eq_run] at read
  unfold parse
  generalize Reader.read s.toList = tree at read
  generalize Reader.read s'.toList = tree' at read
  cases read with
  | ok nodes => exact .ok _
  | error alike => exact .error alike

/-- With its words in other case a source has the same tree, or an error of the same kind at the
same place. With names in other case it comes to the same text, or to an error of the same kind, for
the same name and at the same place. -/
theorem format_recased {s s' : String} (h : Lexer.Recased .text 0 s.toList s'.toList)
    {calls calls' : List Bindings.Call} (names : List.Forall₂ Bindings.Call.Recased calls calls') :
    Agree Error.Alike ((Template.parse s).map fun t => { t with source := s' })
        (Template.parse s') ∧
      ∀ limit, Agree Error.Alike (format limit s (.ofCalls calls))
        (format limit s' (.ofCalls calls')) := by
  have parsed := Template.parse_recased h
  refine ⟨parsed, fun limit => ?_⟩
  rw [Bindings.ofCalls_recased names, format, format]
  generalize Template.parse s = first at parsed
  generalize Template.parse s' = second at parsed
  cases first with
  | error e =>
    cases parsed with
    | error alike => exact .error alike
  | ok t =>
    cases parsed with
    | ok =>
      have same : t.nodes = { t with source := s' }.nodes := rfl
      exact Template.renderWithin_agree _ same limit limit

theorem format_recased_mixed :
    let s := "%[Name!u]%:%[% On!R%]%"
    let s' := "%[nAME!U]%:%[% oN!r%]%"
    let calls : List Bindings.Call := [.insert "NAME" (.value "x"), .insert "On" (.flag true)]
    let calls' : List Bindings.Call := [.insert "name" (.value "x"), .insert "oN" (.flag true)]
    Lexer.Recased .text 0 s.toList s'.toList ∧ List.Forall₂ Bindings.Call.Recased calls calls' ∧
      format 0 s (.ofCalls calls) = .ok "X:" ∧ format 0 s' (.ofCalls calls') = .ok "X:" := by
  intro s s' calls calls'
  let words : List Lexeme := [⟨.word, 2, "Name".toList⟩, ⟨.word, 7, "u".toList⟩,
    ⟨.word, 15, "On".toList⟩, ⟨.word, 18, "R".toList⟩]
  have found : (Lexer.scan .text 0 s.toList).1.filter (·.token = .word) = words := by decide +kernel
  have outside : ∀ i < s.toList.length, s.toList[i]? = s'.toList[i]? ∨
      ∃ l ∈ words, l.span.start ≤ 0 + byteLength (s.toList.take i) ∧
        0 + byteLength (s.toList.take i) < l.span.stop := by decide
  have recased : Lexer.Recased .text 0 s.toList s'.toList := by
    refine ⟨by decide, fun i inside stranger => ?_⟩
    rcases outside i inside with same | ⟨l, member, place⟩
    · exact same
    · rw [← found, List.mem_filter, decide_eq_true_iff] at member
      exact absurd ⟨l, member.1, member.2, place⟩ stranger
  have ascii {name : String} (all : name.toList.all Unicode.isAscii = true) :
      ∀ c ∈ name.toList, Unicode.isAscii c = true := List.all_eq_true.mp all
  have names : List.Forall₂ Bindings.Call.Recased calls calls' :=
    .cons (.insert _ (Or.inr ⟨ascii (by decide), ascii (by decide), by decide⟩))
      (.cons (.insert _ (Or.inr ⟨ascii (by decide), ascii (by decide), by decide⟩)) .nil)
  have plain : format 0 s (.ofCalls calls) = .ok "X:" := by decide +kernel
  refine ⟨recased, names, plain, ?_⟩
  have same := (format_recased recased names).2 0
  rw [plain] at same
  generalize format 0 s' (.ofCalls calls') = out at same
  cases same
  rfl

end TextTemplate
