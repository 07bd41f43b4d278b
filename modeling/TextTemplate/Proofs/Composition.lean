import TextTemplate.Proofs.Names
import TextTemplate.Proofs.Outcomes

/-!
# Sources in parts

A source that does not end in a lone `%` comes to the same in front of any other, and as a branch of
a condition.
-/

namespace TextTemplate
open Grammar Item Reader

/-! ### The last piece -/

/-- The last piece of a source that is read in this mode is a `%` that starts nothing. -/
def PercentLast (mode : Lexer.Mode) (start : Nat) (cs : List Char) : Prop :=
  (Lexer.scan mode start cs).1.getLast?.map (·.token) = some .percent

def EndsInPercent (source : String) : Prop :=
  PercentLast .text 0 source.toList

section
variable {mode : Lexer.Mode} {start : Nat} {cs : List Char} {piece : Lexer.Piece}

theorem percentLast_of_read (nonempty : cs ≠ []) (read : Lexer.read mode start cs = .ok piece)
    (h : PercentLast piece.mode (start + byteLength piece.text) piece.rest) :
    PercentLast mode start cs := by
  rw [PercentLast, State.scan_of_read nonempty read]
  rw [PercentLast] at h
  cases last : (Lexer.scan piece.mode (start + byteLength piece.text) piece.rest).1.getLast? with
  | none => simp [last] at h
  | some l => simpa [List.getLast?_cons, last] using h

theorem percentLast_rest (nonempty : cs ≠ []) (read : Lexer.read mode start cs = .ok piece)
    (token : piece.token ≠ .percent) (h : PercentLast mode start cs) :
    PercentLast piece.mode (start + byteLength piece.text) piece.rest := by
  rw [PercentLast, State.scan_of_read nonempty read] at h
  rw [PercentLast]
  cases last : (Lexer.scan piece.mode (start + byteLength piece.text) piece.rest).1.getLast? with
  | none => simp [List.getLast?_cons, last, token] at h
  | some l => simpa [List.getLast?_cons, last] using h

end

theorem percentLast_of_reaches {s s' : State} (h : State.Reaches s s')
    (last : PercentLast s'.mode s'.start s'.rest) : PercentLast s.mode s.start s.rest := by
  induction h with
  | refl => exact last
  | tail _ step ih =>
    cases step with
    | take nonempty read _ => exact ih (percentLast_of_read nonempty read last)

/-- A `%` that is last stays last behind more text. -/
theorem percentLast_char {c : Char} (hc : c ≠ '%') {cs : List Char}
    (h : ∀ start, PercentLast .text start cs) (start : Nat) :
    PercentLast .text start (c :: cs) := by
  -- A piece of text that begins at `c` swallows the one that would begin behind it.
  refine percentLast_of_read (List.cons_ne_nil _ _) (State.read_char hc start cs) ?_
  cases cs with
  | nil => exact h _
  | cons d cs =>
    by_cases hd : d = '%'
    · subst hd
      exact h _
    · have behind := h (start + c.utf8Size)
      have rest := percentLast_rest (List.cons_ne_nil _ _) (State.read_char hd _ cs) (by simp)
        behind
      simpa [hd, Nat.add_assoc] using rest

theorem percentLast_nil {mode : Lexer.Mode} {start : Nat} : ¬ PercentLast mode start [] := by
  simp [PercentLast, Lexer.scan]

theorem closed_text {source : String} (h : '%' ∉ source.toList) : ¬ EndsInPercent source := by
  intro last
  rw [EndsInPercent] at last
  cases text : source.toList with
  | nil =>
    rw [text] at last
    exact percentLast_nil last
  | cons c cs =>
    rw [text] at last h
    simp only [List.mem_cons, not_or] at h
    have rest := percentLast_rest (List.cons_ne_nil _ _) (State.read_char (Ne.symm h.1) 0 cs)
      (by simp) last
    have all : ∀ d ∈ cs, (d != '%') = true := by
      intro d member
      simpa using fun same : d = '%' => h.2 (same ▸ member)
    have stop : ∀ d ∈ ([] : List Char).head?, (d != '%') = false := by simp
    have none := dropWhile_run all stop
    rw [List.append_nil] at none
    rw [none] at rest
    exact percentLast_nil rest

theorem derives_text {cs : List Char} (h : '%' ∉ cs) : Derives (cs.map .char) cs [] := by
  induction cs with
  | nil => exact .nil
  | cons c cs ih =>
    simp only [List.mem_cons, not_or] at h
    exact .char (Ne.symm h.1) (ih h.2)

/-- What is derived in front of a `%` that is last leaves it there. -/
theorem percentLast_of_derives {items : List Item} {cs rest : List Char}
    (h : Derives items cs rest) (last : ∀ start, PercentLast .text start rest) (start : Nat) :
    PercentLast .text start cs := by
  induction h generalizing start with
  | nil => exact last start
  | char hc _ ih => exact percentLast_char hc (ih last) start
  | escape _ ih => exact percentLast_of_read (List.cons_ne_nil _ _) rfl (ih last _)
  | percent hc _ ih =>
    exact percentLast_of_read (List.cons_ne_nil _ _) (State.read_percent hc start) (ih last _)
  | value _ ih =>
    exact percentLast_of_reaches (State.reaches_value (r := {}) rfl _ start _) (ih last _)
  | probe _ ih =>
    obtain ⟨stage, done, reached⟩ := State.reaches_header start _ (r := {}) rfl _
    refine percentLast_of_reaches reached ?_
    exact percentLast_of_read (List.cons_ne_nil _ _) rfl (ih last _)
  | guard _ _ ihYes ih =>
    obtain ⟨stage, done, reached⟩ := State.reaches_header start _ (r := {}) rfl _
    refine percentLast_of_reaches reached ?_
    refine percentLast_of_read (List.cons_ne_nil _ _) rfl (ihYes (fun start => ?_) _)
    exact percentLast_of_read (List.cons_ne_nil _ _) rfl (ih last _)
  | choice _ _ _ ihYes ihNo ih =>
    obtain ⟨stage, done, reached⟩ := State.reaches_header start _ (r := {}) rfl _
    refine percentLast_of_reaches reached ?_
    refine percentLast_of_read (List.cons_ne_nil _ _) rfl (ihYes (fun start => ?_) _)
    refine percentLast_of_read (List.cons_ne_nil _ _) rfl (ihNo (fun start => ?_) _)
    exact percentLast_of_read (List.cons_ne_nil _ _) rfl (ih last _)

theorem percentLast_percent (start : Nat) : PercentLast .text start ['%'] := by
  rw [PercentLast, State.scan_of_read (List.cons_ne_nil _ _) rfl]
  simp [Lexer.scan]

/-- The items of a source do not end in a `%` if its tokens do not. -/
theorem getLast?_of_closed {source : String} {items : List Item}
    (h : Derives items source.toList []) (closed : ¬ EndsInPercent source) :
    items.getLast? ≠ some .percent := by
  intro last
  obtain ⟨front, rfl⟩ := List.getLast?_eq_some_iff.mp last
  obtain ⟨mid, before, final⟩ := h.split
  cases final with
  | percent _ tail =>
    cases tail
    exact closed (percentLast_of_derives before percentLast_percent 0)

/-! ### Sources one after the other -/

/-- The derivation of a closed source goes on with what follows it. -/
theorem derives_front {a : String} {items : List Item} (h : Derives items a.toList [])
    (closed : ¬ EndsInPercent a) (more : List Char) : Derives items (a.toList ++ more) more :=
  h.extend (fun _ => getLast?_of_closed h closed) more

theorem compiles_append {a : String} (compiles : Compiles a) (closed : ¬ EndsInPercent a)
    (b : String) : Compiles (a ++ b) ↔ Compiles b := by
  obtain ⟨front, derived, fits⟩ := compiles_iff.mp compiles
  have extended := derives_front derived closed b.toList
  rw [compiles_iff, compiles_iff, String.toList_append]
  constructor
  · rintro ⟨whole, derived', room⟩
    obtain ⟨back, rfl, derived''⟩ := extended.remainder derived' rfl
    rw [depth_append] at room
    exact ⟨back, derived'', by omega⟩
  · rintro ⟨back, derived', room⟩
    exact ⟨front ++ back, extended.append derived', by rw [depth_append]; omega⟩

/-- A closed source in front of another comes to what the two come to, one after the other. -/
theorem outcome_append {a : String} (compiles : Compiles a) (closed : ¬ EndsInPercent a)
    (b : String) (limit : Nat) (bindings : Bindings) :
    (Compiles (a ++ b) ↔ Compiles b) ∧
      (Compiles b → outcome limit (a ++ b) bindings = do
        let x ← outcome limit a bindings
        let y ← outcome limit b bindings
        return x ++ y) := by
  refine ⟨compiles_append compiles closed b, fun compiles' => ?_⟩
  obtain ⟨front, derived, fits⟩ := compiles_iff.mp compiles
  obtain ⟨back, derived', fits'⟩ := compiles_iff.mp compiles'
  have whole : Derives (front ++ back) (a ++ b).toList [] := by
    rw [String.toList_append]
    exact (derives_front derived closed b.toList).append derived'
  have room : depth (front ++ back) ≤ maxNesting := by
    rw [depth_append]
    omega
  rw [outcome_of_derives whole room, outcome_of_derives derived fits,
    outcome_of_derives derived' fits', nodeAll_append, Node.renderAll_append,
    renderAll_placeless _ _ _ 0 back]

theorem outcome_escape_percent :
    Compiles "%%" ∧ ¬ EndsInPercent "%%" ∧ Compiles "%" ∧ outcome 16 "%%%" .empty = .ok "%%" := by
  have escape : Derives [.escape] "%%".toList [] := .escape .nil
  have percent : Derives [.percent] "%".toList [] := .percent (by simp) .nil
  have compiles : Compiles "%%" := ⟨_, parse_of_derives escape (by decide)⟩
  have closed : ¬ EndsInPercent "%%" := by
    intro last
    have last' : PercentLast .text 0 ['%', '%'] := last
    exact percentLast_nil (percentLast_rest (List.cons_ne_nil _ _) rfl (by simp) last')
  have compiles' : Compiles "%" := ⟨_, parse_of_derives percent (by decide)⟩
  refine ⟨compiles, closed, compiles', ?_⟩
  have joined := (outcome_append compiles closed "%" 16 .empty).2 compiles'
  rw [outcome_of_derives escape (by decide), outcome_of_derives percent (by decide)] at joined
  exact joined

/-! ### Branches -/

def Grammar.Heading.condition (h : Heading) (yes : String) (no : Option String) : String :=
  let branches := match no with
    | none => yes.toList
    | some no => yes.toList ++ '%' :: '|' :: '%' :: no.toList
  String.ofList (h.spell ++ '%' :: '|' :: '%' :: (branches ++ ['%', ']', '%']))

theorem derives_guard (h : Heading) {a : String} {yes : List Item}
    (derived : Derives yes a.toList []) (closed : ¬ EndsInPercent a) :
    Derives [.guard h yes] (h.condition a none).toList [] := by
  rw [Heading.condition, String.toList_ofList]
  exact .guard (derives_front derived closed _) .nil

theorem derives_choice (h : Heading) {a b : String} {yes no : List Item}
    (derived : Derives yes a.toList []) (closed : ¬ EndsInPercent a)
    (derived' : Derives no b.toList []) (closed' : ¬ EndsInPercent b) :
    Derives [.choice h yes no] (h.condition a (some b)).toList [] := by
  rw [Heading.condition, String.toList_ofList]
  simp only [List.append_assoc, List.cons_append]
  exact .choice (derives_front derived closed _) (derives_front derived' closed' _) .nil

def Grammar.Heading.layout (h : Heading) (branch : String) : String :=
  if h.marks.isEmpty && Text.startsLine branch.toList then
    String.ofList (Text.dedent branch.toList)
  else branch

theorem layout_test (h : Heading) (start : Nat) : (h.test start).layout = h.layout := by
  funext branch
  have none : (!decide (h.marks ≠ [])) = h.marks.isEmpty := by
    rw [Bool.eq_iff_iff]
    simp
  simp only [Test.layout, Heading.layout, Heading.test, none]

theorem condition_bare (limit : Nat) (tables : Tables) (h : Heading) (start : Nat) :
    (bareHost limit tables).condition (h.test start) =
      match tables.condition? h.name.written with
      | none => .error (.unknownCondition h.name.key)
      | some holds => .ok (holds != h.negated) := by
  simp only [bareHost, Heading.test, Tables.condition?_key]
  cases tables.condition? h.name.written <;> rfl

theorem outcome_empty (limit : Nat) (bindings : Bindings) : outcome limit "" bindings = .ok "" := by
  have derived : Derives [] "".toList [] := .nil
  exact outcome_of_derives derived (Nat.zero_le _) limit bindings

/-- What a condition comes to, where `branch` gives what its branches come to. -/
def Grammar.Heading.meaning (h : Heading) (tables : Tables)
    (branch : Bool → Except Cause String) : Except Cause String :=
  match tables.condition? h.name.written with
  | none => .error (.unknownCondition h.name.key)
  | some holds => do
    let text ← branch (holds != h.negated)
    return h.layout text

theorem meaning_of_branches (h : Heading) (limit : Nat) (tables : Tables) (start : Nat)
    {branch : Bool → Except Cause String} {yes no : Except Cause String}
    (taken : yes = branch true >>= fun text => return h.layout text)
    (other : no = branch false >>= fun text => return h.layout text) :
    (do if ← (bareHost limit tables).condition (h.test start) then yes else no) =
      h.meaning tables branch := by
  rw [condition_bare, Heading.meaning, taken, other]
  cases tables.condition? h.name.written with
  | none => rfl
  | some holds =>
    dsimp only
    cases holds != h.negated <;> rfl

theorem outcome_branch (h : Heading) {a : String} {items : List Item}
    (derived : Derives items a.toList []) (room : depth items < maxNesting) (limit : Nat)
    (bindings : Bindings) (start start' : Nat) :
    (do
      let text ← Node.renderAll (bareHost limit bindings.resolve) (nodeAll start' items)
      return (h.test start).layout text) = (do
      let text ← outcome limit a bindings
      return h.layout text) := by
  rw [outcome_of_derives derived (Nat.le_of_lt room), layout_test, renderAll_placeless _ _ _ 0]

theorem outcome_guard (h : Heading) {a : String} {yes : List Item}
    (derived : Derives yes a.toList []) (closed : ¬ EndsInPercent a)
    (room : depth yes < maxNesting) (limit : Nat) (bindings : Bindings) :
    outcome limit (h.condition a none) bindings =
      h.meaning bindings.resolve fun taken => outcome limit (if taken then a else "") bindings := by
  have fits : depth [.guard h yes] ≤ maxNesting := by
    rw [depth_guard]
    omega
  rw [outcome_of_derives (derives_guard h derived closed) fits]
  simp only [nodeAll, Node.renderAll_singleton, node, Node.render, Node.renderAll_merge]
  refine meaning_of_branches h limit _ 0 (outcome_branch h derived room limit bindings 0 _) ?_
  rw [if_neg Bool.false_ne_true, outcome_empty]
  simp [Heading.layout, Text.startsLine, bind, Except.bind]

theorem outcome_choice (h : Heading) {a b : String} {yes no : List Item}
    (derived : Derives yes a.toList []) (closed : ¬ EndsInPercent a)
    (derived' : Derives no b.toList []) (closed' : ¬ EndsInPercent b)
    (room : depth yes < maxNesting) (room' : depth no < maxNesting) (limit : Nat)
    (bindings : Bindings) :
    outcome limit (h.condition a (some b)) bindings =
      h.meaning bindings.resolve fun taken => outcome limit (if taken then a else b) bindings := by
  have fits : depth [.choice h yes no] ≤ maxNesting := by
    rw [depth_choice]
    omega
  rw [outcome_of_derives (derives_choice h derived closed derived' closed') fits]
  simp only [nodeAll, Node.renderAll_singleton, node, Node.render, Node.renderAll_merge]
  exact meaning_of_branches h limit _ 0 (outcome_branch h derived room limit bindings 0 _)
    (outcome_branch h derived' room' limit bindings 0 _)

/-- A condition compiles unless a branch is nested as deep as may be, and comes to what the branch
comes to that is taken. -/
theorem outcome_condition (h : Heading) {yes : String} {no : Option String}
    (compiles : Compiles yes) (closed : ¬ EndsInPercent yes) (compiles' : ∀ s ∈ no, Compiles s)
    (closed' : ∀ s ∈ no, ¬ EndsInPercent s) (limit : Nat) (bindings : Bindings) :
    (Compiles (h.condition yes no) ↔ Shallow yes ∧ ∀ s ∈ no, Shallow s) ∧
      (Compiles (h.condition yes no) → outcome limit (h.condition yes no) bindings =
        h.meaning bindings.resolve fun taken =>
          outcome limit (if taken then yes else no.getD "") bindings) := by
  obtain ⟨first, derived, fits⟩ := compiles_iff.mp compiles
  cases no with
  | none =>
    rw [compiles_of_derives (derives_guard h derived closed), depth_guard,
      shallow_of_derives derived fits]
    refine ⟨⟨fun room => ⟨room, ?_⟩, fun shallow => shallow.1⟩, fun room => ?_⟩
    · rintro s ⟨⟩
    · exact outcome_guard h derived closed room limit bindings
  | some b =>
    obtain ⟨second, derived', fits'⟩ := compiles_iff.mp (compiles' b rfl)
    have closed'' := closed' b rfl
    rw [compiles_of_derives (derives_choice h derived closed derived' closed''), depth_choice,
      shallow_of_derives derived fits]
    refine ⟨?_, fun room => ?_⟩
    · simp only [Option.mem_some_iff, forall_eq', shallow_of_derives derived' fits']
      omega
    · exact outcome_choice h derived closed derived' closed'' (by omega) (by omega) limit bindings

theorem outcome_unless :
    let h : Heading := ⟨[' '], true, @Word.ofRun ['P'] rfl, [], [], List.all_eq_true.mp rfl,
      List.forall_mem_nil _, List.forall_mem_nil _⟩
    outcome 16 (h.condition "\n a" (some "b")) (Bindings.empty.insert "p" (.flag false)) =
      .ok "a" := by
  intro h
  have yes : Derives [.char '\n', .char ' ', .char 'a'] "\n a".toList [] :=
    @derives_text ['\n', ' ', 'a'] (by decide)
  have no : Derives [.char 'b'] "b".toList [] := @derives_text ['b'] (by decide)
  have compiles : Compiles "\n a" := ⟨_, parse_of_derives yes (by decide)⟩
  have compiles' : Compiles "b" := ⟨_, parse_of_derives no (by decide)⟩
  have shallow : Shallow "\n a" := (shallow_of_derives yes (by decide)).mpr (by decide)
  have shallow' : Shallow "b" := (shallow_of_derives no (by decide)).mpr (by decide)
  have closed : ∀ s ∈ some "b", ¬ EndsInPercent s := by
    rintro s ⟨⟩
    exact closed_text (by decide)
  have meaning := outcome_condition h compiles (closed_text (by decide))
    (by simpa using compiles') closed 16 (Bindings.empty.insert "p" (.flag false))
  have compiled := meaning.1.mpr ⟨shallow, by simpa using shallow'⟩
  have key : foldName "p" = h.name.key := h.name.foldName_key
  have found : (Bindings.empty.insert "p" (.flag false)).resolve.condition? h.name.written =
      some false := by
    simp [h.name.foldName_written, key]
  rw [meaning.2 compiled, Heading.meaning, found]
  change (do
    let text ← outcome 16 "\n a" _
    return h.layout text) = _
  rw [outcome_of_derives yes (by decide)]
  rfl

end TextTemplate
