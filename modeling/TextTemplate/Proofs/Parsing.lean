import TextTemplate.Proofs.Headings
import TextTemplate.Template

/-!
# Parsing

The templates that are read without a fault are those that the grammar derives and whose conditions
are not nested too deep. What is read is the tree of the derivation.
-/

namespace TextTemplate

namespace Reader
open Grammar Item

/-! ### Readers that take nodes -/

def pushAll (r : Reader) (nodes : List Node) : Reader :=
  nodes.foldl push r

@[simp] theorem pushAll_cons (r : Reader) (node : Node) (nodes : List Node) :
    r.pushAll (node :: nodes) = (r.push node).pushAll nodes := rfl

@[simp] theorem pushAll_stage (r : Reader) (nodes : List Node) :
    (r.pushAll nodes).stage = r.stage := by
  induction nodes generalizing r with
  | nil => rfl
  | cons node nodes ih => rw [pushAll_cons, ih, push_stage]

@[simp] theorem push_blocks_length (r : Reader) (node : Node) :
    (r.push node).blocks.length = r.blocks.length := by
  obtain ⟨before, blocks, stage⟩ := r
  cases blocks <;> rfl

theorem pushAll_top (before nodes : List Node) (stage : Stage) :
    pushAll ⟨before, [], stage⟩ nodes = ⟨nodes.reverse ++ before, [], stage⟩ := by
  induction nodes generalizing before with
  | nil => rfl
  | cons node nodes ih => simp [push, ih]

theorem pushAll_yes (before nodes yes : List Node) (blocks : List Block) (stage : Stage)
    (test : Test) (header : Span) :
    pushAll ⟨before, ⟨test, header, yes, none⟩ :: blocks, stage⟩ nodes =
      ⟨before, ⟨test, header, nodes.reverse ++ yes, none⟩ :: blocks, stage⟩ := by
  induction nodes generalizing yes with
  | nil => rfl
  | cons node nodes ih => simp [push, Block.push, ih]

theorem pushAll_no (before nodes yes no : List Node) (blocks : List Block) (stage : Stage)
    (test : Test) (header : Span) :
    pushAll ⟨before, ⟨test, header, yes, some no⟩ :: blocks, stage⟩ nodes =
      ⟨before, ⟨test, header, yes, some (nodes.reverse ++ no)⟩ :: blocks, stage⟩ := by
  induction nodes generalizing no with
  | nil => rfl
  | cons node nodes ih => simp [push, Block.push, ih]

def openBlock (r : Reader) (test : Test) (header : Span) : Reader :=
  { r with blocks := ⟨test, header, [], none⟩ :: r.blocks }

def splitBlock (r : Reader) (test : Test) (header : Span) (yes : List Node) : Reader :=
  { r with blocks := ⟨test, header, yes.reverse, some []⟩ :: r.blocks }

namespace State

variable {r : Reader} {start : Nat} {cs : List Char}

/-! ### Steps in text -/

theorem step_escape (text : r.stage = .text) (start : Nat) (cs : List Char) :
    Step ⟨r, .text, start, '%' :: '%' :: cs⟩ ⟨r.push (.text "%"), .text, start + 2, cs⟩ :=
  .of_piece (List.cons_ne_nil _ _) rfl (by simp [step, text, stepText]) rfl

theorem read_percent (h : ∀ c ∈ cs.head?, c ∉ ['%', '[', '|', ']']) (start : Nat) :
    Lexer.read .text start ('%' :: cs) = .ok ⟨.percent, ['%'], cs, .text⟩ := by
  change Lexer.readText start ('%' :: cs) = _
  unfold Lexer.readText
  split <;> simp_all

theorem step_percent (text : r.stage = .text) (h : ∀ c ∈ cs.head?, c ∉ ['%', '[', '|', ']'])
    (start : Nat) :
    Step ⟨r, .text, start, '%' :: cs⟩ ⟨r.push (.text "%"), .text, start + 1, cs⟩ :=
  .of_piece (List.cons_ne_nil _ _) (read_percent h start) (by simp [step, text, stepText]) rfl

theorem step_probe {stage : HeaderStage} {test : Test} (text : r.stage = .text)
    (done : stage.done? = some test) (opening : Span) (start : Nat) (cs : List Char) :
    Step ⟨r.enter (.header opening stage), .header opening, start, '%' :: ']' :: '%' :: cs⟩
      ⟨r.push (.probe test), .text, start + 3, cs⟩ := by
  refine .of_piece (List.cons_ne_nil _ _) rfl ?_ rfl
  have back : r.enter .text = r := by rw [← text]
  cases stage <;> cases done <;> simp [step, stepHeader, endHeader, back]

theorem step_open {stage : HeaderStage} {test : Test} (text : r.stage = .text)
    (done : stage.done? = some test) (room : r.blocks.length < maxNesting) (opening : Span)
    (start : Nat) (cs : List Char) :
    Step ⟨r.enter (.header opening stage), .header opening, start, '%' :: '|' :: '%' :: cs⟩
      ⟨r.openBlock test (opening.cover (.ofText start ['%', '|', '%'])), .text, start + 3, cs⟩ := by
  refine .of_piece (List.cons_ne_nil _ _) rfl ?_ rfl
  cases stage <;> cases done <;>
    simp [step, stepHeader, endHeader, room, openBlock, text, Lexeme.span]

theorem step_separate (text : r.stage = .text) (test : Test) (header : Span) (yes : List Node)
    (start : Nat) (cs : List Char) :
    Step ⟨(r.openBlock test header).pushAll yes, .text, start, '%' :: '|' :: '%' :: cs⟩
      ⟨r.splitBlock test header yes, .text, start + 3, cs⟩ := by
  refine .of_piece (List.cons_ne_nil _ _) rfl ?_ rfl
  rw [openBlock, pushAll_yes]
  simp [step, text, stepText, separate, splitBlock]

theorem step_closeGuard (text : r.stage = .text) (test : Test) (header : Span) (yes : List Node)
    (start : Nat) (cs : List Char) :
    Step ⟨(r.openBlock test header).pushAll yes, .text, start, '%' :: ']' :: '%' :: cs⟩
      ⟨r.push (.guard test (Node.merge yes)), .text, start + 3, cs⟩ := by
  obtain ⟨before, blocks, stage⟩ := r
  obtain rfl : stage = .text := text
  refine .of_piece (List.cons_ne_nil _ _) rfl ?_ rfl
  rw [openBlock, pushAll_yes]
  simp [step, stepText, close, Block.close]

theorem step_closeChoice (text : r.stage = .text) (test : Test) (header : Span)
    (yes no : List Node) (start : Nat) (cs : List Char) :
    Step ⟨(r.splitBlock test header yes).pushAll no, .text, start, '%' :: ']' :: '%' :: cs⟩
      ⟨r.push (.choice test (Node.merge yes) (Node.merge no)), .text, start + 3, cs⟩ := by
  obtain ⟨before, blocks, stage⟩ := r
  obtain rfl : stage = .text := text
  refine .of_piece (List.cons_ne_nil _ _) rfl ?_ rfl
  rw [splitBlock, pushAll_no]
  simp [step, stepText, close, Block.close]

/-! ### What is derived is read -/

theorem run_header {h : Heading} (text : r.stage = .text) (start : Nat) (rest : List Char) :
    ∃ stage, stage.done? = some (h.test start) ∧
      run ⟨r, .text, start, h.spell ++ '%' :: rest⟩ =
        run ⟨r.enter (.header (.ofText start ['%', '[', '%']) stage),
          .header (.ofText start ['%', '[', '%']), start + byteLength h.spell, '%' :: rest⟩ := by
  obtain ⟨stage, done, reached⟩ := reaches_header start rest text h
  exact ⟨stage, done, run_reaches reached⟩

theorem run_probe (text : r.stage = .text) (h : Heading) (start : Nat) (rest : List Char) :
    run ⟨r, .text, start, h.spell ++ '%' :: ']' :: '%' :: rest⟩ =
      run ⟨r.push (node start (.probe h)), .text, start + byteLength (spell (.probe h)), rest⟩ := by
  obtain ⟨stage, done, read⟩ := run_header (h := h) text start (']' :: '%' :: rest)
  rw [read, run_step (step_probe text done _ _ _), node, spell, byteLength_append, ← Nat.add_assoc]
  rfl

theorem run_open (text : r.stage = .text) (room : r.blocks.length < maxNesting) (h : Heading)
    (start : Nat) (rest : List Char) :
    run ⟨r, .text, start, h.spell ++ '%' :: '|' :: '%' :: rest⟩ =
      run ⟨r.openBlock (h.test start) (h.span start), .text, start + byteLength h.spell + 3,
        rest⟩ := by
  obtain ⟨stage, done, read⟩ := run_header (h := h) text start ('|' :: '%' :: rest)
  rw [read, run_step (step_open text done room _ _ _), Heading.span]

/-- From byte `start` up to `rest`, the source is read as what the items stand for. -/
def Reads (r : Reader) (start : Nat) (items : List Item) (cs rest : List Char) : Prop :=
  run ⟨r, .text, start, cs⟩ =
    run ⟨r.pushAll (nodeAll start items), .text, start + byteLength (spellAll items), rest⟩

theorem run_guard (text : r.stage = .text) (room : r.blocks.length < maxNesting) (h : Heading)
    {yes : List Item} {body rest : List Char}
    (inner : Reads (r.openBlock (h.test start) (h.span start))
      (start + byteLength h.spell + 3) yes body ('%' :: ']' :: '%' :: rest)) :
    run ⟨r, .text, start, h.spell ++ '%' :: '|' :: '%' :: body⟩ =
      run ⟨r.push (node start (.guard h yes)), .text, start + byteLength (spell (.guard h yes)),
        rest⟩ := by
  have length : start + byteLength (spell (.guard h yes)) =
      start + byteLength h.spell + 3 + byteLength (spellAll yes) + 3 := by
    rw [byteLength_guard]
    omega
  rw [run_open text room, inner, run_step (step_closeGuard text _ _ _ _ _), length, node]

theorem run_choice (text : r.stage = .text) (room : r.blocks.length < maxNesting) (h : Heading)
    {yes no : List Item} {body body' rest : List Char}
    (inner : Reads (r.openBlock (h.test start) (h.span start))
      (start + byteLength h.spell + 3) yes body ('%' :: '|' :: '%' :: body'))
    (inner' : Reads
      (r.splitBlock (h.test start) (h.span start)
        (nodeAll (start + byteLength h.spell + 3) yes))
      (start + byteLength h.spell + 3 + byteLength (spellAll yes) + 3) no body'
      ('%' :: ']' :: '%' :: rest)) :
    run ⟨r, .text, start, h.spell ++ '%' :: '|' :: '%' :: body⟩ =
      run ⟨r.push (node start (.choice h yes no)), .text,
        start + byteLength (spell (.choice h yes no)), rest⟩ := by
  have length : start + byteLength (spell (.choice h yes no)) =
      start + byteLength h.spell + 3 + byteLength (spellAll yes) + 3 + byteLength (spellAll no) +
        3 := by
    rw [byteLength_choice]
    omega
  rw [run_open text room, inner, run_step (step_separate text _ _ _ _ _), inner',
    run_step (step_closeChoice text _ _ _ _ _ _), length, node]

/-- Items are read as what they stand for, where there is room for them. -/
theorem run_derives {items : List Item} {cs rest : List Char} (h : Derives items cs rest)
    {r : Reader} (text : r.stage = .text) (start : Nat)
    (room : r.blocks.length + Node.nestingAll (nodeAll start items) ≤ maxNesting) :
    Reads r start items cs rest := by
  have next : ∀ {item : Item} {items : List Item} {cs rest input : List Char} {r : Reader}
      {start : Nat}, r.stage = .text →
      r.blocks.length + Node.nestingAll (nodeAll start (item :: items)) ≤ maxNesting →
      (∀ {r : Reader}, r.stage = .text → ∀ start,
        r.blocks.length + Node.nestingAll (nodeAll start items) ≤ maxNesting →
          Reads r start items cs rest) →
      run ⟨r, .text, start, input⟩ =
        run ⟨r.push (node start item), .text, start + byteLength (spell item), cs⟩ →
      Reads r start (item :: items) input rest := by
    intro item items cs rest input r start text room tail first
    simp only [nodeAll, Node.nestingAll] at room
    rw [Reads, first, tail (by simp [text]) _ (by rw [push_blocks_length]; omega)]
    simp [nodeAll, spellAll, Nat.add_assoc]
  -- Over all readers with room, since branches are read inside the block that their header opens.
  induction h generalizing r start with
  | nil => rfl
  | char hc tail ih => exact next text room ih (run_char text hc start _)
  | escape tail ih => exact next text room ih (run_step (step_escape text start _))
  | percent hc tail ih => exact next text room ih (run_step (step_percent text hc start))
  | value tail ih => exact next text room ih (run_reaches (reaches_value text _ start _))
  | probe tail ih => exact next text room ih (run_probe text _ start _)
  | guard inner tail ihYes ih =>
    refine next text room ih ?_
    simp only [nodeAll, node, Node.nestingAll, Node.nesting, Node.nestingAll_merge] at room
    refine run_guard text (by omega) _ (ihYes (r := r.openBlock _ _) text _ ?_)
    simp only [openBlock, List.length_cons]
    omega
  | choice inner inner' tail ihYes ihNo ih =>
    refine next text room ih ?_
    simp only [nodeAll, node, Node.nestingAll, Node.nesting, Node.nestingAll_merge] at room
    refine run_choice text (by omega) _ (ihYes (r := r.openBlock _ _) text _ ?_)
      (ihNo (r := r.splitBlock _ _ _) text _ ?_)
    · simp only [openBlock, List.length_cons]
      omega
    · simp only [splitBlock, List.length_cons]
      omega

/-! ### What is read is derived -/

inductive TextPiece (start : Nat) : List Char → Lexer.Piece → Prop where
  | char {c : Char} (hc : c ≠ '%') (cs : List Char) (piece : Lexer.Piece) :
      TextPiece start (c :: cs) piece
  | escape (cs : List Char) :
      TextPiece start ('%' :: '%' :: cs) ⟨.escapedPercent, ['%', '%'], cs, .text⟩
  | percent {cs : List Char} (h : ∀ c ∈ cs.head?, c ∉ ['%', '[', '|', ']']) :
      TextPiece start ('%' :: cs) ⟨.percent, ['%'], cs, .text⟩
  | openValue (cs : List Char) :
      TextPiece start ('%' :: '[' :: cs)
        ⟨.openValue, ['%', '['], cs, .value (.ofText start ['%', '['])⟩
  | openCondition (cs : List Char) :
      TextPiece start ('%' :: '[' :: '%' :: cs)
        ⟨.openCondition, ['%', '[', '%'], cs, .header (.ofText start ['%', '[', '%'])⟩
  | separator (cs : List Char) :
      TextPiece start ('%' :: '|' :: '%' :: cs) ⟨.separator, ['%', '|', '%'], cs, .text⟩
  | close (cs : List Char) :
      TextPiece start ('%' :: ']' :: '%' :: cs) ⟨.closeCondition, ['%', ']', '%'], cs, .text⟩

theorem readText_ok {piece : Lexer.Piece} (nonempty : cs ≠ [])
    (h : Lexer.read .text start cs = .ok piece) : TextPiece start cs piece := by
  change Lexer.readText start cs = _ at h
  unfold Lexer.readText at h
  split at h
  · cases h
    exact .escape _
  · cases h
    exact .openCondition _
  · cases h
    exact .openValue _
  · cases h
    exact .separator _
  · cases h
  · cases h
    exact .close _
  · cases h
  · cases h
    rename_i rest escape _ value _ separator _ close
    refine .percent ?_
    intro c first member
    obtain ⟨cs, rfl⟩ := List.head?_eq_some_iff.mp first
    simp only [List.mem_cons, List.not_mem_nil, or_false] at member
    rcases member with rfl | rfl | rfl | rfl
    · exact escape cs rfl
    · exact value cs rfl
    · exact separator cs rfl
    · exact close cs rfl
  · rename_i other
    obtain ⟨c, cs, rfl⟩ := List.exists_cons_of_ne_nil nonempty
    exact .char (fun first => other cs (by rw [first])) cs piece

inductive Mark : List Char → Prop where
  | separator (cs : List Char) : Mark ('%' :: '|' :: '%' :: cs)
  | close (cs : List Char) : Mark ('%' :: ']' :: '%' :: cs)

/-- The source begins with items, up to its end or to a mark. -/
def Understood (r : Reader) (start : Nat) (cs : List Char) : Prop :=
  ∃ items rest, Derives items cs rest ∧
    r.blocks.length + Node.nestingAll (nodeAll start items) ≤ maxNesting ∧ (rest = [] ∨ Mark rest)

def UnderstoodBelow (n : Nat) : Prop :=
  ∀ {r : Reader} {start : Nat} {cs : List Char} {nodes : List Node},
    run ⟨r, .text, start, cs⟩ = .ok nodes → cs.length < n → r.stage = .text →
    r.blocks.length ≤ maxNesting → Understood r start cs

theorem understood_stop (depth : r.blocks.length ≤ maxNesting) (stop : cs = [] ∨ Mark cs) :
    Understood r start cs :=
  ⟨[], cs, .nil, by simpa [nodeAll, Node.nestingAll] using depth, stop⟩

theorem understood_cons {item : Item} {input : List Char}
    (first : ∀ {items rest}, Derives items cs rest → Derives (item :: items) input rest)
    (fits : r.blocks.length + Node.nesting (node start item) ≤ maxNesting)
    (tail : Understood (r.push (node start item)) (start + byteLength (spell item)) cs) :
    Understood r start input := by
  obtain ⟨items, rest, derived, room, stop⟩ := tail
  refine ⟨item :: items, rest, first derived, ?_, stop⟩
  rw [push_blocks_length] at room
  simp only [nodeAll, Node.nestingAll]
  omega

/-- The source cannot end in a branch. -/
theorem branch_ok {n : Nat} {nodes : List Node} (below : UnderstoodBelow n)
    (h : run ⟨r, .text, start, cs⟩ = .ok nodes) (short : cs.length < n)
    (text : r.stage = .text) (depth : r.blocks.length ≤ maxNesting)
    (inside : ∀ items, (r.pushAll items).blocks ≠ []) :
    ∃ items rest, Derives items cs rest ∧
      r.blocks.length + Node.nestingAll (nodeAll start items) ≤ maxNesting ∧ Mark rest ∧
      run ⟨r.pushAll (nodeAll start items), .text, start + byteLength (spellAll items), rest⟩ =
        .ok nodes := by
  obtain ⟨items, rest, derived, room, stop⟩ := below h short text depth
  rw [run_derives derived text start room] at h
  rcases stop with rfl | mark
  · have last := List.getLast?_eq_some_getLast (inside (nodeAll start items))
    simp [finish, text, last] at h
  · exact ⟨items, rest, derived, room, mark, h⟩

theorem run_full {hd : Heading} (text : r.stage = .text) (full : ¬ r.blocks.length < maxNesting)
    (start : Nat) (body : List Char) :
    run ⟨r, .text, start, hd.spell ++ '%' :: '|' :: '%' :: body⟩ =
      .error ⟨.nestedTooDeep maxNesting, hd.span start⟩ := by
  obtain ⟨stage, done, read⟩ := run_header (h := hd) text start ('|' :: '%' :: body)
  rw [read, run_of_read (List.cons_ne_nil _ _) rfl]
  cases stage <;> cases done <;>
    simp [step, stepHeader, endHeader, full, bind, Except.bind, Heading.span, Lexeme.span]

theorem run_third (text : r.stage = .text) (test : Test) (header : Span) (yes no : List Node)
    (start : Nat) (rest : List Char) :
    run ⟨(r.splitBlock test header yes).pushAll no, .text, start, '%' :: '|' :: '%' :: rest⟩ =
      .error ⟨.thirdBranch, .ofText start ['%', '|', '%']⟩ := by
  rw [run_of_read (List.cons_ne_nil _ _) rfl, splitBlock, pushAll_no]
  simp [step, text, stepText, separate, bind, Except.bind, Lexeme.span]

theorem condition_ok {nodes : List Node} {hd : Heading} {rest : List Char}
    (below : UnderstoodBelow (hd.spell ++ '%' :: rest).length) (text : r.stage = .text)
    (depth : r.blocks.length ≤ maxNesting) (ended : HeaderEnd rest)
    (h : run ⟨r, .text, start, hd.spell ++ '%' :: rest⟩ = .ok nodes) :
    Understood r start (hd.spell ++ '%' :: rest) := by
  cases ended with
  | close cs =>
    rw [run_probe text] at h
    refine understood_cons .probe ?_ (below h ?_ ?_ ?_)
    · simpa [node, Node.nesting] using depth
    · simp
      omega
    · simp [text]
    · simpa using depth
  | separator body =>
    by_cases room : r.blocks.length < maxNesting
    · have opened := h
      rw [run_open text room] at opened
      obtain ⟨yes, mid, inner, fits, mark, read⟩ := branch_ok below opened (by simp; omega) text
        room (fun _ => by simp [openBlock, pushAll_yes])
      have first := run_derives (r := r.openBlock _ _) inner text _ fits
      have length := congrArg List.length inner.spells
      simp only [openBlock, List.length_cons] at fits
      cases mark with
      | close cs =>
        rw [run_guard text room hd first] at h
        refine understood_cons (.guard inner) ?_ (below h ?_ ?_ ?_)
        · simp only [node, Node.nesting, Node.nestingAll_merge]
          omega
        · simp at length ⊢
          omega
        · simp [text]
        · simpa using depth
      | separator body' =>
        rw [run_step (step_separate text _ _ _ _ _)] at read
        obtain ⟨no, last, inner', fits', mark', read'⟩ := branch_ok below read
          (by simp at length ⊢; omega) text room (fun _ => by simp [splitBlock, pushAll_no])
        cases mark' with
        | separator cs =>
          rw [run_third text] at read'
          cases read'
        | close cs =>
          have second := run_derives (r := r.splitBlock _ _ _) inner' text _ fits'
          have length' := congrArg List.length inner'.spells
          simp only [splitBlock, List.length_cons] at fits'
          rw [run_choice text room hd first second] at h
          refine understood_cons (.choice inner inner') ?_ (below h ?_ ?_ ?_)
          · simp only [node, Node.nesting, Node.nestingAll_merge]
            omega
          · simp at length length' ⊢
            omega
          · simp [text]
          · simpa using depth
    · rw [run_full text room] at h
      cases h

theorem understood_of_below {nodes : List Node} (below : UnderstoodBelow cs.length)
    (text : r.stage = .text) (depth : r.blocks.length ≤ maxNesting)
    (h : run ⟨r, .text, start, cs⟩ = .ok nodes) : Understood r start cs := by
  -- The first piece tells which item comes first. Its own lemma says where the reader is after it.
  rcases run_ok h with ⟨rfl, _⟩ | ⟨nonempty, piece, r', piece_read, taken, tail⟩
  · exact understood_stop depth (Or.inl rfl)
  · cases readText_ok nonempty piece_read with
    | char hc cs =>
      rw [run_char text hc] at h
      exact understood_cons (.char hc) (by simpa [node, Node.nesting] using depth)
        (below h (by simp) (by simp [text]) (by simpa using depth))
    | escape cs =>
      rw [run_step (step_escape text _ _)] at h
      exact understood_cons .escape (by simpa [node, Node.nesting] using depth)
        (below h (by rw [List.length_cons, List.length_cons]; omega) (by simp [text])
          (by simpa using depth))
    | percent next =>
      rw [run_step (step_percent text next _)] at h
      exact understood_cons (.percent next) (by simpa [node, Node.nesting] using depth)
        (below h (by simp) (by simp [text]) (by simpa using depth))
    | openValue cs =>
      have entered : r' = r.enter (.value (.ofText start ['%', '[']) .opened) := by
        simpa [step, text, stepText, Lexeme.span] using taken.symm
      rw [entered] at tail
      obtain ⟨t, rest, same⟩ := openedValue_ok tail
      rw [same] at below h ⊢
      rw [run_reaches (reaches_value text t start rest)] at h
      refine understood_cons .value (by simpa [node, Node.nesting] using depth)
        (below h ?_ (by simp [text]) (by simpa using depth))
      simp [Tag.spell]
      omega
    | openCondition cs =>
      have entered : r' = r.enter (.header (.ofText start ['%', '[', '%']) .opened) := by
        simpa [step, text, stepText, Lexeme.span] using taken.symm
      rw [entered] at tail
      obtain ⟨hd, rest, ended, same⟩ := openedHeader_ok tail
      rw [same] at below h ⊢
      exact condition_ok below text depth ended h
    | separator cs => exact understood_stop depth (Or.inr (.separator cs))
    | close cs => exact understood_stop depth (Or.inr (.close cs))

/-- What is read without a fault begins with items. -/
theorem understood_of_ok (n : Nat) : UnderstoodBelow n := by
  induction n with
  | zero =>
    intro r start cs nodes h short
    omega
  | succ n ih =>
    intro r start cs nodes h short text depth
    refine understood_of_below ?_ text depth h
    intro r' start' cs' nodes' h' short' text' depth'
    exact ih h' (by omega) text' depth'

theorem run_outside {rest : List Char} (mark : Mark rest) (before : List Node) :
    ∃ fault, run ⟨⟨before, [], .text⟩, .text, start, rest⟩ = .error fault := by
  cases mark with
  | separator cs =>
    refine ⟨⟨.outsideCondition .separator, .ofText start ['%', '|', '%']⟩, ?_⟩
    rw [run_of_read (List.cons_ne_nil _ _) rfl]
    rfl
  | close cs =>
    refine ⟨⟨.outsideCondition .closeCondition, .ofText start ['%', ']', '%']⟩, ?_⟩
    rw [run_of_read (List.cons_ne_nil _ _) rfl]
    rfl

end State

/-! ### Whole sources -/

theorem read_of_derives {source : List Char} {items : List Item} (h : Derives items source [])
    (room : Node.nestingAll (nodeAll 0 items) ≤ maxNesting) :
    read source = .ok (Node.merge (nodeAll 0 items)) := by
  have derived := State.run_derives (r := {}) h rfl 0 (by simpa using room)
  rw [read_eq_run, derived, State.run_nil, pushAll_top]
  simp [finish]

theorem derives_of_read {source : List Char} {nodes : List Node} (h : read source = .ok nodes) :
    ∃ items, Derives items source [] ∧ Node.nestingAll (nodeAll 0 items) ≤ maxNesting := by
  rw [read_eq_run] at h
  obtain ⟨items, rest, derived, room, stop⟩ :=
    State.understood_of_ok _ h (Nat.lt_succ_self _) rfl (Nat.zero_le _)
  simp only [List.length_nil, Nat.zero_add] at room
  rw [State.run_derives derived rfl 0 (by simpa using room), pushAll_top] at h
  rcases stop with rfl | mark
  · exact ⟨items, derived, room⟩
  · obtain ⟨fault, failed⟩ := State.run_outside mark ((nodeAll 0 items).reverse ++ [])
    rw [failed] at h
    cases h

end Reader

namespace Template
open Grammar Item

theorem parse_ok_iff {source : String} {t : Template} :
    parse source = .ok t ↔
      ∃ nodes, Reader.read source.toList = .ok nodes ∧ t = ⟨source, nodes⟩ := by
  unfold parse
  cases Reader.read source.toList with
  | error fault => simp
  | ok nodes => simp [eq_comm]

/-- Exactly the templates of the grammar are read whose conditions are not nested too deep, and what
is read is the tree of the one derivation. -/
theorem parse_iff_derives (source : String) :
    (∀ items items', Derives items source.toList [] → Derives items' source.toList [] →
      items = items') ∧
    ∀ t, parse source = .ok t ↔
      ∃ items, Derives items source.toList [] ∧ t = ⟨source, Node.merge (nodeAll 0 items)⟩ ∧
        Node.nestingAll t.nodes ≤ maxNesting := by
  refine ⟨fun items items' h h' => (h.unique h' rfl rfl).1, fun t => ?_⟩
  rw [parse_ok_iff]
  constructor
  · rintro ⟨nodes, read, rfl⟩
    obtain ⟨items, derived, room⟩ := Reader.derives_of_read read
    have same := read.symm.trans (Reader.read_of_derives derived room)
    cases same
    exact ⟨items, derived, rfl, by simpa using room⟩
  · rintro ⟨items, derived, rfl, room⟩
    exact ⟨_, Reader.read_of_derives derived (by simpa using room), rfl⟩

theorem parse_upper_percent :
    parse (String.ofList ['%', '[', 'A', '!', 'u', ']', '%', '%']) =
      .ok ⟨String.ofList ['%', '[', 'A', '!', 'u', ']', '%', '%'],
        [.value ⟨⟨"a", ⟨2, 3⟩⟩, [.upper], ⟨0, 7⟩⟩, .text "%"]⟩ := by
  let t : Tag := ⟨⟨['A'], by simp, List.all_eq_true.mp (by decide)⟩, some ['u'], by simp⟩
  have derived : Derives [.value t, .percent] ['%', '[', 'A', '!', 'u', ']', '%', '%'] [] :=
    .value (.percent (by simp) .nil)
  refine ((parse_iff_derives _).2 _).mpr ⟨[.value t, .percent], ?_, ?_, by decide⟩
  · rwa [String.toList_ofList]
  · rfl

end Template

end TextTemplate
