import TextTemplate.Node
import TextTemplate.Token.Lexer

/-!
# From tokens to trees

A reader takes the pieces of a source one at a time. It keeps the conditions that are still open,
so that a mark always belongs to the innermost one, and how far it is inside a tag.
-/

namespace TextTemplate

/-- How many conditions with branches may be open at once. -/
def maxNesting : Nat := 64

def Ident.ofLexeme (l : Lexeme) : Ident :=
  ⟨String.ofList (l.text.map Char.toLower), l.span⟩

namespace Reader

/-- A condition whose branches are being read. Nodes are kept with the last first. -/
structure Block where
  test : Test
  /-- From the opening mark to the end of the header. -/
  header : Span
  yes : List Node
  no : Option (List Node)

namespace Block

def push (b : Block) (node : Node) : Block :=
  match b.no with
  | none => { b with yes := node :: b.yes }
  | some no => { b with no := some (node :: no) }

def close (b : Block) : Node :=
  match b.no with
  | none => .guard b.test (Node.merge b.yes.reverse)
  | some no => .choice b.test (Node.merge b.yes.reverse) (Node.merge no.reverse)

end Block

inductive ValueStage where
  | opened
  | named (ident : Ident)
  /-- After the `!`. -/
  | marked (ident : Ident)
  | converted (ident : Ident) (conversions : List Conversion)

inductive HeaderStage where
  | opened
  /-- After the first blank. -/
  | spaced
  /-- After the first `!`. -/
  | negated
  | named (test : Test)
  /-- After the `!` behind the name. -/
  | marked (test : Test)
  | converted (test : Test)
  /-- After the last blank. -/
  | finished (test : Test)

inductive Stage where
  | text
  | value (opening : Span) (stage : ValueStage)
  | header (opening : Span) (stage : HeaderStage)

end Reader

open Reader in
/-- What has been read of a source. Nodes are kept with the last first, and open conditions with
the innermost first. -/
structure Reader where
  nodes : List Node := []
  blocks : List Block := []
  stage : Stage := .text

namespace Reader

def push (r : Reader) (node : Node) : Reader :=
  match r.blocks with
  | [] => { r with nodes := node :: r.nodes }
  | b :: blocks => { r with blocks := b.push node :: blocks }

def unexpected (expected : Expectation) (l : Lexeme) : Except Fault Reader :=
  .error ⟨.unexpectedToken expected l.token, l.span⟩

/-! ### Text -/

def separate (r : Reader) (l : Lexeme) : Except Fault Reader :=
  match r.blocks with
  | [] => .error ⟨.outsideCondition l.token, l.span⟩
  | b :: blocks =>
    if b.no.isSome then .error ⟨.thirdBranch, l.span⟩
    else .ok { r with blocks := { b with no := some [] } :: blocks }

def close (r : Reader) (l : Lexeme) : Except Fault Reader :=
  match r.blocks with
  | [] => .error ⟨.outsideCondition l.token, l.span⟩
  | b :: blocks => .ok (push { r with blocks } b.close)

def stepText (r : Reader) (l : Lexeme) : Except Fault Reader :=
  match l.token with
  | .text => .ok (r.push (.text (String.ofList l.text)))
  | .escapedPercent | .percent => .ok (r.push (.text "%"))
  | .openValue => .ok { r with stage := .value l.span .opened }
  | .openCondition => .ok { r with stage := .header l.span .opened }
  | .separator => r.separate l
  | .closeCondition => r.close l
  | .closeValue | .bang | .word | .blank => .error ⟨.strayToken l.token, l.span⟩

/-! ### Value tags -/

def readConversions (start : Nat) : List Char → Except Fault (List Conversion)
  | [] => .ok []
  | c :: cs => do
    let some conversion := Conversion.ofCode? c
      | .error ⟨.unknownConversion c, .ofText start [c]⟩
    return conversion :: (← readConversions (start + c.utf8Size) cs)

def closeValue (r : Reader) (opening : Span) (ident : Ident) (conversions : List Conversion)
    (l : Lexeme) : Reader :=
  push { r with stage := .text } (.value ⟨ident, conversions, opening.cover l.span⟩)

def stepValue (r : Reader) (opening : Span) (stage : ValueStage) (l : Lexeme) :
    Except Fault Reader :=
  match stage, l.token with
  | .opened, .word => .ok { r with stage := .value opening (.named (.ofLexeme l)) }
  | .opened, _ => unexpected .identifier l
  | .named ident, .bang => .ok { r with stage := .value opening (.marked ident) }
  | .marked ident, .word => do
    let conversions ← readConversions l.start l.text
    return { r with stage := .value opening (.converted ident conversions) }
  | .named ident, .closeValue | .marked ident, .closeValue => .ok (r.closeValue opening ident [] l)
  | .converted ident conversions, .closeValue => .ok (r.closeValue opening ident conversions l)
  | .marked _, _ => unexpected .conversion l
  | .named _, _ | .converted _ _, _ => unexpected .closeValue l

/-! ### Headers of conditions -/

def readRawMarks (start : Nat) : List Char → Except Fault Unit
  | [] => .ok ()
  | c :: cs =>
    if c.toLower = 'r' then readRawMarks (start + c.utf8Size) cs
    else .error ⟨.unknownConversion c, .ofText start [c]⟩

def endHeader (r : Reader) (opening : Span) (test : Test) (l : Lexeme) : Except Fault Reader :=
  let header := opening.cover l.span
  match l.token with
  | .separator =>
    if r.blocks.length < maxNesting then
      .ok { r with stage := .text, blocks := ⟨test, header, [], none⟩ :: r.blocks }
    else .error ⟨.nestedTooDeep maxNesting, header⟩
  | .closeCondition => .ok (push { r with stage := .text } (.probe test))
  | _ => unexpected .endOfHeader l

def stepHeader (r : Reader) (opening : Span) (stage : HeaderStage) (l : Lexeme) :
    Except Fault Reader :=
  let goTo (stage : HeaderStage) : Reader := { r with stage := .header opening stage }
  match stage, l.token with
  | .opened, .blank => .ok (goTo .spaced)
  | .opened, .bang | .spaced, .bang => .ok (goTo .negated)
  | .opened, .word | .spaced, .word => .ok (goTo (.named { ident := .ofLexeme l }))
  | .negated, .word => .ok (goTo (.named { ident := .ofLexeme l, negated := true }))
  | .opened, _ | .spaced, _ | .negated, _ => unexpected .identifier l
  | .named test, .bang => .ok (goTo (.marked test))
  | .marked test, .word => do
    readRawMarks l.start l.text
    return goTo (.converted { test with raw := true })
  | .marked _, _ => unexpected .rawMark l
  | .named test, .blank | .converted test, .blank => .ok (goTo (.finished test))
  | .named test, _ | .converted test, _ | .finished test, _ => r.endHeader opening test l

/-! ### Whole sources -/

def step (r : Reader) (l : Lexeme) : Except Fault Reader :=
  match r.stage with
  | .text => r.stepText l
  | .value opening stage => r.stepValue opening stage l
  | .header opening stage => r.stepHeader opening stage l

/-- The tree, once the source has ended. No tag and no condition may be left open; of several open
conditions the outermost is reported. -/
def finish (r : Reader) : Except Fault (List Node) :=
  match r.stage with
  | .value opening _ => .error ⟨.unclosedValue, opening⟩
  | .header opening _ => .error ⟨.unclosedHeader, opening⟩
  | .text =>
    match r.blocks.getLast? with
    | some b => .error ⟨.unclosedCondition, b.header⟩
    | none => .ok (Node.merge r.nodes.reverse)

/-- The tree of a source. Where the pieces end at a fault, those before it are taken first. -/
def read (source : List Char) : Except Fault (List Node) := do
  let (lexemes, fault) := Lexer.scan .text 0 source
  let r ← lexemes.foldlM step {}
  match fault with
  | some fault => throw fault
  | none => r.finish

end Reader

end TextTemplate
