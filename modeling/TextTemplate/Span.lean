/-!
# Spans

Places in a source are counted in bytes of its UTF-8 form.
-/

namespace TextTemplate

/-- The bytes from `start` up to but without `stop`. -/
structure Span where
  start : Nat
  stop : Nat
deriving DecidableEq, Repr

def byteLength : List Char → Nat
  | [] => 0
  | c :: cs => c.utf8Size + byteLength cs

@[simp] theorem byteLength_nil : byteLength [] = 0 := rfl

@[simp] theorem byteLength_cons (c : Char) (cs : List Char) :
    byteLength (c :: cs) = c.utf8Size + byteLength cs := rfl

@[simp] theorem byteLength_append (a b : List Char) :
    byteLength (a ++ b) = byteLength a + byteLength b := by
  induction a with
  | nil => simp
  | cons c a ih => simp [ih, Nat.add_assoc]

/-- A string has the bytes of its characters. -/
@[simp] theorem byteLength_toList (s : String) : byteLength s.toList = s.utf8ByteSize := by
  have split (cs : List Char) : byteLength cs = (String.ofList cs).utf8ByteSize := by
    induction cs with
    | nil => simp
    | cons c cs ih =>
      rw [byteLength_cons, ih, ← List.singleton_append, String.ofList_append,
        String.utf8ByteSize_append, ← String.singleton_eq_ofList, String.utf8ByteSize_singleton]
  rw [split, String.ofList_toList]

theorem byteLength_pos {cs : List Char} (h : cs ≠ []) : 0 < byteLength cs := by
  cases cs with
  | nil => exact absurd rfl h
  | cons c cs => simp only [byteLength_cons]; have := c.utf8Size_pos; omega

/-- The characters that end within the first `n` bytes. -/
def takeBytes : Nat → List Char → List Char
  | _, [] => []
  | n, c :: cs => if c.utf8Size ≤ n then c :: takeBytes (n - c.utf8Size) cs else []

def dropBytes : Nat → List Char → List Char
  | _, [] => []
  | n, c :: cs => if c.utf8Size ≤ n then dropBytes (n - c.utf8Size) cs else c :: cs

@[simp] theorem takeBytes_append_dropBytes (n : Nat) (cs : List Char) :
    takeBytes n cs ++ dropBytes n cs = cs := by
  induction cs generalizing n with
  | nil => rfl
  | cons c cs ih => by_cases h : c.utf8Size ≤ n <;> simp [takeBytes, dropBytes, h, ih]

@[simp] theorem takeBytes_append (a b : List Char) : takeBytes (byteLength a) (a ++ b) = a := by
  induction a with
  | nil =>
    cases b with
    | nil => rfl
    | cons c b => have := c.utf8Size_pos; simp [takeBytes]; omega
  | cons c a ih => simp [takeBytes, ih]

@[simp] theorem dropBytes_append (a b : List Char) : dropBytes (byteLength a) (a ++ b) = b := by
  have := takeBytes_append_dropBytes (byteLength a) (a ++ b)
  rw [takeBytes_append] at this
  exact List.append_cancel_left this

namespace Span

def ofText (start : Nat) (text : List Char) : Span :=
  ⟨start, start + byteLength text⟩

def cover (a b : Span) : Span :=
  ⟨min a.start b.start, max a.stop b.stop⟩

def text (s : Span) (source : List Char) : List Char :=
  takeBytes (s.stop - s.start) (dropBytes s.start source)

@[simp] theorem text_ofText (front text rest : List Char) :
    (ofText (byteLength front) text).text (front ++ (text ++ rest)) = text := by
  simp [ofText, Span.text]

/-- The text at a span that lies in the source and splits no character. -/
def slice? (s : Span) (source : List Char) : Option (List Char) :=
  let front := takeBytes s.start source
  let text := s.text source
  if byteLength front = s.start ∧ byteLength front + byteLength text = s.stop then some text
  else none

theorem slice?_eq_some {s : Span} {source text : List Char} :
    s.slice? source = some text ↔
      ∃ front rest, source = front ++ (text ++ rest) ∧ s = ofText (byteLength front) text := by
  constructor
  · intro cut
    simp only [slice?, Option.ite_none_right_eq_some, Option.some.injEq] at cut
    obtain ⟨⟨start, stop⟩, own⟩ := cut
    refine ⟨takeBytes s.start source, dropBytes (s.stop - s.start) (dropBytes s.start source),
      ?_, ?_⟩
    · rw [← own, Span.text, takeBytes_append_dropBytes, takeBytes_append_dropBytes]
    · rw [← own, ofText, stop, start]
  · rintro ⟨front, rest, rfl, rfl⟩
    simp [slice?, ofText, Span.text]

end Span

end TextTemplate
