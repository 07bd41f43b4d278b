import TextTemplate.Span

/-!
# JSON strings

The text between the quotes of a JSON string literal. Quotes, backslashes and control characters
are escaped, and every other character stands for itself.
-/

namespace TextTemplate.Text.JsonString

/-- One character inside a JSON string literal. Control characters without a letter of their own
take four lowercase hexadecimal digits. -/
def encodeChar (c : Char) : List Char :=
  match c with
  | '"' => ['\\', '"']
  | '\\' => ['\\', '\\']
  | '\x08' => ['\\', 'b']
  | '\x0c' => ['\\', 'f']
  | '\n' => ['\\', 'n']
  | '\x0d' => ['\\', 'r']
  | '\t' => ['\\', 't']
  | c =>
    if c.toNat < 0x20 then
      ['\\', 'u', '0', '0', Nat.digitChar (c.toNat / 16), Nat.digitChar (c.toNat % 16)]
    else [c]

def encode (text : List Char) : List Char :=
  text.flatMap encodeChar

@[simp] theorem encode_nil : encode [] = [] := rfl

@[simp] theorem encode_append (a b : List Char) : encode (a ++ b) = encode a ++ encode b :=
  List.flatMap_append

/-! ### Literals -/

def quote (text : List Char) : List Char :=
  '"' :: encode text ++ ['"']

/-- A text without its first and its last byte, if these are characters. Nothing is left of less
than two bytes. -/
def strip? (text : List Char) : Option (List Char) :=
  let size := byteLength text
  if 2 ≤ size then Span.slice? ⟨1, size - 1⟩ text else some []

theorem byteLength_quote (text : List Char) :
    byteLength (quote text) = 1 + (byteLength (encode text) + 1) := by
  rw [quote, byteLength_append, byteLength_cons, Nat.add_assoc]
  rfl

theorem two_le_byteLength_quote (text : List Char) : 2 ≤ byteLength (quote text) := by
  rw [byteLength_quote]
  omega

/-- The quotes are what is stripped off a literal. -/
theorem strip?_quote (text : List Char) : strip? (quote text) = some (encode text) := by
  rw [strip?, if_pos (two_le_byteLength_quote text), Span.slice?_eq_some]
  refine ⟨['"'], ['"'], rfl, ?_⟩
  rw [byteLength_quote, ← Nat.add_assoc, Nat.add_sub_cancel]
  rfl

def escape (text : List Char) : List Char :=
  (strip? (quote text)).get (Option.isSome_of_eq_some (strip?_quote text))

@[simp] theorem escape_eq (text : List Char) : escape text = encode text := by
  simp [escape, strip?_quote]

end TextTemplate.Text.JsonString
