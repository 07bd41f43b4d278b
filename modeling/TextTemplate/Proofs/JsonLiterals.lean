import TextTemplate.Conversion

/-!
# JSON string literals

How JSON reads a string: up to the closing quote, each character stands for itself or belongs to an
escape sequence, and quotes, backslashes and control characters stand in escape sequences only.
Between quotes, a text converted for JSON is read as what it was before.
-/

namespace TextTemplate

namespace Text.JsonString

/-! ### Reading literals -/

/-- The character that a backslash and one more character stand for. -/
def meant? : Char → Option Char
  | '"' => some '"'
  | '\\' => some '\\'
  | '/' => some '/'
  | 'b' => some '\x08'
  | 'f' => some '\x0c'
  | 'n' => some '\n'
  | 'r' => some '\x0d'
  | 't' => some '\t'
  | _ => none

def hexValue? (c : Char) : Option Nat :=
  if '0' ≤ c ∧ c ≤ '9' then some (c.toNat - '0'.toNat)
  else if 'a' ≤ c ∧ c ≤ 'f' then some (c.toNat - 'a'.toNat + 10)
  else if 'A' ≤ c ∧ c ≤ 'F' then some (c.toNat - 'A'.toNat + 10)
  else none

def codeUnit? (k l m n : Char) : Option Nat := do
  return 0x1000 * (← hexValue? k) + 0x100 * (← hexValue? l) + 0x10 * (← hexValue? m) +
    (← hexValue? n)

/-- What follows an opening quote stands for the text up to a closing quote, with the rest of the
input behind that. A character outside the basic plane may be written as two surrogates; one of them
alone stands for nothing. -/
inductive Body : (input text rest : List Char) → Prop where
  | close (rest : List Char) : Body ('"' :: rest) [] rest
  | unescaped {c : Char} {input text rest : List Char} : 0x20 ≤ c.toNat → c ≠ '"' → c ≠ '\\' →
      Body input text rest → Body (c :: input) (c :: text) rest
  | letter {k c : Char} {input text rest : List Char} : meant? k = some c →
      Body input text rest → Body ('\\' :: k :: input) (c :: text) rest
  | codeUnit {k l m n c : Char} {input text rest : List Char} :
      codeUnit? k l m n = some c.toNat →
      Body input text rest → Body ('\\' :: 'u' :: k :: l :: m :: n :: input) (c :: text) rest
  | surrogates {k l m n k' l' m' n' c : Char} {high low : Nat} {input text rest : List Char} :
      codeUnit? k l m n = some high → 0xD800 ≤ high → high < 0xDC00 →
      codeUnit? k' l' m' n' = some low → 0xDC00 ≤ low → low < 0xE000 →
      c.toNat = 0x10000 + 0x400 * (high - 0xD800) + (low - 0xDC00) →
      Body input text rest →
      Body ('\\' :: 'u' :: k :: l :: m :: n :: '\\' :: 'u' :: k' :: l' :: m' :: n' :: input)
        (c :: text) rest

inductive Literal : (input text rest : List Char) → Prop where
  | quoted {body text rest : List Char} : Body body text rest → Literal ('"' :: body) text rest

theorem not_surrogate (c : Char) : c.toNat < 0xD800 ∨ 0xE000 ≤ c.toNat := by
  rcases c.valid with low | ⟨high, -⟩
  · exact .inl low
  · exact .inr high

/-- There is one way to read a literal. -/
theorem Body.unique {input text rest text' rest' : List Char} (h : Body input text rest)
    (h' : Body input text' rest') : text = text' ∧ rest = rest' := by
  induction h generalizing text' with
  | close rest =>
    cases h' with
    | close => exact ⟨rfl, rfl⟩
    | unescaped _ quote _ _ => exact absurd rfl quote
  | unescaped _ quote backslash _ ih =>
    cases h' with
    | close => exact absurd rfl quote
    | unescaped _ _ _ later =>
      obtain ⟨rfl, rfl⟩ := ih later
      exact ⟨rfl, rfl⟩
    | letter | codeUnit | surrogates => exact absurd rfl backslash
  | letter known _ ih =>
    cases h' with
    | unescaped _ _ backslash _ => exact absurd rfl backslash
    | letter known' later =>
      obtain ⟨rfl, rfl⟩ := ih later
      obtain rfl := Option.some.inj (known.symm.trans known')
      exact ⟨rfl, rfl⟩
    | codeUnit | surrogates => cases known
  | @codeUnit _ _ _ _ c _ _ _ unit _ ih =>
    cases h' with
    | unescaped _ _ backslash _ => exact absurd rfl backslash
    | letter known _ => cases known
    | codeUnit unit' later =>
      obtain ⟨rfl, rfl⟩ := ih later
      have same := Option.some.inj (unit.symm.trans unit')
      exact ⟨by rw [Char.toNat_inj.mp same], rfl⟩
    | surrogates high above below =>
      -- No character has the number of a surrogate.
      have same := Option.some.inj (unit.symm.trans high)
      have := not_surrogate c
      omega
  | surrogates high above below low _ _ place _ ih =>
    cases h' with
    | unescaped _ _ backslash _ => exact absurd rfl backslash
    | letter known _ => cases known
    | @codeUnit _ _ _ _ c _ _ _ unit =>
      have same := Option.some.inj (unit.symm.trans high)
      have := not_surrogate c
      omega
    | surrogates high' _ _ low' _ _ place' later =>
      obtain ⟨rfl, rfl⟩ := ih later
      obtain rfl := Option.some.inj (high.symm.trans high')
      obtain rfl := Option.some.inj (low.symm.trans low')
      exact ⟨by rw [Char.toNat_inj.mp (place.trans place'.symm)], rfl⟩

/-! ### Written literals -/

theorem hexValue?_digitChar : ∀ n < 16, hexValue? (Nat.digitChar n) = some n := by
  decide

/-- The escape sequence of a control character without a letter of its own. -/
theorem codeUnit?_control {c : Char} (control : c.toNat < 0x20) :
    codeUnit? '0' '0' (Nat.digitChar (c.toNat / 16)) (Nat.digitChar (c.toNat % 16)) =
      some c.toNat := by
  have zero : hexValue? '0' = some 0 := rfl
  have high := hexValue?_digitChar (c.toNat / 16) (by omega)
  have low := hexValue?_digitChar (c.toNat % 16) (by omega)
  rw [codeUnit?, zero, high, low]
  show some _ = some _
  congr 1
  omega

theorem body_encodeChar (c : Char) {input text rest : List Char} (h : Body input text rest) :
    Body (encodeChar c ++ input) (c :: text) rest := by
  unfold encodeChar
  split
  case h_8 c quote backslash _ _ _ _ _ =>
    split
    · rename_i control
      exact .codeUnit (codeUnit?_control control) h
    · rename_i printed
      exact .unescaped (Nat.le_of_not_lt printed) quote backslash h
  all_goals exact .letter rfl h

theorem body_encode (text behind : List Char) :
    Body (encode text ++ '"' :: behind) text behind := by
  induction text with
  | nil => exact .close behind
  | cons c text ih =>
    have first := body_encodeChar c ih
    rwa [← List.append_assoc] at first

theorem printed_digitChar : ∀ n < 16, 0x20 ≤ (Nat.digitChar n).toNat := by
  decide

theorem printed_encodeChar (c : Char) : ∀ x ∈ encodeChar c, 0x20 ≤ x.toNat := by
  unfold encodeChar
  split
  case h_8 =>
    split
    · have high := printed_digitChar (c.toNat / 16) (by omega)
      have low := printed_digitChar (c.toNat % 16) (by omega)
      simp only [List.forall_mem_cons]
      exact ⟨by decide, by decide, by decide, by decide, high, low, List.forall_mem_nil _⟩
    · rename_i printed
      intro x member
      rw [List.mem_singleton.mp member]
      exact Nat.le_of_not_lt printed
  all_goals
    simp only [List.forall_mem_cons]
    exact ⟨by decide, by decide, List.forall_mem_nil _⟩

end Text.JsonString

open Text.JsonString

theorem Conversion.toList_json (s : String) : (json.apply s).toList = encode s.toList := by
  rw [apply, escape_eq, String.toList_ofList]

/-- A text converted for JSON is its string literal without the first and the last byte, which are
the quotes. Put between quotes, whatever stands behind it, it makes a literal that is read as that
text and nothing else. No control characters are in it, and texts can be converted piece by
piece. -/
theorem Conversion.literal_json_iff (s : String) :
    (quote s.toList = '"' :: (json.apply s).toList ++ ['"'] ∧
        2 ≤ byteLength (quote s.toList) ∧
        Span.slice? ⟨1, byteLength (quote s.toList) - 1⟩ (quote s.toList) =
          some (json.apply s).toList) ∧
      (∀ behind text rest : List Char,
        Literal ('"' :: (json.apply s).toList ++ '"' :: behind) text rest ↔
          text = s.toList ∧ rest = behind) ∧
      (∀ c ∈ (json.apply s).toList, 0x20 ≤ c.toNat) ∧
      ∀ t : String, json.apply (s ++ t) = json.apply s ++ json.apply t := by
  rw [toList_json]
  have size : 2 ≤ byteLength (quote s.toList) := two_le_byteLength_quote s.toList
  refine ⟨⟨rfl, size, ?_⟩, fun behind text rest => ?_, ?_, fun t => ?_⟩
  · have stripped := strip?_quote s.toList
    rwa [strip?, if_pos size] at stripped
  · have written := body_encode s.toList behind
    constructor
    · intro literal
      cases literal with
      | quoted body => exact body.unique written
    · rintro ⟨rfl, rfl⟩
      exact .quoted written
  · intro c member
    obtain ⟨x, -, inside⟩ := List.mem_flatMap.mp member
    exact printed_encodeChar x c inside
  · simp [apply, String.ofList_append]

/-- The text looks like an escape sequence, and has a quote and a control character in it. -/
theorem Conversion.literal_json_iff_lookalike :
    json.apply "\\u0041\"\x01é" = "\\\\u0041\\\"\\u0001é" ∧
      Literal "\"\\\\u0041\\\"\\u0001é\",".toList "\\u0041\"\x01é".toList [','] ∧
      '\\' ∈ (json.apply "\\u0041\"\x01é").toList ∧ 0x20 ≤ '\\'.toNat := by
  have converted : json.apply "\\u0041\"\x01é" = "\\\\u0041\\\"\\u0001é" := by decide
  have backslash : '\\' ∈ (json.apply "\\u0041\"\x01é").toList := by decide
  obtain ⟨-, reads, printed, -⟩ := literal_json_iff "\\u0041\"\x01é"
  have literal := (reads [','] _ _).mpr ⟨rfl, rfl⟩
  rw [converted] at literal
  exact ⟨converted, literal, backslash, printed '\\' backslash⟩

end TextTemplate
