import TextTemplate.Span

/-!
# The order of bytes

Strings are ordered by their characters. Since UTF-8 gives greater characters greater bytes, this is
the order of their bytes as well.
-/

namespace TextTemplate

def utf8Bytes (s : String) : List UInt8 :=
  s.toUTF8.data.toList

theorem utf8Bytes_eq_flatMap (s : String) :
    utf8Bytes s = s.toList.flatMap String.utf8EncodeChar := by
  conv =>
    lhs
    rw [← String.ofList_toList (s := s)]
  rw [utf8Bytes, String.toUTF8_eq_toByteArray, String.toByteArray_ofList]
  simp [List.utf8Encode]

theorem ofNat_cons_lt {m n : Nat} (hm : m < 256) (hn : n < 256) (x y : List UInt8) :
    UInt8.ofNat m :: x < UInt8.ofNat n :: y ↔ m < n ∨ m = n ∧ x < y := by
  rw [List.cons_lt_cons_iff, UInt8.lt_iff_toNat_lt, ← UInt8.toNat_inj, UInt8.toNat_ofNat',
    UInt8.toNat_ofNat', Nat.mod_eq_of_lt hm, Nat.mod_eq_of_lt hn]

/-- Of two numbers the smaller one is smaller in the first digit that differs. -/
theorem fourBytes_lt {m n : Nat} (less : m < n) (top : n < 0x110000) (p : Prop) :
    m / 262144 % 8 + 240 < n / 262144 % 8 + 240 ∨ m / 262144 % 8 + 240 = n / 262144 % 8 + 240 ∧
      (m / 4096 % 64 + 128 < n / 4096 % 64 + 128 ∨ m / 4096 % 64 + 128 = n / 4096 % 64 + 128 ∧
        (m / 64 % 64 + 128 < n / 64 % 64 + 128 ∨ m / 64 % 64 + 128 = n / 64 % 64 + 128 ∧
          (m % 64 + 128 < n % 64 + 128 ∨ m % 64 + 128 = n % 64 + 128 ∧ p))) := by
  rcases Nat.lt_or_ge (m / 262144) (n / 262144) with first | first
  · exact Or.inl (by omega)
  refine Or.inr ⟨by omega, ?_⟩
  rcases Nat.lt_or_ge (m / 4096) (n / 4096) with second | second
  · exact Or.inl (by omega)
  refine Or.inr ⟨by omega, ?_⟩
  rcases Nat.lt_or_ge (m / 64) (n / 64) with third | third
  · exact Or.inl (by omega)
  exact Or.inr ⟨by omega, Or.inl (by omega)⟩

/-- The first byte in which two characters differ is greater in the greater one. -/
theorem utf8EncodeChar_append_lt {c d : Char} (less : c < d) (cs ds : List UInt8) :
    String.utf8EncodeChar c ++ cs < String.utf8EncodeChar d ++ ds := by
  have less : c.val.toNat < d.val.toNat := less
  have top : d.val.toNat < 0x110000 := by
    rcases d.valid with small | ⟨-, large⟩
    · exact Nat.lt_trans small (by decide)
    · exact large
  unfold String.utf8EncodeChar
  dsimp only
  -- A character with more bytes has a greater first byte.
  repeat' split
  all_goals simp (disch := omega) only [List.cons_append, List.nil_append, ofNat_cons_lt]
  all_goals
    first
    | omega
    | exact fourBytes_lt less top _

theorem flatMap_utf8EncodeChar_lt {cs ds : List Char} (less : cs < ds) :
    cs.flatMap String.utf8EncodeChar < ds.flatMap String.utf8EncodeChar := by
  induction cs generalizing ds with
  | nil =>
    cases ds with
    | nil => exact absurd less (by simp)
    | cons d ds =>
      have : String.utf8EncodeChar d ≠ [] := String.utf8EncodeChar_ne_nil
      cases bytes : String.utf8EncodeChar d with
      | nil => contradiction
      | cons byte bytes' =>
        rw [List.flatMap_nil, List.flatMap_cons, bytes]
        exact List.nil_lt_cons _ _
  | cons c cs ih =>
    cases ds with
    | nil => exact absurd less (by simp)
    | cons d ds =>
      rw [List.flatMap_cons, List.flatMap_cons]
      rcases List.cons_lt_cons_iff.mp less with first | ⟨rfl, rest⟩
      · exact utf8EncodeChar_append_lt first _ _
      · exact List.append_left_lt (ih rest)

/-- The order of strings is that of their bytes. -/
theorem utf8Bytes_lt {s t : String} (less : s < t) : utf8Bytes s < utf8Bytes t := by
  rw [utf8Bytes_eq_flatMap, utf8Bytes_eq_flatMap]
  exact flatMap_utf8EncodeChar_lt less

end TextTemplate
