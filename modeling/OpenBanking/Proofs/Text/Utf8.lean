import OpenBanking.Text.Utf8

/-!
# Octets of characters

The octets of a text are the octets of its characters in order. A character below U+0080 is one
octet, its code point; every octet of any other character is at least `0x80`. So an octet below
`0x80` always stands for itself, wherever it is found in a text.
-/

namespace OpenBanking.Utf8

/-- The octets of characters in order. -/
def octets (cs : List Char) : List UInt8 := cs.flatMap String.utf8EncodeChar

/-- No characters have no octets. -/
@[simp]
theorem octets_nil : octets [] = [] := rfl

/-- The octets of the first character come first. -/
theorem octets_cons (c : Char) (cs : List Char) :
    octets (c :: cs) = String.utf8EncodeChar c ++ octets cs := rfl

/-- Joined characters have joined octets. -/
@[simp]
theorem octets_append (cs ds : List Char) : octets (cs ++ ds) = octets cs ++ octets ds := by
  simp [octets]

/-- A text has the octets of its characters. -/
theorem encode_ofList (cs : List Char) : encode (String.ofList cs) = octets cs := by
  simp [encode, octets, List.utf8Encode]

/-- The octets of a text are those of its characters. -/
theorem encode_eq_octets (text : String) : encode text = octets text.toList := by
  have written := encode_ofList text.toList
  rwa [String.ofList_toList] at written

/-- Outside the surrogates and up to the last one, every code point is that of a character. -/
theorem toNat_ofNat_of_valid {n : Nat} (valid : n < 0xD800 ∨ 0xDFFF < n ∧ n < 0x110000) :
    (Char.ofNat n).toNat = n := by
  have isChar : n.isValidChar := valid
  rw [Char.ofNat, dif_pos isChar]
  rfl

/-- A character below U+0080 is the octet of its code point. -/
theorem utf8EncodeChar_of_lt {c : Char} (low : c.toNat < 0x80) :
    String.utf8EncodeChar c = [UInt8.ofNat c.toNat] := by
  have small : c.val.toNat ≤ 0x7F := Nat.le_of_lt_succ low
  simp only [String.utf8EncodeChar, small, ↓reduceIte]
  rfl

/-- Every octet of a character from U+0080 on has the high bit. -/
theorem le_of_mem_utf8EncodeChar {c : Char} (high : 0x80 ≤ c.toNat) {b : UInt8}
    (held : b ∈ String.utf8EncodeChar c) : 0x80 ≤ b := by
  have above : ¬c.val.toNat ≤ 0x7F := Nat.not_le_of_lt high
  have marked (n least : Nat) (atLeast : 0x80 ≤ least) (most : n + least < 256) :
      0x80 ≤ UInt8.ofNat (n + least) := by
    rw [UInt8.le_iff_toNat_le, UInt8.toNat_ofNat', Nat.mod_eq_of_lt most]
    exact Nat.le_trans atLeast (Nat.le_add_left _ _)
  simp only [String.utf8EncodeChar, above, ↓reduceIte] at held
  split at held
  · simp only [List.mem_cons, List.not_mem_nil, or_false] at held
    rcases held with rfl | rfl <;> exact marked _ _ (by decide) (by omega)
  · split at held
    · simp only [List.mem_cons, List.not_mem_nil, or_false] at held
      rcases held with rfl | rfl | rfl <;> exact marked _ _ (by decide) (by omega)
    · simp only [List.mem_cons, List.not_mem_nil, or_false] at held
      rcases held with rfl | rfl | rfl | rfl <;> exact marked _ _ (by decide) (by omega)

end OpenBanking.Utf8
