import OpenBanking.Proofs.Text.Utf8
import OpenBanking.WireError

/-!
# Octets survive as base64url text

A symbol is read as the six bits that it was written for, and a group of symbols as the octets that
it was written for. So octets are read back from their text, which holds symbols of the alphabet
only.
-/

namespace OpenBanking.Base64url

/-! ## Symbols -/

/-- The octet of a symbol. -/
def mark (n : Nat) : UInt8 := UInt8.ofNat (symbol n).toNat

/-- Symbols are letters, digits, hyphens and underscores. -/
theorem symbol_mem_alphabet {n : Nat} (six : n < 64) :
    (symbol n).isAlphanum ∨ symbol n = '-' ∨ symbol n = '_' := by
  have all : ∀ n < 64, (symbol n).isAlphanum ∨ symbol n = '-' ∨ symbol n = '_' := by decide
  exact all n six

/-- A symbol is one octet. -/
theorem utf8EncodeChar_symbol {n : Nat} (six : n < 64) :
    String.utf8EncodeChar (symbol n) = [mark n] := by
  have low : ∀ n < 64, (symbol n).toNat < 0x80 := by decide
  exact Utf8.utf8EncodeChar_of_lt (low n six)

/-- The six bits of a symbol are read back. -/
theorem value?_mark {n : Nat} (six : n < 64) : value? (mark n) = some n := by
  have all : ∀ n < 64, value? (mark n) = some n := by decide
  exact all n six

/-- Wherever a symbol stands, its six bits are read. -/
theorem valueAt_mark (offset : Nat) {n : Nat} (six : n < 64) : valueAt offset (mark n) = .ok n := by
  rw [valueAt, value?_mark six]

/-- No symbol is the padding sign. -/
theorem mark_ne_pad {n : Nat} (six : n < 64) : mark n ≠ pad := by
  intro padding
  have read : value? pad = some n := padding ▸ value?_mark six
  exact absurd (show value? pad = none by decide) (by simp [read])

/-! ## Groups of symbols -/

section Groups

variable {a b c d : Nat} (first : a < 64) (second : b < 64) (third : c < 64) (fourth : d < 64)

include first second in
/-- Two last symbols are read as the bits of one octet. -/
theorem decodeLast_two (offset : Nat) :
    decodeLast offset [mark a, mark b] = decodeTwo offset a b (mark b) := by
  rw [decodeLast, valueAt_mark _ first, valueAt_mark _ second]
  rfl

include first second third in
/-- Three last symbols are read as the bits of two octets. -/
theorem decodeLast_three (offset : Nat) :
    decodeLast offset [mark a, mark b, mark c] = decodeThree offset a b c (mark c) := by
  rw [decodeLast, valueAt_mark _ first, valueAt_mark _ second, valueAt_mark _ third]
  simp only [if_neg (mark_ne_pad third)]
  rfl

include first second third fourth in
/-- Four last symbols are three octets, with no bit left over. -/
theorem decodeLast_four (offset : Nat) :
    decodeLast offset [mark a, mark b, mark c, mark d] = .ok (joinFour a b c d) := by
  rw [decodeLast, valueAt_mark _ first, valueAt_mark _ second, valueAt_mark _ third,
    valueAt_mark _ fourth]
  simp only [if_neg (mark_ne_pad third), if_neg (mark_ne_pad fourth)]
  rfl

include first second third fourth in
/-- Four symbols stand for three octets in front of whatever is read after them. -/
theorem decodeGroups_four {offset : Nat} {later octets : List UInt8}
    (read : decodeGroups (offset + 4) later = .ok octets) :
    decodeGroups offset (mark a :: mark b :: mark c :: mark d :: later) =
      .ok (joinFour a b c d ++ octets) := by
  cases later with
  | nil =>
    cases read
    rw [decodeGroups, decodeLast_four first second third fourth, List.append_nil]
    simp
  | cons next others =>
    rw [decodeGroups, read, valueAt_mark _ first, valueAt_mark _ second, valueAt_mark _ third,
      valueAt_mark _ fourth]
    rfl

end Groups

/-! ## Groups of octets -/

/-- Four symbols of three octets. -/
theorem joinFour_parts (a b c : UInt8) :
    joinFour (a.toNat / 4) (a.toNat % 4 * 16 + b.toNat / 16) (b.toNat % 16 * 4 + c.toNat / 64)
      (c.toNat % 64) = [a, b, c] := by
  have := b.toNat_lt
  have := c.toNat_lt
  have first : a.toNat / 4 * 4 + (a.toNat % 4 * 16 + b.toNat / 16) / 16 = a.toNat := by omega
  have second : (a.toNat % 4 * 16 + b.toNat / 16) % 16 * 16 +
      (b.toNat % 16 * 4 + c.toNat / 64) / 4 = b.toNat := by omega
  have third : (b.toNat % 16 * 4 + c.toNat / 64) % 4 * 64 + c.toNat % 64 = c.toNat := by omega
  simp only [joinFour, first, second, third, UInt8.ofNat_toNat]

/-- Two symbols of one octet. -/
theorem decodeTwo_parts (offset : Nat) (a last : UInt8) :
    decodeTwo offset (a.toNat / 4) (a.toNat % 4 * 16) last = .ok [a] := by
  have unused : a.toNat % 4 * 16 % 16 = 0 := by omega
  have first : a.toNat / 4 * 4 + a.toNat % 4 * 16 / 16 = a.toNat := by omega
  rw [decodeTwo, if_pos unused, first, UInt8.ofNat_toNat]

/-- Three symbols of two octets. -/
theorem decodeThree_parts (offset : Nat) (a b last : UInt8) :
    decodeThree offset (a.toNat / 4) (a.toNat % 4 * 16 + b.toNat / 16) (b.toNat % 16 * 4) last =
      .ok [a, b] := by
  have := b.toNat_lt
  have unused : b.toNat % 16 * 4 % 4 = 0 := by omega
  have first : a.toNat / 4 * 4 + (a.toNat % 4 * 16 + b.toNat / 16) / 16 = a.toNat := by omega
  have second : (a.toNat % 4 * 16 + b.toNat / 16) % 16 * 16 + b.toNat % 16 * 4 / 4 = b.toNat := by
    omega
  rw [decodeThree, if_pos unused, first, second, UInt8.ofNat_toNat, UInt8.ofNat_toNat]

/-! ## Texts -/

/-- Octets are written as symbols. -/
theorem exists_symbol_of_mem {octets : List UInt8} {c : Char} (held : c ∈ encodeChars octets) :
    ∃ n < 64, c = symbol n := by
  fun_induction encodeChars octets with
  | case1 => cases held
  | case2 a =>
    have := a.toNat_lt
    simp only [List.mem_cons, List.not_mem_nil, or_false] at held
    rcases held with rfl | rfl <;> exact ⟨_, by omega, rfl⟩
  | case3 a b =>
    have := a.toNat_lt
    have := b.toNat_lt
    simp only [List.mem_cons, List.not_mem_nil, or_false] at held
    rcases held with rfl | rfl | rfl <;> exact ⟨_, by omega, rfl⟩
  | case4 a b c rest ih =>
    have := a.toNat_lt
    have := b.toNat_lt
    have := c.toNat_lt
    simp only [List.mem_cons] at held
    rcases held with rfl | rfl | rfl | rfl | later
    case inr.inr.inr.inr => exact ih later
    all_goals exact ⟨_, by omega, rfl⟩

/-- The text of octets holds letters, digits, hyphens and underscores only. -/
theorem mem_alphabet_of_mem_encode {octets : List UInt8} {c : Char}
    (held : c ∈ (encode octets).toList) : c.isAlphanum ∨ c = '-' ∨ c = '_' := by
  rw [encode, String.toList_ofList] at held
  obtain ⟨n, six, rfl⟩ := exists_symbol_of_mem held
  exact symbol_mem_alphabet six

/-- Groups are read back, wherever they begin. -/
theorem decodeGroups_encodeChars (offset : Nat) (octets : List UInt8) :
    decodeGroups offset (Utf8.octets (encodeChars octets)) = .ok octets := by
  fun_induction encodeChars octets generalizing offset with
  | case1 => rfl
  | case2 a =>
    have := a.toNat_lt
    have first : a.toNat / 4 < 64 := by omega
    have second : a.toNat % 4 * 16 < 64 := by omega
    simp only [Utf8.octets_cons, Utf8.octets_nil, utf8EncodeChar_symbol, first, second,
      List.cons_append, List.nil_append]
    exact (decodeLast_two first second offset).trans (decodeTwo_parts offset a _)
  | case3 a b =>
    have := a.toNat_lt
    have := b.toNat_lt
    have first : a.toNat / 4 < 64 := by omega
    have second : a.toNat % 4 * 16 + b.toNat / 16 < 64 := by omega
    have third : b.toNat % 16 * 4 < 64 := by omega
    simp only [Utf8.octets_cons, Utf8.octets_nil, utf8EncodeChar_symbol, first, second, third,
      List.cons_append, List.nil_append]
    exact (decodeLast_three first second third offset).trans (decodeThree_parts offset a b _)
  | case4 a b c rest ih =>
    have := a.toNat_lt
    have := b.toNat_lt
    have := c.toNat_lt
    have first : a.toNat / 4 < 64 := by omega
    have second : a.toNat % 4 * 16 + b.toNat / 16 < 64 := by omega
    have third : b.toNat % 16 * 4 + c.toNat / 64 < 64 := by omega
    have fourth : c.toNat % 64 < 64 := by omega
    simp only [Utf8.octets_cons, utf8EncodeChar_symbol, first, second, third, fourth,
      List.cons_append, List.nil_append]
    rw [decodeGroups_four first second third fourth (ih (offset + 4)), joinFour_parts]
    rfl

/-- Octets are read back from their text. -/
theorem decode_encode (octets : List UInt8) : decode (encode octets) = .ok octets := by
  rw [decode, encode, Utf8.encode_ofList, decodeOctets]
  split
  next last last_eq =>
    -- The last octet is that of a symbol, so it is not foreign.
    have held : last ∈ Utf8.octets (encodeChars octets) := List.mem_of_getLast? last_eq
    obtain ⟨c, mem, of⟩ := List.mem_flatMap.1 held
    obtain ⟨n, six, rfl⟩ := exists_symbol_of_mem mem
    rw [utf8EncodeChar_symbol six, List.mem_singleton] at of
    subst of
    rw [if_neg (by simp [value?_mark six])]
    exact decodeGroups_encodeChars 0 octets
  next none =>
    have empty := decodeGroups_encodeChars 0 octets
    rw [List.getLast?_eq_none_iff.1 none] at empty
    exact empty

end OpenBanking.Base64url

namespace OpenBanking

/-- Octets are read back from their text. -/
theorem decodeBase64url_encode (octets : List UInt8) :
    decodeBase64url (Base64url.encode octets) = .ok octets := by
  rw [decodeBase64url, Base64url.decode_encode]
  rfl

end OpenBanking
