import Mathlib.Data.List.Induction
import OpenBanking.Proofs.Text.Utf8
import OpenBanking.Text.Base32

/-!
# Octets survive as base32 text

Symbols and octets are the digits of one number in two bases. Enough digits of a number denote it,
and digits are those of the number that they denote, so octets are read back from their symbols: the
unused bits are the ones that were filled with zeros.
-/

namespace OpenBanking.Base32

open Utf8 (octets)

/-! ## Digits of numbers -/

variable {base : Nat}

/-- As many digits are written as are asked for. -/
@[simp]
theorem length_digitsOf (base count n : Nat) : (digitsOf base count n).length = count := by
  induction count generalizing n with
  | zero => rfl
  | succ count ih => simp [digitsOf, ih]

/-- Digits are smaller than the base. -/
theorem lt_of_mem_digitsOf (positive : 0 < base) {count n digit : Nat}
    (held : digit ∈ digitsOf base count n) : digit < base := by
  induction count generalizing n with
  | zero => cases held
  | succ count ih =>
    rcases List.mem_append.1 held with front | last
    · exact ih front
    · rw [List.mem_singleton.1 last]
      exact Nat.mod_lt n positive

/-- A last digit counts once, and what stands in front of it counts the base. -/
theorem numberOf_concat (digits : List Nat) (digit : Nat) :
    numberOf base (digits ++ [digit]) = base * numberOf base digits + digit := by
  simp [numberOf]

/-- Enough digits of a number denote it. -/
theorem numberOf_digitsOf {count n : Nat} (enough : n < Nat.pow base count) :
    numberOf base (digitsOf base count n) = n := by
  induction count generalizing n with
  | zero =>
    obtain rfl : n = 0 := Nat.lt_one_iff.1 enough
    rfl
  | succ count ih =>
    have front : n / base < Nat.pow base count :=
      Nat.div_lt_of_lt_mul (Nat.mul_comm _ base ▸ enough)
    rw [digitsOf, numberOf_concat, ih front, Nat.div_add_mod]

/-- Digits are those of the number that they denote. -/
theorem digitsOf_numberOf {digits : List Nat} (small : ∀ digit ∈ digits, digit < base) :
    digitsOf base digits.length (numberOf base digits) = digits := by
  -- From the end, where the last digit is taken off.
  induction digits using List.reverseRecOn with
  | nil => rfl
  | append_singleton digits digit ih =>
    have below : digit < base := small digit (by simp)
    have positive : 0 < base := Nat.zero_lt_of_lt below
    have front := ih fun other held => small other (List.mem_append_left _ held)
    rw [List.length_append, List.length_singleton, digitsOf, numberOf_concat,
      Nat.mul_add_div positive, Nat.div_eq_of_lt below, Nat.add_zero, front, Nat.mul_add_mod,
      Nat.mod_eq_of_lt below]

/-- The number of digits bounds the number. -/
theorem numberOf_lt {digits : List Nat} (small : ∀ digit ∈ digits, digit < base) :
    numberOf base digits < Nat.pow base digits.length := by
  induction digits using List.reverseRecOn with
  | nil => exact Nat.one_pos
  | append_singleton digits digit ih =>
    have below : digit < base := small digit (by simp)
    have front := ih fun other held => small other (List.mem_append_left _ held)
    rw [numberOf_concat, List.length_append, List.length_singleton]
    calc base * numberOf base digits + digit
        < base * (numberOf base digits + 1) := by
          rw [Nat.mul_succ]
          omega
      _ ≤ base * Nat.pow base digits.length := Nat.mul_le_mul_left base front
      _ = Nat.pow base (digits.length + 1) := Nat.mul_comm _ _

/-! ## Symbols -/

/-- The octet of a symbol. -/
def mark (n : Nat) : UInt8 := UInt8.ofNat (symbol n).toNat

/-- Symbols are one octet each. -/
theorem octets_map_symbol {digits : List Nat} (small : ∀ digit ∈ digits, digit < 32) :
    octets (digits.map symbol) = digits.map mark := by
  have low : ∀ n < 32, (symbol n).toNat < 0x80 := by decide
  induction digits with
  | nil => rfl
  | cons digit digits ih =>
    obtain ⟨own, later⟩ := List.forall_mem_cons.1 small
    rw [List.map_cons, Utf8.octets_cons, Utf8.utf8EncodeChar_of_lt (low digit own), ih later]
    rfl

/-- The values of symbols are read back. -/
theorem values_map_mark {digits : List Nat} (small : ∀ digit ∈ digits, digit < 32) (offset : Nat) :
    values offset (digits.map mark) = .ok digits := by
  have read : ∀ n < 32, value? (mark n) = some n := by decide
  induction digits generalizing offset with
  | nil => rfl
  | cons digit digits ih =>
    obtain ⟨own, later⟩ := List.forall_mem_cons.1 small
    rw [List.map_cons, values, read digit own]
    simp only [ih later]

/-! ## Octets -/

/-- The octets of a text of octets. -/
theorem octets_encodeChars (s : List UInt8) : octets (encodeChars s) =
    (digitsOf 32 ((8 * s.length + 4) / 5) (numberOf 256 (s.map (·.toNat)) *
      Nat.pow 2 (5 * ((8 * s.length + 4) / 5) - 8 * s.length))).map mark :=
  octets_map_symbol fun _ held => lt_of_mem_digitsOf (by decide) held

/-- Eight bits for each octet are written five at a time. -/
theorem length_octets_encodeChars (s : List UInt8) :
    (octets (encodeChars s)).length = (8 * s.length + 4) / 5 := by
  rw [octets_encodeChars, List.length_map, length_digitsOf]

/-- Octets are read back from their text. -/
theorem decode_encodeChars (s : List UInt8) : decode (octets (encodeChars s)) = .ok s := by
  have small : ∀ digit ∈ s.map (·.toNat), digit < 256 :=
    List.forall_mem_map.2 fun octet _ => octet.toNat_lt
  have bound := numberOf_lt small
  have own := digitsOf_numberOf small
  rw [List.length_map] at bound own
  generalize number : numberOf 256 (s.map (·.toNat)) = n at bound own
  obtain ⟨count, count_eq⟩ : ∃ count, (8 * s.length + 4) / 5 = count := ⟨_, rfl⟩
  obtain ⟨unused, unused_eq⟩ : ∃ unused, 5 * count - 8 * s.length = unused := ⟨_, rfl⟩
  have bits : 5 * count = 8 * s.length + unused := by omega
  have few : unused < 5 := by omega
  have enough : n * Nat.pow 2 unused < Nat.pow 32 count := by
    have power : Nat.pow 32 count = Nat.pow 256 s.length * Nat.pow 2 unused := by
      simp only [Nat.pow_eq]
      rw [show 32 = 2 ^ 5 by rfl, show 256 = 2 ^ 8 by rfl, ← Nat.pow_mul, ← Nat.pow_mul, bits,
        Nat.pow_add]
    rw [power]
    exact Nat.mul_lt_mul_of_pos_right bound (Nat.two_pow_pos unused)
  have read : values 0 (octets (encodeChars s)) =
      .ok (digitsOf 32 count (n * Nat.pow 2 unused)) := by
    rw [octets_encodeChars, number, count_eq, unused_eq]
    exact values_map_mark (fun _ held => lt_of_mem_digitsOf (by decide) held) 0
  have length : (octets (encodeChars s)).length = count := by
    rw [length_octets_encodeChars, count_eq]
  have rest : 5 * count % 8 = unused := by omega
  have whole : 5 * count / 8 = s.length := by omega
  have positive : 0 < Nat.pow 2 unused := Nat.two_pow_pos unused
  rw [decode, length, rest, if_neg (by omega), read]
  simp only [bind, Except.bind, numberOf_digitsOf enough, Nat.mul_mod_left, ne_eq, not_true_eq_false,
    ↓reduceIte, whole, Nat.mul_div_cancel _ positive, own, List.map_map]
  congr 1
  exact (List.map_congr_left fun octet _ => UInt8.ofNat_toNat).trans (List.map_id s)

end OpenBanking.Base32
