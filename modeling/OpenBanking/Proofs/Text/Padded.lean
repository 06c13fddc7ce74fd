import OpenBanking.Proofs.Text.Base32
import OpenBanking.Proofs.Text.Numeral

/-!
# Digits filled with zeros

Zeros in front of digits do not change what they denote, so a number is told by its padded digits.
Among digits of one length the texts compare as the numbers do, since the first different digit
decides both.
-/

namespace OpenBanking.Text

/-! ## Padded digits -/

/-- Padded digits are digits that denote the number. -/
theorem exists_digits_padded (width n : Nat) : ∃ digits, (∀ digit ∈ digits, digit < 10) ∧
    ofDigits digits = n ∧ padded width n = digits.map Nat.digitChar := by
  obtain ⟨digits, decimal, written⟩ := exists_isDecimal n
  refine ⟨List.replicate (width - (natural n).length) 0 ++ digits, ?_, ?_, ?_⟩
  · intro digit held
    rcases List.mem_append.1 held with zero | own
    · rw [List.eq_of_mem_replicate zero]
      decide
    · exact decimal.small digit own
  · rw [ofDigits_append, ofDigits_replicate_zero, Nat.zero_mul, Nat.zero_add, decimal.denotes]
  · rw [padded, List.map_append, List.map_replicate, ← written]
    rfl

/-- Padded digits hold no sign. -/
theorem exists_digit_of_mem_padded {width n : Nat} {c : Char} (held : c ∈ padded width n) :
    ∃ digit < 10, c = Nat.digitChar digit := by
  obtain ⟨digits, small, -, written⟩ := exists_digits_padded width n
  rw [written] at held
  obtain ⟨digit, own, rfl⟩ := List.mem_map.1 held
  exact ⟨digit, small digit own, rfl⟩

/-- Numbers with the same padded digits are the same. -/
theorem padded_inj {width m n : Nat} (same : padded width m = padded width n) : m = n := by
  obtain ⟨digits, small, rfl, written⟩ := exists_digits_padded width m
  obtain ⟨others, smallToo, rfl, writtenToo⟩ := exists_digits_padded width n
  have read := mapM_digit?_digitChar small
  rw [← written, same, writtenToo, mapM_digit?_digitChar smallToo] at read
  rw [Option.some.inj read]

/-- The last padded digit is the last digit. -/
theorem padded_succ {width : Nat} (positive : 0 < width) (n : Nat) :
    padded (width + 1) n = padded width (n / 10) ++ [(n % 10).digitChar] := by
  by_cases small : n < 10
  · -- The front is a zero, which takes the place of one that fills.
    obtain ⟨room, rfl⟩ : ∃ room, width = room + 1 := ⟨width - 1, by omega⟩
    have own : natural n = [n.digitChar] := Nat.toDigits_of_lt_base small
    have front : natural 0 = ['0'] := rfl
    rw [padded, padded, own, Nat.div_eq_of_lt small, Nat.mod_eq_of_lt small, front]
    simp only [List.length_singleton, Nat.add_sub_cancel]
    rw [List.replicate_succ']
  · have digits : natural n = natural (n / 10) ++ [(n % 10).digitChar] :=
      Nat.toDigits_of_base_le (by decide) (by omega)
    rw [padded, padded, digits, List.length_append, List.length_singleton, Nat.add_sub_add_right,
      List.append_assoc]

/-- One padded digit of a number below ten. -/
theorem padded_one {n : Nat} (below : n < 10) : padded 1 n = [n.digitChar] := by
  have own : natural n = [n.digitChar] := Nat.toDigits_of_lt_base below
  rw [padded, own]
  rfl

/-- Two padded digits of a number below a hundred. -/
theorem padded_two {n : Nat} (below : n < 100) :
    padded 2 n = [n / 10, n % 10].map Nat.digitChar := by
  rw [padded_succ Nat.one_pos, padded_one (by omega)]
  rfl

/-- Four padded digits of a number below ten thousand. -/
theorem padded_four {n : Nat} (below : n < 10000) :
    padded 4 n = [n / 1000, n / 100 % 10, n / 10 % 10, n % 10].map Nat.digitChar := by
  have thousands : n / 10 / 10 / 10 = n / 1000 := by omega
  have hundreds : n / 10 / 10 % 10 = n / 100 % 10 := by omega
  rw [padded_succ (by decide), padded_succ (by decide), padded_two (by omega), thousands, hundreds]
  rfl

/-! ## The order of digits -/

/-- As many digits denote less than the power of ten. -/
theorem ofDigits_lt {digits : List Nat} (small : ∀ digit ∈ digits, digit < 10) :
    ofDigits digits < Nat.pow 10 digits.length :=
  Base32.numberOf_lt small

/-- Digits of one length compare as texts like the numbers that they denote. -/
theorem map_digitChar_lt_iff {digits others : List Nat} (length : digits.length = others.length)
    (small : ∀ digit ∈ digits, digit < 10) (smallToo : ∀ digit ∈ others, digit < 10) :
    digits.map Nat.digitChar < others.map Nat.digitChar ↔ ofDigits digits < ofDigits others := by
  have apart : ∀ a < 10, ∀ b < 10, (Nat.digitChar a < Nat.digitChar b ↔ a < b) ∧
      (Nat.digitChar a = Nat.digitChar b ↔ a = b) := by decide
  induction digits generalizing others with
  | nil =>
    obtain rfl := List.length_eq_zero_iff.1 length.symm
    simp
  | cons a digits ih =>
    obtain ⟨b, others, rfl⟩ := List.exists_cons_of_length_eq_add_one length.symm
    obtain ⟨first, later⟩ := List.forall_mem_cons.1 small
    obtain ⟨firstToo, laterToo⟩ := List.forall_mem_cons.1 smallToo
    have same : digits.length = others.length := Nat.succ_inj.1 length
    have value : ofDigits (a :: digits) = a * Nat.pow 10 digits.length + ofDigits digits := by
      simpa [ofDigits] using ofDigits_append [a] digits
    have valueToo : ofDigits (b :: others) = b * Nat.pow 10 digits.length + ofDigits others := by
      simpa [ofDigits, same] using ofDigits_append [b] others
    have below := ofDigits_lt later
    have belowToo := ofDigits_lt laterToo
    rw [← same] at belowToo
    rw [List.map_cons, List.map_cons, List.cons_lt_cons_iff, (apart a first b firstToo).1,
      (apart a first b firstToo).2, value, valueToo]
    rcases Nat.lt_trichotomy a b with less | rfl | more
    · have gap := Nat.mul_le_mul_right (Nat.pow 10 digits.length) less
      rw [Nat.succ_mul] at gap
      exact iff_of_true (.inl less) (by omega)
    · simpa using ih same later laterToo
    · have gap := Nat.mul_le_mul_right (Nat.pow 10 digits.length) more
      rw [Nat.succ_mul] at gap
      exact iff_of_false (by omega) (by omega)

end OpenBanking.Text
