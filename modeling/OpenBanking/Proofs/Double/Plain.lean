import OpenBanking.Double.Layout
import OpenBanking.Proofs.Double.Shortest
import OpenBanking.Proofs.Text.Numeral

/-!
# Plain decimal notation

A number in plain decimal notation has a sign or none, digits without a needless zero in front, a
point and at least one more digit. Its text says which digits these are, and reading the text gives
the double nearest to it. Positional notation is plain.
-/

namespace OpenBanking.Double

open OpenBanking.Text (digit? digit?_digitChar IsDecimal exists_isDecimal ofDigits ofDigits_append
  ofDigits_replicate_zero)

/-- A number in plain decimal notation. -/
structure PlainDecimal where
  /-- Whether a minus sign stands in front. -/
  negative : Bool
  /-- The digits before the point. -/
  whole : List Nat
  /-- The digits behind the point. -/
  fraction : List Nat
  /-- Each is below ten. -/
  small : ∀ digit ∈ whole ++ fraction, digit < 10
  /-- There is a digit before the point. -/
  whole_ne_nil : whole ≠ []
  /-- A zero in front is the only digit before the point. -/
  eq_zero_of_head : whole.head? = some 0 → whole = [0]
  /-- There is a digit behind the point. -/
  fraction_ne_nil : fraction ≠ []
deriving DecidableEq

/-- The leading digits are taken up to the first character that is none. -/
theorem spanDigits_append {digits : List Nat} (small : ∀ digit ∈ digits, digit < 10) {rest : List Char}
    (ends : ∀ c ∈ rest.head?, digit? c = none) :
    spanDigits (digits.map Nat.digitChar ++ rest) = (digits, rest) := by
  induction digits with
  | nil =>
    cases rest with
    | nil => rfl
    | cons c rest => simp [spanDigits, ends c rfl]
  | cons digit digits ih =>
    obtain ⟨first, later⟩ := List.forall_mem_cons.1 small
    simp [spanDigits, digit?_digitChar digit first, ih later]

namespace PlainDecimal

variable (d : PlainDecimal)

/-- The digits and the point. -/
def unsigned : List Char := d.whole.map Nat.digitChar ++ '.' :: d.fraction.map Nat.digitChar

/-- The text, with a minus sign in front of a negative number. -/
def text : String := String.ofList ((if d.negative then ['-'] else []) ++ d.unsigned)

/-- The distance from zero. -/
def distance : ℚ := decimalValue (ofDigits (d.whole ++ d.fraction)) (-d.fraction.length)

/-- The number. -/
def value : ℚ := signed d.negative d.distance

/-- The digits before the point are taken up to the point. -/
theorem spanDigits_unsigned :
    spanDigits d.unsigned = (d.whole, '.' :: d.fraction.map Nat.digitChar) := by
  refine spanDigits_append (fun digit held => d.small digit (List.mem_append_left _ held)) ?_
  intro c isPoint
  obtain rfl : '.' = c := Option.some.inj isPoint
  decide

/-- The digits behind the point are taken up to the end. -/
theorem spanDigits_fraction : spanDigits (d.fraction.map Nat.digitChar) = (d.fraction, []) := by
  have taken := @spanDigits_append d.fraction
    (fun digit held => d.small digit (List.mem_append_right d.whole held)) [] (by simp)
  rwa [List.append_nil] at taken

/-- The first character is that of a digit. -/
theorem exists_unsigned : ∃ digit < 10, ∃ later, d.unsigned = digit.digitChar :: later := by
  obtain ⟨digit, later, isWhole⟩ := List.exists_cons_of_ne_nil d.whole_ne_nil
  exact ⟨digit, d.small digit (by simp [isWhole]), _, by rw [unsigned, isWhole]; rfl⟩

/-- The text has the minus sign in front or begins with a digit. -/
theorem toList_text : d.text.toList = (if d.negative then ['-'] else []) ++ d.unsigned :=
  String.toList_ofList

/-- Texts in plain decimal notation are equal only if sign and digits are. -/
theorem text_injective : Function.Injective text := by
  intro d e same
  have lists := congrArg String.toList same
  rw [toList_text, toList_text] at lists
  obtain ⟨sign, digits⟩ : d.negative = e.negative ∧ d.unsigned = e.unsigned := by
    obtain ⟨first, small, later, begins⟩ := d.exists_unsigned
    obtain ⟨other, otherSmall, otherLater, otherBegins⟩ := e.exists_unsigned
    have apart : ∀ digit < 10, Nat.digitChar digit ≠ '-' := by decide
    cases signD : d.negative <;> cases signE : e.negative <;> rw [signD, signE] at lists
    · exact ⟨rfl, lists⟩
    · rw [begins] at lists
      exact absurd (List.cons.inj lists).1 (apart first small)
    · rw [otherBegins] at lists
      exact absurd (List.cons.inj lists).1.symm (apart other otherSmall)
    · exact ⟨rfl, List.append_cancel_left lists⟩
  have whole := congrArg spanDigits digits
  rw [spanDigits_unsigned, spanDigits_unsigned, Prod.mk.injEq, List.cons.injEq] at whole
  have fraction := congrArg spanDigits whole.2.2
  rw [spanDigits_fraction, spanDigits_fraction, Prod.mk.injEq] at fraction
  obtain ⟨negative, whole, fraction⟩ := d
  simp_all

/-- A text in plain decimal notation is read as what is nearest to its digits. -/
theorem ofText?_text :
    ofText? d.text =
      some (ofDecimal d.negative (ofDigits (d.whole ++ d.fraction)) (-d.fraction.length)) := by
  obtain ⟨first, small, later, begins⟩ := d.exists_unsigned
  have noSign : ∀ digit < 10, Nat.digitChar digit ≠ '-' ∧ Nat.digitChar digit ≠ '+' := by decide
  have noWord (word : String)
      (letter : ∀ digit < 10, word.toList.head? ≠ some (Nat.digitChar digit).toLower) :
      String.ofList (d.unsigned.map Char.toLower) ≠ word := by
    rintro rfl
    refine letter first small ?_
    rw [String.toList_ofList, begins]
    rfl
  have sign : ofText? d.text = unsignedOf? d.negative d.unsigned := by
    have noInf := noWord "inf" (by decide)
    have noInfinity := noWord "infinity" (by decide)
    have noNan := noWord "nan" (by decide)
    unfold ofText?
    rw [toList_text]
    cases d.negative with
    | true => exact (if_neg (not_or.2 ⟨noInf, noInfinity⟩)).trans (if_neg noNan)
    | false =>
      rw [begins] at noInf noInfinity noNan ⊢
      split
      next negative cs parts =>
        split at parts
        next other same => exact absurd (List.cons.inj same).1 (noSign first small).1
        next other same => exact absurd (List.cons.inj same).1 (noSign first small).2
        next =>
          obtain ⟨rfl, rfl⟩ := Prod.mk.inj parts
          exact (if_neg (not_or.2 ⟨noInf, noInfinity⟩)).trans (if_neg noNan)
  have someDigit : d.whole.isEmpty = false := by simpa using d.whole_ne_nil
  rw [sign]
  simp only [unsignedOf?, d.spanDigits_unsigned, d.spanDigits_fraction, someDigit]
  simp [exponentOf?]

/-- Zero, with either sign. -/
def zero (negative : Bool) : PlainDecimal :=
  ⟨negative, [0], [0], by decide, by decide, by decide, by decide⟩

/-- Zero denotes zero. -/
@[simp]
theorem distance_zero (negative : Bool) : (zero negative).distance = 0 := by
  simp [zero, distance, ofDigits, decimalValue]

end PlainDecimal

/-! ## Positional notation -/

/-- The written digits of a number other than zero do not begin with a zero. -/
theorem exists_digits {n : Nat} (nonzero : n ≠ 0) : ∃ digits, IsDecimal n digits ∧
    digits.head? ≠ some 0 ∧ Nat.toDigits 10 n = digits.map Nat.digitChar := by
  obtain ⟨digits, decimal, written⟩ := exists_isDecimal n
  refine ⟨digits, decimal, fun head => ?_, written⟩
  have denotes := decimal.denotes
  rw [decimal.eq_zero_of_head head] at denotes
  exact nonzero denotes.symm

/-- Zeros behind the digits are worth a power of ten. -/
theorem decimalValue_mul_pow (digits zeros : Nat) (scale : ℤ) :
    decimalValue (digits * 10 ^ zeros) scale = decimalValue digits (scale + zeros) := by
  rw [decimalValue, decimalValue, zpow_add₀ (by norm_num), zpow_natCast]
  push_cast
  ring

section Point

variable (negative : Bool) {n : Nat} {digits : List Nat} (decimal : IsDecimal n digits)

include decimal

/-- Zeros may stand on either side of digits. -/
theorem forall_small_replicate (front behind : Nat) :
    ∀ digit ∈ List.replicate front 0 ++ (digits ++ List.replicate behind 0), digit < 10 := by
  have zero (zeros : Nat) : ∀ digit ∈ List.replicate zeros 0, digit < 10 := by
    intro digit held
    rw [List.eq_of_mem_replicate held]
    decide
  simp only [List.forall_mem_append]
  exact ⟨zero front, decimal.small, zero behind⟩

/-- The point stands behind the digits and zeros that they are filled up with. -/
theorem exists_plain_behind (head : digits.head? ≠ some 0) (zeros : Nat) :
    ∃ plain : PlainDecimal, plain.negative = negative ∧
      plain.unsigned = digits.map Nat.digitChar ++ List.replicate zeros '0' ++ ['.', '0'] ∧
      plain.distance = decimalValue n zeros := by
  have begins : (digits ++ List.replicate zeros 0).head? ≠ some 0 := by
    rwa [List.head?_append_of_ne_nil _ decimal.ne_nil]
  have small : ∀ digit ∈ digits ++ List.replicate zeros 0 ++ [0], digit < 10 := by
    simpa [List.replicate_succ'] using forall_small_replicate decimal 0 (zeros + 1)
  refine ⟨⟨negative, digits ++ List.replicate zeros 0, [0], small, by simp [decimal.ne_nil],
    fun zero => absurd zero begins, by simp⟩, rfl, ?_, ?_⟩
  · simp [PlainDecimal.unsigned, Nat.digitChar]
  · simp only [PlainDecimal.distance, List.append_assoc, ← List.replicate_succ', ofDigits_append,
      ofDigits_replicate_zero, decimal.denotes, List.length_replicate, Nat.add_zero, Nat.pow_eq,
      decimalValue_mul_pow]
    congr 1
    simp

/-- The point stands between the digits. -/
theorem exists_plain_between (head : digits.head? ≠ some 0) {places : Nat} (positive : 0 < places)
    (inside : places < digits.length) :
    ∃ plain : PlainDecimal, plain.negative = negative ∧
      plain.unsigned = (digits.map Nat.digitChar).take (digits.length - places) ++
        '.' :: (digits.map Nat.digitChar).drop (digits.length - places) ∧
      plain.distance = decimalValue n (-(places : ℤ)) := by
  have front : (digits.take (digits.length - places)).head? = digits.head? := by
    rw [List.head?_take, if_neg (by omega)]
  have small : ∀ digit ∈ digits.take (digits.length - places) ++ digits.drop (digits.length - places),
      digit < 10 := by
    rw [List.take_append_drop]
    exact decimal.small
  have someBefore : digits.take (digits.length - places) ≠ [] := by
    rw [ne_eq, List.take_eq_nil_iff, not_or]
    exact ⟨by omega, decimal.ne_nil⟩
  have someBehind : digits.drop (digits.length - places) ≠ [] := by
    rw [ne_eq, List.drop_eq_nil_iff]
    omega
  have width : digits.length - (digits.length - places) = places := by omega
  refine ⟨⟨negative, _, _, small, someBefore, fun zero => absurd (front ▸ zero) head, someBehind⟩,
    rfl, ?_, ?_⟩
  · simp only [PlainDecimal.unsigned, List.map_take, List.map_drop]
  · simp only [PlainDecimal.distance, List.take_append_drop, decimal.denotes, List.length_drop, width]

/-- The point stands in front of the digits, or of zeros that they are filled up with. -/
theorem exists_plain_front {places : Nat} (outside : digits.length ≤ places) :
    ∃ plain : PlainDecimal, plain.negative = negative ∧
      plain.unsigned =
        '0' :: '.' :: List.replicate (places - digits.length) '0' ++ digits.map Nat.digitChar ∧
      plain.distance = decimalValue n (-(places : ℤ)) := by
  have small : ∀ digit ∈ [0] ++ (List.replicate (places - digits.length) 0 ++ digits), digit < 10 := by
    simpa [List.replicate_succ] using forall_small_replicate decimal (places - digits.length + 1) 0
  have width : places - digits.length + digits.length = places := Nat.sub_add_cancel outside
  refine ⟨⟨negative, [0], List.replicate (places - digits.length) 0 ++ digits, small, by simp, by simp,
    by simp [decimal.ne_nil]⟩, rfl, ?_, ?_⟩
  · simp [PlainDecimal.unsigned, Nat.digitChar]
  · simp only [PlainDecimal.distance, ofDigits_append, ofDigits_replicate_zero, decimal.denotes,
      List.length_append, List.length_replicate, width]
    simp [ofDigits]

end Point

/-- Positional notation is plain and denotes the number. -/
theorem exists_plain_positional (negative : Bool) {d : Decimal} (nonzero : d.digits ≠ 0) :
    ∃ plain : PlainDecimal, plain.negative = negative ∧ plain.unsigned = d.positional ∧
      plain.distance = decimalValue d.digits d.scale := by
  obtain ⟨digits, decimal, head, written⟩ := exists_digits nonzero
  simp only [Decimal.positional]
  rw [written, List.length_map]
  split
  next whole =>
    obtain ⟨zeros, isZeros⟩ := Int.eq_ofNat_of_zero_le whole
    rw [isZeros]
    exact exists_plain_behind negative decimal head zeros
  next notWhole =>
    obtain ⟨places, isPlaces⟩ := Int.eq_ofNat_of_zero_le (by omega : 0 ≤ -d.scale)
    have isScale : d.scale = -(places : ℤ) := by omega
    rw [isPlaces, Int.toNat_natCast, isScale]
    split
    next inside => exact exists_plain_between negative decimal head (by omega) inside
    next outside => exact exists_plain_front negative decimal (by omega)

end OpenBanking.Double
