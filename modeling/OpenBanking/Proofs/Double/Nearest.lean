import Mathlib.Tactic.FieldSimp
import OpenBanking.Double.Reading
import OpenBanking.Proofs.Double.Value

/-!
# Correct rounding

The double that is computed for a quotient of natural numbers is the one that the quotient rounds
to, unless that is an infinity. So is the one that is read from decimal digits with a power of ten,
also where the power is cut short.
-/

namespace OpenBanking.Double

/-! ## Powers and quotients -/

/-- A power is the quotient of its parts of positive and of negative exponent. -/
theorem zpow_eq_div (base : ℚ) (k : ℤ) : base ^ k = base ^ k.toNat / base ^ (-k).toNat := by
  rcases Int.le_total 0 k with nonneg | nonpos
  · obtain ⟨n, rfl⟩ := Int.eq_ofNat_of_zero_le nonneg
    simp
  · obtain ⟨n, whole⟩ := Int.eq_ofNat_of_zero_le (Int.neg_nonneg_of_nonpos nonpos)
    obtain rfl : k = -(n : ℤ) := by omega
    simp

/-- A quotient is scaled by a power of two through its numerator or its denominator. -/
theorem div_zpow_eq (num den : Nat) (k : ℤ) :
    (num : ℚ) / den / (2 : ℚ) ^ k =
      ((num * Nat.pow 2 (-k).toNat : Nat) : ℚ) / ((den * Nat.pow 2 k.toNat : Nat) : ℚ) := by
  have left : (2 : ℚ) ^ k.toNat ≠ 0 := by positivity
  have right : (2 : ℚ) ^ (-k).toNat ≠ 0 := by positivity
  rw [zpow_eq_div]
  push_cast [Nat.pow_eq]
  rw [div_div_div_eq]

/-! ## Whole numbers next to quotients -/

/-- A whole number is nearest to a number, a half going to the even neighbour. -/
structure IsRound (number : ℚ) (whole : Nat) : Prop where
  /-- The number is at most half above. -/
  le_add : number ≤ whole + 1 / 2
  /-- It is half above only an even one. -/
  even_of_eq_add : number = whole + 1 / 2 → whole % 2 = 0
  /-- It is at most half below. -/
  sub_le : (whole : ℚ) - 1 / 2 ≤ number
  /-- It is half below only an even one. -/
  even_of_eq_sub : number = whole - 1 / 2 → whole % 2 = 0

/-- The rounded quotient is nearest to the quotient. -/
theorem isRound_roundQuotient (num : Nat) {den : Nat} (positive : 0 < den) :
    IsRound ((num : ℚ) / den) (roundQuotient num den) := by
  have denPositive : (0 : ℚ) < den := by exact_mod_cast positive
  have parts : (num : ℚ) = den * ((num / den : Nat) : ℚ) + ((num % den : Nat) : ℚ) := by
    exact_mod_cast (Nat.div_add_mod num den).symm
  have least : (0 : ℚ) ≤ ((num % den : Nat) : ℚ) := Nat.cast_nonneg _
  have greatest : ((num % den : Nat) : ℚ) < den := by exact_mod_cast Nat.mod_lt num positive
  -- What stands behind the whole part is at least zero and less than one.
  obtain ⟨behind, isBehind⟩ : ∃ behind : ℚ, behind = ((num % den : Nat) : ℚ) / den := ⟨_, rfl⟩
  have quotient : (num : ℚ) / den = ((num / den : Nat) : ℚ) + behind := by
    rw [isBehind, parts]
    field_simp
  have nonneg : 0 ≤ behind := by rw [isBehind]; positivity
  have less : behind < 1 := by rwa [isBehind, div_lt_one denPositive]
  have halves : (2 * (num % den) < den ↔ behind < 1 / 2) ∧
      (den < 2 * (num % den) ↔ 1 / 2 < behind) := by
    rw [isBehind, div_lt_div_iff₀ denPositive (by norm_num), div_lt_div_iff₀ (by norm_num) denPositive]
    constructor
    · rw [one_mul, mul_comm]
      exact_mod_cast Iff.rfl
    · rw [one_mul, mul_comm]
      exact_mod_cast Iff.rfl
  have next : ((num / den + 1 : Nat) : ℚ) = ((num / den : Nat) : ℚ) + 1 := Nat.cast_succ _
  rw [quotient]
  unfold roundQuotient
  simp only
  split
  next below =>
    have small := halves.1.1 below
    exact ⟨by linarith, fun tie => absurd tie (by linarith), by linarith,
      fun tie => absurd tie (by linarith)⟩
  next notBelow =>
    split
    next above =>
      have great := halves.2.1 above
      exact ⟨by linarith, fun tie => absurd tie (by linarith), by linarith,
        fun tie => absurd tie (by linarith)⟩
    next notAbove =>
      have half : behind = 1 / 2 := le_antisymm
        (not_lt.1 fun more => notAbove (halves.2.2 more))
        (not_lt.1 fun more => notBelow (halves.1.2 more))
      split
      next even => exact ⟨by linarith, fun _ => even, by linarith, fun _ => even⟩
      next odd =>
        have even : (num / den + 1) % 2 = 0 := by omega
        exact ⟨by linarith, fun _ => even, by linarith, fun _ => even⟩

/-! ## The power of two below a quotient -/

/-- The binary exponent is that of the greatest power of two up to the quotient. -/
theorem binaryExponent_bounds {num den : Nat} (numPositive : 0 < num) (denPositive : 0 < den) :
    (2 : ℚ) ^ binaryExponent num den ≤ (num : ℚ) / den ∧
      (num : ℚ) / den < (2 : ℚ) ^ (binaryExponent num den + 1) := by
  have denCast : (0 : ℚ) < den := by exact_mod_cast denPositive
  have numLeast : (2 : ℚ) ^ num.log2 ≤ num := by
    exact_mod_cast Nat.log2_self_le numPositive.ne'
  have numGreatest : (num : ℚ) < 2 ^ (num.log2 + 1) := by exact_mod_cast Nat.lt_log2_self
  have denLeast : (2 : ℚ) ^ den.log2 ≤ den := by
    exact_mod_cast Nat.log2_self_le denPositive.ne'
  have denGreatest : (den : ℚ) < 2 ^ (den.log2 + 1) := by exact_mod_cast Nat.lt_log2_self
  have lower : (2 : ℚ) ^ ((num.log2 : ℤ) - den.log2 - 1) ≤ (num : ℚ) / den := by
    have power : (2 : ℚ) ^ ((num.log2 : ℤ) - den.log2 - 1) = 2 ^ num.log2 / 2 ^ (den.log2 + 1) := by
      rw [sub_sub, zpow_sub₀ (by norm_num)]
      norm_cast
    rw [power]
    exact div_le_div₀ (by positivity) numLeast denCast denGreatest.le
  have upper : (num : ℚ) / den < (2 : ℚ) ^ ((num.log2 : ℤ) - den.log2 + 1) := by
    have power : (2 : ℚ) ^ ((num.log2 : ℤ) - den.log2 + 1) = 2 ^ (num.log2 + 1) / 2 ^ den.log2 := by
      rw [sub_add_eq_add_sub, zpow_sub₀ (by norm_num)]
      norm_cast
    rw [power]
    exact div_lt_div₀ numGreatest denLeast (by positivity) (by positivity)
  have below (k : ℤ) : num * Nat.pow 2 (-k).toNat < den * Nat.pow 2 k.toNat ↔
      (num : ℚ) / den < (2 : ℚ) ^ k := by
    rw [zpow_eq_div, div_lt_div_iff₀ denCast (by positivity), mul_comm ((2 : ℚ) ^ k.toNat)]
    exact_mod_cast Iff.rfl
  unfold binaryExponent
  simp only [below]
  split
  next less => exact ⟨lower, by rwa [sub_add_cancel]⟩
  next least => exact ⟨not_lt.1 least, upper⟩

/-! ## The nearest double -/

/-- Up to half the least positive double is nearest to zero. -/
theorem between_zero {number : ℚ} (nonneg : 0 ≤ number) (small : number ≤ distanceOf 1 / 2) :
    Between number 0 :=
  ⟨nonneg, by simpa using small, fun _ => rfl, nofun, nofun⟩

section Grid

variable {number : ℚ} {scale whole : Nat} (round : IsRound number whole)

include round

/-- Below the fifty-fourth bit a number is not rounded above it. -/
theorem IsRound.le_pow (greatest : number < 2 ^ 53) : whole ≤ 2 ^ 53 := by
  have sub_le := round.sub_le
  have less : (whole : ℚ) < 2 ^ 53 + 1 := by linarith
  exact Nat.le_of_lt_succ (by exact_mod_cast less)

/-- From the fifty-third bit on a number is not rounded below it. -/
theorem IsRound.pow_le (least : 2 ^ 52 ≤ number) : 2 ^ 52 ≤ whole := by
  have le_add := round.le_add
  have less : (2 : ℚ) ^ 52 < whole + 1 := by linarith
  exact Nat.le_of_lt_succ (by exact_mod_cast less)

variable (greatest : number < 2 ^ 53) (least : 2 ^ 52 ≤ number ∨ scale = 0)

include greatest least

/-- The number, scaled by a power of two, is not above the midpoint from the whole number, scaled
so, to the next magnitude, and at the midpoint the whole number is even. -/
theorem le_midpoint_grid :
    number * (2 : ℚ) ^ ((scale : ℤ) - 1074) ≤
        (distanceOf (scale * 2 ^ 52 + whole) + distanceOf (scale * 2 ^ 52 + whole + 1)) / 2 ∧
      (number * (2 : ℚ) ^ ((scale : ℤ) - 1074) =
        (distanceOf (scale * 2 ^ 52 + whole) + distanceOf (scale * 2 ^ 52 + whole + 1)) / 2 →
          whole % 2 = 0) := by
  have own := distanceOf_grid (round.le_pow greatest) (least.imp_left round.pow_le)
  have next : distanceOf (scale * 2 ^ 52 + whole) + (2 : ℚ) ^ ((scale : ℤ) - 1074) ≤
      distanceOf (scale * 2 ^ 52 + whole + 1) := by
    rw [distanceOf_succ]
    have reaches := least.imp_left round.pow_le
    have scales : (scale : ℤ) - 1074 ≤ (((scale * 2 ^ 52 + whole) / 2 ^ 52 - 1 : Nat) : ℤ) - 1074 := by
      omega
    exact add_le_add_right (zpow_le_zpow_right₀ (by norm_num) scales) _
  have unitPositive : (0 : ℚ) < (2 : ℚ) ^ ((scale : ℤ) - 1074) := by positivity
  have le_add := round.le_add
  generalize (2 : ℚ) ^ ((scale : ℤ) - 1074) = unit at own next unitPositive ⊢
  have half : number * unit ≤ (whole + 1 / 2) * unit :=
    mul_le_mul_of_nonneg_right le_add unitPositive.le
  have middle : (whole + 1 / 2) * unit ≤
      (distanceOf (scale * 2 ^ 52 + whole) + distanceOf (scale * 2 ^ 52 + whole + 1)) / 2 := by
    rw [own] at next ⊢
    generalize distanceOf (scale * 2 ^ 52 + whole + 1) = beyond at next ⊢
    linarith
  refine ⟨half.trans middle, fun tie => ?_⟩
  have reached : (whole + 1 / 2) * unit ≤ number * unit := tie ▸ middle
  exact round.even_of_eq_add (le_antisymm le_add (le_of_mul_le_mul_right reached unitPositive))

/-- Nor is it below the midpoint from the magnitude before, and at that midpoint the whole number is
even. -/
theorem midpoint_le_grid {before : Nat} (isBefore : scale * 2 ^ 52 + whole = before + 1) :
    (distanceOf before + distanceOf (scale * 2 ^ 52 + whole)) / 2 ≤
        number * (2 : ℚ) ^ ((scale : ℤ) - 1074) ∧
      (number * (2 : ℚ) ^ ((scale : ℤ) - 1074) =
        (distanceOf before + distanceOf (scale * 2 ^ 52 + whole)) / 2 → whole % 2 = 0) := by
  have fits := round.le_pow greatest
  have reaches := least.imp_left round.pow_le
  have unitPositive : (0 : ℚ) < (2 : ℚ) ^ ((scale : ℤ) - 1074) := by positivity
  by_cases inside : 2 ^ 52 < whole ∨ scale = 0
  · -- The magnitude before has the same scale.
    obtain ⟨less, rfl⟩ : ∃ less, whole = less + 1 := ⟨whole - 1, by omega⟩
    obtain rfl : before = scale * 2 ^ 52 + less := by omega
    have middle :
        (distanceOf (scale * 2 ^ 52 + less) + distanceOf (scale * 2 ^ 52 + (less + 1))) / 2 =
          (((less + 1 : Nat) : ℚ) - 1 / 2) * (2 : ℚ) ^ ((scale : ℤ) - 1074) := by
      rw [distanceOf_grid fits reaches, distanceOf_grid (by omega) (by omega)]
      push_cast
      ring
    rw [middle]
    refine ⟨mul_le_mul_of_nonneg_right round.sub_le unitPositive.le, fun tie => ?_⟩
    exact round.even_of_eq_sub (mul_right_cancel₀ unitPositive.ne' tie)
  · -- The number is not below a power of two.
    have atLeast : (2 : ℚ) ^ 52 ≤ number := least.resolve_right fun none => inside (.inr none)
    have isPower : (whole : ℚ) = 2 ^ 52 := by
      have : whole = 2 ^ 52 := by omega
      exact_mod_cast this
    have own := distanceOf_grid fits reaches
    have step := strictMono_distanceOf (isBefore ▸ before.lt_add_one)
    have reached := mul_le_mul_of_nonneg_right atLeast unitPositive.le
    rw [own, isPower] at step ⊢
    generalize (2 : ℚ) ^ ((scale : ℤ) - 1074) = unit at step reached ⊢
    exact ⟨by linarith, fun tie => absurd tie (by linarith)⟩

/-- The whole number nearest to a number of up to fifty-three bits is, scaled by a power of two, the
magnitude nearest to the number scaled so. -/
theorem between_grid (nonneg : 0 ≤ number) :
    Between (number * (2 : ℚ) ^ ((scale : ℤ) - 1074)) (scale * 2 ^ 52 + whole) := by
  have parity : whole % 2 = 0 → (scale * 2 ^ 52 + whole) % 2 = 0 := by omega
  obtain ⟨above, tie⟩ := le_midpoint_grid round greatest least
  refine ⟨by positivity, above, fun same => parity (tie same), fun before isBefore => ?_,
    fun before isBefore same => ?_⟩
  · exact (midpoint_le_grid round greatest least isBefore).1
  · exact parity ((midpoint_le_grid round greatest least isBefore).2 same)

end Grid

/-- A quotient lies between the midpoints of the magnitude that is computed for it, as long as it is
in range. -/
theorem between_nearestMagnitude (num : Nat) {den : Nat} (denPositive : 0 < den)
    (inRange : (num : ℚ) / den < 2 ^ 1024 - 2 ^ 970) :
    Between ((num : ℚ) / den) (nearestMagnitude num den) := by
  unfold nearestMagnitude
  split
  next zero =>
    rw [zero, Nat.cast_zero, zero_div]
    exact between_zero le_rfl (by have := distanceOf_nonneg 1; linarith)
  next nonzero =>
    have numPositive : 0 < num := Nat.pos_of_ne_zero nonzero
    obtain ⟨lower, upper⟩ := binaryExponent_bounds numPositive denPositive
    simp only
    generalize binaryExponent num den = exponent at lower upper
    -- The scale is that of the quotient, or of the least positive double.
    obtain ⟨scale, isScale⟩ : ∃ scale : Nat, max (exponent - 52) (-1074) = (scale : ℤ) - 1074 :=
      ⟨(max (exponent - 52) (-1074) + 1074).toNat, by omega⟩
    have scaleBack : ((scale : ℤ) - 1074 + 1074).toNat = scale := by omega
    rw [isScale, scaleBack]
    have unitPositive : (0 : ℚ) < (2 : ℚ) ^ ((scale : ℤ) - 1074) := by positivity
    have denScaled : 0 < den * Nat.pow 2 ((scale : ℤ) - 1074).toNat :=
      Nat.mul_pos denPositive (Nat.pow_pos (by norm_num))
    have round := isRound_roundQuotient (num * Nat.pow 2 (-((scale : ℤ) - 1074)).toNat) denScaled
    rw [← div_zpow_eq] at round
    generalize roundQuotient _ _ = whole at round ⊢
    have greatest : (num : ℚ) / den / (2 : ℚ) ^ ((scale : ℤ) - 1074) < 2 ^ 53 := by
      rw [div_lt_iff₀ unitPositive, ← zpow_natCast, ← zpow_add₀ (by norm_num)]
      exact lt_of_lt_of_le upper (zpow_le_zpow_right₀ (by norm_num) (by push_cast; omega))
    have least : 2 ^ 52 ≤ (num : ℚ) / den / (2 : ℚ) ^ ((scale : ℤ) - 1074) ∨ scale = 0 := by
      refine or_iff_not_imp_right.2 fun positive => ?_
      rw [le_div_iff₀ unitPositive, ← zpow_natCast, ← zpow_add₀ (by norm_num)]
      exact le_trans (zpow_le_zpow_right₀ (by norm_num) (by push_cast; omega)) lower
    have between := between_grid round greatest least (by positivity)
    rw [div_mul_cancel₀ _ unitPositive.ne'] at between
    have below := between.lt_infinity inRange
    rw [Nat.pow_eq, infinityMagnitude, Nat.pow_eq, min_eq_left below.le]
    exact between

/-- A quotient in range rounds to the double that is computed for it. -/
theorem roundsTo_nearest (negative : Bool) (num : Nat) {den : Nat} (denPositive : 0 < den)
    (inRange : (num : ℚ) / den < 2 ^ 1024 - 2 ^ 970) :
    RoundsTo (signed negative ((num : ℚ) / den)) (nearest negative num den) ∧
      (nearest negative num den).negative = negative := by
  have between := between_nearestMagnitude num denPositive inRange
  have below := between.lt_infinity inRange
  exact roundsTo_ofMagnitude negative below between

/-! ## Decimal numbers -/

/-- Decimal digits with a power of ten, as a number. -/
def decimalValue (digits : Nat) (scale : ℤ) : ℚ := digits * (10 : ℚ) ^ scale

/-- The width of a number other than zero says between which powers of ten it is. -/
theorem decimalValue_bounds {digits : Nat} (nonzero : digits ≠ 0) (scale : ℤ) :
    (10 : ℚ) ^ (scale + (Nat.toDigits 10 digits).length - 1) ≤ decimalValue digits scale ∧
      decimalValue digits scale < (10 : ℚ) ^ (scale + (Nat.toDigits 10 digits).length) := by
  have positive : (0 : ℚ) < (10 : ℚ) ^ scale := by positivity
  obtain ⟨width, isWidth⟩ : ∃ width, (Nat.toDigits 10 digits).length = width + 1 :=
    Nat.exists_eq_succ_of_ne_zero (Nat.length_toDigits_pos).ne'
  have greatest : digits < 10 ^ (width + 1) :=
    (Nat.length_toDigits_le_iff (by norm_num) (by omega)).1 isWidth.le
  have least : 10 ^ width ≤ digits := by
    by_contra less
    cases width with
    | zero => exact nonzero (by omega)
    | succ width =>
      have narrow := (Nat.length_toDigits_le_iff (b := 10) (by norm_num) width.succ_pos).2
        (not_le.1 less)
      omega
  have greatestCast : (digits : ℚ) < (10 : ℚ) ^ (width + 1) := by exact_mod_cast greatest
  have leastCast : (10 : ℚ) ^ width ≤ digits := by exact_mod_cast least
  rw [isWidth, decimalValue]
  constructor
  · rw [show scale + ((width + 1 : Nat) : ℤ) - 1 = (width : ℤ) + scale by push_cast; ring,
      zpow_add₀ (by norm_num), zpow_natCast]
    exact mul_le_mul_of_nonneg_right leastCast positive.le
  · rw [add_comm, zpow_add₀ (by norm_num), zpow_natCast]
    exact mul_lt_mul_of_pos_right greatestCast positive

/-- Beyond four hundred decimal places stands nothing that is in range. -/
theorem range_le_power {k : ℤ} (large : 400 ≤ k) : (2 : ℚ) ^ 1024 - 2 ^ 970 ≤ (10 : ℚ) ^ k := by
  calc (2 : ℚ) ^ 1024 - 2 ^ 970 ≤ 2 ^ 1024 := sub_le_self _ (by positivity)
    _ ≤ 2 ^ (3 * 400) := pow_le_pow_right₀ (by norm_num) (by norm_num)
    _ = 8 ^ 400 := by rw [pow_mul]; norm_num
    _ ≤ 10 ^ 400 := pow_le_pow_left₀ (by norm_num) (by norm_num) _
    _ = (10 : ℚ) ^ (400 : ℤ) := (zpow_ofNat 10 400).symm
    _ ≤ (10 : ℚ) ^ k := zpow_le_zpow_right₀ (by norm_num) large

/-- Nor does anything behind four hundred decimal places that is more than half the least positive
double. -/
theorem power_le_half {k : ℤ} (small : k ≤ -400) : (10 : ℚ) ^ k ≤ distanceOf 1 / 2 := by
  have half : distanceOf 1 / 2 = (2 : ℚ) ^ (-1075 : ℤ) := by
    have one : unitsOf 1 = 1 := by decide
    rw [distanceOf, one, Nat.cast_one, one_mul, show (-1075 : ℤ) = -1074 - 1 by norm_num,
      zpow_sub_one₀ (by norm_num), div_eq_mul_inv]
  have powers : (2 : ℚ) ^ 1075 ≤ 10 ^ 400 :=
    calc (2 : ℚ) ^ 1075 ≤ 2 ^ (3 * 400) := pow_le_pow_right₀ (by norm_num) (by norm_num)
      _ = 8 ^ 400 := by rw [pow_mul]; norm_num
      _ ≤ 10 ^ 400 := pow_le_pow_left₀ (by norm_num) (by norm_num) _
  calc (10 : ℚ) ^ k ≤ (10 : ℚ) ^ (-400 : ℤ) := zpow_le_zpow_right₀ (by norm_num) small
    _ = (10 ^ 400)⁻¹ := by rw [zpow_neg, zpow_ofNat]
    _ ≤ (2 ^ 1075)⁻¹ := inv_anti₀ (by positivity) powers
    _ = (2 : ℚ) ^ (-1075 : ℤ) := by rw [zpow_neg, zpow_ofNat]
    _ = distanceOf 1 / 2 := half.symm

/-- A decimal number in range rounds to the double that is read from it. -/
theorem roundsTo_ofDecimal (negative : Bool) (digits : Nat) (scale : ℤ)
    (inRange : decimalValue digits scale < 2 ^ 1024 - 2 ^ 970) :
    RoundsTo (signed negative (decimalValue digits scale)) (ofDecimal negative digits scale) ∧
      (ofDecimal negative digits scale).negative = negative := by
  have nonneg : 0 ≤ decimalValue digits scale := by
    rw [decimalValue]
    positivity
  have zero (small : decimalValue digits scale ≤ distanceOf 1 / 2) :=
    roundsTo_ofMagnitude negative (by norm_num) (between_zero nonneg small)
  unfold ofDecimal
  split
  next none =>
    refine zero ?_
    have := distanceOf_nonneg 1
    rw [decimalValue, none, Nat.cast_zero, zero_mul]
    linarith
  next nonzero =>
    obtain ⟨least, greatest⟩ := decimalValue_bounds nonzero scale
    simp only
    split
    next wide => exact absurd inRange (not_lt.2 ((range_le_power (by omega)).trans least))
    next =>
      split
      next narrow => exact zero (greatest.le.trans (power_le_half (by omega)))
      next =>
        have quotient : decimalValue digits scale =
            ((digits * Nat.pow 10 scale.toNat : Nat) : ℚ) / ((Nat.pow 10 (-scale).toNat : Nat) : ℚ) := by
          rw [decimalValue, zpow_eq_div]
          push_cast [Nat.pow_eq]
          rw [mul_div_assoc]
        rw [quotient] at inRange ⊢
        exact roundsTo_nearest negative _ (Nat.pow_pos (by norm_num)) inRange

end OpenBanking.Double
