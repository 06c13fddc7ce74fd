import Mathlib.Algebra.Order.Field.Power
import Mathlib.Order.Monotone.Basic
import Mathlib.Tactic.Linarith
import Mathlib.Tactic.NormNum
import Mathlib.Tactic.Positivity
import Mathlib.Tactic.Ring
import OpenBanking.Double.Basic

/-!
# What doubles denote

A finite double denotes a rational number, and the bits below its sign count how far it is from
zero: they rise with the distance, by one step from each double to the next. So a number rounds to a
double, to nearest with ties to even, if it lies between the midpoints to the two neighbours; and it
rounds to no other double of that sign.
-/

namespace OpenBanking.Double

/-! ## Sign and magnitude -/

/-- The bits below the sign are sixty-three. -/
theorem magnitude_lt (x : Double) : x.magnitude < 2 ^ 63 := by
  rw [magnitude, Nat.pow_eq]
  exact Nat.mod_lt _ (by decide)

/-- The bits are those of the sign and those below it. -/
theorem toNat_bits (x : Double) :
    x.bits.toNat = (if x.negative then 2 ^ 63 else 0) + x.magnitude := by
  have fits := x.bits.toNat_lt
  simp only [negative, magnitude, Nat.pow_eq, decide_eq_true_eq]
  split <;> omega

/-- Sign and magnitude make the double. -/
theorem ext_magnitude {x y : Double} (sign : x.negative = y.negative)
    (same : x.magnitude = y.magnitude) : x = y := by
  have bits : x.bits.toNat = y.bits.toNat := by rw [toNat_bits, toNat_bits, sign, same]
  obtain ⟨bitsX⟩ := x
  obtain ⟨bitsY⟩ := y
  exact congrArg mk (UInt64.toNat_inj.1 bits)

section OfMagnitude

variable (negative : Bool) {magnitude : Nat} (fits : magnitude < 2 ^ 63)

include fits

/-- The bits of a sign and a magnitude. -/
theorem toNat_bits_ofMagnitude :
    (ofMagnitude negative magnitude).bits.toNat =
      (if negative then 2 ^ 63 else 0) + magnitude := by
  rw [ofMagnitude, Nat.pow_eq]
  refine UInt64.toNat_ofNat_of_lt' ?_
  rw [UInt64.size]
  split <;> omega

/-- The sign that a double is made of. -/
theorem negative_ofMagnitude : (ofMagnitude negative magnitude).negative = negative := by
  rw [Double.negative, toNat_bits_ofMagnitude negative fits, Nat.pow_eq]
  cases negative with
  | true => simp
  | false => simpa using fits

/-- The magnitude that a double is made of. -/
theorem magnitude_ofMagnitude : (ofMagnitude negative magnitude).magnitude = magnitude := by
  rw [Double.magnitude, toNat_bits_ofMagnitude negative fits, Nat.pow_eq]
  split <;> omega

end OfMagnitude

/-- Finite are the doubles below infinity. -/
theorem isFinite_iff (x : Double) : x.isFinite = true ↔ x.magnitude < 2047 * 2 ^ 52 := by
  have fits := x.magnitude_lt
  have field : x.isFinite = true ↔ x.magnitude / 2 ^ 52 ≠ 2047 := decide_eq_true_iff
  rw [field]
  omega

/-- The significand is what the magnitude holds beside the power of two. -/
theorem significand_eq (x : Double) :
    x.significand = x.magnitude - (x.magnitude / 2 ^ 52 - 1) * 2 ^ 52 := by
  have fields : x.significand =
      if x.magnitude / 2 ^ 52 = 0 then x.magnitude % 2 ^ 52
      else 2 ^ 52 + x.magnitude % 2 ^ 52 := rfl
  by_cases subnormal : x.magnitude / 2 ^ 52 = 0
  · rw [fields, if_pos subnormal]
    omega
  · rw [fields, if_neg subnormal]
    omega

/-- The power of two that the significand is scaled by. -/
theorem exponent_eq (x : Double) :
    x.exponent = ((x.magnitude / 2 ^ 52 - 1 : Nat) : ℤ) - 1074 := by
  have field : x.exponent = (max (x.magnitude / 2 ^ 52) 1 : Nat) - 1075 := rfl
  omega

/-- The significand is even where the magnitude is. -/
theorem significand_mod_two (x : Double) : x.significand % 2 = x.magnitude % 2 := by
  rw [significand_eq]
  omega

/-! ## Distances -/

/-- How many times the least positive double a magnitude denotes. -/
def unitsOf (magnitude : Nat) : Nat :=
  if magnitude / 2 ^ 52 = 0 then magnitude
  else (2 ^ 52 + magnitude % 2 ^ 52) * 2 ^ (magnitude / 2 ^ 52 - 1)

/-- A whole number of up to fifty-three bits, scaled by a power of two, is the magnitude that has
these as its fields. -/
theorem unitsOf_grid {scale whole : Nat} (greatest : whole ≤ 2 ^ 53)
    (least : 2 ^ 52 ≤ whole ∨ scale = 0) :
    unitsOf (scale * 2 ^ 52 + whole) = whole * 2 ^ scale := by
  by_cases subnormal : whole < 2 ^ 52
  · obtain rfl : scale = 0 := by omega
    have field : (0 * 2 ^ 52 + whole) / 2 ^ 52 = 0 := by omega
    rw [unitsOf, if_pos field]
    omega
  · rcases Nat.lt_or_eq_of_le greatest with below | rfl
    · have field : (scale * 2 ^ 52 + whole) / 2 ^ 52 = scale + 1 := by omega
      have fraction : 2 ^ 52 + (scale * 2 ^ 52 + whole) % 2 ^ 52 = whole := by omega
      rw [unitsOf, field, fraction, if_neg (by omega), Nat.add_sub_cancel]
    · have field : (scale * 2 ^ 52 + 2 ^ 53) / 2 ^ 52 = scale + 2 := by omega
      have fraction : 2 ^ 52 + (scale * 2 ^ 52 + 2 ^ 53) % 2 ^ 52 = 2 ^ 52 := by omega
      rw [unitsOf, field, fraction, if_neg (by omega), show scale + 2 - 1 = scale + 1 by omega]
      ring

/-- Every magnitude is a whole number of up to fifty-three bits, scaled. -/
theorem exists_grid (magnitude : Nat) : ∃ scale whole, magnitude = scale * 2 ^ 52 + whole ∧
    whole < 2 ^ 53 ∧ (2 ^ 52 ≤ whole ∨ scale = 0) ∧ scale = magnitude / 2 ^ 52 - 1 := by
  refine ⟨magnitude / 2 ^ 52 - 1, magnitude - (magnitude / 2 ^ 52 - 1) * 2 ^ 52, ?_, ?_, ?_, rfl⟩
  all_goals omega

/-- From one magnitude to the next it is one step of the scale. -/
theorem unitsOf_succ (magnitude : Nat) :
    unitsOf (magnitude + 1) = unitsOf magnitude + 2 ^ (magnitude / 2 ^ 52 - 1) := by
  obtain ⟨scale, whole, parts, greatest, least, field⟩ := exists_grid magnitude
  rw [← field, parts, Nat.add_assoc, unitsOf_grid (by omega) (by omega),
    unitsOf_grid (by omega) least]
  ring

/-- Magnitudes rise with what they denote. -/
theorem strictMono_unitsOf : StrictMono unitsOf := by
  refine strictMono_nat_of_lt_succ fun magnitude => ?_
  rw [unitsOf_succ]
  have step : 0 < 2 ^ (magnitude / 2 ^ 52 - 1) := by positivity
  omega

/-- The number that a magnitude denotes. -/
def distanceOf (magnitude : Nat) : ℚ := unitsOf magnitude * (2 : ℚ) ^ (-1074 : ℤ)

/-- Magnitudes rise with their distances from zero. -/
theorem strictMono_distanceOf : StrictMono distanceOf := by
  intro k l less
  have units : (unitsOf k : ℚ) < unitsOf l := by exact_mod_cast strictMono_unitsOf less
  have unit : (0 : ℚ) < (2 : ℚ) ^ (-1074 : ℤ) := by positivity
  exact mul_lt_mul_of_pos_right units unit

/-- Zero denotes zero. -/
@[simp]
theorem distanceOf_zero : distanceOf 0 = 0 := by simp [distanceOf, unitsOf]

/-- No distance is negative. -/
theorem distanceOf_nonneg (magnitude : Nat) : 0 ≤ distanceOf magnitude := by
  rw [← distanceOf_zero]
  exact strictMono_distanceOf.monotone (Nat.zero_le magnitude)

/-- A whole number of up to fifty-three bits, scaled by a power of two, as a distance. -/
theorem distanceOf_grid {scale whole : Nat} (greatest : whole ≤ 2 ^ 53)
    (least : 2 ^ 52 ≤ whole ∨ scale = 0) :
    distanceOf (scale * 2 ^ 52 + whole) = whole * (2 : ℚ) ^ ((scale : ℤ) - 1074) := by
  rw [distanceOf, unitsOf_grid greatest least, sub_eq_add_neg, zpow_add₀ (by norm_num),
    zpow_natCast, Nat.cast_mul, Nat.cast_pow, Nat.cast_ofNat, mul_assoc]

/-- The step from one distance to the next. -/
theorem distanceOf_succ (magnitude : Nat) :
    distanceOf (magnitude + 1) =
      distanceOf magnitude + (2 : ℚ) ^ (((magnitude / 2 ^ 52 - 1 : Nat) : ℤ) - 1074) := by
  rw [distanceOf, distanceOf, unitsOf_succ, sub_eq_add_neg, zpow_add₀ (by norm_num),
    zpow_natCast, Nat.cast_add, Nat.cast_pow, Nat.cast_ofNat, add_mul]

/-- The distance of a finite double from zero. -/
def distance (x : Double) : ℚ := x.significand * (2 : ℚ) ^ x.exponent

/-- The distance of a double is that of its magnitude. -/
theorem distance_eq (x : Double) : x.distance = distanceOf x.magnitude := by
  have parts : x.magnitude = (x.magnitude / 2 ^ 52 - 1) * 2 ^ 52 + x.significand := by
    rw [significand_eq]
    omega
  have grid := @distanceOf_grid (x.magnitude / 2 ^ 52 - 1) x.significand
    (by rw [significand_eq]; omega) (by rw [significand_eq]; omega)
  rw [← parts] at grid
  rw [grid, distance, exponent_eq]

/-- A number with a sign. -/
def signed (negative : Bool) (number : ℚ) : ℚ := if negative then -number else number

/-- The number that a finite double denotes. -/
def value (x : Double) : ℚ := signed x.negative x.distance

/-! ## Rounding -/

/-- A number rounds to a double, to nearest with ties to even: the double is finite and no finite
one is nearer; if one of another value is as near, the significand is even; and the number is not so
great that it rounds to an infinity. -/
structure RoundsTo (number : ℚ) (x : Double) : Prop where
  /-- The double is finite. -/
  isFinite : x.isFinite = true
  /-- The number is nearer to zero than the midpoint of the greatest finite double and what would
  be the next one. -/
  inRange : |number| < 2 ^ 1024 - 2 ^ 970
  /-- No finite double is nearer. -/
  nearest : ∀ y : Double, y.isFinite = true → |number - x.value| ≤ |number - y.value|
  /-- A tie goes to the even significand. -/
  even : ∀ y : Double, y.isFinite = true → y.value ≠ x.value →
    |number - y.value| = |number - x.value| → x.significand % 2 = 0

/-- Below the midpoint to what is above, a number is nearer to what is below. -/
theorem abs_sub_le_of_le_midpoint {number low high far : ℚ} (less : low < high) (beyond : high ≤ far)
    (below : number ≤ (low + high) / 2) :
    |number - low| ≤ |number - far| ∧
      (|number - far| = |number - low| → number = (low + high) / 2) := by
  have away : |number - far| = far - number := by
    rw [abs_sub_comm, abs_of_nonneg (by linarith)]
  rw [away]
  constructor
  · rw [abs_le]
    constructor <;> linarith
  · intro tie
    rcases abs_choice (number - low) with same | same
    · rw [same] at tie
      linarith
    · rw [same] at tie
      linarith

/-- Above the midpoint to what is below, a number is nearer to what is above. -/
theorem abs_sub_le_of_midpoint_le {number low high far : ℚ} (less : low < high) (beyond : far ≤ low)
    (above : (low + high) / 2 ≤ number) :
    |number - high| ≤ |number - far| ∧
      (|number - far| = |number - high| → number = (low + high) / 2) := by
  obtain ⟨nearer, tie⟩ := @abs_sub_le_of_le_midpoint (-number) (-high) (-low) (-far)
    (by linarith) (by linarith) (by linarith)
  have turned (other : ℚ) : |-number - -other| = |number - other| := by
    rw [← abs_neg]
    congr 1
    ring
  rw [turned, turned] at nearer tie
  exact ⟨nearer, fun same => by linarith [tie same]⟩

/-- A distance lies between the midpoints from a magnitude to its neighbours, where the magnitude
gets a midpoint only if it is even. -/
structure Between (distance : ℚ) (magnitude : Nat) : Prop where
  /-- The distance is one. -/
  nonneg : 0 ≤ distance
  /-- It is not above the midpoint to the next magnitude. -/
  le_midpoint : distance ≤ (distanceOf magnitude + distanceOf (magnitude + 1)) / 2
  /-- Nor is it there, unless the magnitude is even. -/
  even_of_eq : distance = (distanceOf magnitude + distanceOf (magnitude + 1)) / 2 →
    magnitude % 2 = 0
  /-- It is not below the midpoint to the magnitude before. -/
  midpoint_le : ∀ before, magnitude = before + 1 →
    (distanceOf before + distanceOf magnitude) / 2 ≤ distance
  /-- Nor is it there, unless the magnitude is even. -/
  even_of_eq_before : ∀ before, magnitude = before + 1 →
    distance = (distanceOf before + distanceOf magnitude) / 2 → magnitude % 2 = 0

/-- What lies between the midpoints is nearest to the magnitude. -/
theorem Between.nearest {distance : ℚ} {magnitude : Nat} (between : Between distance magnitude)
    (negative : Bool) (other : Nat) :
    |distance - distanceOf magnitude| ≤ |distance - signed negative (distanceOf other)| ∧
      (signed negative (distanceOf other) ≠ distanceOf magnitude →
        |distance - signed negative (distanceOf other)| = |distance - distanceOf magnitude| →
          magnitude % 2 = 0) := by
  have mono := strictMono_distanceOf.monotone
  -- The other number is this one, or it is beyond one of the neighbours.
  have beyond : signed negative (distanceOf other) = distanceOf magnitude ∨
      distanceOf (magnitude + 1) ≤ signed negative (distanceOf other) ∨
      (∃ before, magnitude = before + 1 ∧ signed negative (distanceOf other) ≤ distanceOf before) ∨
      (magnitude = 0 ∧ signed negative (distanceOf other) ≤ 0) := by
    have far := distanceOf_nonneg other
    cases negative with
    | true =>
      have opposite : signed true (distanceOf other) ≤ 0 := by
        simpa [signed] using far
      cases magnitude with
      | zero => exact .inr (.inr (.inr ⟨rfl, opposite⟩))
      | succ before =>
        exact .inr (.inr (.inl ⟨before, rfl, opposite.trans (distanceOf_nonneg before)⟩))
    | false =>
      rcases Nat.lt_trichotomy other magnitude with less | same | greater
      · obtain ⟨before, rfl⟩ : ∃ before, magnitude = before + 1 := ⟨magnitude - 1, by omega⟩
        exact .inr (.inr (.inl ⟨before, rfl, mono (by omega)⟩))
      · exact .inl (congrArg distanceOf same)
      · exact .inr (.inl (mono greater))
  rcases beyond with same | above | ⟨before, rfl, below⟩ | ⟨rfl, below⟩
  · rw [same]
    exact ⟨le_refl _, fun differ => absurd rfl differ⟩
  · obtain ⟨nearer, tie⟩ := abs_sub_le_of_le_midpoint
      (strictMono_distanceOf magnitude.lt_add_one) above between.le_midpoint
    exact ⟨nearer, fun _ same => between.even_of_eq (tie same)⟩
  · obtain ⟨nearer, tie⟩ := abs_sub_le_of_midpoint_le
      (strictMono_distanceOf before.lt_add_one) below (between.midpoint_le before rfl)
    exact ⟨nearer, fun _ same => between.even_of_eq_before before rfl (tie same)⟩
  · rw [distanceOf_zero, sub_zero, abs_of_nonneg between.nonneg, abs_of_nonneg]
    · exact ⟨by linarith, fun _ _ => rfl⟩
    · have := between.nonneg
      linarith

/-- The greatest finite magnitude and the one of infinity, as multiples of half the step between
them. -/
theorem distanceOf_last :
    distanceOf (2045 * 2 ^ 52 + (2 ^ 53 - 1)) = (2 ^ 53 - 1) * (2 * 2 ^ 970) ∧
      distanceOf (2045 * 2 ^ 52 + 2 ^ 53) = 2 ^ 53 * (2 * 2 ^ 970) := by
  have unit : (2 : ℚ) ^ (((2045 : Nat) : ℤ) - 1074) = 2 * 2 ^ 970 := by
    rw [← pow_succ', ← zpow_natCast]
    norm_num
  constructor
  · rw [distanceOf_grid (by norm_num) (by norm_num), unit]
    norm_num
  · rw [distanceOf_grid (by norm_num) (by norm_num), unit]
    norm_num

/-- The end of the range of finite doubles, as a multiple of half the last step. -/
theorem range_eq : (2 : ℚ) ^ 1024 - 2 ^ 970 = (2 ^ 54 - 1) * 2 ^ 970 :=
  (congrArg (· - (2 : ℚ) ^ 970) (pow_add 2 54 970)).trans (sub_one_mul _ _).symm

/-- Below infinity, what lies between the midpoints is in range. -/
theorem Between.inRange {distance : ℚ} {magnitude : Nat} (between : Between distance magnitude)
    (below : magnitude < 2047 * 2 ^ 52) : distance < 2 ^ 1024 - 2 ^ 970 := by
  obtain ⟨last, infinity⟩ := distanceOf_last
  have half := between.le_midpoint
  have positive : (0 : ℚ) < 2 ^ 970 := by positivity
  rw [range_eq]
  generalize (2 : ℚ) ^ 970 = step at *
  rcases Nat.lt_or_eq_of_le (show magnitude ≤ 2045 * 2 ^ 52 + (2 ^ 53 - 1) by omega) with less | rfl
  · have own := strictMono_distanceOf magnitude.lt_add_one
    have next := strictMono_distanceOf.monotone (Nat.add_one_le_of_lt less)
    rw [last] at next
    linarith
  · -- The greatest magnitude is odd, so the midpoint beyond it is out of range.
    rw [Nat.add_assoc, Nat.sub_add_cancel (by norm_num), last, infinity] at half
    refine lt_of_le_of_ne (by linarith) fun same => ?_
    have even := between.even_of_eq (by
      rw [Nat.add_assoc, Nat.sub_add_cancel (by norm_num), last, infinity, same]
      ring)
    omega

/-- In range, a distance lies between the midpoints of no magnitude but a finite one. -/
theorem Between.lt_infinity {distance : ℚ} {magnitude : Nat} (between : Between distance magnitude)
    (inRange : distance < 2 ^ 1024 - 2 ^ 970) : magnitude < 2047 * 2 ^ 52 := by
  by_contra beyond
  obtain ⟨before, rfl⟩ : ∃ before, magnitude = before + 1 := ⟨magnitude - 1, by omega⟩
  obtain ⟨last, infinity⟩ := distanceOf_last
  have half := between.midpoint_le before rfl
  have lastLe := strictMono_distanceOf.monotone
    (show 2045 * 2 ^ 52 + (2 ^ 53 - 1) ≤ before by omega)
  have infinityLe := strictMono_distanceOf.monotone
    (show 2045 * 2 ^ 52 + 2 ^ 53 ≤ before + 1 by omega)
  rw [range_eq] at inRange
  rw [last] at lastLe
  rw [infinity] at infinityLe
  generalize (2 : ℚ) ^ 970 = step at inRange lastLe infinityLe
  linarith

/-- A sign on both sides makes no difference. -/
theorem abs_signed_sub_signed (negative other : Bool) (number distance : ℚ) :
    |signed negative number - signed other distance| =
      |number - signed (negative != other) distance| := by
  cases negative <;> cases other
  · rfl
  · rfl
  · rw [← abs_neg]
    simp [signed, sub_eq_add_neg, add_comm]
  · rw [← abs_neg]
    simp [signed, sub_eq_add_neg, add_comm]

/-- What lies between the midpoints of a finite double rounds to it. -/
theorem roundsTo_of_between {x : Double} (finite : x.isFinite = true) {number : ℚ}
    (between : Between number x.magnitude) : RoundsTo (signed x.negative number) x := by
  have own : |signed x.negative number - x.value| = |number - distanceOf x.magnitude| := by
    rw [value, abs_signed_sub_signed, bne_self_eq_false, x.distance_eq]
    rfl
  have size : |signed x.negative number| = number := by
    cases x.negative <;> simp [signed, abs_of_nonneg between.nonneg]
  refine ⟨finite, ?_, ?_, ?_⟩
  · rw [size]
    exact between.inRange (x.isFinite_iff.1 finite)
  · intro y _
    rw [own, value, abs_signed_sub_signed, y.distance_eq]
    exact (between.nearest _ _).1
  · intro y _ differ tie
    rw [own, value, abs_signed_sub_signed, y.distance_eq] at tie
    rw [x.significand_mod_two]
    refine (between.nearest _ _).2 ?_ tie
    intro same
    refine differ ?_
    rw [value, value, x.distance_eq, y.distance_eq, ← same]
    cases x.negative <;> cases y.negative <;> simp [signed]

/-- The double of a sign and a finite magnitude is what a number of that sign rounds to that lies
between the midpoints of the magnitude. -/
theorem roundsTo_ofMagnitude (negative : Bool) {magnitude : Nat} (below : magnitude < 2047 * 2 ^ 52)
    {number : ℚ} (between : Between number magnitude) :
    RoundsTo (signed negative number) (ofMagnitude negative magnitude) ∧
      (ofMagnitude negative magnitude).negative = negative := by
  have fits : magnitude < 2 ^ 63 := by omega
  have sign := negative_ofMagnitude negative fits
  have same := magnitude_ofMagnitude negative fits
  have finite : (ofMagnitude negative magnitude).isFinite = true := by
    rw [isFinite_iff, same]
    exact below
  have rounds : RoundsTo (signed (ofMagnitude negative magnitude).negative number)
      (ofMagnitude negative magnitude) := roundsTo_of_between finite (same.symm ▸ between)
  rw [sign] at rounds
  exact ⟨rounds, sign⟩

/-- Halfway between two numbers, what stands between them is nearer. -/
theorem abs_sub_lt_of_between {number low middle high : ℚ}
    (tie : |number - low| = |number - high|) (above : low < middle) (below : middle < high) :
    |number - middle| < |number - low| := by
  have half : number = (low + high) / 2 := by
    rcases abs_eq_abs.1 tie with same | opposite <;> linarith
  rw [half, abs_lt, abs_of_pos (by linarith)]
  constructor <;> linarith

/-- A number does not round to two doubles of one sign, the first of which is nearer to zero. -/
theorem RoundsTo.not_magnitude_lt {number : ℚ} {x y : Double} (left : RoundsTo number x)
    (right : RoundsTo number y) (sign : x.negative = y.negative) : ¬x.magnitude < y.magnitude := by
  intro less
  -- What comes behind the first one has the sign of both.
  have fits : x.magnitude + 1 < 2 ^ 63 := lt_of_le_of_lt less y.magnitude_lt
  let next := ofMagnitude x.negative (x.magnitude + 1)
  have nextMagnitude : next.magnitude = x.magnitude + 1 := magnitude_ofMagnitude _ fits
  have nextSign : next.negative = x.negative := negative_ofMagnitude _ fits
  have finite : next.isFinite = true := by
    have below := y.isFinite_iff.1 right.isFinite
    rw [isFinite_iff, nextMagnitude]
    omega
  obtain ⟨number, rfl⟩ : ∃ size, number = signed x.negative size :=
    ⟨signed x.negative number, by cases x.negative <;> simp [signed]⟩
  have away {z : Double} (same : z.negative = x.negative) :
      |signed x.negative number - z.value| = |number - distanceOf z.magnitude| := by
    rw [value, abs_signed_sub_signed, same, bne_self_eq_false, z.distance_eq]
    rfl
  have tie : |number - distanceOf x.magnitude| = |number - distanceOf y.magnitude| := by
    rw [← away rfl, ← away sign.symm]
    exact le_antisymm (left.nearest y right.isFinite) (right.nearest x left.isFinite)
  have differ : y.value ≠ x.value := by
    rw [value, value, ← sign, x.distance_eq, y.distance_eq]
    have apart := (strictMono_distanceOf less).ne'
    cases x.negative <;> simpa [signed] using apart
  rcases Nat.lt_or_eq_of_le (Nat.succ_le_of_lt less) with far | adjacent
  · -- Then it is nearer than either.
    have nearer := abs_sub_lt_of_between tie (strictMono_distanceOf x.magnitude.lt_add_one)
      (strictMono_distanceOf far)
    have least := left.nearest next finite
    rw [away rfl, away nextSign, nextMagnitude] at least
    exact absurd nearer (not_lt.2 least)
  · -- Then the two are neighbours, and not both even.
    have evenX := left.even y right.isFinite differ (by rw [away rfl, away sign.symm, tie])
    have evenY := right.even x left.isFinite differ.symm (by rw [away rfl, away sign.symm, tie])
    rw [significand_mod_two] at evenX evenY
    omega

/-- No number rounds to two doubles of one sign. -/
theorem RoundsTo.unique {number : ℚ} {x y : Double} (left : RoundsTo number x)
    (right : RoundsTo number y) (sign : x.negative = y.negative) : x = y :=
  ext_magnitude sign (Nat.le_antisymm (not_lt.1 (right.not_magnitude_lt left sign.symm))
    (not_lt.1 (left.not_magnitude_lt right sign)))

end OpenBanking.Double
