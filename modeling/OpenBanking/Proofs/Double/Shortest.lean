import Mathlib.Data.Nat.Cast.Order.Field
import OpenBanking.Double.Shortest
import OpenBanking.Proofs.Double.Nearest

/-!
# The shortest digits round back

The interval of a finite double other than zero reaches from the midpoint to the double before it to
the midpoint to the next one, so that what lies in it rounds to the double. Seventeen digits are
enough to hit it: the search for the coarsest grid with a point inside always ends, and what it ends
with rounds to the double.
-/

namespace OpenBanking.Double

/-! ## Intervals -/

namespace Interval

/-- The lower end of an interval. -/
def lowEnd (range : Interval) : ℚ := (range.low : ℚ) / range.den

/-- The number of an interval. -/
def middle (range : Interval) : ℚ := (range.mid : ℚ) / range.den

/-- The upper end of an interval. -/
def highEnd (range : Interval) : ℚ := (range.high : ℚ) / range.den

/-- A number lies in an interval, at an end only if the interval is closed. -/
structure Contains (range : Interval) (number : ℚ) : Prop where
  /-- It is not below the lower end. -/
  low_le : range.lowEnd ≤ number
  /-- It is not above the upper end. -/
  le_high : number ≤ range.highEnd
  /-- An end is in only if both are. -/
  closed_of_eq : number = range.lowEnd ∨ number = range.highEnd → range.closed = true

/-- Between the ends, every interval contains a number. -/
theorem contains_of_lt {range : Interval} {number : ℚ} (above : range.lowEnd < number)
    (below : number < range.highEnd) : range.Contains number :=
  ⟨above.le, below.le, fun atEnd => (atEnd.elim above.ne' below.ne).elim⟩

/-- The test on numerators says whether the quotient lies in the interval. -/
theorem holds_iff {range : Interval} (denPositive : 0 < range.den) (point : Nat) {den : Nat}
    (positive : 0 < den) : range.holds point den = true ↔ range.Contains ((point : ℚ) / den) := by
  have rangeDen : (0 : ℚ) < range.den := by exact_mod_cast denPositive
  have pointDen : (0 : ℚ) < den := by exact_mod_cast positive
  have low : range.low * den ≤ point * range.den ↔ range.lowEnd ≤ (point : ℚ) / den := by
    rw [lowEnd, div_le_div_iff₀ rangeDen pointDen]
    exact_mod_cast Iff.rfl
  have high : point * range.den ≤ range.high * den ↔ (point : ℚ) / den ≤ range.highEnd := by
    rw [highEnd, div_le_div_iff₀ pointDen rangeDen]
    exact_mod_cast Iff.rfl
  have lowStrict : range.low * den < point * range.den ↔ range.lowEnd < (point : ℚ) / den := by
    rw [lowEnd, div_lt_div_iff₀ rangeDen pointDen]
    exact_mod_cast Iff.rfl
  have highStrict : point * range.den < range.high * den ↔ (point : ℚ) / den < range.highEnd := by
    rw [highEnd, div_lt_div_iff₀ pointDen rangeDen]
    exact_mod_cast Iff.rfl
  unfold holds
  split
  next closed =>
    rw [Bool.and_eq_true, decide_eq_true_iff, decide_eq_true_iff, low, high]
    exact ⟨fun ⟨above, below⟩ => ⟨above, below, fun _ => closed⟩,
      fun contained => ⟨contained.low_le, contained.le_high⟩⟩
  next notClosed =>
    rw [Bool.and_eq_true, decide_eq_true_iff, decide_eq_true_iff, lowStrict, highStrict]
    constructor
    · exact fun ⟨above, below⟩ => contains_of_lt above below
    · intro contained
      have apart := mt contained.closed_of_eq notClosed
      exact ⟨lt_of_le_of_ne contained.low_le fun same => apart (.inl same.symm),
        lt_of_le_of_ne contained.le_high fun same => apart (.inr same)⟩

end Interval

/-- A multiple of a power of ten, as a quotient. -/
theorem decimalValue_eq_div (digits : Nat) (scale : ℤ) :
    decimalValue digits scale =
      ((digits * (powerOfTen scale).1 : Nat) : ℚ) / ((powerOfTen scale).2 : Nat) := by
  rw [decimalValue, zpow_eq_div, powerOfTen]
  push_cast [Nat.pow_eq]
  rw [mul_div_assoc]

/-! ## Grids of powers of ten -/

section Grid

variable {range : Interval} (denPositive : 0 < range.den)

include denPositive

/-- The test on numerators, for a multiple of a power of ten. -/
theorem holds_powerOfTen (point : Nat) (scale : ℤ) :
    range.holds (point * (powerOfTen scale).1) (powerOfTen scale).2 = true ↔
      range.Contains (decimalValue point scale) := by
  rw [decimalValue_eq_div]
  exact Interval.holds_iff denPositive _ (Nat.pow_pos (by norm_num))

/-- The grid point that is found lies in the interval. -/
theorem contains_gridPoint {tie : Tie} {scale : ℤ} {point : Nat}
    (found : range.gridPoint? tie scale = some point) : range.Contains (decimalValue point scale) := by
  rw [← holds_powerOfTen denPositive]
  simp only [Interval.gridPoint?] at found
  generalize range.mid * (powerOfTen scale).2 / (range.den * (powerOfTen scale).1) = below at found
  split at found
  next both =>
    obtain ⟨low, high⟩ := Bool.and_eq_true_iff.1 both
    split at found
    · obtain rfl := Option.some.inj found
      exact low
    · split at found
      · obtain rfl := Option.some.inj found
        exact high
      · split at found
        · obtain rfl := Option.some.inj found
          exact low
        · obtain rfl := Option.some.inj found
          exact high
  next =>
    split at found
    next low =>
      obtain rfl := Option.some.inj found
      exact low
    next =>
      split at found
      next high =>
        obtain rfl := Option.some.inj found
        exact high
      next => cases found

/-- The number stands between two neighbours on the grid, and one of them is found if the interval
contains one of them. -/
theorem exists_grid_bounds (tie : Tie) (scale : ℤ) :
    ∃ below : Nat, decimalValue below scale ≤ range.middle ∧
      range.middle < decimalValue (below + 1) scale ∧
      (range.Contains (decimalValue below scale) ∨ range.Contains (decimalValue (below + 1) scale) →
        ∃ point, range.gridPoint? tie scale = some point) := by
  have step : 0 < range.den * (powerOfTen scale).1 :=
    Nat.mul_pos denPositive (Nat.pow_pos (by norm_num))
  have denCast : (0 : ℚ) < (powerOfTen scale).2 := by
    exact_mod_cast (Nat.pow_pos (by norm_num) : 0 < (powerOfTen scale).2)
  have rangeCast : (0 : ℚ) < range.den := by exact_mod_cast denPositive
  refine ⟨range.mid * (powerOfTen scale).2 / (range.den * (powerOfTen scale).1), ?_, ?_, ?_⟩
  · have floor := Nat.mul_div_le (range.mid * (powerOfTen scale).2) (range.den * (powerOfTen scale).1)
    generalize range.mid * (powerOfTen scale).2 / (range.den * (powerOfTen scale).1) = below at floor
    rw [decimalValue_eq_div, Interval.middle, div_le_div_iff₀ denCast rangeCast]
    exact_mod_cast calc
      below * (powerOfTen scale).1 * range.den = range.den * (powerOfTen scale).1 * below := by ring
      _ ≤ range.mid * (powerOfTen scale).2 := floor
  · have ceiling := Nat.lt_mul_div_succ (range.mid * (powerOfTen scale).2) step
    generalize range.mid * (powerOfTen scale).2 / (range.den * (powerOfTen scale).1) = below at ceiling
    rw [decimalValue_eq_div, Interval.middle, div_lt_div_iff₀ rangeCast denCast]
    exact_mod_cast calc
      range.mid * (powerOfTen scale).2 < range.den * (powerOfTen scale).1 * (below + 1) := ceiling
      _ = (below + 1) * (powerOfTen scale).1 * range.den := by ring
  · intro contained
    rw [← holds_powerOfTen denPositive, ← holds_powerOfTen denPositive] at contained
    simp only [Interval.gridPoint?]
    split
    · split_ifs <;> exact ⟨_, rfl⟩
    · split
      next => exact ⟨_, rfl⟩
      next notLow =>
        split
        next => exact ⟨_, rfl⟩
        next notHigh => exact absurd contained (not_or.2 ⟨notLow, notHigh⟩)

end Grid

/-! ## The first digit -/

/-- The places before the first digit are as many as it takes to get from the number to one, if the
steps are enough for that. -/
theorem le_mul_leadingPlaces {den : Nat} : ∀ {num steps : Nat}, den ≤ num * 10 ^ steps →
    den ≤ num * 10 ^ leadingPlaces num den steps
  | _, 0, enough => enough
  | num, steps + 1, enough => by
    unfold leadingPlaces
    split
    next reached => simpa using reached
    next =>
      have later : den ≤ 10 * num * 10 ^ leadingPlaces (10 * num) den steps :=
        le_mul_leadingPlaces (by rw [pow_succ] at enough; linarith)
      rw [pow_succ]
      linarith

/-- The power of ten of the first digit is not above the number, unless that is beyond the reach of
the doubles. -/
theorem power_decimalExponent_le {num den : Nat} (denPositive : 0 < den)
    (least : (10 : ℚ) ^ (-400 : ℤ) ≤ (num : ℚ) / den) :
    (10 : ℚ) ^ decimalExponent num den ≤ (num : ℚ) / den := by
  have denCast : (0 : ℚ) < den := by exact_mod_cast denPositive
  unfold decimalExponent
  split
  next whole =>
    have nonzero : num / den ≠ 0 := (Nat.div_pos whole denPositive).ne'
    calc (10 : ℚ) ^ (((Nat.toDigits 10 (num / den)).length : ℤ) - 1)
        ≤ decimalValue (num / den) 0 := by simpa using (decimalValue_bounds nonzero 0).1
      _ = ((num / den : Nat) : ℚ) := by simp [decimalValue]
      _ ≤ (num : ℚ) / den := Nat.cast_div_le
  next =>
    have enough : den ≤ num * 10 ^ 400 := by
      rw [le_div_iff₀ denCast, zpow_neg, zpow_ofNat, inv_mul_le_iff₀ (by positivity), mul_comm] at least
      exact_mod_cast least
    have places := le_mul_leadingPlaces enough
    rw [le_div_iff₀ denCast, zpow_neg, zpow_natCast, inv_mul_le_iff₀ (by positivity), mul_comm]
    exact_mod_cast places

/-! ## Trailing zeros -/

/-- Without zeros at its end, a number is the same. -/
theorem decimalValue_trimZeros : ∀ (digits : Nat) (scale : ℤ) (steps : Nat),
    decimalValue (trimZeros digits scale steps).digits (trimZeros digits scale steps).scale =
      decimalValue digits scale
  | _, _, 0 => rfl
  | digits, scale, steps + 1 => by
    unfold trimZeros
    split
    next zero =>
      have tens : digits / 10 * 10 = digits := Nat.div_mul_cancel (Nat.dvd_of_mod_eq_zero zero.2)
      calc _ = decimalValue (digits / 10) (scale + 1) := decimalValue_trimZeros _ _ steps
        _ = ((digits / 10 * 10 : Nat) : ℚ) * (10 : ℚ) ^ scale := by
          rw [decimalValue, zpow_add_one₀ (by norm_num)]
          push_cast
          ring
        _ = decimalValue digits scale := by rw [tens, decimalValue]
    next => rfl

/-! ## The interval of a double -/

/-- A quarter of the step from a double to the next one. -/
def quarter (x : Double) : ℚ := (2 : ℚ) ^ (x.exponent - 2)

/-- The denominator is a power of two. -/
theorem den_interval_pos (x : Double) : 0 < x.interval.den := Nat.pow_pos (by norm_num)

/-- The numerators count quarters of the step. -/
theorem quarters_div_den (x : Double) (quarters : Nat) :
    ((quarters * Nat.pow 2 (x.exponent - 2).toNat : Nat) : ℚ) / x.interval.den =
      quarters * x.quarter := by
  have den : x.interval.den = Nat.pow 2 (-(x.exponent - 2)).toNat := by
    rw [Int.neg_sub]
    rfl
  rw [den, quarter, zpow_eq_div]
  push_cast [Nat.pow_eq]
  rw [mul_div_assoc]

/-- The distance of a double in quarters of its step. -/
theorem distance_eq_quarters (x : Double) : x.distance = 4 * x.significand * x.quarter := by
  rw [distance, quarter, zpow_sub₀ (by norm_num)]
  norm_num
  ring

/-- The number of the interval is the distance of the double. -/
theorem middle_interval (x : Double) : x.interval.middle = x.distance := by
  calc x.interval.middle = ((4 * x.significand : Nat) : ℚ) * x.quarter := x.quarters_div_den _
    _ = x.distance := by rw [distance_eq_quarters, Nat.cast_mul, Nat.cast_ofNat]

/-- The interval ends half a step above the double. -/
theorem highEnd_interval (x : Double) : x.interval.highEnd = x.distance + 2 * x.quarter := by
  calc x.interval.highEnd = ((4 * x.significand + 2 : Nat) : ℚ) * x.quarter := x.quarters_div_den _
    _ = x.distance + 2 * x.quarter := by
      rw [distance_eq_quarters]
      push_cast
      ring

/-- The upper end is the midpoint to the next double. -/
theorem highEnd_eq_midpoint (x : Double) :
    x.interval.highEnd = (distanceOf x.magnitude + distanceOf (x.magnitude + 1)) / 2 := by
  have step : (2 : ℚ) ^ x.exponent = 4 * x.quarter := by
    rw [quarter, zpow_sub₀ (by norm_num)]
    norm_num
    ring
  rw [highEnd_interval, distanceOf_succ, ← exponent_eq, ← distance_eq, step]
  ring

section Nonzero

variable {x : Double} (nonzero : x.magnitude ≠ 0)

include nonzero

/-- Zero alone has the significand zero. -/
theorem significand_ne_zero : x.significand ≠ 0 := by
  rw [significand_eq]
  omega

/-- The interval begins half a step below the double, or a quarter below a power of two. -/
theorem lowEnd_interval :
    x.interval.lowEnd =
      x.distance - (if x.fraction = 0 && 1 < x.exponentField then 1 else 2) * x.quarter := by
  have positive := significand_ne_zero nonzero
  have fits : (if x.fraction = 0 && 1 < x.exponentField then 1 else 2) ≤ 4 * x.significand := by
    split <;> omega
  calc x.interval.lowEnd
      = ((4 * x.significand - (if x.fraction = 0 && 1 < x.exponentField then 1 else 2) : Nat) : ℚ) *
          x.quarter := x.quarters_div_den _
    _ = _ := by
      rw [Nat.cast_sub fits, distance_eq_quarters]
      push_cast
      ring

/-- The lower end is the midpoint to the double before. -/
theorem lowEnd_eq_midpoint {before : Nat} (isBefore : x.magnitude = before + 1) :
    x.interval.lowEnd = (distanceOf before + distanceOf x.magnitude) / 2 := by
  have step : distanceOf x.magnitude = distanceOf before +
      2 * (if x.fraction = 0 && 1 < x.exponentField then 1 else 2) * x.quarter := by
    rw [isBefore, distanceOf_succ, add_right_inj, quarter, exponent_eq]
    have field : x.exponentField = x.magnitude / 2 ^ 52 := rfl
    have fraction : x.fraction = x.magnitude % 2 ^ 52 := rfl
    by_cases power : x.fraction = 0 ∧ 1 < x.exponentField
    · have exponent : (((before / 2 ^ 52 - 1 : Nat) : ℤ) - 1074) =
          ((x.magnitude / 2 ^ 52 - 1 : Nat) : ℤ) - 1074 - 2 + 1 := by omega
      rw [exponent, zpow_add_one₀ (by norm_num)]
      simp [power, mul_comm]
    · have exponent : (((before / 2 ^ 52 - 1 : Nat) : ℤ) - 1074) =
          ((x.magnitude / 2 ^ 52 - 1 : Nat) : ℤ) - 1074 - 2 + 1 + 1 := by omega
      rw [exponent, zpow_add_one₀ (by norm_num), zpow_add_one₀ (by norm_num)]
      simp only [Bool.and_eq_true, decide_eq_true_iff, if_neg power]
      ring
  rw [lowEnd_interval nonzero, distance_eq]
  linarith

/-- What lies in the interval of a double lies between the midpoints. -/
theorem between_of_contains {number : ℚ} (contained : x.interval.Contains number) :
    Between number x.magnitude := by
  have even : x.interval.closed = true → x.magnitude % 2 = 0 := by
    intro closed
    rw [← significand_mod_two]
    exact of_decide_eq_true closed
  obtain ⟨before, isBefore⟩ := Nat.exists_eq_succ_of_ne_zero nonzero
  have low := lowEnd_eq_midpoint nonzero isBefore
  refine ⟨?_, ?_, ?_, ?_, ?_⟩
  · have positive := distanceOf_nonneg before
    have own := distanceOf_nonneg x.magnitude
    exact le_trans (by linarith) (low ▸ contained.low_le)
  · exact x.highEnd_eq_midpoint ▸ contained.le_high
  · intro atEnd
    exact even (contained.closed_of_eq (.inr (atEnd.trans x.highEnd_eq_midpoint.symm)))
  · intro other isOther
    exact lowEnd_eq_midpoint nonzero isOther ▸ contained.low_le
  · intro other isOther atEnd
    exact even (contained.closed_of_eq (.inl (atEnd.trans (lowEnd_eq_midpoint nonzero isOther).symm)))

/-- No number in the interval is zero. -/
theorem pos_of_contains {number : ℚ} (contained : x.interval.Contains number) : 0 < number := by
  obtain ⟨before, isBefore⟩ := Nat.exists_eq_succ_of_ne_zero nonzero
  have low := contained.low_le
  rw [lowEnd_eq_midpoint nonzero isBefore] at low
  have least := distanceOf_nonneg before
  have own : distanceOf before < distanceOf x.magnitude := strictMono_distanceOf (by omega)
  linarith

/-- What is nearer to a double than a part in `2 ^ 54` of it lies in its interval. -/
theorem contains_of_abs_sub_lt {number : ℚ} (near : |number - x.distance| < x.distance / 2 ^ 54) :
    x.interval.Contains number := by
  obtain ⟨above, below⟩ := abs_lt.1 near
  have quarterPositive : 0 < x.quarter := by
    rw [quarter]
    positivity
  have fits : x.significand ≤ 2 ^ 53 := by
    rw [significand_eq]
    omega
  have fitsCast : (x.significand : ℚ) ≤ 2 ^ 53 := by exact_mod_cast fits
  have share : x.distance / 2 ^ 54 ≤ 2 * x.quarter := by
    rw [distance_eq_quarters, div_le_iff₀ (by norm_num)]
    calc 4 * (x.significand : ℚ) * x.quarter ≤ 4 * 2 ^ 53 * x.quarter := by gcongr
      _ = 2 * x.quarter * 2 ^ 54 := by ring
  refine Interval.contains_of_lt ?_ ?_
  · rw [lowEnd_interval nonzero]
    split
    next power =>
      -- At a power of two the significand has no more than its first bit.
      have isPower : x.significand = 2 ^ 52 := by
        obtain ⟨fraction, field⟩ := Bool.and_eq_true_iff.1 power
        have isField : x.exponentField = x.magnitude / 2 ^ 52 := rfl
        have isFraction : x.fraction = x.magnitude % 2 ^ 52 := rfl
        rw [decide_eq_true_iff] at fraction field
        rw [significand_eq]
        omega
      have exact : x.distance / 2 ^ 54 = x.quarter := by
        rw [distance_eq_quarters, isPower]
        push_cast
        ring
      linarith
    next => linarith
  · rw [highEnd_interval]
    linarith

/-- The first digit of a double stands where the double reaches. -/
theorem power_le_distance :
    (10 : ℚ) ^ decimalExponent x.interval.mid x.interval.den ≤ x.distance := by
  rw [← middle_interval]
  refine power_decimalExponent_le x.den_interval_pos ?_
  have half := power_le_half (k := -400) le_rfl
  have least : distanceOf 1 ≤ distanceOf x.magnitude :=
    strictMono_distanceOf.monotone (Nat.pos_of_ne_zero nonzero)
  have positive := distanceOf_nonneg 1
  have reached : distanceOf 1 / 2 ≤ x.interval.middle := by
    rw [middle_interval, distance_eq]
    linarith only [least, positive]
  exact half.trans reached

/-- With sixteen digits behind the first one, the grid has a point in the interval. -/
theorem exists_gridPoint (tie : Tie) : ∃ point,
    x.interval.gridPoint? tie (decimalExponent x.interval.mid x.interval.den - (16 : Nat)) =
      some point := by
  obtain ⟨below, least, greatest, found⟩ := exists_grid_bounds x.den_interval_pos tie
    (decimalExponent x.interval.mid x.interval.den - (16 : Nat))
  have reached := power_le_distance nonzero
  rw [middle_interval] at least greatest
  -- The nearer neighbour is not farther than half a step of the grid, which is less than a part in
  -- `2 ^ 54`.
  have step : (10 : ℚ) ^ (decimalExponent x.interval.mid x.interval.den - (16 : Nat)) ≤
      x.distance / 10 ^ 16 := by
    rw [zpow_sub₀ (by norm_num), zpow_natCast]
    gcongr
  have next : decimalValue (below + 1) (decimalExponent x.interval.mid x.interval.den - (16 : Nat)) =
      decimalValue below (decimalExponent x.interval.mid x.interval.den - (16 : Nat)) +
        (10 : ℚ) ^ (decimalExponent x.interval.mid x.interval.den - (16 : Nat)) := by
    rw [decimalValue, decimalValue, Nat.cast_succ, add_one_mul]
  have positive : 0 < x.distance := lt_of_lt_of_le (by positivity) reached
  have part : x.distance / 10 ^ 16 / 2 < x.distance / 2 ^ 54 := by linarith
  refine found ?_
  rw [next] at greatest ⊢
  generalize (10 : ℚ) ^ (decimalExponent x.interval.mid x.interval.den - (16 : Nat)) = width at *
  generalize decimalValue below _ = low at *
  rcases le_total (x.distance - low) (width / 2) with nearLow | nearHigh
  · refine .inl (contains_of_abs_sub_lt nonzero ?_)
    rw [abs_sub_comm, abs_of_nonneg (by linarith)]
    linarith
  · refine .inr (contains_of_abs_sub_lt nonzero ?_)
    rw [abs_of_nonneg (by linarith)]
    linarith

/-- The search for the shortest digits ends, and with digits that lie in the interval. -/
theorem contains_shortest (tie : Tie) :
    x.interval.Contains (decimalValue (x.shortest tie).digits (x.shortest tie).scale) := by
  simp only [shortest]
  split
  next decimal found =>
    obtain ⟨n, -, ofGrid⟩ := List.exists_of_findSome?_eq_some found
    obtain ⟨point, isPoint, rfl⟩ := Option.map_eq_some_iff.1 ofGrid
    rw [decimalValue_trimZeros]
    exact contains_gridPoint x.den_interval_pos isPoint
  next missing =>
    obtain ⟨point, isPoint⟩ := exists_gridPoint nonzero tie
    have none := List.findSome?_eq_none_iff.1 missing 16 (by decide)
    rw [isPoint] at none
    cases none

/-- The shortest digits round to the double. -/
theorem between_shortest (tie : Tie) :
    Between (decimalValue (x.shortest tie).digits (x.shortest tie).scale) x.magnitude :=
  between_of_contains nonzero (contains_shortest nonzero tie)

/-- There is a digit other than zero. -/
theorem digits_shortest_ne_zero (tie : Tie) : (x.shortest tie).digits ≠ 0 := by
  intro zero
  have positive := pos_of_contains nonzero (contains_shortest nonzero tie)
  rw [zero, decimalValue, Nat.cast_zero, zero_mul] at positive
  exact lt_irrefl _ positive

end Nonzero

end OpenBanking.Double
