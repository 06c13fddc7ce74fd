import OpenBanking.Double.Basic

/-!
# Shortest decimal digits

`shortest` gives the fewest decimal digits that read back as a finite double: the first
decimal grid, from coarse to fine, that has a point in the interval of numbers rounding to
the double. Of two such points the nearer wins; of two equally near, the one that the
layout asks for.
-/

namespace OpenBanking.Double

/-- Decimal digits scaled by a power of ten: `digits · 10 ^ scale`. -/
structure Decimal where
  /-- The digits, as a whole number. -/
  digits : Nat
  /-- The power of ten. -/
  scale : Int
deriving DecidableEq, Inhabited

/-- Which of two equally near points is taken. -/
inductive Tie where
  /-- The even one. -/
  | even
  /-- The greater one. -/
  | upward
deriving DecidableEq

/-- A number with the ends of the interval that rounds to it, over one denominator. -/
structure Interval where
  /-- Numerator of the lower end. -/
  low : Nat
  /-- Numerator of the number. -/
  mid : Nat
  /-- Numerator of the upper end. -/
  high : Nat
  /-- The common denominator. -/
  den : Nat
  /-- Whether the ends round to the number. -/
  closed : Bool

/-- The interval of numbers that round to a finite double, sign left aside. The neighbour
below a power of two is half as far as the one above. -/
def interval (x : Double) : Interval :=
  let unit := Nat.pow 2 (x.exponent - 2).toNat
  let den := Nat.pow 2 (2 - x.exponent).toNat
  let m := 4 * x.significand
  { low := (m - (if x.fraction = 0 && 1 < x.exponentField then 1 else 2)) * unit
    mid := m * unit
    high := (m + 2) * unit
    den
    closed := x.significand % 2 = 0 }

/-- Whether `point / den` lies in the interval. -/
def Interval.holds (range : Interval) (point den : Nat) : Bool :=
  if range.closed then
    range.low * den ≤ point * range.den && point * range.den ≤ range.high * den
  else range.low * den < point * range.den && point * range.den < range.high * den

/-- The number with a power of ten: numerator and denominator of `10 ^ scale`. -/
def powerOfTen (scale : Int) : Nat × Nat := (Nat.pow 10 scale.toNat, Nat.pow 10 (-scale).toNat)

/-- The point of the grid of `10 ^ scale` that stands for the interval, if any does. -/
def Interval.gridPoint? (range : Interval) (tie : Tie) (scale : Int) : Option Nat :=
  let (num, den) := powerOfTen scale
  let top := range.mid * den
  let step := range.den * num
  let below := top / step
  let rest := top % step
  let low := range.holds (below * num) den
  let high := range.holds ((below + 1) * num) den
  if low && high then
    if 2 * rest < step then some below
    else if step < 2 * rest then some (below + 1)
    else if tie = .even ∧ below % 2 = 0 then some below
    else some (below + 1)
  else if low then some below
  else if high then some (below + 1)
  else none

/-- The number of decimal places before the first digit of `num / den`, a positive number
below one, found within `steps`. -/
def leadingPlaces (num den : Nat) : (steps : Nat) → Nat
  | 0 => 0
  | steps + 1 => if den ≤ num then 0 else leadingPlaces (10 * num) den steps + 1

/-- The power of ten of the first digit of `num / den`, a positive number. -/
def decimalExponent (num den : Nat) : Int :=
  if den ≤ num then ((Nat.toDigits 10 (num / den)).length : Int) - 1
  else -(leadingPlaces num den 400 : Int)

/-- Removes zeros from the end of the digits. -/
def trimZeros (digits : Nat) (scale : Int) : (steps : Nat) → Decimal
  | 0 => ⟨digits, scale⟩
  | steps + 1 =>
    if digits ≠ 0 ∧ digits % 10 = 0 then trimZeros (digits / 10) (scale + 1) steps
    else ⟨digits, scale⟩

/-- The fewest digits of a finite double other than zero, sign left aside. -/
def shortest (x : Double) (tie : Tie) : Decimal :=
  let range := x.interval
  let first := decimalExponent range.mid range.den
  match (List.range 17).findSome? fun (n : Nat) =>
      (range.gridPoint? tie (first - n)).map fun point => trimZeros point (first - n) 20 with
  | some decimal => decimal
  | none => ⟨range.mid / range.den, 0⟩

end OpenBanking.Double
