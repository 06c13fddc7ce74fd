/-!
# Double-precision numbers

A double is its sixty-four bits. A finite one denotes `significand · 2 ^ exponent`, and
`nearest` is the double nearest to a quotient of natural numbers, a tie going to the even
significand. Arithmetic on finite doubles rounds the exact result.
-/

namespace OpenBanking

/-- A double-precision number, by its bits. -/
structure Double where
  /-- Sign, eleven exponent bits, fifty-two fraction bits. -/
  bits : UInt64
deriving DecidableEq, Inhabited

namespace Double

/-- The sign bit. -/
def negative (x : Double) : Bool := Nat.pow 2 63 ≤ x.bits.toNat

/-- The bits below the sign. -/
def magnitude (x : Double) : Nat := x.bits.toNat % Nat.pow 2 63

/-- The exponent bits. -/
def exponentField (x : Double) : Nat := x.magnitude / Nat.pow 2 52

/-- The fraction bits. -/
def fraction (x : Double) : Nat := x.magnitude % Nat.pow 2 52

/-- Neither an infinity nor a NaN. -/
def isFinite (x : Double) : Bool := x.exponentField ≠ 2047

/-- Not a number. -/
def isNaN (x : Double) : Bool := x.exponentField = 2047 && x.fraction ≠ 0

/-- The whole significand of a finite double. -/
def significand (x : Double) : Nat :=
  if x.exponentField = 0 then x.fraction else Nat.pow 2 52 + x.fraction

/-- The power of two that scales the significand. -/
def exponent (x : Double) : Int := (max x.exponentField 1 : Nat) - 1075

/-- The double of a sign and the bits below it. -/
def ofMagnitude (negative : Bool) (magnitude : Nat) : Double :=
  ⟨UInt64.ofNat ((if negative then Nat.pow 2 63 else 0) + magnitude)⟩

/-- The bits of infinity. -/
def infinityMagnitude : Nat := 2047 * Nat.pow 2 52

/-- The quotient rounded to a whole number, a half to the even neighbour. -/
def roundQuotient (num den : Nat) : Nat :=
  let below := num / den
  let rest := num % den
  if 2 * rest < den then below
  else if den < 2 * rest then below + 1
  else if below % 2 = 0 then below
  else below + 1

/-- The greatest `e` with `2 ^ e ≤ num / den`, for positive numbers. -/
def binaryExponent (num den : Nat) : Int :=
  let e : Int := (Nat.log2 num : Int) - Nat.log2 den
  if num * Nat.pow 2 (-e).toNat < den * Nat.pow 2 e.toNat then e - 1 else e

/-- The bits below the sign of the double nearest to `num / den`. A quotient whose
rounding has no finite double gives infinity. -/
def nearestMagnitude (num den : Nat) : Nat :=
  if num = 0 then 0
  else
    let q := max (binaryExponent num den - 52) (-1074)
    let significand := roundQuotient (num * Nat.pow 2 (-q).toNat) (den * Nat.pow 2 q.toNat)
    min ((q + 1074).toNat * Nat.pow 2 52 + significand) infinityMagnitude

/-- The double nearest to `num / den`, with a sign. -/
def nearest (negative : Bool) (num den : Nat) : Double :=
  ofMagnitude negative (nearestMagnitude num den)

/-- Numerator of the distance of a finite double from zero. -/
def numerator (x : Double) : Nat := x.significand * Nat.pow 2 x.exponent.toNat

/-- Denominator of the distance of a finite double from zero. -/
def denominator (x : Double) : Nat := Nat.pow 2 (-x.exponent).toNat

/-- The product of finite doubles. -/
def mul (x y : Double) : Double :=
  nearest (x.negative != y.negative) (x.numerator * y.numerator) (x.denominator * y.denominator)

/-- The quotient of finite doubles, the second of which is not zero. -/
def div (x y : Double) : Double :=
  nearest (x.negative != y.negative) (x.numerator * y.denominator) (x.denominator * y.numerator)

/-- The double with the opposite sign. -/
def neg (x : Double) : Double := ofMagnitude (!x.negative) x.magnitude

/-- The double nearest to a natural number. -/
def ofNat (n : Nat) : Double := nearest false n 1

/-- Either zero. -/
def isZero (x : Double) : Bool := x.magnitude = 0

end Double

end OpenBanking
