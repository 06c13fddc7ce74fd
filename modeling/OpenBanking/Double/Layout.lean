import OpenBanking.Double.Shortest

/-!
# Layouts of doubles

Two texts of a double, both from its shortest digits. `plain` is positional at every
magnitude, has a fraction only where there is one and takes the greater of two equally near
decimals; `compactChars` turns to an exponent for numbers below `10 ^ -5` or from `10 ^ 16`
on, always has a fraction where it has no exponent, and takes the even one.
-/

namespace OpenBanking.Double

/-- Whole number and fraction in positional notation. -/
def Decimal.positional (d : Decimal) : List Char :=
  let digits := Nat.toDigits 10 d.digits
  let places := (-d.scale).toNat
  if 0 ≤ d.scale then digits ++ List.replicate d.scale.toNat '0' ++ ['.', '0']
  else if places < digits.length then
    digits.take (digits.length - places) ++ '.' :: digits.drop (digits.length - places)
  else '0' :: '.' :: List.replicate (places - digits.length) '0' ++ digits

/-- Positional notation that ends with the whole number where there is no fraction. -/
def Decimal.bare (d : Decimal) : List Char :=
  if 0 ≤ d.scale then Nat.toDigits 10 d.digits ++ List.replicate d.scale.toNat '0'
  else d.positional

/-- One digit before the point, and the power of ten with its sign. -/
def Decimal.scientific (d : Decimal) : List Char :=
  let digits := Nat.toDigits 10 d.digits
  let power := d.scale + digits.length - 1
  let mantissa := match digits with
    | first :: later@(_ :: _) => first :: '.' :: later
    | alone => alone
  mantissa ++ 'e' :: (if power < 0 then '-' else '+') :: Nat.toDigits 10 power.natAbs

/-- The power of ten of the first digit. -/
def Decimal.leading (d : Decimal) : Int := d.scale + (Nat.toDigits 10 d.digits).length - 1

/-- The minus sign of a double whose sign bit is set. -/
def signChars (x : Double) : List Char := if x.negative then ['-'] else []

/-- Positional notation at every magnitude, without a fraction for whole numbers; `NaN`,
`inf` and `-inf` for the others. -/
def plain (x : Double) : String :=
  if x.isNaN then "NaN"
  else if !x.isFinite then if x.negative then "-inf" else "inf"
  else if x.isZero then String.ofList (x.signChars ++ ['0'])
  else String.ofList (x.signChars ++ (x.shortest .upward).bare)

/-- The characters of a finite double, an exponent from `10 ^ 16` on and below `10 ^ -5`. -/
def compactChars (x : Double) : List Char :=
  if x.isZero then x.signChars ++ ['0', '.', '0']
  else
    let d := x.shortest .even
    x.signChars ++
      (if -5 ≤ d.leading && d.leading < 16 then d.positional else d.scientific)

end OpenBanking.Double
