import OpenBanking.Double.Basic
import OpenBanking.Text.Numeral

/-!
# Reading decimal texts as doubles

A decimal text denotes the double nearest to its exact value, however many digits it has.
-/

namespace OpenBanking.Double

open OpenBanking.Text (digit? ofDigits)

/-- The double nearest to `digits · 10 ^ scale`. Powers of ten beyond the reach of the
doubles are cut short: the result is infinite or zero all the same. -/
def ofDecimal (negative : Bool) (digits : Nat) (scale : Int) : Double :=
  if digits = 0 then ofMagnitude negative 0
  else
    let width : Int := (Nat.toDigits 10 digits).length
    if 400 < scale + width then ofMagnitude negative infinityMagnitude
    else if scale + width < -400 then ofMagnitude negative 0
    else nearest negative (digits * Nat.pow 10 scale.toNat) (Nat.pow 10 (-scale).toNat)

/-- The leading decimal digits of a text, and the rest. -/
def spanDigits : List Char → List Nat × List Char
  | [] => ([], [])
  | c :: rest =>
    match digit? c with
    | some digit => (digit :: (spanDigits rest).1, (spanDigits rest).2)
    | none => ([], c :: rest)

/-- A power of ten: nothing, or a mark, an optional sign and digits. -/
def exponentOf? : List Char → Option Int
  | [] => some 0
  | mark :: rest =>
    if mark = 'e' ∨ mark = 'E' then
      let (minus, rest) := match rest with
        | '-' :: later => (true, later)
        | '+' :: later => (false, later)
        | all => (false, all)
      match spanDigits rest with
      | ([], _) => none
      | (digits, []) => some (if minus then -(ofDigits digits : Int) else ofDigits digits)
      | (_, _ :: _) => none
    else none

/-- Digits with an optional point, at least one digit, and an optional power of ten. -/
def unsignedOf? (negative : Bool) (cs : List Char) : Option Double :=
  let (whole, rest) := spanDigits cs
  let (fraction, rest) := match rest with
    | '.' :: later => spanDigits later
    | all => ([], all)
  if whole.isEmpty && fraction.isEmpty then none
  else (exponentOf? rest).map fun power =>
    ofDecimal negative (ofDigits (whole ++ fraction)) (power - fraction.length)

/-- The bits of a quiet NaN. -/
def nanMagnitude : Nat := 2047 * Nat.pow 2 52 + Nat.pow 2 51

/-- The double that a text denotes: an optional sign, then a decimal number, or in any
letter case `inf`, `infinity` or `nan`. -/
def ofText? (text : String) : Option Double :=
  let (negative, cs) := match text.toList with
    | '-' :: later => (true, later)
    | '+' :: later => (false, later)
    | all => (false, all)
  let word := String.ofList (cs.map Char.toLower)
  if word = "inf" ∨ word = "infinity" then some (ofMagnitude negative infinityMagnitude)
  else if word = "nan" then some (ofMagnitude negative nanMagnitude)
  else unsignedOf? negative cs

end OpenBanking.Double
