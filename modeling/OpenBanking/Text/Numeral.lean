/-!
# Decimal numerals

Writing natural numbers and integers in decimal digits, and reading a bounded natural
number from a text of an optional plus sign and at least one digit.
-/

namespace OpenBanking.Text

/-- Decimal digits of a natural number, without leading zeros. -/
def natural (n : Nat) : List Char := Nat.toDigits 10 n

/-- Decimal digits of an integer, behind a minus sign if it is negative. -/
def integer : Int → List Char
  | .ofNat n => natural n
  | .negSucc n => '-' :: natural (n + 1)

/-- Decimal digits, filled with zeros from the left up to a width. -/
def padded (width n : Nat) : List Char :=
  List.replicate (width - (natural n).length) '0' ++ natural n

/-- The number that decimal digits denote. -/
def ofDigits (digits : List Nat) : Nat := digits.foldl (fun n digit => 10 * n + digit) 0

/-- The value of an ASCII digit. -/
def digit? (c : Char) : Option Nat :=
  if '0' ≤ c ∧ c ≤ '9' then some (c.toNat - '0'.toNat) else none

/-- The number written by decimal digits, at least one of them. -/
def naturalOf? (cs : List Char) : Option Nat :=
  if cs.isEmpty then none else (cs.mapM digit?).map ofDigits

/-- The characters behind a plus sign, or all of them where there is none in front. -/
def unsigned : List Char → List Char
  | '+' :: rest => rest
  | cs => cs

/-- The number written by an optional plus sign and digits, if it is below `limit`. -/
def bounded? (limit : Nat) (text : String) : Option Nat :=
  match naturalOf? (unsigned text.toList) with
  | some n => if n < limit then some n else none
  | none => none

end OpenBanking.Text
