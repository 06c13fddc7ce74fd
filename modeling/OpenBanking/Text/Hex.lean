/-!
# Hexadecimal digits

Two lower-case digits for each octet. Reading also takes upper-case digits, so it undoes
writing; a lone digit at the end is refused.
-/

namespace OpenBanking.Text

/-- A lower-case hexadecimal digit. -/
def hexDigit (n : Nat) : Char := if n < 10 then Char.ofNat (48 + n) else Char.ofNat (87 + n)

/-- The value of a hexadecimal digit. -/
def hexValue? (c : Char) : Option Nat :=
  if '0' ≤ c ∧ c ≤ '9' then some (c.toNat - 48)
  else if 'a' ≤ c ∧ c ≤ 'f' then some (c.toNat - 87)
  else if 'A' ≤ c ∧ c ≤ 'F' then some (c.toNat - 55)
  else none

/-- The digits of octets. -/
def hexChars (octets : List UInt8) : List Char :=
  octets.flatMap fun octet => [hexDigit (octet.toNat / 16), hexDigit (octet.toNat % 16)]

/-- The octets of digits. -/
def octetsOfHex? : List Char → Option (List UInt8)
  | [] => some []
  | [_] => none
  | a :: b :: rest => do
    let high ← hexValue? a
    let low ← hexValue? b
    let octets ← octetsOfHex? rest
    some (UInt8.ofNat (16 * high + low) :: octets)

end OpenBanking.Text
