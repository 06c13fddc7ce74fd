/-!
# A check sum of sixteen bits

The cyclic redundancy check of the polynomial `x¹⁶ + x¹² + x⁵ + 1`, most significant bit
first, from zero.
-/

namespace OpenBanking.Crc

/-- Takes in one bit position. -/
def shift (sum : Nat) : Nat :=
  if 0x8000 ≤ sum then (2 * sum % 0x10000) ^^^ 0x1021 else 2 * sum

/-- Takes in one octet. -/
def step (sum : Nat) (octet : UInt8) : Nat :=
  Nat.repeat shift 8 (sum ^^^ (256 * octet.toNat))

/-- The check sum of octets. -/
def checksum (octets : List UInt8) : Nat := octets.foldl step 0

end OpenBanking.Crc
