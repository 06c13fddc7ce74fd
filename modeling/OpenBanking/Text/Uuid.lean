import OpenBanking.Text.Hex

/-!
# Random identifiers

Sixteen random octets as a version 4 UUID: five groups of lower-case hexadecimal digits, in
which one digit tells the version and another one the variant.
-/

namespace OpenBanking.Uuid

/-- The number of octets in each group. -/
def groups : List Nat := [4, 2, 2, 2, 6]

/-- The octets with the marks of version and variant in place of six of their bits. -/
def marked (octets : List UInt8) : List UInt8 :=
  octets.zipIdx.map fun (octet, place) =>
    if place = 6 then octet % 16 + 64
    else if place = 8 then octet % 64 + 128
    else octet

/-- The digits of octets in groups, with a dash between two groups. -/
def layout : (sizes : List Nat) → List UInt8 → List Char
  | [], _ => []
  | [size], octets => Text.hexChars (octets.take size)
  | size :: sizes, octets =>
    Text.hexChars (octets.take size) ++ '-' :: layout sizes (octets.drop size)

/-- The identifier of sixteen octets. -/
def ofOctets (octets : List UInt8) : String := String.ofList (layout groups (marked octets))

/-- The octets that a text holds between its dashes, if it has just these groups. -/
def octets? (text : String) : Option (List UInt8) := do
  let octets ← Text.octetsOfHex? (text.toList.filter (· ≠ '-'))
  if octets.length = 16 ∧ String.ofList (layout groups octets) = text then some octets else none

/-- A text is a random identifier in lower case. -/
def isRandom (text : String) : Bool := (octets? text).any fun octets => marked octets = octets

end OpenBanking.Uuid
