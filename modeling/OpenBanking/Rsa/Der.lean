import OpenBanking.Digest.Block

/-!
# Distinguished encoding

The strict encoding of nested values: a tag, a length in as few octets as it needs, and
the content. Whole numbers carry no needless leading zero.
-/

namespace OpenBanking.Rsa.Der

/-- A tagged value. -/
structure Element where
  /-- What kind of value it is. -/
  tag : UInt8
  /-- Its content. -/
  content : List UInt8

/-- The tag of whole numbers. -/
def integerTag : UInt8 := 0x02
/-- The tag of bit strings. -/
def octetStringTag : UInt8 := 0x04
/-- The tag of the null value. -/
def nullTag : UInt8 := 0x05
/-- The tag of object identifiers. -/
def identifierTag : UInt8 := 0x06
/-- The tag of sequences. -/
def sequenceTag : UInt8 := 0x30

/-- Where lengths end. -/
def lengthLimit : Nat := 0x10000000

/-- A length of `count` octets that no fewer octets hold. -/
def longLength? (count : Nat) (s : List UInt8) : Option (Nat × List UInt8) :=
  let octets := s.take count
  let length := Digest.Block.bigEndian octets
  let least := if count = 1 then 128 else Nat.pow 256 (count - 1)
  if octets.length = count && least ≤ length && length < lengthLimit then
    some (length, s.drop count)
  else none

/-- A length, and the octets after it. -/
def length? : List UInt8 → Option (Nat × List UInt8)
  | [] => none
  | b :: rest =>
    if b < 0x80 then some (b.toNat, rest)
    else if 0x81 ≤ b && b ≤ 0x84 then longLength? (b.toNat - 0x80) rest
    else none

/-- The first value, and the octets after it. -/
def element? : List UInt8 → Option (Element × List UInt8)
  | [] => none
  | tag :: rest => do
    let (length, rest) ← length? rest
    let content := rest.take length
    if content.length = length then some (⟨tag, content⟩, rest.drop length) else none

/-- The content of the first value, which has a tag, and the octets after it. -/
def tagged? (tag : UInt8) (s : List UInt8) : Option (List UInt8 × List UInt8) := do
  let (element, rest) ← element? s
  if element.tag = tag then some (element.content, rest) else none

/-- The content of the only value, which has a tag. -/
def only? (tag : UInt8) (s : List UInt8) : Option (List UInt8) := do
  let (content, rest) ← tagged? tag s
  if rest.isEmpty then some content else none

/-- A whole number that is not negative, by its content. -/
def naturalOf? : List UInt8 → Option Nat
  | [] => none
  | [b] => if b < 0x80 then some b.toNat else none
  | a :: b :: rest =>
    if a = 0 && b < 0x80 then none
    else if 0x80 ≤ a then none
    else some (Digest.Block.bigEndian (a :: b :: rest))

/-- The first value as a whole number, and the octets after it. -/
def natural? (s : List UInt8) : Option (Nat × List UInt8) := do
  let (content, rest) ← tagged? integerTag s
  let n ← naturalOf? content
  some (n, rest)

end OpenBanking.Rsa.Der
