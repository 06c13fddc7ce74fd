import OpenBanking.Digest.Block

/-!
# Armoured texts

A document as text: a line that begins it, lines of sixty-four base64 symbols, the last
of which may be shorter, and a line that ends it. Text before the first line is passed
over; nothing but the end of a line may follow the last.
-/

namespace OpenBanking.Rsa.Pem

/-- The octets of ASCII text. -/
def ascii (text : String) : List UInt8 := text.toList.map fun c => UInt8.ofNat c.toNat

/-- What a first line begins with. -/
def opening : List UInt8 := ascii "-----BEGIN "

/-- What a last line begins with. -/
def closing : List UInt8 := ascii "-----END "

/-- What both lines end with. -/
def dashes : List UInt8 := ascii "-----"

/-- The octets behind a beginning. -/
def strip? (start s : List UInt8) : Option (List UInt8) :=
  if start.isPrefixOf s then some (s.drop start.length) else none

/-- The octets before an ending. -/
def stripEnd? (ending s : List UInt8) : Option (List UInt8) :=
  if ending.isSuffixOf s then some (s.take (s.length - ending.length)) else none

/-- The octets behind the end of a line. -/
def stripLineEnd? : List UInt8 → Option (List UInt8)
  | b :: rest =>
    if b = 0x0A then some rest
    else if b = 0x0D then
      match rest with
      | c :: later => if c = 0x0A then some later else some rest
      | [] => some []
    else none
  | [] => none

/-- The octets before the end of a line. -/
def stripLastLineEnd? (s : List UInt8) : Option (List UInt8) :=
  match s.reverse with
  | b :: rest =>
    if b = 0x0A then
      match rest with
      | c :: later => if c = 0x0D then some later.reverse else some rest.reverse
      | [] => some []
    else if b = 0x0D then some rest.reverse
    else none
  | [] => none

/-- The octets from the first line that begins a document on. No zero octet stands before
it. -/
def fromOpening? : List UInt8 → Option (List UInt8)
  | [] => none
  | b :: rest =>
    if b = 0 then none
    else if b = 0x0A && opening.isPrefixOf rest then some rest
    else fromOpening? rest

/-- The value of a base64 symbol. -/
def value? (b : UInt8) : Option Nat :=
  let n := b.toNat
  if 65 ≤ n ∧ n ≤ 90 then some (n - 65)
  else if 97 ≤ n ∧ n ≤ 122 then some (n - 71)
  else if 48 ≤ n ∧ n ≤ 57 then some (n + 4)
  else if n = 43 then some 62
  else if n = 47 then some 63
  else none

/-- The octets of padded base64 symbols. Bits that no octet uses are zero. -/
def decode? : List UInt8 → Option (List UInt8)
  | [] => some []
  | [w, x, y, z] => do
    let a ← value? w
    let b ← value? x
    if z = 0x3D then
      if y = 0x3D then if b % 16 = 0 then some [UInt8.ofNat (a * 4 + b / 16)] else none
      else do
        let c ← value? y
        if c % 4 = 0 then
          some [UInt8.ofNat (a * 4 + b / 16), UInt8.ofNat (b % 16 * 16 + c / 4)]
        else none
    else do
      let c ← value? y
      let d ← value? z
      some [UInt8.ofNat (a * 4 + b / 16), UInt8.ofNat (b % 16 * 16 + c / 4),
        UInt8.ofNat (c % 4 * 64 + d)]
  | w :: x :: y :: z :: next :: rest => do
    let a ← value? w
    let b ← value? x
    let c ← value? y
    let d ← value? z
    let later ← decode? (next :: rest)
    some (UInt8.ofNat (a * 4 + b / 16) :: UInt8.ofNat (b % 16 * 16 + c / 4)
      :: UInt8.ofNat (c % 4 * 64 + d) :: later)
  | _ => none

/-- How many symbols a whole line has. -/
def lineWidth : Nat := 64

/-- The symbols of lines of full width, the last of which may be shorter. There are fewer
lines than octets, which `steps` counts. -/
def joinLines? : (steps : Nat) → List UInt8 → Option (List UInt8)
  | 0, _ => none
  | steps + 1, s =>
    if s.length ≤ lineWidth then some s
    else do
      let rest ← stripLineEnd? (s.drop lineWidth)
      let later ← joinLines? steps rest
      some (s.take lineWidth ++ later)

/-- The document of a text under a label. -/
def document? (label s : List UInt8) : Option (List UInt8) := do
  let s ← if opening.isPrefixOf s then some s else fromOpening? s
  let s ← strip? opening s
  let s ← strip? label s
  let s ← strip? dashes s
  let s ← stripLineEnd? s
  let s := (stripLastLineEnd? s).getD s
  let s ← stripEnd? (closing ++ label ++ dashes) s
  let s ← stripLastLineEnd? s
  let symbols ← joinLines? (s.length + 1) s
  decode? symbols

end OpenBanking.Rsa.Pem
