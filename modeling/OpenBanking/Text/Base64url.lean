import OpenBanking.Text.Utf8

/-!
# Base64url without padding

Three octets are four symbols of the URL-safe alphabet; a last group of one or two octets
is two or three symbols whose unused bits are zero. Reading accepts exactly what writing
produces: it refuses padding, foreign symbols, impossible lengths and stray bits.
-/

namespace OpenBanking.Base64url

/-- Why a text is no base64url. -/
inductive Error where
  /-- An octet outside the alphabet, with its place. -/
  | symbol (octet : UInt8) (offset : Nat)
  /-- A single symbol is left over. -/
  | length (count : Nat)
  /-- The last symbol has bits that no octet uses. -/
  | lastSymbol (octet : UInt8) (offset : Nat)
  /-- Padding after two or three symbols of the last group. -/
  | padding
deriving DecidableEq

/-- The wording of a refusal. -/
def Error.message : Error → String
  | .symbol octet offset => s!"Invalid symbol {octet.toNat}, offset {offset}."
  | .length count => s!"Invalid input length: {count}"
  | .lastSymbol octet offset => s!"Invalid last symbol {octet.toNat}, offset {offset}."
  | .padding => "Invalid padding"

/-- The symbol of six bits. -/
def symbol (n : Nat) : Char :=
  if n < 26 then Char.ofNat (65 + n)
  else if n < 52 then Char.ofNat (71 + n)
  else if n < 62 then Char.ofNat (n - 4)
  else if n = 62 then '-'
  else '_'

/-- The six bits of a symbol. -/
def value? (octet : UInt8) : Option Nat :=
  let n := octet.toNat
  if 65 ≤ n ∧ n ≤ 90 then some (n - 65)
  else if 97 ≤ n ∧ n ≤ 122 then some (n - 71)
  else if 48 ≤ n ∧ n ≤ 57 then some (n + 4)
  else if n = 45 then some 62
  else if n = 95 then some 63
  else none

/-- The symbols of octets. -/
def encodeChars : List UInt8 → List Char
  | [] => []
  | [a] => [symbol (a.toNat / 4), symbol (a.toNat % 4 * 16)]
  | [a, b] =>
    [symbol (a.toNat / 4), symbol (a.toNat % 4 * 16 + b.toNat / 16), symbol (b.toNat % 16 * 4)]
  | a :: b :: c :: rest =>
    symbol (a.toNat / 4) :: symbol (a.toNat % 4 * 16 + b.toNat / 16)
      :: symbol (b.toNat % 16 * 4 + c.toNat / 64) :: symbol (c.toNat % 64) :: encodeChars rest

/-- The text of octets. -/
def encode (octets : List UInt8) : String := String.ofList (encodeChars octets)

/-- The padding sign, which no text holds. -/
def pad : UInt8 := 61

/-- The six bits of the symbol at a place. -/
def valueAt (offset : Nat) (octet : UInt8) : Except Error Nat :=
  match value? octet with
  | some n => .ok n
  | none => .error (.symbol octet offset)

/-- Two symbols of a last group: one octet and four unused bits. -/
def decodeTwo (offset : Nat) (a b : Nat) (last : UInt8) : Except Error (List UInt8) :=
  if b % 16 = 0 then .ok [UInt8.ofNat (a * 4 + b / 16)] else .error (.lastSymbol last (offset + 1))

/-- Three symbols of a last group: two octets and two unused bits. -/
def decodeThree (offset : Nat) (a b c : Nat) (last : UInt8) : Except Error (List UInt8) :=
  if c % 4 = 0 then .ok [UInt8.ofNat (a * 4 + b / 16), UInt8.ofNat (b % 16 * 16 + c / 4)]
  else .error (.lastSymbol last (offset + 2))

/-- Four symbols: three octets. -/
def joinFour (a b c d : Nat) : List UInt8 :=
  [UInt8.ofNat (a * 4 + b / 16), UInt8.ofNat (b % 16 * 16 + c / 4), UInt8.ofNat (c % 4 * 64 + d)]

/-- The last group, of at most four octets, which begins at `offset`. -/
def decodeLast (offset : Nat) : List UInt8 → Except Error (List UInt8)
  | [] => .ok []
  | [x] => do
    let _ ← valueAt offset x
    .error (.length (offset + 1))
  | [x, y] => do
    let a ← valueAt offset x
    let b ← valueAt (offset + 1) y
    decodeTwo offset a b y
  | [x, y, z] => do
    let a ← valueAt offset x
    let b ← valueAt (offset + 1) y
    if z = pad then .error .padding
    else do
      let c ← valueAt (offset + 2) z
      decodeThree offset a b c z
  | x :: y :: z :: w :: _ => do
    let a ← valueAt offset x
    let b ← valueAt (offset + 1) y
    if z = pad then
      if w = pad then .error .padding else .error (.symbol pad (offset + 2))
    else do
      let c ← valueAt (offset + 2) z
      if w = pad then .error .padding
      else do
        let d ← valueAt (offset + 3) w
        .ok (joinFour a b c d)

/-- The octets of the groups that begin at `offset`. -/
def decodeGroups (offset : Nat) : List UInt8 → Except Error (List UInt8)
  | x :: y :: z :: w :: next :: rest => do
    let a ← valueAt offset x
    let b ← valueAt (offset + 1) y
    let c ← valueAt (offset + 2) z
    let d ← valueAt (offset + 3) w
    let later ← decodeGroups (offset + 4) (next :: rest)
    .ok (joinFour a b c d ++ later)
  | last => decodeLast offset last

/-- The octets of a written text. A foreign octet left over at the end is reported before
any other. -/
def decodeOctets (written : List UInt8) : Except Error (List UInt8) :=
  match written.getLast? with
  | some last =>
    if written.length % 4 = 1 ∧ last ≠ pad ∧ value? last = none then
      .error (.symbol last (written.length - 1))
    else decodeGroups 0 written
  | none => .ok []

/-- The octets that a text writes. -/
def decode (text : String) : Except Error (List UInt8) := decodeOctets (Utf8.encode text)

end OpenBanking.Base64url
