/-!
# Base32 without padding

Five octets are eight symbols of the alphabet `A`–`Z`, `2`–`7`, upper case only.
The unused bits of the last symbol are zero.
-/

namespace OpenBanking.Base32

/-- Why octets are no base32. -/
inductive Error where
  /-- An octet outside the alphabet. -/
  | symbol (offset : Nat)
  /-- The last symbol has bits that no octet uses. -/
  | trailingBits (offset : Nat)
  /-- A length at which a group cannot end. -/
  | length (offset : Nat)
deriving DecidableEq

/-- The wording of a refusal. -/
def Error.message : Error → String
  | .symbol offset => s!"invalid symbol at {offset}"
  | .trailingBits offset => s!"non-zero trailing bits at {offset}"
  | .length offset => s!"invalid length at {offset}"

/-- The symbol of five bits. -/
def symbol (n : Nat) : Char := if n < 26 then Char.ofNat (65 + n) else Char.ofNat (24 + n)

/-- The five bits of a symbol. -/
def value? (octet : UInt8) : Option Nat :=
  let n := octet.toNat
  if 65 ≤ n ∧ n ≤ 90 then some (n - 65)
  else if 50 ≤ n ∧ n ≤ 55 then some (n - 24)
  else none

/-- The digits of a number in a base, most significant first, `count` of them. -/
def digitsOf (base : Nat) : (count : Nat) → (n : Nat) → List Nat
  | 0, _ => []
  | count + 1, n => digitsOf base count (n / base) ++ [n % base]

/-- The number that digits of a base denote, most significant first. -/
def numberOf (base : Nat) (digits : List Nat) : Nat :=
  digits.foldl (fun n digit => base * n + digit) 0

/-- The symbols of octets, unused bits filled with zeros. -/
def encodeChars (octets : List UInt8) : List Char :=
  let bits := 8 * octets.length
  let count := (bits + 4) / 5
  let n := numberOf 256 (octets.map (·.toNat))
  (digitsOf 32 count (n * Nat.pow 2 (5 * count - bits))).map symbol

/-- The values of symbols, or the place of the first octet that is none. -/
def values (offset : Nat) : List UInt8 → Except Error (List Nat)
  | [] => .ok []
  | x :: rest =>
    match value? x with
    | none => .error (.symbol offset)
    | some n =>
      match values (offset + 1) rest with
      | .ok later => .ok (n :: later)
      | .error refusal => .error refusal

/-- The octets that symbols write. -/
def decode (written : List UInt8) : Except Error (List UInt8) := do
  let unused := 5 * written.length % 8
  if 5 ≤ unused then .error (.length (written.length / 8 * 8))
  else
    let symbols ← values 0 written
    let n := numberOf 32 symbols
    if n % Nat.pow 2 unused ≠ 0 then .error (.trailingBits (written.length - 1))
    else .ok ((digitsOf 256 (5 * written.length / 8) (n / Nat.pow 2 unused)).map UInt8.ofNat)

end OpenBanking.Base32
