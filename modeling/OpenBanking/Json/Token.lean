import OpenBanking.Json.ReadError
import OpenBanking.Double.Reading

/-!
# Tokens of JSON text

Blanks, words, numbers and strings, read from the front of the octets that are left. A
string is read in two ways: `readString` gives its text, `skipString` only passes over it
and so accepts octets and surrogates that are no text. Numbers are read likewise.
-/

namespace OpenBanking.Json

open OpenBanking.Text (ofDigits)

/-! ## Octets with a meaning of their own -/

namespace Octet

/-- Begins and ends a string. -/
abbrev quote : UInt8 := 0x22
/-- Begins an escape. -/
abbrev backslash : UInt8 := 0x5C
/-- Parts items and members. -/
abbrev comma : UInt8 := 0x2C
/-- Parts a name from its value. -/
abbrev colon : UInt8 := 0x3A
/-- Begins an array. -/
abbrev openList : UInt8 := 0x5B
/-- Ends an array. -/
abbrev closeList : UInt8 := 0x5D
/-- Begins an object. -/
abbrev openObject : UInt8 := 0x7B
/-- Ends an object. -/
abbrev closeObject : UInt8 := 0x7D
/-- Begins a negative number. -/
abbrev minus : UInt8 := 0x2D
/-- Marks a positive power of ten. -/
abbrev plus : UInt8 := 0x2B
/-- Begins a fraction. -/
abbrev point : UInt8 := 0x2E
/-- Begins an escaped code unit, after a backslash. -/
abbrev letterU : UInt8 := 0x75

/-- Space, tab, line feed and carriage return. -/
def isBlank (b : UInt8) : Bool := b = 0x20 || b = 0x09 || b = 0x0A || b = 0x0D

/-- The value of a decimal digit. -/
def digit? (b : UInt8) : Option Nat :=
  if 0x30 ≤ b ∧ b ≤ 0x39 then some (b.toNat - 0x30) else none

/-- The value of a hexadecimal digit. -/
def hex? (b : UInt8) : Option Nat :=
  if 0x30 ≤ b ∧ b ≤ 0x39 then some (b.toNat - 0x30)
  else if 0x41 ≤ b ∧ b ≤ 0x46 then some (b.toNat - 0x37)
  else if 0x61 ≤ b ∧ b ≤ 0x66 then some (b.toNat - 0x57)
  else none

/-- Marks a power of ten. -/
def isExponentMark (b : UInt8) : Bool := b = 0x65 || b = 0x45

/-- The octet that a letter after a backslash stands for. -/
def escape? (b : UInt8) : Option UInt8 :=
  if b = 0x22 then some 0x22
  else if b = 0x5C then some 0x5C
  else if b = 0x2F then some 0x2F
  else if b = 0x62 then some 0x08
  else if b = 0x66 then some 0x0C
  else if b = 0x6E then some 0x0A
  else if b = 0x72 then some 0x0D
  else if b = 0x74 then some 0x09
  else none

end Octet

/-- The octets after any blanks. -/
def skipBlanks (s : List UInt8) : List UInt8 := s.dropWhile Octet.isBlank

/-- The octets after the rest of a word. -/
def expectWord : (word : List UInt8) → List UInt8 → Except ReadError (List UInt8)
  | [], s => .ok s
  | _ :: _, [] => .error .endInValue
  | w :: word, b :: s => if b = w then expectWord word s else .error .expectedWord

/-- The rest of `null`. -/
def ull : List UInt8 := [0x75, 0x6C, 0x6C]

/-- The rest of `true`. -/
def rue : List UInt8 := [0x72, 0x75, 0x65]

/-- The rest of `false`. -/
def alse : List UInt8 := [0x61, 0x6C, 0x73, 0x65]

/-! ## Numbers -/

/-- A number as it is written. -/
structure Literal where
  /-- Whether a minus sign stands in front. -/
  negative : Bool
  /-- Digits before the point. -/
  whole : List Nat
  /-- Digits after the point, if there is one. -/
  fraction : List Nat
  /-- Whether the power of ten is negative. -/
  exponentNegative : Bool
  /-- Digits of the power of ten, if there is one. -/
  exponent : List Nat
deriving DecidableEq

/-- The leading decimal digits, and the octets after them. -/
def spanDigits : List UInt8 → List Nat × List UInt8
  | [] => ([], [])
  | b :: rest =>
    match Octet.digit? b with
    | some digit => (digit :: (spanDigits rest).1, (spanDigits rest).2)
    | none => ([], b :: rest)

/-- Digits that must stand here. -/
def someDigits (s : List UInt8) : Except ReadError (List Nat × List UInt8) :=
  match spanDigits s with
  | ([], []) => .error .endInValue
  | ([], _ :: _) => .error .invalidNumber
  | (digits, rest) => .ok (digits, rest)

/-- The sign of a power of ten, and the octets after it. -/
def exponentSign : List UInt8 → Bool × List UInt8
  | b :: rest =>
    if b = Octet.minus then (true, rest)
    else if b = Octet.plus then (false, rest)
    else (false, b :: rest)
  | [] => (false, [])

/-- The power of ten of a number whose other digits have been read. -/
def readExponent (negative : Bool) (whole fraction : List Nat) :
    List UInt8 → Except ReadError (Literal × List UInt8)
  | b :: rest =>
    if Octet.isExponentMark b then do
      let (digits, later) ← someDigits (exponentSign rest).2
      .ok (⟨negative, whole, fraction, (exponentSign rest).1, digits⟩, later)
    else .ok (⟨negative, whole, fraction, false, []⟩, b :: rest)
  | [] => .ok (⟨negative, whole, fraction, false, []⟩, [])

/-- A number after its sign. No zero stands in front of another digit. -/
def readLiteral (negative : Bool) (s : List UInt8) : Except ReadError (Literal × List UInt8) := do
  let (whole, rest) ← someDigits s
  match whole with
  | 0 :: _ :: _ => .error .invalidNumber
  | _ =>
    match rest with
    | b :: later =>
      if b = Octet.point then do
        let (fraction, last) ← someDigits later
        readExponent negative whole fraction last
      else readExponent negative whole [] rest
    | [] => readExponent negative whole [] []

/-- Appends digits to a significand while it stays below `2 ^ 64`; gives the digits that
did not fit too. -/
def absorb (significand : Nat) : List Nat → Nat × List Nat
  | [] => (significand, [])
  | digit :: rest =>
    if 10 * significand + digit < UInt64.size then absorb (10 * significand + digit) rest
    else (significand, digit :: rest)

/-- Divides by a power of ten in steps of `10 ^ 308` at most. -/
def scaleDown (x : Double) (power : Nat) : (steps : Nat) → Double
  | 0 => x
  | steps + 1 =>
    if power ≤ 308 then x.div (Double.ofNat (Nat.pow 10 power))
    else if x.isZero then x
    else scaleDown (x.div (Double.ofNat (Nat.pow 10 308))) (power - 308) steps

/-- A significand times a power of ten, each operation rounded. -/
def scale (significand : Nat) (power : Int) : Except ReadError Double :=
  let x := Double.ofNat significand
  if power < 0 then .ok (scaleDown x power.natAbs 4)
  else if power ≤ 308 then
    let product := x.mul (Double.ofNat (Nat.pow 10 power.toNat))
    if product.isFinite then .ok product else .error .numberOutOfRange
  else if x.isZero then .ok x
  else .error .numberOutOfRange

/-- The greatest power of ten that is not cut short. -/
def exponentLimit : Nat := 0x7FFFFFFF

/-- The double of a literal without its sign. -/
def Literal.double (l : Literal) : Except ReadError Double :=
  let (significand, spilled) := absorb 0 l.whole
  let (significand, dropped) := absorb significand l.fraction
  let shift : Int := (spilled.length : Int) - (l.fraction.length - dropped.length)
  let power := ofDigits l.exponent
  if power ≤ exponentLimit then
    scale significand (if l.exponentNegative then shift - power else shift + power)
  else if significand ≠ 0 && !l.exponentNegative then .error .numberOutOfRange
  else .ok (Double.ofNat 0)

/-- The number of a literal: whole if it is written without point and power of ten, is not
a negative zero, and fits in sixty-four bits, signed if it is negative. -/
def Literal.number (l : Literal) : Except ReadError Number :=
  let n := ofDigits l.whole
  let isWhole := l.fraction.isEmpty && l.exponent.isEmpty
  if isWhole && !l.negative && n < UInt64.size then .ok (.whole n)
  else if isWhole && l.negative && n ≠ 0 && n ≤ 0x8000000000000000 then .ok (.whole (-n))
  else
    match l.double with
    | .ok x => .ok (.double (if l.negative then x.neg else x))
    | .error refusal => .error refusal

/-- A number whose first octet, a minus sign or a digit, is the first of `s`. -/
def readNumber (s : List UInt8) : Except ReadError (Number × List UInt8) := do
  let (literal, rest) ← match s with
    | b :: later => if b = Octet.minus then readLiteral true later else readLiteral false s
    | [] => readLiteral false []
  let n ← literal.number
  .ok (n, rest)

/-- Whether a number begins with this octet. -/
def beginsNumber (b : UInt8) : Bool := b = Octet.minus || (Octet.digit? b).isSome

/-- Passes over a number. -/
def skipNumber (s : List UInt8) : Except ReadError (List UInt8) :=
  let literal := match s with
    | b :: later => if b = Octet.minus then readLiteral true later else readLiteral false s
    | [] => readLiteral false []
  match literal with
  | .ok (_, rest) => .ok rest
  | .error _ => .error .invalidNumber

/-! ## Strings -/

/-- The code unit that four hexadecimal digits write. -/
def codeUnit? (a b c d : UInt8) : Option Nat := do
  let a ← Octet.hex? a
  let b ← Octet.hex? b
  let c ← Octet.hex? c
  let d ← Octet.hex? d
  some (4096 * a + 256 * b + 16 * c + d)

/-- A code unit that begins a pair. -/
def isLeading (n : Nat) : Bool := 0xD800 ≤ n && n ≤ 0xDBFF

/-- A code unit that ends a pair. -/
def isTrailing (n : Nat) : Bool := 0xDC00 ≤ n && n ≤ 0xDFFF

/-- The code point of a pair. -/
def pairedCodePoint (leading trailing : Nat) : Nat :=
  0x10000 + (leading - 0xD800) * 0x400 + (trailing - 0xDC00)

/-- The octets of a code point before `acc`, last first. -/
def pushCodePoint (n : Nat) (acc : List UInt8) : List UInt8 :=
  (String.utf8EncodeChar (Char.ofNat n)).reverse ++ acc

/-- The text of the octets read, last first. -/
def closeString (acc rest : List UInt8) : Except ReadError (String × List UInt8) :=
  match Utf8.decode? acc.reverse with
  | some text => .ok (text, rest)
  | none => .error .invalidCodePoint

/-- The text of a string after its opening quote; `acc` holds the octets read so far, last
first. -/
def stringFrom (acc : List UInt8) : List UInt8 → Except ReadError (String × List UInt8)
  | [] => .error .endInString
  | b :: rest =>
    if b = Octet.quote then closeString acc rest
    else if b = Octet.backslash then
      match rest with
      | [] => .error .endInString
      | e :: rest =>
        if e = Octet.letterU then
          match rest with
          | h₁ :: h₂ :: h₃ :: h₄ :: rest =>
            match codeUnit? h₁ h₂ h₃ h₄ with
            | none => .error .invalidEscape
            | some n =>
              if isTrailing n then .error .loneSurrogate
              else if isLeading n then
                match rest with
                | [] => .error .endInString
                | b :: rest =>
                  if b ≠ Octet.backslash then .error .endOfEscape
                  else
                    match rest with
                    | [] => .error .endInString
                    | e :: rest =>
                      if e ≠ Octet.letterU then .error .endOfEscape
                      else
                        match rest with
                        | h₁ :: h₂ :: h₃ :: h₄ :: rest =>
                          match codeUnit? h₁ h₂ h₃ h₄ with
                          | none => .error .invalidEscape
                          | some m =>
                            if isTrailing m then
                              stringFrom (pushCodePoint (pairedCodePoint n m) acc) rest
                            else .error .loneSurrogate
                        | _ => .error .endInString
              else stringFrom (pushCodePoint n acc) rest
          | _ => .error .endInString
        else
          match Octet.escape? e with
          | some octet => stringFrom (octet :: acc) rest
          | none => .error .invalidEscape
    else if b < 0x20 then .error .controlCharacter
    else stringFrom (b :: acc) rest

/-- The text of a string after its opening quote. -/
def readString (s : List UInt8) : Except ReadError (String × List UInt8) := stringFrom [] s

/-- Passes over a string after its opening quote. -/
def skipString : List UInt8 → Except ReadError (List UInt8)
  | [] => .error .endInString
  | b :: rest =>
    if b = Octet.quote then .ok rest
    else if b = Octet.backslash then
      match rest with
      | [] => .error .endInString
      | e :: rest =>
        if e = Octet.letterU then
          match rest with
          | h₁ :: h₂ :: h₃ :: h₄ :: rest =>
            match codeUnit? h₁ h₂ h₃ h₄ with
            | none => .error .invalidEscape
            | some _ => skipString rest
          | _ => .error .endInString
        else
          match Octet.escape? e with
          | some _ => skipString rest
          | none => .error .invalidEscape
    else if b < 0x20 then .error .controlCharacter
    else skipString rest

end OpenBanking.Json
