/-!
# UTF-8 octets

Texts travel as octets. `encode` lists the octets of a text, `decode?` accepts exactly
the octets of some text, and `lossy` reads any octets, putting U+FFFD in place of every
longest run that begins a character without completing it.
-/

namespace OpenBanking.Utf8

/-- The octets of a text. -/
def encode (text : String) : List UInt8 := text.toByteArray.data.toList

/-- The text that has exactly these octets. -/
def decode? (octets : List UInt8) : Option String :=
  String.fromUTF8? ⟨octets.toArray⟩

/-- Only the octets of a text are read back as it. -/
theorem decode?_encode (text : String) : decode? (encode text) = some text := by
  have whole : (⟨(encode text).toArray⟩ : ByteArray) = text.toByteArray := by
    simp [encode]
  simp only [decode?, whole, String.fromUTF8?]
  rw [dif_pos text.isValidUTF8]
  rfl

/-- An octet that continues a character. -/
def isTail (octet : UInt8) : Bool := 0x80 ≤ octet && octet ≤ 0xBF

/-- The octets that may follow a first octet of a character of three octets. -/
def isSecondOfThree (first second : UInt8) : Bool :=
  if first = 0xE0 then 0xA0 ≤ second && second ≤ 0xBF
  else if first = 0xED then 0x80 ≤ second && second ≤ 0x9F
  else 0xE0 ≤ first && first ≤ 0xEF && isTail second

/-- The octets that may follow a first octet of a character of four octets. -/
def isSecondOfFour (first second : UInt8) : Bool :=
  if first = 0xF0 then 0x90 ≤ second && second ≤ 0xBF
  else if first = 0xF4 then 0x80 ≤ second && second ≤ 0x8F
  else 0xF0 ≤ first && first ≤ 0xF4 && isTail second

/-- Six bits of payload of a continuing octet. -/
def tailBits (octet : UInt8) : Nat := octet.toNat % 64

/-- Stands for octets that are no character. -/
def replacement : Char := '\uFFFD'

/-- The character that an octet begins, with the number of later octets it takes. Octets
that complete no character give U+FFFD and the length of the run that began one. -/
def leading (a : UInt8) (rest : List UInt8) : Char × Nat :=
  if a < 0x80 then (Char.ofNat a.toNat, 0)
  else if 0xC2 ≤ a && a ≤ 0xDF then
    match rest with
    | b :: _ =>
      if isTail b then (Char.ofNat (a.toNat % 32 * 64 + tailBits b), 1) else (replacement, 0)
    | [] => (replacement, 0)
  else if 0xE0 ≤ a && a ≤ 0xEF then
    match rest with
    | b :: c :: _ =>
      if !isSecondOfThree a b then (replacement, 0)
      else if !isTail c then (replacement, 1)
      else (Char.ofNat (a.toNat % 16 * 4096 + tailBits b * 64 + tailBits c), 2)
    | [b] => (replacement, if isSecondOfThree a b then 1 else 0)
    | [] => (replacement, 0)
  else if 0xF0 ≤ a && a ≤ 0xF4 then
    match rest with
    | b :: c :: d :: _ =>
      if !isSecondOfFour a b then (replacement, 0)
      else if !isTail c then (replacement, 1)
      else if !isTail d then (replacement, 2)
      else
        (Char.ofNat (a.toNat % 8 * 262144 + tailBits b * 4096 + tailBits c * 64 + tailBits d), 3)
    | [b, c] =>
      (replacement, if !isSecondOfFour a b then 0 else if isTail c then 2 else 1)
    | [b] => (replacement, if isSecondOfFour a b then 1 else 0)
    | [] => (replacement, 0)
  else (replacement, 0)

/-- The characters of any octets after the first `taken`, invalid runs replaced. -/
def lossyChars (taken : Nat) : List UInt8 → List Char
  | [] => []
  | a :: rest =>
    match taken with
    | later + 1 => lossyChars later rest
    | 0 => (leading a rest).1 :: lossyChars (leading a rest).2 rest

/-- The text of any octets, invalid runs replaced. -/
def lossy (octets : List UInt8) : String := String.ofList (lossyChars 0 octets)

end OpenBanking.Utf8
