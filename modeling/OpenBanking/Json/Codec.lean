import OpenBanking.Json.Canonical
import OpenBanking.Json.Reader

/-!
# Codecs

A codec writes the values of a type as JSON values and reads them from JSON text, in which
arrays and objects may nest as deep as its reader is told. Scalars, options and lists are
here; records and choices build on them.
-/

namespace OpenBanking.Json

/-- A writer and a reader of one type. -/
structure Codec (α : Type) where
  /-- The JSON value of a value. -/
  toValue : α → Value
  /-- Reads a value from the front of a text, in which arrays and objects may nest so deep. -/
  read : (depth : Nat) → Reader α

/-- The value that a JSON text holds. -/
def Codec.decode {α : Type} (codec : Codec α) (s : List UInt8) : Except ReadError α :=
  (codec.read depthLimit).whole s

/-- A type with a JSON form. -/
class Wire (α : Type) where
  /-- The form of its values. -/
  codec : Codec α

variable {α : Type}

/-- The JSON value of a value. -/
def toValue [Wire α] (x : α) : Value := (Wire.codec : Codec α).toValue x

/-- The JSON text of a value. -/
def encodeText [Wire α] (x : α) : String := (toValue x).text

/-- The octets of the JSON text of a value. -/
def encode [Wire α] (x : α) : List UInt8 := (toValue x).octets

/-- The octets of the canonical text of a value, which are hashed and signed. -/
def canonicalOctets [Wire α] (x : α) : List UInt8 := (toValue x).canonicalOctets

/-- The canonical text of a value. -/
def canonicalText [Wire α] (x : α) : String := (toValue x).canonicalText

/-- The value that a JSON text holds. -/
def decode [Wire α] (s : List UInt8) : Except ReadError α := (Wire.codec : Codec α).decode s

/-! ## Scalars -/

/-- Reads a string. -/
def readText (expected : String) : Reader String := fun s =>
  match skipBlanks s with
  | [] => .error .endInValue
  | b :: rest => if b = Octet.quote then readString rest else .error (mismatch expected (b :: rest))

/-- Reads a truth value. -/
def readBool : Reader Bool := fun s =>
  match skipBlanks s with
  | [] => .error .endInValue
  | b :: rest =>
    if b = 0x74 then do
      let s ← expectWord rue rest
      .ok (true, s)
    else if b = 0x66 then do
      let s ← expectWord alse rest
      .ok (false, s)
    else .error (mismatch "a boolean" (b :: rest))

/-- Reads a whole number from `least` to `greatest`. -/
def readWhole (least greatest : Int) (expected : String) : Reader Int := fun s =>
  match skipBlanks s with
  | [] => .error .endInValue
  | b :: rest =>
    if beginsNumber b then do
      let (n, s) ← readNumber (b :: rest)
      match n with
      | .whole k =>
        if least ≤ k ∧ k ≤ greatest then .ok (k, s)
        else .error (.invalidValue (.number n) expected)
      | .double _ => .error (.invalidType (.number n) expected)
    else .error (mismatch expected (b :: rest))

/-- Reads the null value. -/
def readNull : Reader Unit := fun s =>
  match skipBlanks s with
  | [] => .error .endInValue
  | b :: rest =>
    if b = 0x6E then do
      let s ← expectWord ull rest
      .ok ((), s)
    else .error (mismatch "unit" (b :: rest))

/-- Strings. -/
instance : Wire String := ⟨.string, fun _ => readText "a string"⟩

/-- Truth values. -/
instance : Wire Bool := ⟨.bool, fun _ => readBool⟩

/-- Whole numbers of sixty-four bits with a sign. -/
instance : Wire Int64 where
  codec :=
    { toValue x := .number (.whole x.toInt)
      read _ s := do
        let (n, s) ← readWhole (-0x8000000000000000) 0x7FFFFFFFFFFFFFFF "i64" s
        .ok (Int64.ofInt n, s) }

/-- Whole numbers of thirty-two bits without a sign. -/
instance : Wire UInt32 where
  codec :=
    { toValue x := .number (.whole x.toNat)
      read _ s := do
        let (n, s) ← readWhole 0 0xFFFFFFFF "u32" s
        .ok (UInt32.ofNat n.toNat, s) }

/-- Any value. -/
instance : Wire Value := ⟨id, readValue⟩

/-! ## Options and lists -/

/-- Reads null as nothing, and all else as a value. -/
def readOption (read : Reader α) : Reader (Option α) := fun s =>
  match skipBlanks s with
  | [] => do
    let (x, s) ← read []
    .ok (some x, s)
  | b :: rest =>
    if b = 0x6E then do
      let s ← expectWord ull rest
      .ok (none, s)
    else do
      let (x, s) ← read (b :: rest)
      .ok (some x, s)

/-- Reads an array. -/
def readList (read : (depth : Nat) → Reader α) (depth : Nat) : Reader (List α) := fun s =>
  match skipBlanks s with
  | [] => .error .endInValue
  | b :: rest =>
    if b = Octet.openList then
      inside (fun depth s => readItems (read depth) (s.length + 1) true s) depth rest
    else .error (mismatch "a sequence" (b :: rest))

/-- A value or nothing. -/
def Codec.option (codec : Codec α) : Codec (Option α) where
  toValue
    | none => .null
    | some x => codec.toValue x
  read depth := readOption (codec.read depth)

/-- Values in order. -/
def Codec.list (codec : Codec α) : Codec (List α) where
  toValue xs := .array (xs.map codec.toValue)
  read := readList codec.read

/-- A value or nothing. -/
instance [Wire α] : Wire (Option α) := ⟨(Wire.codec : Codec α).option⟩

/-- Values in order. -/
instance [Wire α] : Wire (List α) := ⟨(Wire.codec : Codec α).list⟩

end OpenBanking.Json
