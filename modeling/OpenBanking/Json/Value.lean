import OpenBanking.Double.Layout
import OpenBanking.Text.Hex
import OpenBanking.Text.Numeral
import OpenBanking.Text.Utf8

/-!
# JSON values and their text

A value keeps the members of an object in order, repeated names included. `chars` writes
it without spaces; only quotes, backslashes and controls are escaped in strings.
-/

namespace OpenBanking.Json

/-- A number: whole, or a finite double. -/
inductive Number where
  /-- A whole number. -/
  | whole (n : Int)
  /-- A double. -/
  | double (x : Double)
deriving DecidableEq, Inhabited

/-- A JSON value. -/
inductive Value where
  /-- The null value. -/
  | null
  /-- A truth value. -/
  | bool (b : Bool)
  /-- A number. -/
  | number (n : Number)
  /-- A string. -/
  | string (s : String)
  /-- An array. -/
  | array (items : List Value)
  /-- An object. -/
  | object (members : List (String × Value))
deriving Inhabited

/-- The text of a number. -/
def Number.chars : Number → List Char
  | .whole n => Text.integer n
  | .double x => x.compactChars

/-- One character of a string. -/
def escaped (c : Char) : List Char :=
  if c = '"' then ['\\', '"']
  else if c = '\\' then ['\\', '\\']
  else if c = '\x08' then ['\\', 'b']
  else if c = '\t' then ['\\', 't']
  else if c = '\n' then ['\\', 'n']
  else if c = '\x0c' then ['\\', 'f']
  else if c = '\r' then ['\\', 'r']
  else if c.toNat < 0x20 then
    ['\\', 'u', '0', '0', Text.hexDigit (c.toNat / 16), Text.hexDigit (c.toNat % 16)]
  else [c]

/-- A string between its quotes. -/
def stringChars (s : String) : List Char := '"' :: s.toList.flatMap escaped ++ ['"']

mutual

/-- The text of a value. -/
def Value.chars : Value → List Char
  | .null => ['n', 'u', 'l', 'l']
  | .bool true => ['t', 'r', 'u', 'e']
  | .bool false => ['f', 'a', 'l', 's', 'e']
  | .number n => n.chars
  | .string s => stringChars s
  | .array items => '[' :: itemsChars items ++ [']']
  | .object members => '\x7b' :: membersChars members ++ ['\x7d']

/-- The texts of items, parted by commas. -/
def itemsChars : List Value → List Char
  | [] => []
  | [item] => item.chars
  | item :: rest => item.chars ++ ',' :: itemsChars rest

/-- The texts of members, parted by commas. -/
def membersChars : List (String × Value) → List Char
  | [] => []
  | [(name, value)] => stringChars name ++ ':' :: value.chars
  | (name, value) :: rest => stringChars name ++ ':' :: value.chars ++ ',' :: membersChars rest

end

/-- The text of a value. -/
def Value.text (value : Value) : String := String.ofList value.chars

/-- The octets of the text of a value. -/
def Value.octets (value : Value) : List UInt8 := Utf8.encode value.text

/-- The member of an object with a name, the last one if the name is repeated. -/
def Value.member? (name : String) : Value → Option Value
  | .object members => (members.reverse.find? (·.1 = name)).map (·.2)
  | _ => none

end OpenBanking.Json
