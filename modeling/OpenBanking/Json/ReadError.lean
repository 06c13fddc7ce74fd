import OpenBanking.Json.Value
import OpenBanking.Text.Quoted

/-!
# Refusals of a JSON reader

Why octets are not the JSON text of a value that was asked for: the text is not well
formed, or what it holds is not what the reader expects there.
-/

namespace OpenBanking.Json

/-- What a reader met in place of what it expects. -/
inductive Found where
  /-- A truth value. -/
  | bool (b : Bool)
  /-- A number. -/
  | number (n : Number)
  /-- A string. -/
  | string (s : String)
  /-- The null value. -/
  | null
  /-- The beginning of an array. -/
  | sequence
  /-- The beginning of an object. -/
  | map
  /-- The name of a variant without content. -/
  | unitVariant
deriving DecidableEq

/-- Why a text was refused. -/
inductive ReadError where
  /-- The text ends where a value should stand. -/
  | endInValue
  /-- The text ends inside an array. -/
  | endInList
  /-- The text ends inside an object. -/
  | endInObject
  /-- The text ends inside a string. -/
  | endInString
  /-- No value begins so. -/
  | expectedValue
  /-- A word that begins like `null`, `true` or `false` goes on otherwise. -/
  | expectedWord
  /-- No colon after the name of a member. -/
  | expectedColon
  /-- Neither a comma nor the end of the array after an item. -/
  | expectedListEnd
  /-- Neither a comma nor the end of the object after a member. -/
  | expectedObjectEnd
  /-- An escape that stands for nothing. -/
  | invalidEscape
  /-- Digits, points or marks out of place. -/
  | invalidNumber
  /-- A number beyond the reach of the doubles. -/
  | numberOutOfRange
  /-- The octets of a string are no text. -/
  | invalidCodePoint
  /-- A surrogate that pairs with no other. -/
  | loneSurrogate
  /-- A leading surrogate that no escape follows. -/
  | endOfEscape
  /-- A control character inside a string. -/
  | controlCharacter
  /-- The name of a member is not a string. -/
  | nameNotString
  /-- A comma before the end of an array or object. -/
  | trailingComma
  /-- More text after the value. -/
  | trailingCharacters
  /-- Arrays and objects nested too deeply. -/
  | tooDeep
  /-- A required field is absent. -/
  | missingField (name : String)
  /-- A field is given twice. -/
  | duplicateField (name : String)
  /-- A name outside the names of the variants. -/
  | unknownVariant (name : String) (variants : List String)
  /-- A value of another kind than expected. -/
  | invalidType (found : Found) (expected : String)
  /-- A value of the expected kind, but not one of those expected. -/
  | invalidValue (found : Found) (expected : String)
  /-- An array with too few items. -/
  | invalidLength (length : Nat) (expected : String)
  /-- A refusal in words of its own. -/
  | custom (text : String)
deriving DecidableEq

/-- The wording of what was met. -/
def Found.message : Found → String
  | .bool true => "boolean `true`"
  | .bool false => "boolean `false`"
  | .number (.whole n) => "integer `" ++ String.ofList (Text.integer n) ++ "`"
  | .number (.double x) => "floating point `" ++ String.ofList x.compactChars ++ "`"
  | .string s => "string " ++ Text.quoted s
  | .null => "null"
  | .sequence => "sequence"
  | .map => "map"
  | .unitVariant => "unit variant"

/-- A name between backticks. -/
def ticked (name : String) : String := "`" ++ name ++ "`"

/-- The names that were possible. -/
def alternatives : List String → String
  | [] => "there are no variants"
  | [a] => "expected " ++ ticked a
  | [a, b] => "expected " ++ ticked a ++ " or " ++ ticked b
  | names => "expected one of " ++ String.intercalate ", " (names.map ticked)

/-- The wording of a refusal. -/
def ReadError.message : ReadError → String
  | .endInValue => "EOF while parsing a value"
  | .endInList => "EOF while parsing a list"
  | .endInObject => "EOF while parsing an object"
  | .endInString => "EOF while parsing a string"
  | .expectedValue => "expected value"
  | .expectedWord => "expected ident"
  | .expectedColon => "expected `:`"
  | .expectedListEnd => "expected `,` or `]`"
  | .expectedObjectEnd => "expected `,` or `\x7d`"
  | .invalidEscape => "invalid escape"
  | .invalidNumber => "invalid number"
  | .numberOutOfRange => "number out of range"
  | .invalidCodePoint => "invalid unicode code point"
  | .loneSurrogate => "lone leading surrogate in hex escape"
  | .endOfEscape => "unexpected end of hex escape"
  | .controlCharacter => "control character (\\u0000-\\u001F) found while parsing a string"
  | .nameNotString => "key must be a string"
  | .trailingComma => "trailing comma"
  | .trailingCharacters => "trailing characters"
  | .tooDeep => "recursion limit exceeded"
  | .missingField name => "missing field " ++ ticked name
  | .duplicateField name => "duplicate field " ++ ticked name
  | .unknownVariant name names => "unknown variant " ++ ticked name ++ ", " ++ alternatives names
  | .invalidType found expected =>
    "invalid type: " ++ found.message ++ ", expected " ++ expected
  | .invalidValue found expected =>
    "invalid value: " ++ found.message ++ ", expected " ++ expected
  | .invalidLength length expected =>
    "invalid length " ++ String.ofList (Text.natural length) ++ ", expected " ++ expected
  | .custom text => text

end OpenBanking.Json
