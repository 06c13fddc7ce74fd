import OpenBanking.Text.Base64url

/-!
# Errors of wire forms

What can go wrong between a value and the text that stands for it.
-/

namespace OpenBanking

/-- Why a value has no text, or a text no value. -/
inductive WireError where
  /-- A value has no canonical text, or a text is none of a value. -/
  | serialization (reason : String)
  /-- A text is no callback state. -/
  | invalidCallbackState (value reason : String)
  /-- A message lacks a field. -/
  | missingField (field : String)
deriving DecidableEq

namespace WireError

/-- The kind of an error, in one word. -/
def kind : WireError → String
  | .serialization _ => "Serialization"
  | .invalidCallbackState .. => "InvalidCallbackState"
  | .missingField _ => "MissingField"

/-- The wording of an error. -/
def message : WireError → String
  | .serialization reason => "serialization error: " ++ reason
  | .invalidCallbackState value reason =>
    "invalid callback state \"" ++ value ++ "\": " ++ reason
  | .missingField field => "missing required field: " ++ field

/-- A text that is not base64url. -/
def ofBase64url (error : Base64url.Error) : WireError := .serialization error.message

end WireError

/-- The octets of a base64url text. -/
def decodeBase64url (text : String) : Except WireError (List UInt8) :=
  (Base64url.decode text).mapError .ofBase64url

end OpenBanking
