import OpenBanking.Json.Choice
import OpenBanking.WireError

/-!
# Callback states

What a requester is handed back when the account holder is done: a mark by which it knows its
own request, and a text of its own. It travels as base64url text, and a text that does not
hold a state is refused with that very text.
-/

namespace OpenBanking

open Json

/-- What a requester is handed back. -/
structure CallbackState where
  /-- Digest of the mark of the request; empty if it has none. -/
  csrfTokenHash : String := ""
  /-- A text of the requester. -/
  state : String := ""
deriving DecidableEq

namespace CallbackState

/-- All fields at their defaults. -/
instance : Inhabited CallbackState := ⟨{}⟩

/-- Members of the JSON object. -/
def fields : Fields (String × String × Unit) :=
  .cons (.required "csrf_token_hash") <| .cons (.required "state") .nil

/-- Written as an object of its fields. -/
instance : Wire CallbackState where
  codec := .record "TokenRequestState" fields
    (fun (csrfTokenHash, state, ()) => ⟨csrfTokenHash, state⟩)
    fun x => (x.csrfTokenHash, x.state, ())

/-- The text of a state. -/
def serialize (x : CallbackState) : String := Base64url.encode (encode x)

/-- The state of a text. -/
def parse (text : String) : Except WireError CallbackState :=
  match decodeBase64url text with
  | .error error => .error (.invalidCallbackState text error.message)
  | .ok octets =>
    match decode octets with
    | .ok x => .ok x
    | .error error => .error (.invalidCallbackState text error.message)

end CallbackState

end OpenBanking
