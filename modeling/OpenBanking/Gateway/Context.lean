import OpenBanking.Gateway.Call
import OpenBanking.Key
import OpenBanking.Text.Base64url

/-!
# Contexts of calls

Under what a member calls: the level of the key that signs, the access token of another
member, whether a person asked for the call, and what is told of the device. The context
travels as headers; what is not set has no header.
-/

namespace OpenBanking

open Json

/-- Under what a call is made. -/
structure CallContext where
  /-- The access token of another member. -/
  onBehalfOf : Option String := none
  /-- A person asked for the call. -/
  customerInitiated : Bool := false
  /-- The level of the key that signs. -/
  keyLevel : KeyLevel := .low
  /-- What is told of the device. -/
  tracking : Tracking := {}
deriving DecidableEq

namespace CallContext

/-- The headers of a context. -/
def headers (context : CallContext) : Headers :=
  [(HeaderName.keyLevel, toString context.keyLevel)]
    ++ (match context.onBehalfOf with
        | some tokenId => [(HeaderName.onBehalfOf, tokenId)]
        | none => [])
    ++ (if context.customerInitiated then [(HeaderName.customerInitiated, "true")] else [])
    ++ (if context.tracking.isEmpty then []
        else [(HeaderName.tracking, Base64url.encode (canonicalOctets context.tracking))])

/-- The tracking that a header tells; nothing is told where there is none. -/
def trackingOf? : Option String → Option Tracking
  | none => some {}
  | some text =>
    match Base64url.decode text with
    | .ok octets => (decode octets).toOption
    | .error _ => none

/-- The context that headers tell. -/
def ofHeaders? (headers : Headers) : Option CallContext := do
  let keyLevel ← (headers.value? HeaderName.keyLevel).bind ofName?
  let tracking ← trackingOf? (headers.value? HeaderName.tracking)
  some
    { onBehalfOf := headers.value? HeaderName.onBehalfOf
      customerInitiated := (headers.value? HeaderName.customerInitiated).isSome
      keyLevel, tracking }

end CallContext

end OpenBanking
