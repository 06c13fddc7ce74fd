import OpenBanking.Gateway.Method

/-!
# Calls

A call is a method, a body, and headers in order. The names of all headers that a client
sends are here.
-/

namespace OpenBanking

/-- Names with values, in order; a name may stand more than once. -/
abbrev Headers := List (String × String)

/-- The value of the first header of a name. -/
def Headers.value? (headers : Headers) (name : String) : Option String :=
  (headers.find? (·.1 = name)).map (·.2)

namespace HeaderName

/-- The key of the developer. -/
def developerKey : String := "token-dev-key"

/-- The platform of the client. -/
def platform : String := "token-sdk"

/-- The version of the client. -/
def version : String := "token-sdk-version"

/-- The member that calls. -/
def memberId : String := "token-member-id"

/-- The key that signed the call. -/
def keyId : String := "token-key-id"

/-- The signature of the call. -/
def signature : String := "token-signature"

/-- When the call was signed. -/
def createdAt : String := "token-created-at-ms"

/-- The access token that the caller acts under. -/
def onBehalfOf : String := "token-on-behalf-of"

/-- Present if a person asked for the call. -/
def customerInitiated : String := "token-customer-initiated"

/-- The level of the key that signed the call. -/
def keyLevel : String := "token-key-level"

/-- What is told of the device. -/
def tracking : String := "token-security-metadata"

end HeaderName

/-- The platform that calls are said to come from. -/
def platformName : String := "rust"

/-- The version that calls are said to come from. -/
def versionName : String := "0.1.0"

/-- A call of the gateway. -/
structure Call where
  /-- What is asked. -/
  method : Method
  /-- With what beside. -/
  headers : Headers
  /-- The request. -/
  body : List UInt8
deriving DecidableEq

/-- The value of the first header of a name. -/
def Call.header? (call : Call) (name : String) : Option String := call.headers.value? name

end OpenBanking
