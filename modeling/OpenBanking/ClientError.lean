import OpenBanking.Gateway.Message
import OpenBanking.Gateway.Status
import OpenBanking.Keys.Text
import OpenBanking.Rsa.Signature
import OpenBanking.WireError

/-!
# Errors of a client

Why an operation fails: the gateway says so, the answer cannot be read, or no key can sign.
`ClientError.ofResponse` reads a response that reports a failure.
-/

namespace OpenBanking

open Json

/-- Why a key cannot be made or used. -/
inductive CryptoError where
  /-- A member has no key of a level that has not expired. -/
  | noKey (level : KeyLevel) (memberId : String)
  /-- A member has no key of an id. -/
  | unknownKey (keyId memberId : String)
  /-- The key of an id has expired. -/
  | expiredKey (keyId : String)
  /-- There is no seed left for a new key. -/
  | seedsSpent
  /-- A text is no key, or a signature is not accepted. -/
  | keyText (error : KeyText.Error)
  /-- A text is no private RSA key. -/
  | unreadableDocument
  /-- RSA does not sign. -/
  | signing (error : Rsa.Error)
  /-- RSA refuses to work. -/
  | rsa (error : Rsa.Error)
  /-- Something else, as described. -/
  | described (text : String)
deriving DecidableEq

/-- The wording of an error. -/
def CryptoError.message : CryptoError → String
  | .noKey level memberId => "no " ++ nameOf level ++ " key for member " ++ memberId
  | .unknownKey keyId memberId => "key " ++ keyId ++ " not found for " ++ memberId
  | .expiredKey keyId => "key " ++ keyId ++ " has expired"
  | .seedsSpent => "no more seeds"
  | .keyText error => error.message
  | .unreadableDocument => "invalid PKCS#8 key"
  | .signing error => "signature error: " ++ error.message
  | .rsa error => error.message
  | .described text => text

/-- Why an operation fails. -/
inductive ClientError where
  /-- The client is not set up well. -/
  | configuration (reason : String)
  /-- The gateway reports a status. -/
  | status (code : Status) (message : String)
  /-- The call has to be made with a key of a higher level. -/
  | stepUpRequired (reason : String)
  /-- A code is not accepted. -/
  | verification (reason : String)
  /-- There is no such thing. -/
  | notFound (reason : String)
  /-- A key cannot be made or used. -/
  | crypto (error : CryptoError)
  /-- The channel takes no more calls. -/
  | channelClosed
  /-- The gateway cannot be reached. -/
  | http
  /-- An answer cannot be read. -/
  | serialization (error : ReadError)
  /-- A value and its text do not agree. -/
  | wire (error : WireError)
deriving DecidableEq

namespace ClientError

/-- The kind of an error, in one word. -/
def kind : ClientError → String
  | .configuration _ => "Config"
  | .status .. => "Status"
  | .stepUpRequired _ => "StepUpRequired"
  | .verification _ => "Verification"
  | .notFound _ => "NotFound"
  | .crypto _ => "Crypto"
  | .channelClosed => "ChannelClosed"
  | .http => "Http"
  | .serialization _ => "Serialization"
  | .wire _ => "Model"

/-- The wording of an error. -/
def message : ClientError → String
  | .configuration reason => "configuration error: " ++ reason
  | .status code message => nameOf code ++ ": " ++ message
  | .stepUpRequired reason => "step up required: " ++ reason
  | .verification reason => "verification failed: " ++ reason
  | .notFound reason => "not found: " ++ reason
  | .crypto error => "crypto error: " ++ error.message
  | .channelClosed => "channel is shut down"
  | .http => "HTTP error"
  | .serialization error => "serialization error: " ++ error.message
  | .wire error => "model error: " ++ error.message

/-- The status that an error carries. -/
def status? : ClientError → Option Status
  | .status code _ => some code
  | _ => none

/-- The error of a response that reports a failure. A body that names a status is taken at
its word; the status of HTTP decides for all others. -/
def ofResponse (http : Nat) (body : List UInt8) : ClientError :=
  match decode (α := ErrorBody) body with
  | .ok error => .status ((ofName? error.code).getD (.ofHttp http)) error.message
  | .error _ => .status (.ofHttp http) (Utf8.lossy body)

end ClientError

end OpenBanking
