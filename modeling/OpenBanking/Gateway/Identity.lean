import OpenBanking.Gateway.Context
import OpenBanking.Keys.Engine

/-!
# Signed calls

A member that calls signs every call: the signature covers the body and the time of signing.
Member, key, signature and time travel as headers before those of the context, and whoever
knows the public keys of the member can check a call from these alone.
-/

namespace OpenBanking

open Json

/-- Who calls, with which keys and under what. -/
structure Identity where
  /-- The member. -/
  memberId : String
  /-- Its keys. -/
  engine : Engine
  /-- Under what it calls. -/
  context : CallContext
deriving DecidableEq

namespace Identity

/-- The headers that sign a body. -/
def headers (who : Identity) (body : List UInt8) : Flow Session Headers := do
  let signer ← who.engine.signer who.context.keyLevel
  let createdAt ← Flow.read (·.now)
  let envelope : Envelope := ⟨Base64url.encode body, createdAt⟩
  let signature ← Flow.ofCrypto (signer.sign envelope)
  return [(HeaderName.memberId, who.memberId), (HeaderName.keyId, signer.keyId),
      (HeaderName.signature, signature),
      (HeaderName.createdAt, String.ofList (Text.integer createdAt.toInt))]
    ++ who.context.headers

/-- Sends a value in a signed call, and reads the value of the answer. -/
def exchange {α β : Type} [Wire α] [Wire β] (who : Identity) (method : Method) (x : α) :
    Flow Session β := do
  let headers ← who.headers (encode x)
  Session.exchange method headers x

end Identity

/-- A time in milliseconds from its decimal text. -/
def timeOf? (text : String) : Option Int64 :=
  let (negative, digits) := match text.toList with
    | '-' :: rest => (true, rest)
    | all => (false, all)
  match Text.naturalOf? digits with
  | some n =>
    let time : Int := if negative then -(n : Int) else n
    if -0x8000000000000000 ≤ time ∧ time ≤ 0x7FFFFFFFFFFFFFFF then some (Int64.ofInt time) else none
  | none => none

/-- A call carries a signature of its body and of the time it names, by the key that it
names; `publicKey` finds the public key of an id. -/
def Call.isSigned (publicKey : String → Option String) (call : Call) : Bool :=
  match call.header? HeaderName.keyId, call.header? HeaderName.signature,
      (call.header? HeaderName.createdAt).bind timeOf? with
  | some keyId, some signature, some createdAt =>
    match (publicKey keyId).map Verifier.ofPublic with
    | some (.ok verifier) =>
      let envelope : Envelope := ⟨Base64url.encode call.body, createdAt⟩
      (verifier.verify envelope signature).isOk
    | _ => false
  | _, _, _ => false

end OpenBanking
