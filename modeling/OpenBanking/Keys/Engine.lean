import OpenBanking.Keys.Signer
import OpenBanking.Session

/-!
# Engines

An engine makes and finds the keys of one member among the keys of a session.
-/

namespace OpenBanking

/-- The keys of one member. -/
structure Engine where
  /-- The member. -/
  memberId : String
deriving DecidableEq

namespace Engine

/-- Keeps a new key. -/
def keep (engine : Engine) (key : SecretKey) : Flow Session Key := do
  Flow.change fun session => { session with keys := session.keys.put engine.memberId key }
  return key.publicKey

/-- Makes and keeps a key of a level. -/
def generate (engine : Engine) (level : KeyLevel) : Flow Session Key := do
  let key ← Session.freshKey level
  engine.keep key

/-- Makes and keeps a key of a level that expires. -/
def generateExpiring (engine : Engine) (level : KeyLevel) (limit : Int64) : Flow Session Key := do
  let key ← Session.freshKey level
  engine.keep (key.expiring limit)

/-- The signer with the last key of a level. -/
def signer (engine : Engine) (level : KeyLevel) : Flow Session Signer := do
  let found ← Flow.read fun session => session.keys.byLevel session.now engine.memberId level
  let key ← Flow.ofCrypto found
  return .ofSecret key

/-- The verifier of the key of an id. -/
def verifier (engine : Engine) (keyId : String) : Flow Session Verifier := do
  let found ← Flow.read fun session => session.keys.byId session.now engine.memberId keyId
  let key ← Flow.ofCrypto found
  Flow.ofCrypto (Verifier.ofPublic key.publicText)

/-- The public halves of all keys. -/
def publicKeys (engine : Engine) : Flow Session (List Key) :=
  Flow.read fun session => (session.keys.list session.now engine.memberId).map (·.publicKey)

end Engine

end OpenBanking
