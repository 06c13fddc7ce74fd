import OpenBanking.Keys.Secret

/-!
# Signers and verifiers

A signer makes signatures with one key, a verifier checks signatures of one key. Octets are
signed as they are; a value is signed over its canonical text, so that two parties that hold
the same value agree on the octets. Signatures travel as base64url text.
-/

namespace OpenBanking

open Json

/-- Makes signatures with one key. -/
inductive Signer where
  /-- With the key of a member. -/
  | ed25519 (keyId : String) (pair : KeyText.Pair)
  /-- With the key of a certificate. -/
  | rsa (keyId : String) (key : Rsa.PrivateKey)
deriving DecidableEq

namespace Signer

/-- The signer of a secret key. -/
def ofSecret (key : SecretKey) : Signer := .ed25519 key.id key.pair

/-- The signer of an armoured private RSA key. -/
def ofDocument (keyId document : String) : Except CryptoError Signer :=
  match Rsa.ofText? document with
  | some key => .ok (.rsa keyId key)
  | none => .error .unreadableDocument

/-- Names the key that signs. -/
def keyId : Signer → String
  | .ed25519 keyId _ => keyId
  | .rsa keyId _ => keyId

/-- The signature of octets. -/
def signOctets (signer : Signer) (message : List UInt8) : Except CryptoError String :=
  match signer with
  | .ed25519 _ pair => .ok (Base64url.encode (pair.sign message))
  | .rsa _ key =>
    match key.sign message with
    | .ok signature => .ok (Base64url.encode signature)
    | .error error => .error (.signing error)

/-- The signature of a value. -/
def sign {α : Type} [Wire α] (signer : Signer) (x : α) : Except CryptoError String :=
  signer.signOctets (canonicalOctets x)

/-- Shows which key signs. -/
def description : Signer → String
  | .ed25519 keyId _ => Text.described "Ed25519Signer" [("key_id", Text.quoted keyId)]
  | .rsa keyId _ => Text.described "RsaSigner" [("key_id", Text.quoted keyId)]

end Signer

/-- Checks signatures of one key. -/
structure Verifier where
  /-- The octets of the public key. -/
  publicOctets : List UInt8
deriving DecidableEq

namespace Verifier

/-- The verifier of a public key. -/
def ofPublic (publicText : String) : Except CryptoError Verifier :=
  match KeyText.ofPublic publicText with
  | .ok publicOctets => .ok ⟨publicOctets⟩
  | .error error => .error (.keyText error)

/-- Whether a signature covers octets. -/
def verifyOctets (verifier : Verifier) (message : List UInt8) (signature : String) :
    Except ClientError Unit :=
  match decodeBase64url signature with
  | .error error => .error (.wire error)
  | .ok octets =>
    match KeyText.verify verifier.publicOctets message octets with
    | .ok () => .ok ()
    | .error error => .error (.crypto (.keyText error))

/-- Whether a signature covers a value. -/
def verify {α : Type} [Wire α] (verifier : Verifier) (x : α) (signature : String) :
    Except ClientError Unit :=
  verifier.verifyOctets (canonicalOctets x) signature

end Verifier

end OpenBanking
