import OpenBanking.Digest.Sha256
import OpenBanking.Power
import OpenBanking.Rsa.Der
import OpenBanking.Rsa.Pem

/-!
# RSA signatures

Signatures of the scheme RSASSA-PKCS1-v1_5 over SHA-256, by a private key of two primes
from an armoured PKCS#8 document. A key is admitted only if its numbers fit together, and
a signature is given away only if the public exponent undoes it.
-/

namespace OpenBanking.Rsa

open Digest.Block (bigEndian octets)

/-- A private key of two primes. -/
structure PrivateKey where
  /-- The modulus. -/
  modulus : Nat
  /-- The public exponent. -/
  publicExponent : Nat
  /-- The private exponent. -/
  privateExponent : Nat
  /-- The first prime. -/
  prime₁ : Nat
  /-- The second prime. -/
  prime₂ : Nat
deriving DecidableEq

/-- The numbers of a key fit together: the primes make the odd modulus of at most 4096
bits, and the exponents undo each other modulo each prime. -/
def PrivateKey.isSound (key : PrivateKey) : Bool :=
  let product := key.publicExponent * key.privateExponent
  key.modulus < Nat.pow 2 4096 && key.publicExponent < key.modulus && key.modulus % 2 = 1
    && key.publicExponent % 2 = 1 && 2 ≤ key.publicExponent && key.publicExponent < 0x200000000
    && 1 ≤ key.prime₁ && 1 ≤ key.prime₂ && key.prime₁ * key.prime₂ = key.modulus
    && product % (key.prime₁ - 1) = 1 && product % (key.prime₂ - 1) = 1

/-- The identifier of RSA keys. -/
def rsaIdentifier : List UInt8 := [0x2A, 0x86, 0x48, 0x86, 0xF7, 0x0D, 0x01, 0x01, 0x01]

/-- A key by its nine numbers: a version of zero, the numbers of the key, and three that
follow from them. -/
def ofNumbers? (s : List UInt8) : Option PrivateKey := do
  let content ← Der.only? Der.sequenceTag s
  let (version, s) ← Der.natural? content
  let (modulus, s) ← Der.natural? s
  let (publicExponent, s) ← Der.natural? s
  let (privateExponent, s) ← Der.natural? s
  let (prime₁, s) ← Der.natural? s
  let (prime₂, s) ← Der.natural? s
  let (_, s) ← Der.natural? s
  let (_, s) ← Der.natural? s
  let (_, s) ← Der.natural? s
  if version = 0 && s.isEmpty then
    let key := ⟨modulus, publicExponent, privateExponent, prime₁, prime₂⟩
    if key.isSound then some key else none
  else none

/-- The algorithm of a document is RSA without parameters. -/
def isRsa (content : List UInt8) : Bool :=
  match Der.tagged? Der.identifierTag content with
  | some (identifier, rest) =>
    identifier = rsaIdentifier && Der.only? Der.nullTag rest = some []
  | none => false

/-- Whether a tag is one of a context. -/
def isContextTag (tag : UInt8) : Bool := 0x80 ≤ tag && tag < 0xC0

/-- The number of a tag of a context. -/
def contextNumber (tag : UInt8) : Nat := tag.toNat % 32

/-- A public key at the front, past attributes: nothing where there is none, else whether
it is well formed, and the octets after it. Each step passes over an attribute. -/
def publicPart? : (steps : Nat) → List UInt8 → Option (Bool × List UInt8)
  | 0, _ => none
  | _ + 1, [] => some (false, [])
  | steps + 1, tag :: rest =>
    if !isContextTag tag || 1 < contextNumber tag then some (false, tag :: rest)
    else do
      let (element, later) ← Der.element? (tag :: rest)
      if contextNumber tag = 1 then
        if element.tag = 0x81 && element.content.head? = some 0 then some (true, later) else none
      else publicPart? steps later

/-- What else a document may hold: values of a context, each around one value. -/
def areExtensions : (steps : Nat) → List UInt8 → Bool
  | 0, _ => false
  | _ + 1, [] => true
  | steps + 1, tag :: rest =>
    match Der.element? (tag :: rest) with
    | some (element, later) =>
      0xA0 ≤ tag && tag < 0xC0
        && (match Der.element? element.content with
            | some (_, inner) => inner.isEmpty
            | none => false)
        && areExtensions steps later
    | none => false

/-- The key of a PKCS#8 document. A public key stands in it from version one on. -/
def ofDocument? (s : List UInt8) : Option PrivateKey := do
  let content ← Der.only? Der.sequenceTag s
  let (version, s) ← Der.natural? content
  let (algorithm, s) ← Der.tagged? Der.sequenceTag s
  let (numbers, s) ← Der.tagged? Der.octetStringTag s
  let (hasPublic, s) ← publicPart? (s.length + 1) s
  if version ≤ 1 && hasPublic == (version == 1) && areExtensions (s.length + 1) s
      && isRsa algorithm then
    ofNumbers? numbers
  else none

/-- The key of an armoured text. -/
def ofText? (text : String) : Option PrivateKey := do
  let document ← Pem.document? (Pem.ascii "PRIVATE KEY") text.toByteArray.data.toList
  ofDocument? document

/-- Why RSA refuses to work. -/
inductive Error where
  /-- The modulus is too short for the digest. -/
  | messageTooLong
  /-- A signature does not verify. -/
  | verification
  /-- A number is beyond the modulus. -/
  | decryption
  /-- A result is not undone by the public exponent. -/
  | internal
deriving DecidableEq

/-- The wording of a refusal. -/
def Error.message : Error → String
  | .messageTooLong => "message too long"
  | .verification => "verification error"
  | .decryption => "decryption error"
  | .internal => "internal error"

/-- The number of octets of a modulus. -/
def sizeOf (modulus : Nat) : Nat := (Nat.log2 modulus + 8) / 8

/-- What a digest of SHA-256 is preceded by. -/
def digestHeader : List UInt8 :=
  [0x30, 0x31, 0x30, 0x0D, 0x06, 0x09, 0x60, 0x86, 0x48, 0x01, 0x65, 0x03, 0x04, 0x02, 0x01,
    0x05, 0x00, 0x04, 0x20]

/-- The octets that are signed: a digest behind its header, filled up to a size. -/
def padded (size : Nat) (message : List UInt8) : Except Error (List UInt8) :=
  let body := digestHeader ++ Digest.Sha256.hash message
  if size < body.length + 11 then .error .messageTooLong
  else .ok (0 :: 1 :: List.replicate (size - body.length - 3) 0xFF ++ 0 :: body)

/-- The private power of a number, taken modulo each prime and put together; modulo the
product where the primes have no common ground. -/
def PrivateKey.power (key : PrivateKey) (c : Nat) : Nat :=
  match inverse? key.prime₂ key.prime₁ with
  | none => powerMod c key.privateExponent key.modulus
  | some quotient =>
    let m₁ := powerMod c (key.privateExponent % (key.prime₁ - 1)) key.prime₁
    let m₂ := powerMod c (key.privateExponent % (key.prime₂ - 1)) key.prime₂
    let difference := (m₁ + key.prime₁ - m₂ % key.prime₁) % key.prime₁
    difference * quotient % key.prime₁ * key.prime₂ + m₂

/-- The signature of a message. -/
def PrivateKey.sign (key : PrivateKey) (message : List UInt8) : Except Error (List UInt8) := do
  let size := sizeOf key.modulus
  let body ← padded size message
  let c := bigEndian body
  if key.modulus ≤ c then .error .decryption
  else
    let m := key.power c
    if powerMod m key.publicExponent key.modulus = c then .ok (octets size m)
    else .error .internal

end OpenBanking.Rsa
