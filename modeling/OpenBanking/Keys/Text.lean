import OpenBanking.Ed25519
import OpenBanking.Keys.Crc
import OpenBanking.Text.Base32
import OpenBanking.Text.Utf8

/-!
# Texts of keys

A seed or a public key is written as base32: octets that mark what it is, thirty-two
octets of key, and a check sum of two octets, the lower first. The mark of a seed also
tells the role of its public key.
-/

namespace OpenBanking.KeyText

/-- What the holder of a key is. -/
inductive Role where
  /-- An account. -/
  | account
  /-- A cluster of servers. -/
  | cluster
  /-- An operator. -/
  | operator
  /-- A server. -/
  | server
  /-- A user. -/
  | user
  /-- A module. -/
  | moduleHolder
  /-- A service. -/
  | service
  /-- A holder of a key for encryption. -/
  | curve
deriving DecidableEq

/-- Every role. -/
def Role.all : List Role :=
  [.account, .cluster, .operator, .server, .user, .moduleHolder, .service, .curve]

/-- The octet that marks a public key of a role; its five high bits are the first symbol. -/
def Role.mark : Role → UInt8
  | .account => 0
  | .cluster => 16
  | .operator => 112
  | .server => 104
  | .user => 160
  | .moduleHolder => 96
  | .service => 168
  | .curve => 184

/-- The role of a mark. -/
def Role.ofMark? (mark : UInt8) : Option Role := Role.all.find? (·.mark = mark)

/-- The five high bits that mark a seed. -/
def seedMark : UInt8 := 144

/-- Why a text is no key, or a signature is not accepted. -/
inductive Error where
  /-- A seed is not as long as a seed. -/
  | seedLength (length : Nat)
  /-- A public key is not as long as a public key. -/
  | publicLength (length : Nat)
  /-- The text is no base32. -/
  | base32 (error : Base32.Error)
  /-- The check sum is of other octets. -/
  | checksum
  /-- The text is no seed but something else. -/
  | notSeed (first : Char)
  /-- The text is no public key but something else. -/
  | notPublic (mark : UInt8)
  /-- The octets are no point of the curve. -/
  | unreadablePublic
  /-- A signature is not as long as a signature. -/
  | signatureLength
  /-- A signature does not cover the message. -/
  | signature
deriving DecidableEq

/-- The wording of a refusal. -/
def Error.message : Error → String
  | .seedLength count => s!"Invalid key length: Bad seed length: {count}"
  | .publicLength count => s!"Invalid key length: Bad key length: {count}"
  | .base32 cause => "Codec failure: Data encoding failure: " ++ cause.message
  | .checksum => "Checksum match failure: Checksum mismatch"
  | .notSeed first => "Invalid byte prefix: Incorrect byte prefix: " ++ String.ofList [first]
  | .notPublic mark => s!"Invalid byte prefix: Not a valid public key prefix: {mark.toNat}"
  | .unreadablePublic => "Signature verification failure: Could not read public key"
  | .signatureLength => "Invalid signature length: Signature did not match expected length"
  | .signature => "Signature failure: Signature error: signature error"

/-- The text of marked octets. -/
def write (marked : List UInt8) : String :=
  String.ofList (Base32.encodeChars
    (marked ++ Digest.Block.littleOctets 2 (Crc.checksum marked)))

/-- The marked octets of a text whose check sum agrees. -/
def read (written : List UInt8) : Except Error (List UInt8) :=
  match Base32.decode written with
  | .error cause => .error (.base32 cause)
  | .ok octets =>
    let marked := octets.take (octets.length - 2)
    if Digest.Block.littleEndian (octets.drop (octets.length - 2)) = Crc.checksum marked then
      .ok marked
    else .error .checksum

/-- A pair of keys. -/
structure Pair where
  /-- What its holder is. -/
  role : Role
  /-- The secret octets. -/
  seed : List UInt8
  /-- The octets of the public key. -/
  publicOctets : List UInt8
deriving DecidableEq

/-- The text of a public key. -/
def publicText (role : Role) (octets : List UInt8) : String := write (role.mark :: octets)

/-- The text of the public key of a pair. -/
def Pair.publicText (pair : Pair) : String := KeyText.publicText pair.role pair.publicOctets

/-- The text of a seed for a role. -/
def seedText (role : Role) (seed : List UInt8) : String :=
  write ((seedMark + role.mark / 32) :: (role.mark % 32 * 8) :: seed)

/-- The pair of a seed. A role that is not known counts as an operator. -/
def ofSeed (text : String) : Except Error Pair := do
  let written := Utf8.encode text
  if written.length ≠ 58 then .error (.seedLength written.length)
  else
    match ← read written with
    | first :: second :: seed =>
      if first / 8 * 8 ≠ seedMark then .error (.notSeed (text.toList.headD 'S'))
      else
        let role := (Role.ofMark? (first % 8 * 32 + second / 8)).getD .operator
        .ok ⟨role, seed, Ed25519.publicKey seed⟩
    | _ => .error .checksum

/-- The octets of a public key. -/
def ofPublic (text : String) : Except Error (List UInt8) := do
  let written := Utf8.encode text
  if written.length ≠ 56 then .error (.publicLength written.length)
  else
    match ← read written with
    | mark :: octets =>
      if (Role.ofMark? mark).isNone then .error (.notPublic mark)
      else if (Ed25519.decodePoint? octets).isNone then .error .unreadablePublic
      else .ok octets
    | [] => .error .checksum

/-- The signature of a message by a pair. -/
def Pair.sign (pair : Pair) (message : List UInt8) : List UInt8 :=
  Ed25519.sign pair.seed pair.publicOctets message

/-- Whether a signature covers a message under the octets of a public key. -/
def verify (publicOctets message signature : List UInt8) : Except Error Unit :=
  if signature.length ≠ 64 then .error .signatureLength
  else if Ed25519.verify publicOctets message signature then .ok ()
  else .error .signature

end OpenBanking.KeyText
