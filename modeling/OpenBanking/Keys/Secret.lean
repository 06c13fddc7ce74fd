import OpenBanking.ClientError
import OpenBanking.Text.Description

/-!
# Secret keys

A secret key is the seed of a pair of keys with the level it signs at and the time it
expires. Its id follows from its public key, and its description does not show the seed.
-/

namespace OpenBanking

/-- The number of characters of the id of a key. -/
def keyIdLength : Nat := 16

/-- The id of a key: the beginning of the digest of its public key. -/
def keyId (publicText : String) : String :=
  String.ofList ((Digest.sha256Text (Utf8.encode publicText)).toList.take keyIdLength)

/-- A key that can sign. -/
structure SecretKey where
  /-- The seed as text. -/
  seed : String
  /-- The pair of the seed. -/
  pair : KeyText.Pair
  /-- The text of the public key. -/
  publicText : String
  /-- Names the key within its member. -/
  id : String
  /-- What it may sign. -/
  level : KeyLevel
  /-- When it expires, in milliseconds since 1970, if ever. -/
  expiresAt : Option Int64 := none
  /-- The pair is the one of the seed. -/
  pair_of_seed : KeyText.ofSeed seed = .ok pair
  /-- The text is the one of the public key. -/
  publicText_of_pair : publicText = pair.publicText
  /-- The id is the one of the public key. -/
  id_of_publicText : id = keyId publicText

namespace SecretKey

/-- The key of a seed, which does not expire. -/
def ofSeed (seed : String) (level : KeyLevel) : Except CryptoError SecretKey :=
  match found : KeyText.ofSeed seed with
  | .ok pair =>
    .ok
      { seed, pair, level
        publicText := pair.publicText
        id := keyId pair.publicText
        pair_of_seed := found
        publicText_of_pair := rfl
        id_of_publicText := rfl }
  | .error error => .error (.keyText error)

/-- The key with a time at which it expires. -/
def expiring (key : SecretKey) (at_ : Int64) : SecretKey := { key with expiresAt := some at_ }

/-- The key has expired at a time. -/
def isExpired (key : SecretKey) (now : Int64) : Bool :=
  match key.expiresAt with
  | none => false
  | some limit => limit ≤ now

/-- The public half. -/
def publicKey (key : SecretKey) : Key where
  id := key.id
  publicKey := key.publicText
  level := key.level
  algorithm := .ed25519
  expiresAt := key.expiresAt

end SecretKey

/-- The name of a level in descriptions. -/
def KeyLevel.label : KeyLevel → String
  | .low => "Low"
  | .standard => "Standard"
  | .privileged => "Privileged"

/-- Shows all but the seed. -/
def SecretKey.description (key : SecretKey) : String :=
  Text.described "SecretKey"
    [("id", Text.quoted key.id), ("level", key.level.label),
      ("public_key", Text.quoted key.publicText),
      ("expires_at_ms",
        Text.describedOption <| key.expiresAt.map fun limit =>
          String.ofList (Text.integer limit.toInt))]

end OpenBanking
