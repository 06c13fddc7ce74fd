import OpenBanking.Keys.Secret

/-!
# Key stores

A store keeps the secret keys of members in the order in which they were put. A key that is
put again moves to the end; keys that have expired stay, but no question finds them.
-/

namespace OpenBanking

/-- The keys of members, oldest first. -/
structure KeyStore where
  /-- Members with their keys. -/
  entries : List (String × SecretKey) := []

namespace KeyStore

/-- A store without keys. -/
def empty : KeyStore := {}

/-- All keys of a member, expired ones among them. -/
def keysOf (store : KeyStore) (memberId : String) : List SecretKey :=
  (store.entries.filter (·.1 = memberId)).map (·.2)

/-- Puts a key at the end, in place of a key of that id. -/
def put (store : KeyStore) (memberId : String) (key : SecretKey) : KeyStore where
  entries :=
    store.entries.filter (fun entry => !(entry.1 = memberId && entry.2.id = key.id))
      ++ [(memberId, key)]

/-- Forgets all keys of a member. -/
def delete (store : KeyStore) (memberId : String) : KeyStore where
  entries := store.entries.filter fun entry => !(entry.1 = memberId)

/-- The keys of a member that have not expired. -/
def list (store : KeyStore) (now : Int64) (memberId : String) : List SecretKey :=
  (store.keysOf memberId).filter fun key => !key.isExpired now

/-- The last key of a level that has not expired. -/
def byLevel (store : KeyStore) (now : Int64) (memberId : String) (level : KeyLevel) :
    Except CryptoError SecretKey :=
  match (store.keysOf memberId).reverse.find? fun key =>
      key.level = level && !key.isExpired now with
  | some key => .ok key
  | none => .error (.noKey level memberId)

/-- The key of an id, if it has not expired. -/
def byId (store : KeyStore) (now : Int64) (memberId id : String) : Except CryptoError SecretKey :=
  match (store.keysOf memberId).find? (·.id = id) with
  | none => .error (.unknownKey id memberId)
  | some key => if key.isExpired now then .error (.expiredKey id) else .ok key

end KeyStore

end OpenBanking
