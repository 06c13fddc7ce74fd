import OpenBanking.Json.Choice

/-!
# Keys and signatures

A member signs with keys of three levels. The public half of a key travels in records and
updates; a signature names the member and the key that made it.
-/

namespace OpenBanking

open Json

/-- What a key may sign. The levels rise in this order. -/
inductive KeyLevel where
  /-- Everyday requests. -/
  | low
  /-- Requests that move money. -/
  | standard
  /-- Changes to the member itself. -/
  | privileged
deriving DecidableEq

/-- Wire names. -/
instance : Named KeyLevel where
  all := [.low, .standard, .privileged]
  name
    | .low => "LOW"
    | .standard => "STANDARD"
    | .privileged => "PRIVILEGED"
  mem_all x := by cases x <;> simp
  names_nodup := by decide

/-- Written as its name. -/
instance : Wire KeyLevel := ⟨.named KeyLevel⟩

/-- How levels are shown. -/
instance : ToString KeyLevel where
  toString
    | .low => "LOW"
    | .standard => "STANDARD"
    | .privileged => "PRIVILEGED"

/-- The value where none is given. -/
instance : Inhabited KeyLevel := ⟨.low⟩

namespace KeyLevel

/-- Levels are shown by their wire names. -/
@[simp]
theorem toString_eq_nameOf (level : KeyLevel) : toString level = nameOf level := by
  cases level <;> rfl

/-- The place of a level, from the lowest. -/
def rank : KeyLevel → Nat
  | .low => 0
  | .standard => 1
  | .privileged => 2

/-- Levels compare by their places. -/
instance : Ord KeyLevel := ⟨fun x y => compare x.rank y.rank⟩

/-- The higher of two levels. -/
def highest (x y : KeyLevel) : KeyLevel := if x.rank ≤ y.rank then y else x

end KeyLevel

/-- How a key signs. -/
inductive KeyAlgorithm where
  /-- Edwards-curve signatures. -/
  | ed25519
  /-- RSA signatures over SHA-256. -/
  | rs256
deriving DecidableEq

/-- Wire names. -/
instance : Named KeyAlgorithm where
  all := [.ed25519, .rs256]
  name
    | .ed25519 => "ED25519"
    | .rs256 => "RS256"
  mem_all x := by cases x <;> simp
  names_nodup := by decide

/-- Written as its name. -/
instance : Wire KeyAlgorithm := ⟨.named KeyAlgorithm⟩

/-- How algorithms are shown. -/
instance : ToString KeyAlgorithm where
  toString
    | .ed25519 => "ED25519"
    | .rs256 => "RS256"

/-- The value where none is given. -/
instance : Inhabited KeyAlgorithm := ⟨.ed25519⟩

/-- The public half of a key. -/
structure Key where
  /-- Names the key within its member. -/
  id : String := ""
  /-- The encoded public key. -/
  publicKey : String := ""
  /-- What it may sign. -/
  level : KeyLevel := .low
  /-- How it signs. -/
  algorithm : KeyAlgorithm := .ed25519
  /-- When it expires, in milliseconds since 1970, if ever. -/
  expiresAt : Option Int64 := none
deriving DecidableEq

namespace Key

/-- All fields at their defaults. -/
instance : Inhabited Key := ⟨{}⟩

/-- Members of the JSON object. -/
def fields : Fields (String × String × KeyLevel × KeyAlgorithm × Option Int64 × Unit) :=
  .cons (.required "id") <| .cons (.required "public_key") <| .cons (.required "level") <|
  .cons (.required "algorithm") <| .cons (.optional "expires_at_ms") .nil

/-- Written as an object of its fields. -/
instance : Wire Key where
  codec := .record "Key" fields
    (fun (id, publicKey, level, algorithm, expiresAt, ()) => ⟨id, publicKey, level, algorithm,
      expiresAt⟩)
    fun x => (x.id, x.publicKey, x.level, x.algorithm, x.expiresAt, ())

end Key

/-- A signature with its maker. -/
structure Signature where
  /-- The member that signed. -/
  memberId : String := ""
  /-- The key that signed. -/
  keyId : String := ""
  /-- The signature as base64url text. -/
  signature : String := ""
deriving DecidableEq

namespace Signature

/-- All fields at their defaults. -/
instance : Inhabited Signature := ⟨{}⟩

/-- Members of the JSON object. -/
def fields : Fields (String × String × String × Unit) :=
  .cons (.required "member_id") <| .cons (.required "key_id") <| .cons (.required "signature") .nil

/-- Written as an object of its fields. -/
instance : Wire Signature where
  codec := .record "Signature" fields
    (fun (memberId, keyId, signature, ()) => ⟨memberId, keyId, signature⟩)
    fun x => (x.memberId, x.keyId, x.signature, ())

end Signature

/-- What is told of the device on whose behalf a call is made. -/
structure Tracking where
  /-- Network address. -/
  ipAddress : String := ""
  /-- Place. -/
  geoLocation : String := ""
  /-- Mark of the device. -/
  deviceFingerprint : String := ""
deriving DecidableEq

namespace Tracking

/-- All fields at their defaults. -/
instance : Inhabited Tracking := ⟨{}⟩

/-- Members of the JSON object. -/
def fields : Fields (String × String × String × Unit) :=
  .cons (.withDefault "ip_address" "") <| .cons (.withDefault "geo_location" "") <|
  .cons (.withDefault "device_fingerprint" "") .nil

/-- Written as an object of its fields. -/
instance : Wire Tracking where
  codec := .record "SecurityMetadata" fields
    (fun (ipAddress, geoLocation, deviceFingerprint, ()) => ⟨ipAddress, geoLocation,
      deviceFingerprint⟩)
    fun x => (x.ipAddress, x.geoLocation, x.deviceFingerprint, ())

/-- Nothing is told. -/
def isEmpty (x : Tracking) : Bool :=
  x.ipAddress.isEmpty && x.geoLocation.isEmpty && x.deviceFingerprint.isEmpty

end Tracking

/-- What the signature of a call covers: the body and the time of signing. -/
structure Envelope where
  /-- The body as base64url text. -/
  request : String
  /-- When it was signed, in milliseconds since 1970. -/
  createdAt : Int64
deriving DecidableEq

namespace Envelope

/-- Members of the JSON object. -/
def fields : Fields (String × Int64 × Unit) :=
  .cons (.required "request") <| .cons (.required "created_at_ms") .nil

/-- Written as an object of its fields. -/
instance : Wire Envelope where
  codec := .record "GrpcAuthPayload" fields
    (fun (request, createdAt, ()) => ⟨request, createdAt⟩)
    fun x => (x.request, x.createdAt, ())

end Envelope

end OpenBanking
