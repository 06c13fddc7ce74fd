import OpenBanking.Key

/-!
# Notices and blobs

What is sent to the devices of a member, and data that members store at the gateway.
-/

namespace OpenBanking

open Json

/-- The device that asks to be linked. -/
structure DeviceMetadata where
  /-- The program on it. -/
  application : String := ""
  /-- The version of the program. -/
  applicationVersion : String := ""
  /-- The device. -/
  device : String := ""
deriving DecidableEq

namespace DeviceMetadata

/-- All fields at their defaults. -/
instance : Inhabited DeviceMetadata := ⟨{}⟩

/-- Members of the JSON object. -/
def fields : Fields (String × String × String × Unit) :=
  .cons (.withDefault "application" "") <| .cons (.withDefault "application_version" "") <|
  .cons (.withDefault "device" "") .nil

/-- Written as an object of its fields. -/
instance : Wire DeviceMetadata where
  codec := .record "DeviceMetadata" fields
    (fun (application, applicationVersion, device, ()) => ⟨application, applicationVersion, device⟩)
    fun x => (x.application, x.applicationVersion, x.device, ())

end DeviceMetadata

/-- Keys that wait to be approved. -/
structure KeysToAdd where
  /-- The keys. -/
  keys : List Key := []
  /-- Where they were made. -/
  deviceMetadata : DeviceMetadata := {}
deriving DecidableEq

namespace KeysToAdd

/-- All fields at their defaults. -/
instance : Inhabited KeysToAdd := ⟨{}⟩

/-- Members of the JSON object. -/
def fields : Fields (List Key × DeviceMetadata × Unit) :=
  .cons (.required "keys") <| .cons (.withDefault "device_metadata" {}) .nil

/-- Written as an object of its fields. -/
instance : Wire KeysToAdd where
  codec := .record "AddKey" fields
    (fun (keys, deviceMetadata, ()) => ⟨keys, deviceMetadata⟩)
    fun x => (x.keys, x.deviceMetadata, ())

end KeysToAdd

/-- What is sent to the devices. -/
inductive NoticeBody where
  /-- Keys that wait to be approved. -/
  | addKey (content : KeysToAdd)
deriving DecidableEq

/-- Written as its variant. -/
instance : Wire NoticeBody where
  codec := .choice
    [.newtype "add_key" NoticeBody.addKey]
    fun
      | .addKey content => tagged "add_key" (toValue content)

/-- What became of a notice. -/
inductive NoticeStatus where
  /-- Not known. -/
  | invalid
  /-- It was sent. -/
  | accepted
  /-- No device listens. -/
  | noSubscribers
deriving DecidableEq

/-- Wire names. -/
instance : Named NoticeStatus where
  all := [.invalid, .accepted, .noSubscribers]
  name
    | .invalid => "INVALID"
    | .accepted => "ACCEPTED"
    | .noSubscribers => "NO_SUBSCRIBERS"
  mem_all x := by cases x <;> simp
  names_nodup := by decide

/-- Written as its name. -/
instance : Wire NoticeStatus := ⟨.named NoticeStatus⟩

/-- The value where none is given. -/
instance : Inhabited NoticeStatus := ⟨.invalid⟩

/-- Who may fetch a blob. -/
inductive AccessMode where
  /-- Its owner. -/
  | default
  /-- Everyone. -/
  | everyone
deriving DecidableEq

/-- Wire names. -/
instance : Named AccessMode where
  all := [.default, .everyone]
  name
    | .default => "DEFAULT"
    | .everyone => "PUBLIC"
  mem_all x := by cases x <;> simp
  names_nodup := by decide

/-- Written as its name. -/
instance : Wire AccessMode := ⟨.named AccessMode⟩

/-- The value where none is given. -/
instance : Inhabited AccessMode := ⟨.default⟩

/-- Data with what they are. -/
structure BlobPayload where
  /-- The owner. -/
  ownerId : String := ""
  /-- The media type. -/
  contentType : String := ""
  /-- The name of the file. -/
  name : String := ""
  /-- The data. -/
  data : String := ""
  /-- Who may fetch them. -/
  accessMode : AccessMode := .default
deriving DecidableEq

namespace BlobPayload

/-- All fields at their defaults. -/
instance : Inhabited BlobPayload := ⟨{}⟩

/-- Members of the JSON object. -/
def fields : Fields (String × String × String × String × AccessMode × Unit) :=
  .cons (.required "owner_id") <| .cons (.required "type") <| .cons (.withDefault "name" "") <|
  .cons (.required "data") <| .cons (.withDefault "access_mode" .default) .nil

/-- Written as an object of its fields. -/
instance : Wire BlobPayload where
  codec := .record "BlobPayload" fields
    (fun (ownerId, contentType, name, data, accessMode, ()) => ⟨ownerId, contentType, name, data,
      accessMode⟩)
    fun x => (x.ownerId, x.contentType, x.name, x.data, x.accessMode, ())

end BlobPayload

/-- Stored data. -/
structure Blob where
  /-- Names the blob. -/
  id : String := ""
  /-- The data. -/
  payload : BlobPayload := {}
deriving DecidableEq

namespace Blob

/-- All fields at their defaults. -/
instance : Inhabited Blob := ⟨{}⟩

/-- Members of the JSON object. -/
def fields : Fields (String × BlobPayload × Unit) :=
  .cons (.required "id") <| .cons (.required "payload") .nil

/-- Written as an object of its fields. -/
instance : Wire Blob where
  codec := .record "Blob" fields
    (fun (id, payload, ()) => ⟨id, payload⟩)
    fun x => (x.id, x.payload, ())

end Blob

end OpenBanking
