import OpenBanking.Alias
import OpenBanking.Key

/-!
# eIDAS certificates

A third party proves by a certificate that it may act under an authorization number.
-/

namespace OpenBanking

open Json

/-- What a third party signs with the key of its certificate. -/
structure EidasPayload where
  /-- How it is signed. -/
  algorithm : KeyAlgorithm := .ed25519
  /-- The authorization number as an alias. -/
  knownAs : Alias := {}
  /-- The certificate. -/
  certificate : String := ""
  /-- The member that is to own the alias. -/
  memberId : String := ""
deriving DecidableEq

namespace EidasPayload

/-- All fields at their defaults. -/
instance : Inhabited EidasPayload := ⟨{}⟩

/-- Members of the JSON object. -/
def fields : Fields (KeyAlgorithm × Alias × String × String × Unit) :=
  .cons (.required "algorithm") <| .cons (.required "alias") <|
  .cons (.required "certificate") <| .cons (.required "member_id") .nil

/-- Written as an object of its fields. -/
instance : Wire EidasPayload where
  codec := .record "VerifyEidasPayload" fields
    (fun (algorithm, knownAs, certificate, memberId, ()) =>
      ⟨algorithm, knownAs, certificate, memberId⟩)
    fun x => (x.algorithm, x.knownAs, x.certificate, x.memberId, ())

end EidasPayload

/-- What became of a verification. -/
inductive EidasStatus where
  /-- Not known. -/
  | invalid
  /-- Under way. -/
  | pending
  /-- The certificate is good. -/
  | success
  /-- The certificate is bad. -/
  | failureEidasInvalid
  /-- It could not be verified. -/
  | failureError
deriving DecidableEq

/-- Wire names. -/
instance : Named EidasStatus where
  all := [.invalid, .pending, .success, .failureEidasInvalid, .failureError]
  name
    | .invalid => "INVALID"
    | .pending => "PENDING"
    | .success => "SUCCESS"
    | .failureEidasInvalid => "FAILURE_EIDAS_INVALID"
    | .failureError => "FAILURE_ERROR"
  mem_all x := by cases x <;> simp
  names_nodup := by decide

/-- Written as its name. -/
instance : Wire EidasStatus := ⟨.named EidasStatus⟩

/-- The value where none is given. -/
instance : Inhabited EidasStatus := ⟨.invalid⟩

/-- The answer to a verification. -/
structure EidasResponse where
  /-- What became of it. -/
  status : EidasStatus := .invalid
  /-- More about that. -/
  details : String := ""
  /-- Names the verification. -/
  verificationId : String := ""
deriving DecidableEq

namespace EidasResponse

/-- All fields at their defaults. -/
instance : Inhabited EidasResponse := ⟨{}⟩

/-- Members of the JSON object. -/
def fields : Fields (EidasStatus × String × String × Unit) :=
  .cons (.required "status") <| .cons (.withDefault "status_details" "") <|
  .cons (.withDefault "verification_id" "") .nil

/-- Written as an object of its fields. -/
instance : Wire EidasResponse where
  codec := .record "VerifyEidasResponse" fields
    (fun (status, details, verificationId, ()) => ⟨status, details, verificationId⟩)
    fun x => (x.status, x.details, x.verificationId, ())

end EidasResponse

end OpenBanking
