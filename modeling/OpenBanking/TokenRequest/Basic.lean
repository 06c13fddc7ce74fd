import OpenBanking.Member
import OpenBanking.TokenRequest.Body

/-!
# Token requests

A request for a token, as it is shown to the account holder: a payload, which says what is
asked for and by whom, and options, which are only hints.
-/

namespace OpenBanking

open Json

/-- On whose behalf a request is made. -/
structure ActingAs where
  /-- The name to show. -/
  displayName : String := ""
  /-- A reference of the requester. -/
  refId : String := ""
  /-- A picture. -/
  logoUrl : String := ""
  /-- Another name. -/
  secondaryName : String := ""
deriving DecidableEq

namespace ActingAs

/-- All fields at their defaults. -/
instance : Inhabited ActingAs := ⟨{}⟩

/-- Members of the JSON object. -/
def fields : Fields (String × String × String × String × Unit) :=
  .cons (.required "display_name") <| .cons (.withDefault "ref_id" "") <|
  .cons (.withDefault "logo_url" "") <| .cons (.withDefault "secondary_name" "") .nil

/-- Written as an object of its fields. -/
instance : Wire ActingAs where
  codec := .record "ActingAs" fields
    (fun (displayName, refId, logoUrl, secondaryName, ()) => ⟨displayName, refId, logoUrl,
      secondaryName⟩)
    fun x => (x.displayName, x.refId, x.logoUrl, x.secondaryName, ())

end ActingAs

/-- What is asked for and by whom. -/
structure RequestPayload where
  /-- The requester’s name for the account holder. -/
  userRefId : String := ""
  /-- How the request is to look. -/
  customizationId : String := ""
  /-- Where the account holder is sent back to. -/
  redirectUrl : String := ""
  /-- A reference of the requester. -/
  refId : String := ""
  /-- Who receives the token. -/
  recipient : Party := {}
  /-- On whose behalf. -/
  actingAs : Option ActingAs := none
  /-- What for. -/
  description : String := ""
  /-- What is handed back in the end. -/
  callbackState : String := ""
  /-- The country that money goes to. -/
  destinationCountry : String := ""
  /-- What is asked for. -/
  body : RequestBody := .access {}
deriving DecidableEq

namespace RequestPayload

/-- All fields at their defaults. -/
instance : Inhabited RequestPayload := ⟨{}⟩

/-- Members of the JSON object. -/
def fields :
    Fields (String × String × String × String × Party × Option ActingAs × String × String × String
      × RequestBody × Unit) :=
  .cons (.withDefault "user_ref_id" "") <| .cons (.withDefault "customization_id" "") <|
  .cons (.withDefault "redirect_url" "") <| .cons (.withDefault "ref_id" "") <|
  .cons (.withDefault "to" {}) <| .cons (.optional "acting_as") <|
  .cons (.withDefault "description" "") <| .cons (.withDefault "callback_state" "") <|
  .cons (.withDefault "destination_country" "") <| .cons (.required "request_body") .nil

/-- Written as an object of its fields. -/
instance : Wire RequestPayload where
  codec := .record "TokenRequestPayload" fields
    (fun (userRefId, customizationId, redirectUrl, refId, recipient, actingAs, description,
        callbackState, destinationCountry, body, ()) =>
      ⟨userRefId, customizationId, redirectUrl, refId, recipient, actingAs, description,
        callbackState, destinationCountry, body⟩)
    fun x =>
      (x.userRefId, x.customizationId, x.redirectUrl, x.refId, x.recipient, x.actingAs,
        x.description, x.callbackState, x.destinationCountry, x.body, ())

end RequestPayload

/-- Hints for the account holder. -/
structure RequestOptions where
  /-- Which bank to choose. -/
  bankId : String := ""
  /-- Who is asked. -/
  source : Party := {}
  /-- Which account to choose. -/
  sourceAccountId : String := ""
  /-- Whether a receipt is wanted. -/
  receiptRequested : Bool := false
deriving DecidableEq

namespace RequestOptions

/-- All fields at their defaults. -/
instance : Inhabited RequestOptions := ⟨{}⟩

/-- Members of the JSON object. -/
def fields : Fields (String × Party × String × Bool × Unit) :=
  .cons (.withDefault "bank_id" "") <| .cons (.withDefault "from" {}) <|
  .cons (.withDefault "source_account_id" "") <|
  .cons (.withDefault "receipt_requested" false) .nil

/-- Written as an object of its fields. -/
instance : Wire RequestOptions where
  codec := .record "TokenRequestOptions" fields
    (fun (bankId, source, sourceAccountId, receiptRequested, ()) =>
      ⟨bankId, source, sourceAccountId, receiptRequested⟩)
    fun x => (x.bankId, x.source, x.sourceAccountId, x.receiptRequested, ())

end RequestOptions

/-- A request for a token. -/
structure TokenRequest where
  /-- What is asked for and by whom. -/
  payload : RequestPayload
  /-- Hints for the account holder. -/
  options : RequestOptions
deriving DecidableEq

end OpenBanking
