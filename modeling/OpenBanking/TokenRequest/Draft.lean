import OpenBanking.Date
import OpenBanking.Digest.Sha256
import OpenBanking.TokenRequest.Basic
import OpenBanking.TokenRequest.CallbackState

/-!
# Drafts of token requests

A draft is begun for one kind of body and filled in setting by setting. Settings that every
request has are common; transfers and standing orders have more. A draft gives the
request with its callback state.
-/

namespace OpenBanking

/-- The text of an amount: plain decimal digits, and a fraction of zero where these have no
point. -/
def amountText (amount : Double) : String :=
  let digits := amount.plain
  if digits.toList.contains '.' || !amount.isFinite then digits else digits ++ ".0"

/-- A kind of body that a token can be asked for with. -/
class DraftBody (β : Type) where
  /-- The body of a request. -/
  toBody : β → RequestBody

/-- Access to account data. -/
instance : DraftBody AccessBody := ⟨.access⟩

/-- A token request that is being filled in. -/
structure Draft (β : Type) where
  /-- What is asked for and by whom. -/
  payload : RequestPayload := {}
  /-- Hints for the account holder. -/
  options : RequestOptions := {}
  /-- What the token is for. -/
  body : β
  /-- A text to be handed back. -/
  state : Option String := none
  /-- The mark of the request; only its digest leaves the draft. -/
  csrfToken : Option String := none
deriving DecidableEq

/-- What every draft can be told. -/
inductive CommonSetting where
  /-- Which bank to choose. -/
  | bankId (bankId : String)
  /-- The id of who is asked. -/
  | fromMemberId (memberId : String)
  /-- An alias of who is asked. -/
  | fromAlias (x : Alias)
  /-- Which account to choose. -/
  | sourceAccount (accountId : String)
  /-- Whether a receipt is wanted. -/
  | receiptRequested (requested : Bool)
  /-- The requester’s name for the account holder. -/
  | userRefId (refId : String)
  /-- How the request is to look. -/
  | customizationId (customizationId : String)
  /-- Where the account holder is sent back to. -/
  | redirectUrl (url : String)
  /-- A reference of the requester. -/
  | refId (refId : String)
  /-- An alias of who receives the token. -/
  | toAlias (x : Alias)
  /-- The id of who receives the token. -/
  | toMemberId (memberId : String)
  /-- On whose behalf. -/
  | actingAs (actingAs : ActingAs)
  /-- What for. -/
  | description (text : String)
  /-- A text to be handed back. -/
  | state (text : String)
  /-- The mark of the request. -/
  | csrfToken (token : String)
deriving DecidableEq

/-- What every draft that moves money can be told. -/
inductive PaymentSetting where
  /-- What every draft can be told. -/
  | common (setting : CommonSetting)
  /-- The country that money goes to. -/
  | destinationCountry (country : String)
  /-- One more place where the money may go. -/
  | addDestination (destination : TransferDestination)
  /-- What the provider wants to know. -/
  | providerMetadata (metadata : ProviderMetadata)
  /-- Who receives in the end. -/
  | ultimateCreditor (creditor : String)
  /-- Who pays in the end. -/
  | ultimateDebtor (debtor : String)
  /-- Why. -/
  | purposeCode (code : String)
deriving DecidableEq

/-- What a transfer can be told. -/
inductive TransferSetting where
  /-- What every payment can be told. -/
  | payment (setting : PaymentSetting)
  /-- One more place where the money may go, in the older form. -/
  | addLegacyDestination (destination : TransferEndpoint)
  /-- How much at once. -/
  | chargeAmount (amount : Double)
  /-- On which day. -/
  | executionDate (date : Date)
  /-- Who pays for the transfer. -/
  | chargeBearer (bearer : ChargeBearer)
deriving DecidableEq

/-- What a standing order can be told. -/
inductive OrderSetting where
  /-- What every payment can be told. -/
  | payment (setting : PaymentSetting)
  /-- How much each time. -/
  | amount (amount : Double)
  /-- The currency. -/
  | currency (currency : String)
  /-- How often. -/
  | frequency (frequency : String)
  /-- From which day on. -/
  | startDate (date : String)
  /-- Up to which day. -/
  | endDate (date : String)
  /-- The account to pay from. -/
  | source (source : TransferEndpoint)
deriving DecidableEq

/-- The instructions with other metadata. -/
def TransferInstructions.withMetadata (instructions : TransferInstructions)
    (f : TransferMetadata → TransferMetadata) : TransferInstructions :=
  { instructions with metadata := f instructions.metadata }

/-- The instructions with one more destination at the end. -/
def TransferInstructions.addDestination (instructions : TransferInstructions)
    (destination : TransferDestination) : TransferInstructions :=
  { instructions with destinations := instructions.destinations ++ [destination] }

/-- A kind of body that moves money by instructions. -/
class PaymentBody (β : Type) extends DraftBody β where
  /-- The body with other instructions. -/
  withInstructions : β → (TransferInstructions → TransferInstructions) → β

/-- A transfer. -/
instance : PaymentBody TransferBody where
  toBody := .transfer
  withInstructions body f := { body with instructions := f body.instructions }

/-- A standing order. -/
instance : PaymentBody StandingOrderBody where
  toBody := .standingOrder
  withInstructions body f := { body with instructions := f body.instructions }

namespace Draft

/-- A draft that asks for account data. -/
def access (resources : List ResourceKind) : Draft AccessBody := { body := ⟨resources⟩ }

/-- A draft that asks for a transfer of an amount in all. -/
def transfer (amount : Double) (currency : String) : Draft TransferBody :=
  { body := { lifetimeAmount := amountText amount, currency } }

/-- A draft that asks for a standing order. -/
def standingOrder : Draft StandingOrderBody := { body := {} }

variable {β : Type}

/-- The draft with another payload. -/
def withPayload (draft : Draft β) (f : RequestPayload → RequestPayload) : Draft β :=
  { draft with payload := f draft.payload }

/-- The draft with other options. -/
def withOptions (draft : Draft β) (f : RequestOptions → RequestOptions) : Draft β :=
  { draft with options := f draft.options }

/-- The draft with another body. -/
def withBody (draft : Draft β) (f : β → β) : Draft β := { draft with body := f draft.body }

/-- The draft after a setting that every draft has. -/
def setCommon (draft : Draft β) : CommonSetting → Draft β
  | .bankId bankId => draft.withOptions ({ · with bankId })
  | .fromMemberId id => draft.withOptions fun o => { o with source := { o.source with id } }
  | .fromAlias x =>
    draft.withOptions fun o => { o with source := { o.source with knownAs := some x } }
  | .sourceAccount sourceAccountId => draft.withOptions ({ · with sourceAccountId })
  | .receiptRequested receiptRequested => draft.withOptions ({ · with receiptRequested })
  | .userRefId userRefId => draft.withPayload ({ · with userRefId })
  | .customizationId customizationId => draft.withPayload ({ · with customizationId })
  | .redirectUrl redirectUrl => draft.withPayload ({ · with redirectUrl })
  | .refId refId => draft.withPayload ({ · with refId })
  | .toAlias x =>
    draft.withPayload fun p => { p with recipient := { p.recipient with knownAs := some x } }
  | .toMemberId id =>
    draft.withPayload fun p => { p with recipient := { p.recipient with id } }
  | .actingAs actingAs => draft.withPayload ({ · with actingAs := some actingAs })
  | .description description => draft.withPayload ({ · with description })
  | .state text => { draft with state := some text }
  | .csrfToken token => { draft with csrfToken := some token }

/-- The draft with other instructions. -/
def withInstructions [PaymentBody β] (draft : Draft β)
    (f : TransferInstructions → TransferInstructions) : Draft β :=
  draft.withBody (PaymentBody.withInstructions · f)

/-- The draft with other metadata of its instructions. -/
def withMetadata [PaymentBody β] (draft : Draft β) (f : TransferMetadata → TransferMetadata) :
    Draft β :=
  draft.withInstructions (·.withMetadata f)

/-- The payment after a setting that every payment has. -/
def setPayment [PaymentBody β] (draft : Draft β) : PaymentSetting → Draft β
  | .common setting => draft.setCommon setting
  | .destinationCountry destinationCountry => draft.withPayload ({ · with destinationCountry })
  | .addDestination destination => draft.withInstructions (·.addDestination destination)
  | .providerMetadata metadata => draft.withMetadata ({ · with provider := some metadata })
  | .ultimateCreditor ultimateCreditor => draft.withMetadata ({ · with ultimateCreditor })
  | .ultimateDebtor ultimateDebtor => draft.withMetadata ({ · with ultimateDebtor })
  | .purposeCode purposeCode => draft.withMetadata ({ · with purposeCode })

/-- The transfer after a setting. -/
def setTransfer (draft : Draft TransferBody) : TransferSetting → Draft TransferBody
  | .payment setting => draft.setPayment setting
  | .addLegacyDestination destination =>
    draft.withBody fun body => { body with destinations := body.destinations ++ [destination] }
  | .chargeAmount amount => draft.withBody ({ · with amount := amountText amount })
  | .executionDate date => draft.withBody ({ · with executionDate := date.compact })
  | .chargeBearer bearer => draft.withMetadata ({ · with chargeBearer := some bearer })

/-- The standing order after a setting. -/
def setOrder (draft : Draft StandingOrderBody) : OrderSetting → Draft StandingOrderBody
  | .payment setting => draft.setPayment setting
  | .amount amount => draft.withBody ({ · with amount := amountText amount })
  | .currency currency => draft.withBody ({ · with currency })
  | .frequency frequency => draft.withBody ({ · with frequency })
  | .startDate startDate => draft.withBody ({ · with startDate })
  | .endDate endDate => draft.withBody ({ · with endDate })
  | .source source => draft.withInstructions ({ · with source := some source })

/-- The callback state of a draft: the digest of its mark, and its text. -/
def callbackState (draft : Draft β) : CallbackState where
  csrfTokenHash :=
    match draft.csrfToken with
    | some token => Digest.sha256Text (Utf8.encode token)
    | none => ""
  state := draft.state.getD ""

/-- The request of a draft. -/
def request [DraftBody β] (draft : Draft β) : TokenRequest where
  payload :=
    { draft.payload with
      callbackState := draft.callbackState.serialize
      body := DraftBody.toBody draft.body }
  options := draft.options

end Draft

end OpenBanking
