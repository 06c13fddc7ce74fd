import OpenBanking.Account

/-!
# Bodies of token requests

What a token is asked for: access to account data, a transfer, or a standing order.
-/

namespace OpenBanking

open Json

/-- What account data a token opens. -/
inductive ResourceKind where
  /-- The accounts. -/
  | accounts
  /-- Their balances. -/
  | balances
  /-- Their transactions. -/
  | transactions
  /-- Where money can be sent to them. -/
  | transferDestinations
  /-- Whether they hold an amount. -/
  | fundsConfirmations
deriving DecidableEq

/-- Wire names. -/
instance : Named ResourceKind where
  all := [.accounts, .balances, .transactions, .transferDestinations, .fundsConfirmations]
  name
    | .accounts => "ACCOUNTS"
    | .balances => "BALANCES"
    | .transactions => "TRANSACTIONS"
    | .transferDestinations => "TRANSFER_DESTINATIONS"
    | .fundsConfirmations => "FUNDS_CONFIRMATIONS"
  mem_all x := by cases x <;> simp
  names_nodup := by decide

/-- Written as its name. -/
instance : Wire ResourceKind := ⟨.named ResourceKind⟩

/-- How kinds are shown. -/
instance : ToString ResourceKind where
  toString
    | .accounts => "ACCOUNTS"
    | .balances => "BALANCES"
    | .transactions => "TRANSACTIONS"
    | .transferDestinations => "TRANSFER_DESTINATIONS"
    | .fundsConfirmations => "FUNDS_CONFIRMATIONS"

/-- Access to account data. -/
structure AccessBody where
  /-- What is opened. -/
  resources : List ResourceKind := []
deriving DecidableEq

namespace AccessBody

/-- All fields at their defaults. -/
instance : Inhabited AccessBody := ⟨{}⟩

/-- Members of the JSON object. -/
def fields : Fields (List ResourceKind × Unit) :=
  .cons (.required "type") .nil

/-- Written as an object of its fields. -/
instance : Wire AccessBody where
  codec := .record "AccessBody" fields
    (fun (resources, ()) => ⟨resources⟩)
    fun x => (x.resources, ())

end AccessBody

/-- Who pays for a transfer. -/
inductive ChargeBearer where
  /-- The receiver. -/
  | creditor
  /-- The sender. -/
  | debtor
  /-- Both. -/
  | shared
  /-- As the service level says. -/
  | serviceLevel
deriving DecidableEq

/-- Wire names. -/
instance : Named ChargeBearer where
  all := [.creditor, .debtor, .shared, .serviceLevel]
  name
    | .creditor => "CRED"
    | .debtor => "DEBT"
    | .shared => "SHAR"
    | .serviceLevel => "SLEV"
  mem_all x := by cases x <;> simp
  names_nodup := by decide

/-- Written as its name. -/
instance : Wire ChargeBearer := ⟨.named ChargeBearer⟩

/-- What a provider wants to know of a transfer. -/
inductive ProviderMetadata where
  /-- For banks of the United Kingdom. -/
  | cma9 (endToEnd instruction paymentContext merchantCategory : String)
  /-- For banks of the Berlin Group. -/
  | nextGenPsd2 (remittanceInformation : String)
deriving DecidableEq

namespace ProviderMetadata

/-- Members of the content of `cma9`. -/
def cma9Fields : Fields (String × String × String × String × Unit) :=
  .cons (.withDefault "end_to_end_identification" "") <|
  .cons (.withDefault "instruction_identification" "") <|
  .cons (.withDefault "payment_context_code" "") <|
  .cons (.withDefault "merchant_category_code" "") .nil

/-- Members of the content of `nextGenPsd2`. -/
def nextGenPsd2Fields : Fields (String × Unit) :=
  .cons (.withDefault "remittance_information_structured" "") .nil

/-- The variants by name. -/
def variants : List (Variant ProviderMetadata) :=
  [.record "cma9" "ProviderTransferMetadata::Cma9" cma9Fields
      fun (endToEnd, instruction, paymentContext, merchantCategory, ()) =>
        .cma9 endToEnd instruction paymentContext merchantCategory,
   .record "next_gen_psd2" "ProviderTransferMetadata::NextGenPsd2" nextGenPsd2Fields
      fun (remittanceInformation, ()) => .nextGenPsd2 remittanceInformation]

/-- Written as its variant. -/
instance : Wire ProviderMetadata where
  codec := .choice variants fun
    | .cma9 endToEnd instruction paymentContext merchantCategory =>
      tagged "cma9"
        (.object (cma9Fields.members (endToEnd, instruction, paymentContext, merchantCategory, ())))
    | .nextGenPsd2 remittanceInformation =>
      tagged "next_gen_psd2" (.object (nextGenPsd2Fields.members (remittanceInformation, ())))

end ProviderMetadata

/-- What goes with the money. -/
structure TransferMetadata where
  /-- What the provider wants to know. -/
  provider : Option ProviderMetadata := none
  /-- Who pays. -/
  chargeBearer : Option ChargeBearer := none
  /-- Who receives in the end. -/
  ultimateCreditor : String := ""
  /-- Who pays in the end. -/
  ultimateDebtor : String := ""
  /-- Why. -/
  purposeCode : String := ""
deriving DecidableEq

namespace TransferMetadata

/-- All fields at their defaults. -/
instance : Inhabited TransferMetadata := ⟨{}⟩

/-- Members of the JSON object. -/
def fields :
    Fields (Option ProviderMetadata × Option ChargeBearer × String × String × String × Unit) :=
  .cons (.optional "provider_transfer_metadata") <| .cons (.optional "charge_bearer") <|
  .cons (.withDefault "ultimate_creditor" "") <| .cons (.withDefault "ultimate_debtor" "") <|
  .cons (.withDefault "purpose_code" "") .nil

/-- Written as an object of its fields. -/
instance : Wire TransferMetadata where
  codec := .record "TransferMetadata" fields
    (fun (provider, chargeBearer, ultimateCreditor, ultimateDebtor, purposeCode, ()) =>
      ⟨provider, chargeBearer, ultimateCreditor, ultimateDebtor, purposeCode⟩)
    fun x => (x.provider, x.chargeBearer, x.ultimateCreditor, x.ultimateDebtor, x.purposeCode, ())

end TransferMetadata

/-- From where, to where and with what. -/
structure TransferInstructions where
  /-- The account to pay from. -/
  source : Option TransferEndpoint := none
  /-- Where the money may go. -/
  destinations : List TransferDestination := []
  /-- What goes with it. -/
  metadata : TransferMetadata := {}
deriving DecidableEq

namespace TransferInstructions

/-- All fields at their defaults. -/
instance : Inhabited TransferInstructions := ⟨{}⟩

/-- Members of the JSON object. -/
def fields :
    Fields (Option TransferEndpoint × List TransferDestination × TransferMetadata × Unit) :=
  .cons (.optional "source") <| .cons (.withDefault "transfer_destinations" []) <|
  .cons (.withDefault "metadata" {}) .nil

/-- Written as an object of its fields. -/
instance : Wire TransferInstructions where
  codec := .record "TransferInstructions" fields
    (fun (source, destinations, metadata, ()) => ⟨source, destinations, metadata⟩)
    fun x => (x.source, x.destinations, x.metadata, ())

end TransferInstructions

/-- A transfer. -/
structure TransferBody where
  /-- How much in all. -/
  lifetimeAmount : String := ""
  /-- The currency. -/
  currency : String := ""
  /-- How much at once. -/
  amount : String := ""
  /-- On which day. -/
  executionDate : String := ""
  /-- Destinations in the older form. -/
  destinations : List TransferEndpoint := []
  /-- From where, to where and with what. -/
  instructions : TransferInstructions := {}
deriving DecidableEq

namespace TransferBody

/-- All fields at their defaults. -/
instance : Inhabited TransferBody := ⟨{}⟩

/-- Members of the JSON object. -/
def fields :
    Fields (String × String × String × String × List TransferEndpoint × TransferInstructions
      × Unit) :=
  .cons (.required "lifetime_amount") <| .cons (.required "currency") <|
  .cons (.withDefault "amount" "") <| .cons (.withDefault "execution_date" "") <|
  .cons (.withDefault "destinations" []) <| .cons (.withDefault "instructions" {}) .nil

/-- Written as an object of its fields. -/
instance : Wire TransferBody where
  codec := .record "TransferBody" fields
    (fun (lifetimeAmount, currency, amount, executionDate, destinations, instructions, ()) =>
      ⟨lifetimeAmount, currency, amount, executionDate, destinations, instructions⟩)
    fun x =>
      (x.lifetimeAmount, x.currency, x.amount, x.executionDate, x.destinations, x.instructions, ())

end TransferBody

/-- A standing order. -/
structure StandingOrderBody where
  /-- How much each time. -/
  amount : String := ""
  /-- The currency. -/
  currency : String := ""
  /-- How often. -/
  frequency : String := ""
  /-- From which day on. -/
  startDate : String := ""
  /-- Up to which day. -/
  endDate : String := ""
  /-- From where, to where and with what. -/
  instructions : TransferInstructions := {}
deriving DecidableEq

namespace StandingOrderBody

/-- All fields at their defaults. -/
instance : Inhabited StandingOrderBody := ⟨{}⟩

/-- Members of the JSON object. -/
def fields : Fields (String × String × String × String × String × TransferInstructions × Unit) :=
  .cons (.withDefault "amount" "") <| .cons (.withDefault "currency" "") <|
  .cons (.withDefault "frequency" "") <| .cons (.withDefault "start_date" "") <|
  .cons (.withDefault "end_date" "") <| .cons (.withDefault "instructions" {}) .nil

/-- Written as an object of its fields. -/
instance : Wire StandingOrderBody where
  codec := .record "StandingOrderBody" fields
    (fun (amount, currency, frequency, startDate, endDate, instructions, ()) => ⟨amount, currency,
      frequency, startDate, endDate, instructions⟩)
    fun x => (x.amount, x.currency, x.frequency, x.startDate, x.endDate, x.instructions, ())

end StandingOrderBody

/-- What a token is asked for. -/
inductive RequestBody where
  /-- Access to account data. -/
  | access (body : AccessBody)
  /-- A transfer. -/
  | transfer (body : TransferBody)
  /-- A standing order. -/
  | standingOrder (body : StandingOrderBody)
deriving DecidableEq

/-- Written as its variant. -/
instance : Wire RequestBody where
  codec := .choice
    [.newtype "access" RequestBody.access,
      .newtype "transfer" RequestBody.transfer,
      .newtype "standing_order" RequestBody.standingOrder]
    fun
      | .access body => tagged "access" (toValue body)
      | .transfer body => tagged "transfer" (toValue body)
      | .standingOrder body => tagged "standing_order" (toValue body)

/-- Access to nothing. -/
instance : Inhabited RequestBody := ⟨.access {}⟩

end OpenBanking
