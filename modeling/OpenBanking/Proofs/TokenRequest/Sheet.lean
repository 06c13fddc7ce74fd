import Mathlib.Data.List.Induction
import OpenBanking.TokenRequest.Draft

/-!
# Sheets

Every setting of a draft enters one value in one slot. A sheet holds what settings have entered in
each slot, in their order, so that settings of different slots can trade places.
-/

namespace OpenBanking

/-! ## Slots -/

/-- Where a setting enters its value. -/
inductive Slot where
  /-- Which bank to choose. -/
  | bankId
  /-- The id of who is asked. -/
  | fromMemberId
  /-- The alias of who is asked. -/
  | fromAlias
  /-- Which account to choose. -/
  | sourceAccount
  /-- Whether a receipt is wanted. -/
  | receiptRequested
  /-- The requester’s name for the account holder. -/
  | userRefId
  /-- How the request is to look. -/
  | customizationId
  /-- Where the account holder is sent back to. -/
  | redirectUrl
  /-- A reference of the requester. -/
  | refId
  /-- The alias of who receives the token. -/
  | toAlias
  /-- The id of who receives the token. -/
  | toMemberId
  /-- On whose behalf. -/
  | actingAs
  /-- What for. -/
  | description
  /-- A text to be handed back. -/
  | state
  /-- The mark of the request. -/
  | csrfToken
  /-- The country that money goes to. -/
  | destinationCountry
  /-- The places where the money may go. -/
  | destinations
  /-- What the provider wants to know. -/
  | providerMetadata
  /-- Who receives in the end. -/
  | ultimateCreditor
  /-- Who pays in the end. -/
  | ultimateDebtor
  /-- Why. -/
  | purposeCode
  /-- The places where the money may go, in the older form. -/
  | legacyDestinations
  /-- How much at once. -/
  | chargeAmount
  /-- On which day. -/
  | executionDate
  /-- Who pays for the transfer. -/
  | chargeBearer
  /-- How much each time. -/
  | amount
  /-- The currency. -/
  | currency
  /-- How often. -/
  | frequency
  /-- From which day on. -/
  | startDate
  /-- Up to which day. -/
  | endDate
  /-- The account to pay from. -/
  | source
deriving DecidableEq

/-- What is entered in a slot at once. -/
abbrev Slot.Given : Slot → Type
  | .fromAlias | .toAlias => Alias
  | .receiptRequested => Bool
  | .actingAs => ActingAs
  | .destinations => TransferDestination
  | .providerMetadata => ProviderMetadata
  | .legacyDestinations | .source => TransferEndpoint
  | .chargeAmount | .amount => Double
  | .executionDate => Date
  | .chargeBearer => ChargeBearer
  | _ => String

/-- A value for a slot. -/
structure Entry where
  /-- The slot. -/
  slot : Slot
  /-- The value. -/
  value : slot.Given

/-- The value, if it is for a slot. -/
def Entry.at? (entry : Entry) (slot : Slot) : Option slot.Given :=
  if own : entry.slot = slot then some (own ▸ entry.value) else none

/-- An entry has no value for another slot. -/
theorem Entry.at?_of_ne {entry : Entry} {slot : Slot} (apart : entry.slot ≠ slot) :
    entry.at? slot = none := dif_neg apart

/-- Settings, each of which enters one value. -/
class Enters (σ : Type) where
  /-- What a setting enters. -/
  entry : σ → Entry

export Enters (entry)

instance : Enters CommonSetting where
  entry
    | .bankId x => ⟨.bankId, x⟩
    | .fromMemberId x => ⟨.fromMemberId, x⟩
    | .fromAlias x => ⟨.fromAlias, x⟩
    | .sourceAccount x => ⟨.sourceAccount, x⟩
    | .receiptRequested x => ⟨.receiptRequested, x⟩
    | .userRefId x => ⟨.userRefId, x⟩
    | .customizationId x => ⟨.customizationId, x⟩
    | .redirectUrl x => ⟨.redirectUrl, x⟩
    | .refId x => ⟨.refId, x⟩
    | .toAlias x => ⟨.toAlias, x⟩
    | .toMemberId x => ⟨.toMemberId, x⟩
    | .actingAs x => ⟨.actingAs, x⟩
    | .description x => ⟨.description, x⟩
    | .state x => ⟨.state, x⟩
    | .csrfToken x => ⟨.csrfToken, x⟩

instance : Enters PaymentSetting where
  entry
    | .common setting => entry setting
    | .destinationCountry x => ⟨.destinationCountry, x⟩
    | .addDestination x => ⟨.destinations, x⟩
    | .providerMetadata x => ⟨.providerMetadata, x⟩
    | .ultimateCreditor x => ⟨.ultimateCreditor, x⟩
    | .ultimateDebtor x => ⟨.ultimateDebtor, x⟩
    | .purposeCode x => ⟨.purposeCode, x⟩

instance : Enters TransferSetting where
  entry
    | .payment setting => entry setting
    | .addLegacyDestination x => ⟨.legacyDestinations, x⟩
    | .chargeAmount x => ⟨.chargeAmount, x⟩
    | .executionDate x => ⟨.executionDate, x⟩
    | .chargeBearer x => ⟨.chargeBearer, x⟩

instance : Enters OrderSetting where
  entry
    | .payment setting => entry setting
    | .amount x => ⟨.amount, x⟩
    | .currency x => ⟨.currency, x⟩
    | .frequency x => ⟨.frequency, x⟩
    | .startDate x => ⟨.startDate, x⟩
    | .endDate x => ⟨.endDate, x⟩
    | .source x => ⟨.source, x⟩

/-! ## Sheets -/

/-- What has been entered in each slot, in order. -/
def Sheet : Type := (slot : Slot) → List slot.Given

namespace Sheet

/-- What settings enter. -/
def of {σ : Type} [Enters σ] (settings : List σ) : Sheet :=
  fun slot => settings.filterMap fun setting => (entry setting).at? slot

/-- The sheet with one more entry. -/
def enter (sheet : Sheet) (entry : Entry) : Sheet :=
  fun slot => sheet slot ++ (entry.at? slot).toList

/-- What was entered last in a slot. -/
def last? (sheet : Sheet) (slot : Slot) : Option slot.Given := (sheet slot).getLast?

variable {σ : Type} [Enters σ]

/-- The last setting enters its value last. -/
theorem of_concat (settings : List σ) (setting : σ) :
    of (settings ++ [setting]) = (of settings).enter (entry setting) := by
  funext slot
  rw [of, List.filterMap_append, enter]
  cases given : (entry setting).at? slot <;> simp [of, given]

/-- Adjacent settings of different slots can trade places. -/
theorem of_swap (before : List σ) {first second : σ}
    (apart : (entry first).slot ≠ (entry second).slot) (after : List σ) :
    of (before ++ first :: second :: after) = of (before ++ second :: first :: after) := by
  funext slot
  rw [of, of, List.filterMap_append, List.filterMap_append]
  congr 1
  -- At most one of the two is for the slot.
  by_cases own : (entry first).slot = slot
  · have none : (entry second).at? slot = none :=
      Entry.at?_of_ne fun also => apart (own.trans also.symm)
    simp only [List.filterMap_cons, none]
  · simp only [List.filterMap_cons, Entry.at?_of_ne own]

/-- What is entered in a slot is the last value there. -/
theorem last?_enter (sheet : Sheet) (entry : Entry) (slot : Slot) :
    (sheet.enter entry).last? slot = (entry.at? slot).or (sheet.last? slot) := by
  rw [last?, enter, List.getLast?_append, last?]
  cases entry.at? slot <;> rfl

end Sheet

end OpenBanking
