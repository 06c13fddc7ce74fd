import OpenBanking.Proofs.TokenRequest.Sheet

/-!
# What requests record

The request of a draft shows in each field what was entered last in its slot, the destinations in
their order, and what the draft was begun with; a field whose slot is empty is at its default. No
setting changes a field but the one of its slot.
-/

namespace OpenBanking

/-! ## The request of a sheet -/

/-- The options that a sheet gives. -/
def RequestOptions.recorded (sheet : Sheet) : RequestOptions where
  bankId := (sheet.last? .bankId).getD ""
  source := { id := (sheet.last? .fromMemberId).getD "", knownAs := sheet.last? .fromAlias }
  sourceAccountId := (sheet.last? .sourceAccount).getD ""
  receiptRequested := (sheet.last? .receiptRequested).getD false

/-- The payload that a sheet gives, without callback state and body. -/
def RequestPayload.recorded (sheet : Sheet) : RequestPayload where
  userRefId := (sheet.last? .userRefId).getD ""
  customizationId := (sheet.last? .customizationId).getD ""
  redirectUrl := (sheet.last? .redirectUrl).getD ""
  refId := (sheet.last? .refId).getD ""
  recipient := { id := (sheet.last? .toMemberId).getD "", knownAs := sheet.last? .toAlias }
  actingAs := sheet.last? .actingAs
  description := (sheet.last? .description).getD ""
  destinationCountry := (sheet.last? .destinationCountry).getD ""

/-- The metadata that a sheet gives. -/
def TransferMetadata.recorded (sheet : Sheet) : TransferMetadata where
  provider := sheet.last? .providerMetadata
  chargeBearer := sheet.last? .chargeBearer
  ultimateCreditor := (sheet.last? .ultimateCreditor).getD ""
  ultimateDebtor := (sheet.last? .ultimateDebtor).getD ""
  purposeCode := (sheet.last? .purposeCode).getD ""

/-- The instructions that a sheet gives. -/
def TransferInstructions.recorded (sheet : Sheet) : TransferInstructions where
  source := sheet.last? .source
  destinations := sheet .destinations
  metadata := .recorded sheet

/-- The transfer that a sheet gives, of an amount in all. -/
def TransferBody.recorded (amount : Double) (currency : String) (sheet : Sheet) : TransferBody where
  lifetimeAmount := amountText amount
  currency := currency
  amount := ((sheet.last? .chargeAmount).map amountText).getD ""
  executionDate := ((sheet.last? .executionDate).map Date.compact).getD ""
  destinations := sheet .legacyDestinations
  instructions := .recorded sheet

/-- The standing order that a sheet gives. -/
def StandingOrderBody.recorded (sheet : Sheet) : StandingOrderBody where
  amount := ((sheet.last? .amount).map amountText).getD ""
  currency := (sheet.last? .currency).getD ""
  frequency := (sheet.last? .frequency).getD ""
  startDate := (sheet.last? .startDate).getD ""
  endDate := (sheet.last? .endDate).getD ""
  instructions := .recorded sheet

/-- The callback state that a sheet gives. -/
def CallbackState.recorded (sheet : Sheet) : CallbackState where
  csrfTokenHash :=
    ((sheet.last? .csrfToken).map fun token => Digest.sha256Text (Utf8.encode token)).getD ""
  state := (sheet.last? .state).getD ""

/-! ## Settings that leave bodies -/

/-- Common settings leave the instructions. -/
theorem TransferInstructions.recorded_common (sheet : Sheet) (setting : CommonSetting) :
    recorded (sheet.enter (entry setting)) = recorded sheet := by
  cases setting <;>
    simp [recorded, TransferMetadata.recorded, Sheet.last?_enter, Sheet.enter, entry, Entry.at?]

/-- Settings of payments leave all of a transfer but its instructions. -/
theorem TransferBody.recorded_payment (amount : Double) (currency : String) (sheet : Sheet)
    (setting : PaymentSetting) :
    recorded amount currency (sheet.enter (entry setting)) =
      { recorded amount currency sheet with
        instructions := .recorded (sheet.enter (entry setting)) } := by
  rcases setting with setting | _
  · cases setting <;> simp [recorded, Sheet.last?_enter, Sheet.enter, entry, Entry.at?]
  all_goals simp [recorded, Sheet.last?_enter, Sheet.enter, entry, Entry.at?]

/-- Settings of payments leave all of a standing order but its instructions. -/
theorem StandingOrderBody.recorded_payment (sheet : Sheet) (setting : PaymentSetting) :
    recorded (sheet.enter (entry setting)) =
      { recorded sheet with instructions := .recorded (sheet.enter (entry setting)) } := by
  rcases setting with setting | _
  · cases setting <;> simp [recorded, Sheet.last?_enter, entry, Entry.at?]
  all_goals simp [recorded, Sheet.last?_enter, entry, Entry.at?]

/-! ## Drafts of sheets -/

namespace Draft

variable {β : Type}

/-- The draft that a sheet and a body give. -/
def recorded (body : β) (sheet : Sheet) : Draft β where
  payload := .recorded sheet
  options := .recorded sheet
  body := body
  state := sheet.last? .state
  csrfToken := sheet.last? .csrfToken

/-- A common setting enters its value. -/
theorem setCommon_recorded (body : β) (sheet : Sheet) (setting : CommonSetting) :
    (recorded body sheet).setCommon setting = recorded body (sheet.enter (entry setting)) := by
  cases setting <;>
    simp [recorded, setCommon, withPayload, withOptions, RequestPayload.recorded,
      RequestOptions.recorded, Sheet.last?_enter, entry, Entry.at?]

/-- A setting of a payment enters its value, whatever else the body holds beside the instructions.
-/
theorem setPayment_recorded [PaymentBody β] (body : TransferInstructions → β)
    (holds : ∀ instructions f,
      PaymentBody.withInstructions (body instructions) f = body (f instructions))
    (sheet : Sheet) (setting : PaymentSetting) :
    (recorded (body (.recorded sheet)) sheet).setPayment setting =
      recorded (body (.recorded (sheet.enter (entry setting)))) (sheet.enter (entry setting)) := by
  cases setting with
  | common setting =>
    rw [setPayment, setCommon_recorded]
    exact congrArg (fun instructions => recorded (body instructions) _)
      (TransferInstructions.recorded_common sheet setting).symm
  | _ =>
    simp [recorded, setPayment, withPayload, withMetadata, withInstructions, withBody, holds,
      TransferInstructions.recorded, TransferInstructions.withMetadata,
      TransferInstructions.addDestination, TransferMetadata.recorded, RequestPayload.recorded,
      RequestOptions.recorded, Sheet.last?_enter, Sheet.enter, entry, Entry.at?]

/-- A setting of a transfer enters its value. -/
theorem setTransfer_recorded (amount : Double) (currency : String) (sheet : Sheet)
    (setting : TransferSetting) :
    (recorded (TransferBody.recorded amount currency sheet) sheet).setTransfer setting =
      recorded (TransferBody.recorded amount currency (sheet.enter (entry setting)))
        (sheet.enter (entry setting)) := by
  cases setting with
  | payment setting =>
    refine (setPayment_recorded
      (fun instructions => { TransferBody.recorded amount currency sheet with instructions })
      (fun _ _ => rfl) sheet setting).trans ?_
    exact congrArg (recorded · _)
      (TransferBody.recorded_payment amount currency sheet setting).symm
  | _ =>
    simp [recorded, setTransfer, withMetadata, withInstructions, withBody,
      PaymentBody.withInstructions, TransferBody.recorded, TransferInstructions.recorded,
      TransferInstructions.withMetadata, TransferMetadata.recorded, RequestPayload.recorded,
      RequestOptions.recorded, Sheet.last?_enter, Sheet.enter, entry, Entry.at?]

/-- A setting of a standing order enters its value. -/
theorem setOrder_recorded (sheet : Sheet) (setting : OrderSetting) :
    (recorded (StandingOrderBody.recorded sheet) sheet).setOrder setting =
      recorded (StandingOrderBody.recorded (sheet.enter (entry setting)))
        (sheet.enter (entry setting)) := by
  cases setting with
  | payment setting =>
    refine (setPayment_recorded
      (fun instructions => { StandingOrderBody.recorded sheet with instructions })
      (fun _ _ => rfl) sheet setting).trans ?_
    exact congrArg (recorded · _) (StandingOrderBody.recorded_payment sheet setting).symm
  | _ =>
    simp [recorded, setOrder, withInstructions, withBody, PaymentBody.withInstructions,
      StandingOrderBody.recorded, TransferInstructions.recorded, TransferMetadata.recorded,
      RequestPayload.recorded, RequestOptions.recorded, Sheet.last?_enter, Sheet.enter, entry,
      Entry.at?]

end Draft

end OpenBanking
