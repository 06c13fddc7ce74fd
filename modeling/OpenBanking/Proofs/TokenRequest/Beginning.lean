import OpenBanking.Proofs.TokenRequest.Record

/-!
# Requests of each kind

A draft is begun for one kind of body and then told settings of that kind. Whatever the settings
are, its request records exactly what they have entered: each setting changes the field of its slot
and no other, and what the draft was begun with stays.
-/

namespace OpenBanking

/-! ## Fields -/

/-- What the field of a slot holds. -/
abbrev Slot.Held : Slot → Type
  | .fromAlias | .toAlias => Option Alias
  | .receiptRequested => Bool
  | .actingAs => Option ActingAs
  | .state | .csrfToken => Option String
  | .destinations => List TransferDestination
  | .providerMetadata => Option ProviderMetadata
  | .legacyDestinations => List TransferEndpoint
  | .source => Option TransferEndpoint
  | .chargeBearer => Option ChargeBearer
  | _ => String

namespace RequestBody

/-- The transfer that is asked for. -/
def transfer? : RequestBody → Option TransferBody
  | .transfer body => some body
  | _ => none

/-- The standing order that is asked for. -/
def standingOrder? : RequestBody → Option StandingOrderBody
  | .standingOrder body => some body
  | _ => none

/-- The instructions by which money is moved. -/
def instructions? : RequestBody → Option TransferInstructions
  | .access _ => none
  | .transfer body => some body.instructions
  | .standingOrder body => some body.instructions

end RequestBody

namespace Draft

variable {β : Type} [DraftBody β]

/-- What the field of a slot holds, if the draft has such a field. -/
def held? (draft : Draft β) : (slot : Slot) → Option slot.Held
  | .bankId => some draft.options.bankId
  | .fromMemberId => some draft.options.source.id
  | .fromAlias => some draft.options.source.knownAs
  | .sourceAccount => some draft.options.sourceAccountId
  | .receiptRequested => some draft.options.receiptRequested
  | .userRefId => some draft.payload.userRefId
  | .customizationId => some draft.payload.customizationId
  | .redirectUrl => some draft.payload.redirectUrl
  | .refId => some draft.payload.refId
  | .toAlias => some draft.payload.recipient.knownAs
  | .toMemberId => some draft.payload.recipient.id
  | .actingAs => some draft.payload.actingAs
  | .description => some draft.payload.description
  | .state => some draft.state
  | .csrfToken => some draft.csrfToken
  | .destinationCountry => some draft.payload.destinationCountry
  | .destinations => (DraftBody.toBody draft.body).instructions?.map (·.destinations)
  | .providerMetadata => (DraftBody.toBody draft.body).instructions?.map (·.metadata.provider)
  | .ultimateCreditor =>
    (DraftBody.toBody draft.body).instructions?.map (·.metadata.ultimateCreditor)
  | .ultimateDebtor => (DraftBody.toBody draft.body).instructions?.map (·.metadata.ultimateDebtor)
  | .purposeCode => (DraftBody.toBody draft.body).instructions?.map (·.metadata.purposeCode)
  | .legacyDestinations => (DraftBody.toBody draft.body).transfer?.map (·.destinations)
  | .chargeAmount => (DraftBody.toBody draft.body).transfer?.map (·.amount)
  | .executionDate => (DraftBody.toBody draft.body).transfer?.map (·.executionDate)
  | .chargeBearer => (DraftBody.toBody draft.body).instructions?.map (·.metadata.chargeBearer)
  | .amount => (DraftBody.toBody draft.body).standingOrder?.map (·.amount)
  | .currency => (DraftBody.toBody draft.body).standingOrder?.map (·.currency)
  | .frequency => (DraftBody.toBody draft.body).standingOrder?.map (·.frequency)
  | .startDate => (DraftBody.toBody draft.body).standingOrder?.map (·.startDate)
  | .endDate => (DraftBody.toBody draft.body).standingOrder?.map (·.endDate)
  | .source => (DraftBody.toBody draft.body).instructions?.map (·.source)

/-- A common setting changes no field but that of its slot. -/
theorem held?_setCommon_of_ne (draft : Draft β) {setting : CommonSetting} {slot : Slot}
    (apart : (entry setting).slot ≠ slot) :
    (draft.setCommon setting).held? slot = draft.held? slot := by
  cases setting <;> cases slot <;> first | rfl | exact absurd rfl apart

/-- A setting of a transfer changes no field but that of its slot. -/
theorem held?_setTransfer_of_ne (draft : Draft TransferBody) {setting : TransferSetting} {slot : Slot}
    (apart : (entry setting).slot ≠ slot) :
    (draft.setTransfer setting).held? slot = draft.held? slot := by
  rcases setting with (setting | _) | _
  · exact draft.held?_setCommon_of_ne apart
  all_goals cases slot <;> first | rfl | exact absurd rfl apart

/-- A setting of a standing order changes no field but that of its slot. -/
theorem held?_setOrder_of_ne (draft : Draft StandingOrderBody) {setting : OrderSetting} {slot : Slot}
    (apart : (entry setting).slot ≠ slot) :
    (draft.setOrder setting).held? slot = draft.held? slot := by
  rcases setting with (setting | _) | _
  · exact draft.held?_setCommon_of_ne apart
  all_goals cases slot <;> first | rfl | exact absurd rfl apart

end Draft

/-! ## Drafts that are begun and told settings -/

/-- How a draft is begun. -/
inductive Beginning where
  /-- For access to account data. -/
  | access (resources : List ResourceKind)
  /-- For a transfer of an amount in all. -/
  | transfer (amount : Double) (currency : String)
  /-- For a standing order. -/
  | standingOrder

namespace Beginning

/-- The kind of body that is filled in. -/
abbrev Body : Beginning → Type
  | access _ => AccessBody
  | transfer _ _ => TransferBody
  | standingOrder => StandingOrderBody

/-- What the draft can be told. -/
abbrev Setting : Beginning → Type
  | access _ => CommonSetting
  | transfer _ _ => TransferSetting
  | standingOrder => OrderSetting

instance : (beginning : Beginning) → DraftBody beginning.Body
  | access _ => inferInstanceAs (DraftBody AccessBody)
  | transfer _ _ => inferInstanceAs (DraftBody TransferBody)
  | standingOrder => inferInstanceAs (DraftBody StandingOrderBody)

instance : (beginning : Beginning) → Enters beginning.Setting
  | access _ => inferInstanceAs (Enters CommonSetting)
  | transfer _ _ => inferInstanceAs (Enters TransferSetting)
  | standingOrder => inferInstanceAs (Enters OrderSetting)

/-- The draft as it is begun. -/
def draft : (beginning : Beginning) → Draft beginning.Body
  | access resources => .access resources
  | transfer amount currency => .transfer amount currency
  | standingOrder => .standingOrder

/-- The draft after a setting. -/
def set : (beginning : Beginning) → Draft beginning.Body → beginning.Setting → Draft beginning.Body
  | access _ => Draft.setCommon
  | transfer _ _ => Draft.setTransfer
  | standingOrder => Draft.setOrder

/-- The request after settings. -/
def request (beginning : Beginning) (settings : List beginning.Setting) : TokenRequest :=
  (settings.foldl beginning.set beginning.draft).request

/-- The body that a sheet gives. -/
def body : (beginning : Beginning) → Sheet → beginning.Body
  | access resources, _ => ⟨resources⟩
  | transfer amount currency, sheet => .recorded amount currency sheet
  | standingOrder, sheet => .recorded sheet

/-- The request that a sheet gives. -/
def recorded (beginning : Beginning) (sheet : Sheet) : TokenRequest where
  payload :=
    { RequestPayload.recorded sheet with
      callbackState := (CallbackState.recorded sheet).serialize
      body := DraftBody.toBody (beginning.body sheet) }
  options := .recorded sheet

/-- Each setting enters its value. -/
theorem set_recorded (beginning : Beginning) (sheet : Sheet) (setting : beginning.Setting) :
    beginning.set (.recorded (beginning.body sheet) sheet) setting =
      .recorded (beginning.body (sheet.enter (entry setting))) (sheet.enter (entry setting)) := by
  cases beginning with
  | access resources => exact Draft.setCommon_recorded _ sheet setting
  | transfer amount currency => exact Draft.setTransfer_recorded amount currency sheet setting
  | standingOrder => exact Draft.setOrder_recorded sheet setting

/-- A draft holds what its settings have entered. -/
theorem foldl_set (beginning : Beginning) (settings : List beginning.Setting) :
    settings.foldl beginning.set beginning.draft =
      .recorded (beginning.body (.of settings)) (.of settings) := by
  -- From the end, where a sheet grows.
  induction settings using List.reverseRecOn with
  | nil => cases beginning <;> rfl
  | append_singleton settings setting ih =>
    rw [List.foldl_append, ih, Sheet.of_concat, ← set_recorded]
    rfl

/-- The callback state of a draft is what its sheet gives. -/
theorem callbackState_recorded {β : Type} (body : β) (sheet : Sheet) :
    (Draft.recorded body sheet).callbackState = .recorded sheet := by
  rw [Draft.callbackState, Draft.recorded, CallbackState.recorded]
  cases sheet.last? .csrfToken <;> rfl

/-- A request records what its settings have entered. -/
theorem request_eq (beginning : Beginning) (settings : List beginning.Setting) :
    beginning.request settings = beginning.recorded (.of settings) := by
  rw [request, foldl_set, Draft.request, callbackState_recorded]
  rfl

/-- A setting changes no field but that of its slot. -/
theorem held?_set_of_ne (beginning : Beginning) (draft : Draft beginning.Body)
    {setting : beginning.Setting} {slot : Slot} (apart : (entry setting).slot ≠ slot) :
    (beginning.set draft setting).held? slot = draft.held? slot := by
  cases beginning with
  | access _ => exact draft.held?_setCommon_of_ne apart
  | transfer _ _ => exact draft.held?_setTransfer_of_ne apart
  | standingOrder => exact draft.held?_setOrder_of_ne apart

/-- A request is what the settings have entered in each slot, no setting changes a field but that of
its slot, and adjacent settings of different slots can trade places. -/
theorem request_records_entries (beginning : Beginning) :
    (∀ settings, beginning.request settings = beginning.recorded (.of settings)) ∧
    (∀ draft setting slot, (entry setting).slot ≠ slot →
      (beginning.set draft setting).held? slot = draft.held? slot) ∧
    ∀ before first second after, (entry first).slot ≠ (entry second).slot →
      beginning.request (before ++ first :: second :: after) =
        beginning.request (before ++ second :: first :: after) := by
  refine ⟨beginning.request_eq, fun draft _ _ apart => held?_set_of_ne beginning draft apart, ?_⟩
  intro before first second after apart
  rw [request_eq, request_eq, Sheet.of_swap before apart]

/-- A currency that is replaced by another and a text to be handed back are set in either order. -/
theorem request_records_entries_of_order :
    (entry (OrderSetting.currency "EUR")).slot ≠
      (entry (OrderSetting.payment (.common (.state "basket")))).slot ∧
    standingOrder.request
        [.currency "GBP", .currency "EUR", .payment (.common (.state "basket")), .frequency "MNTH"] =
      standingOrder.request
        [.currency "GBP", .payment (.common (.state "basket")), .currency "EUR",
          .frequency "MNTH"] := by
  have apart : (entry (OrderSetting.currency "EUR")).slot ≠
      (entry (OrderSetting.payment (.common (.state "basket")))).slot := by decide
  exact ⟨apart, (request_records_entries standingOrder).2.2 [.currency "GBP"] _ _ [.frequency "MNTH"]
    apart⟩

end Beginning

end OpenBanking
