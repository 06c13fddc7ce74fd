import OpenBanking.Proofs.Json.LegibleRecord
import OpenBanking.Proofs.Lossless.Request

/-!
# Token requests are legible

The payload and the options of a token request are taken from every text of what they are written
as, in whatever order the members of objects stand, whatever is asked for and wherever money goes.
Arrays and objects have to be allowed to nest as deep as those of the payload do, which is seven
levels.
-/

namespace OpenBanking

open Json

/-! ## Parties -/

instance (depth : Nat) : Legible depth AliasKind := .named

instance (depth : Nat) : Legible (depth + 1) Alias :=
  .record (by unfold Alias.fields; infer_instance)

instance (depth : Nat) : Legible (depth + 2) Party :=
  .record (by unfold Party.fields; infer_instance)

instance (depth : Nat) : Legible (depth + 1) ActingAs :=
  .record (by unfold ActingAs.fields; infer_instance)

/-! ## Where money comes from and goes to -/

instance (depth : Nat) : BankAccount.tokenFields.Legible depth := by
  unfold BankAccount.tokenFields
  infer_instance

instance (depth : Nat) : BankAccount.sepaFields.Legible depth := by
  unfold BankAccount.sepaFields
  infer_instance

instance (depth : Nat) : BankAccount.fasterPaymentsFields.Legible depth := by
  unfold BankAccount.fasterPaymentsFields
  infer_instance

instance (depth : Nat) : BankAccount.customFields.Legible depth := by
  unfold BankAccount.customFields
  infer_instance

instance (depth : Nat) : Legible (depth + 2) BankAccount := .choice fun
  | .token _ _ => .record 0 rfl rfl
  | .sepa _ _ => .record 1 rfl rfl
  | .fasterPayments _ _ => .record 2 rfl rfl
  | .custom _ _ => .record 3 rfl rfl

instance (depth : Nat) : Legible (depth + 3) TransferEndpoint :=
  .record (by unfold TransferEndpoint.fields; infer_instance)

instance (depth : Nat) : TransferDestination.tokenFields.Legible depth := by
  unfold TransferDestination.tokenFields
  infer_instance

instance (depth : Nat) : TransferDestination.sepaFields.Legible depth := by
  unfold TransferDestination.sepaFields
  infer_instance

instance (depth : Nat) : TransferDestination.sepaInstantFields.Legible depth := by
  unfold TransferDestination.sepaInstantFields
  infer_instance

instance (depth : Nat) : TransferDestination.fasterPaymentsFields.Legible depth := by
  unfold TransferDestination.fasterPaymentsFields
  infer_instance

instance (depth : Nat) : TransferDestination.customFields.Legible depth := by
  unfold TransferDestination.customFields
  infer_instance

instance (depth : Nat) : Legible (depth + 2) TransferDestination := .choice fun
  | .token _ _ => .record 0 rfl rfl
  | .sepa _ _ => .record 1 rfl rfl
  | .sepaInstant _ => .record 2 rfl rfl
  | .fasterPayments _ _ => .record 3 rfl rfl
  | .custom _ _ => .record 4 rfl rfl

/-! ## What is asked for -/

instance (depth : Nat) : Legible depth ResourceKind := .named

instance (depth : Nat) : Legible (depth + 2) AccessBody :=
  .record (by unfold AccessBody.fields; infer_instance)

instance (depth : Nat) : Legible depth ChargeBearer := .named

instance (depth : Nat) : ProviderMetadata.cma9Fields.Legible depth := by
  unfold ProviderMetadata.cma9Fields
  infer_instance

instance (depth : Nat) : ProviderMetadata.nextGenPsd2Fields.Legible depth := by
  unfold ProviderMetadata.nextGenPsd2Fields
  infer_instance

instance (depth : Nat) : Legible (depth + 2) ProviderMetadata := .choice fun
  | .cma9 _ _ _ _ => .record 0 rfl rfl
  | .nextGenPsd2 _ => .record 1 rfl rfl

instance (depth : Nat) : Legible (depth + 3) TransferMetadata :=
  .record (by unfold TransferMetadata.fields; infer_instance)

instance (depth : Nat) : Legible (depth + 4) TransferInstructions :=
  .record (by unfold TransferInstructions.fields; infer_instance)

instance (depth : Nat) : Legible (depth + 5) TransferBody :=
  .record (by unfold TransferBody.fields; infer_instance)

instance (depth : Nat) : Legible (depth + 5) StandingOrderBody :=
  .record (by unfold StandingOrderBody.fields; infer_instance)

instance (depth : Nat) : Legible (depth + 6) RequestBody := .choice fun
  | .access _ => .newtype 0 rfl rfl
  | .transfer _ => .newtype 1 rfl rfl
  | .standingOrder _ => .newtype 2 rfl rfl

/-! ## Requests -/

instance (depth : Nat) : Legible (depth + 7) RequestPayload :=
  .record (by unfold RequestPayload.fields; infer_instance)

instance (depth : Nat) : Legible (depth + 3) RequestOptions :=
  .record (by unfold RequestOptions.fields; infer_instance)

end OpenBanking
