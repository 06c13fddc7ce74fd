import OpenBanking.Eidas
import OpenBanking.Notice
import OpenBanking.Proofs.Lossless.Account
import OpenBanking.Proofs.Lossless.Member
import OpenBanking.TokenRequest.Basic
import OpenBanking.TokenRequest.CallbackState

/-!
# Token requests and notices lose nothing

What a token is asked for, what devices are told and what certificates prove are read back from
what they are written as, where arrays and objects may nest as deep as theirs do.
-/

namespace OpenBanking

open Json

/-! ## Certificates -/

instance (depth : Nat) : Definite (depth + 2) EidasPayload :=
  .record (by unfold EidasPayload.fields; infer_instance)

instance (depth : Nat) : Definite depth EidasStatus := .named

instance (depth : Nat) : Definite (depth + 1) EidasResponse :=
  .record (by unfold EidasResponse.fields; infer_instance)

/-! ## Notices -/

instance (depth : Nat) : Definite (depth + 1) DeviceMetadata :=
  .record (by unfold DeviceMetadata.fields; infer_instance)

instance (depth : Nat) : Definite (depth + 3) KeysToAdd :=
  .record (by unfold KeysToAdd.fields; infer_instance)

instance (depth : Nat) : Definite (depth + 4) NoticeBody := .choice fun
  | .addKey _ => .newtype 0 rfl rfl

instance (depth : Nat) : Definite depth NoticeStatus := .named

instance (depth : Nat) : Definite depth AccessMode := .named

instance (depth : Nat) : Definite (depth + 1) BlobPayload :=
  .record (by unfold BlobPayload.fields; infer_instance)

instance (depth : Nat) : Definite (depth + 2) Blob :=
  .record (by unfold Blob.fields; infer_instance)

/-! ## Token requests -/

instance (depth : Nat) : Definite depth ResourceKind := .named

instance (depth : Nat) : Definite (depth + 2) AccessBody :=
  .record (by unfold AccessBody.fields; infer_instance)

instance (depth : Nat) : Definite depth ChargeBearer := .named

instance (depth : Nat) : ProviderMetadata.cma9Fields.Lossless depth := by
  unfold ProviderMetadata.cma9Fields
  infer_instance

instance (depth : Nat) : ProviderMetadata.nextGenPsd2Fields.Lossless depth := by
  unfold ProviderMetadata.nextGenPsd2Fields
  infer_instance

instance (depth : Nat) : Definite (depth + 2) ProviderMetadata := .choice fun
  | .cma9 _ _ _ _ => .record 0 rfl rfl
  | .nextGenPsd2 _ => .record 1 rfl rfl

instance (depth : Nat) : Definite (depth + 3) TransferMetadata :=
  .record (by unfold TransferMetadata.fields; infer_instance)

instance (depth : Nat) : Definite (depth + 4) TransferInstructions :=
  .record (by unfold TransferInstructions.fields; infer_instance)

instance (depth : Nat) : Definite (depth + 5) TransferBody :=
  .record (by unfold TransferBody.fields; infer_instance)

instance (depth : Nat) : Definite (depth + 5) StandingOrderBody :=
  .record (by unfold StandingOrderBody.fields; infer_instance)

instance (depth : Nat) : Definite (depth + 6) RequestBody := .choice fun
  | .access _ => .newtype 0 rfl rfl
  | .transfer _ => .newtype 1 rfl rfl
  | .standingOrder _ => .newtype 2 rfl rfl

instance (depth : Nat) : Definite (depth + 1) ActingAs :=
  .record (by unfold ActingAs.fields; infer_instance)

instance (depth : Nat) : Definite (depth + 7) RequestPayload :=
  .record (by unfold RequestPayload.fields; infer_instance)

instance (depth : Nat) : Definite (depth + 3) RequestOptions :=
  .record (by unfold RequestOptions.fields; infer_instance)

instance (depth : Nat) : Definite (depth + 1) CallbackState :=
  .record (by unfold CallbackState.fields; infer_instance)

end OpenBanking
