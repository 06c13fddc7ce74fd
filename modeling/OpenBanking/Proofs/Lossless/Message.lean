import OpenBanking.Gateway.Message
import OpenBanking.Proofs.Lossless.Request

/-!
# Messages lose nothing

Every request to the gateway and every response is read back from what it is written as. No message
nests arrays and objects deeper than nine levels.
-/

namespace OpenBanking

open Json

/-! ## Requests and responses -/

instance (depth : Nat) : Definite (depth + 1) Empty :=
  .record (by unfold Empty.fields; infer_instance)

instance (depth : Nat) : Definite (depth + 1) ErrorBody :=
  .record (by unfold ErrorBody.fields; infer_instance)

instance (depth : Nat) : Definite depth VerificationStatus := .named

instance (depth : Nat) : Definite (depth + 1) CreateMemberRequest :=
  .record (by unfold CreateMemberRequest.fields; infer_instance)

instance (depth : Nat) : Definite (depth + 1) CreateMemberResponse :=
  .record (by unfold CreateMemberResponse.fields; infer_instance)

instance (depth : Nat) : Definite (depth + 7) UpdateMemberRequest :=
  .record (by unfold UpdateMemberRequest.fields; infer_instance)

instance (depth : Nat) : Definite (depth + 4) MemberResponse :=
  .record (by unfold MemberResponse.fields; infer_instance)

instance (depth : Nat) : Definite (depth + 1) GetMemberRequest :=
  .record (by unfold GetMemberRequest.fields; infer_instance)

instance (depth : Nat) : Definite (depth + 2) ResolveAliasRequest :=
  .record (by unfold ResolveAliasRequest.fields; infer_instance)

instance (depth : Nat) : Definite (depth + 3) ResolveAliasResponse :=
  .record (by unfold ResolveAliasResponse.fields; infer_instance)

instance (depth : Nat) : Definite (depth + 3) GetAliasesResponse :=
  .record (by unfold GetAliasesResponse.fields; infer_instance)

instance (depth : Nat) : Definite (depth + 1) GetDefaultAgentResponse :=
  .record (by unfold GetDefaultAgentResponse.fields; infer_instance)

instance (depth : Nat) : Definite (depth + 2) RetryVerificationRequest :=
  .record (by unfold RetryVerificationRequest.fields; infer_instance)

instance (depth : Nat) : Definite (depth + 1) VerificationIdResponse :=
  .record (by unfold VerificationIdResponse.fields; infer_instance)

instance (depth : Nat) : Definite (depth + 1) VerifyAliasRequest :=
  .record (by unfold VerifyAliasRequest.fields; infer_instance)

instance (depth : Nat) : Definite (depth + 2) BeginRecoveryRequest :=
  .record (by unfold BeginRecoveryRequest.fields; infer_instance)

instance (depth : Nat) : Definite (depth + 2) CompleteRecoveryRequest :=
  .record (by unfold CompleteRecoveryRequest.fields; infer_instance)

instance (depth : Nat) : Definite (depth + 4) CompleteRecoveryResponse :=
  .record (by unfold CompleteRecoveryResponse.fields; infer_instance)

instance (depth : Nat) : Definite (depth + 1) AccountRequest :=
  .record (by unfold AccountRequest.fields; infer_instance)

instance (depth : Nat) : Definite (depth + 2) GetAccountResponse :=
  .record (by unfold GetAccountResponse.fields; infer_instance)

instance (depth : Nat) : Definite (depth + 3) GetAccountsResponse :=
  .record (by unfold GetAccountsResponse.fields; infer_instance)

instance (depth : Nat) : Definite (depth + 3) GetBalanceResponse :=
  .record (by unfold GetBalanceResponse.fields; infer_instance)

instance (depth : Nat) : Definite (depth + 2) GetBalancesRequest :=
  .record (by unfold GetBalancesRequest.fields; infer_instance)

instance (depth : Nat) : Definite (depth + 5) GetBalancesResponse :=
  .record (by unfold GetBalancesResponse.fields; infer_instance)

instance (depth : Nat) : Definite (depth + 1) GetTransactionRequest :=
  .record (by unfold GetTransactionRequest.fields; infer_instance)

instance (depth : Nat) : Definite (depth + 3) GetTransactionResponse :=
  .record (by unfold GetTransactionResponse.fields; infer_instance)

instance (depth : Nat) : Definite (depth + 2) GetTransactionsRequest :=
  .record (by unfold GetTransactionsRequest.fields; infer_instance)

instance (depth : Nat) : Definite (depth + 4) GetTransactionsResponse :=
  .record (by unfold GetTransactionsResponse.fields; infer_instance)

instance (depth : Nat) : Definite (depth + 5) ResolveDestinationsResponse :=
  .record (by unfold ResolveDestinationsResponse.fields; infer_instance)

instance (depth : Nat) : Definite (depth + 1) GetBankInfoRequest :=
  .record (by unfold GetBankInfoRequest.fields; infer_instance)

instance (depth : Nat) : Definite (depth + 3) GetBankInfoResponse :=
  .record (by unfold GetBankInfoResponse.fields; infer_instance)

instance (depth : Nat) : Definite (depth + 4) GetBanksResponse :=
  .record (by unfold GetBanksResponse.fields; infer_instance)

instance (depth : Nat) : Definite (depth + 5) NotifyRequest :=
  .record (by unfold NotifyRequest.fields; infer_instance)

instance (depth : Nat) : Definite (depth + 1) InvalidateNotificationRequest :=
  .record (by unfold InvalidateNotificationRequest.fields; infer_instance)

instance (depth : Nat) : Definite (depth + 1) NotifyResponse :=
  .record (by unfold NotifyResponse.fields; infer_instance)

instance (depth : Nat) : Definite (depth + 1) GetBlobRequest :=
  .record (by unfold GetBlobRequest.fields; infer_instance)

instance (depth : Nat) : Definite (depth + 3) GetBlobResponse :=
  .record (by unfold GetBlobResponse.fields; infer_instance)

instance (depth : Nat) : Definite (depth + 8) StoreTokenRequestRequest :=
  .record (by unfold StoreTokenRequestRequest.fields; infer_instance)

instance (depth : Nat) : Definite (depth + 8) StoredTokenRequest :=
  .record (by unfold StoredTokenRequest.fields; infer_instance)

instance (depth : Nat) : Definite (depth + 9) TokenRequestResponse :=
  .record (by unfold TokenRequestResponse.fields; infer_instance)

instance (depth : Nat) : Definite (depth + 1) RetrieveTokenRequestRequest :=
  .record (by unfold RetrieveTokenRequestRequest.fields; infer_instance)

instance (depth : Nat) : Definite (depth + 3) VerifyEidasRequest :=
  .record (by unfold VerifyEidasRequest.fields; infer_instance)

end OpenBanking
