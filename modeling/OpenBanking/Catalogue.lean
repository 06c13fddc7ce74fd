import OpenBanking.Gateway.Message
import OpenBanking.TokenRequest.CallbackState

/-!
# Catalogue of JSON forms

Every type with a JSON form of its own, under the name that refusals call it by. What holds of
all forms, and what is done with a form that is only known by its name, is said here once.
-/

namespace OpenBanking

open Json

/-- A type with a JSON form. -/
structure Form where
  /-- Its name. -/
  name : String
  /-- Its values. -/
  Carrier : Type
  /-- How they are written and read. -/
  codec : Codec Carrier
  /-- How they are told apart. -/
  equal : DecidableEq Carrier
  /-- The value where none is given, if there is one. -/
  initial : Option Carrier

namespace Form

/-- A form in which each value has to be given. -/
def given (name : String) (α : Type) [Wire α] [DecidableEq α] : Form :=
  ⟨name, α, Wire.codec, inferInstance, none⟩

/-- A form with a value where none is given. -/
def filled (name : String) (α : Type) [Wire α] [DecidableEq α] [Inhabited α] : Form :=
  ⟨name, α, Wire.codec, inferInstance, some default⟩

variable (form : Form)

/-- The JSON value that stands for what a text holds. -/
def restate (s : List UInt8) : Except ReadError Value :=
  (form.codec.decode s).map form.codec.toValue

/-- The JSON value where none is given, if there is one. -/
def initialValue : Option Value := form.initial.map form.codec.toValue

/-- Two texts hold the same value; the first one is read first. -/
def agree (a b : List UInt8) : Except ReadError Bool := do
  let x ← form.codec.decode a
  let y ← form.codec.decode b
  return @decide (x = y) (form.equal x y)

end Form

namespace Catalogue

/-- Names, statuses and levels. -/
def choices : List Form :=
  [.filled "AliasType" AliasKind, .filled "KeyLevel" KeyLevel,
    .filled "KeyAlgorithm" KeyAlgorithm, .filled "CreateMemberType" MemberKind,
    .filled "RequestStatus" RequestStatus, .filled "TransactionType" TransactionKind,
    .filled "TransactionStatus" TransactionStatus, .filled "NotifyStatus" NoticeStatus,
    .filled "AccessMode" AccessMode, .filled "EidasVerificationStatus" EidasStatus,
    .filled "VerificationStatus" VerificationStatus, .given "ResourceType" ResourceKind,
    .given "ChargeBearer" ChargeBearer]

/-- Members, their keys and their updates. -/
def members : List Form :=
  [.filled "Alias" Alias, .filled "Key" Key, .filled "Signature" Signature,
    .filled "SecurityMetadata" Tracking, .given "GrpcAuthPayload" Envelope,
    .filled "RecoveryRule" RecoveryRule, .filled "Member" MemberRecord,
    .filled "TokenMember" Party, .given "DeviceInfo" DeviceKeys,
    .filled "Authorization" Authorization, .filled "MemberRecoveryOperation" RecoveryEntry,
    .given "MemberAddKeyOperation" AddKey, .given "MemberRemoveKeyOperation" RemoveKey,
    .given "MemberAliasOperation" AliasChange,
    .given "MemberRecoveryRulesOperation" SetRecoveryRule,
    .given "MemberOperation" MemberOperation, .given "AddAliasMetadata" AliasMetadata,
    .given "MemberOperationMetadata" OperationMetadata, .filled "MemberUpdate" MemberUpdate]

/-- Accounts, banks and money. -/
def accounts : List Form :=
  [.filled "Money" Money, .filled "Account" Account, .filled "Balance" Balance,
    .filled "Transaction" Transaction, .given "BankAccount" BankAccount,
    .given "TransferEndpoint" TransferEndpoint,
    .given "TransferDestination" TransferDestination, .filled "Page" Page,
    .given "PagedListAccount" (PagedList Account), .filled "BankInfo" BankInfo,
    .filled "Bank" Bank, .filled "Paging" Paging, .filled "GetBanksRequest" BankQuery]

/-- Token requests, notices and certificates. -/
def requests : List Form :=
  [.filled "AccessBody" AccessBody, .given "ProviderTransferMetadata" ProviderMetadata,
    .filled "TransferMetadata" TransferMetadata,
    .filled "TransferInstructions" TransferInstructions, .filled "TransferBody" TransferBody,
    .filled "StandingOrderBody" StandingOrderBody, .filled "RequestBody" RequestBody,
    .filled "ActingAs" ActingAs, .filled "TokenRequestPayload" RequestPayload,
    .filled "TokenRequestOptions" RequestOptions, .filled "TokenRequestState" CallbackState,
    .filled "DeviceMetadata" DeviceMetadata, .filled "AddKey" KeysToAdd,
    .given "NotifyBody" NoticeBody, .filled "BlobPayload" BlobPayload, .filled "Blob" Blob,
    .filled "VerifyEidasPayload" EidasPayload, .filled "VerifyEidasResponse" EidasResponse]

/-- Requests to the gateway and its responses. -/
def messages : List Form :=
  [.filled "Empty" Empty, .filled "ErrorBody" ErrorBody,
    .filled "CreateMemberRequest" CreateMemberRequest,
    .filled "CreateMemberResponse" CreateMemberResponse,
    .filled "UpdateMemberRequest" UpdateMemberRequest, .filled "MemberResponse" MemberResponse,
    .filled "GetMemberRequest" GetMemberRequest,
    .filled "ResolveAliasRequest" ResolveAliasRequest,
    .filled "ResolveAliasResponse" ResolveAliasResponse,
    .filled "GetAliasesResponse" GetAliasesResponse,
    .filled "GetDefaultAgentResponse" GetDefaultAgentResponse,
    .filled "RetryVerificationRequest" RetryVerificationRequest,
    .filled "VerificationIdResponse" VerificationIdResponse,
    .filled "VerifyAliasRequest" VerifyAliasRequest,
    .filled "BeginRecoveryRequest" BeginRecoveryRequest,
    .filled "CompleteRecoveryRequest" CompleteRecoveryRequest,
    .filled "CompleteRecoveryResponse" CompleteRecoveryResponse,
    .filled "AccountRequest" AccountRequest, .filled "GetAccountResponse" GetAccountResponse,
    .filled "GetAccountsResponse" GetAccountsResponse,
    .filled "GetBalanceResponse" GetBalanceResponse,
    .filled "GetBalancesRequest" GetBalancesRequest,
    .filled "GetBalancesResponse" GetBalancesResponse,
    .filled "GetTransactionRequest" GetTransactionRequest,
    .filled "GetTransactionResponse" GetTransactionResponse,
    .filled "GetTransactionsRequest" GetTransactionsRequest,
    .filled "GetTransactionsResponse" GetTransactionsResponse,
    .filled "ResolveTransferDestinationsResponse" ResolveDestinationsResponse,
    .filled "GetBankInfoRequest" GetBankInfoRequest,
    .filled "GetBankInfoResponse" GetBankInfoResponse,
    .filled "GetBanksResponse" GetBanksResponse, .given "NotifyRequest" NotifyRequest,
    .filled "InvalidateNotificationRequest" InvalidateNotificationRequest,
    .filled "NotifyResponse" NotifyResponse, .filled "GetBlobRequest" GetBlobRequest,
    .filled "GetBlobResponse" GetBlobResponse,
    .filled "StoreTokenRequestRequest" StoreTokenRequestRequest,
    .filled "StoredTokenRequest" StoredTokenRequest,
    .filled "TokenRequestResponse" TokenRequestResponse,
    .filled "RetrieveTokenRequestRequest" RetrieveTokenRequestRequest,
    .filled "VerifyEidasRequest" VerifyEidasRequest]

/-- All forms. -/
def forms : List Form := choices ++ members ++ accounts ++ requests ++ messages

/-- The form of a name. -/
def find? (name : String) : Option Form := forms.find? (·.name = name)

end Catalogue

end OpenBanking
