import OpenBanking.Account
import OpenBanking.Bank
import OpenBanking.Eidas
import OpenBanking.Member.Operation
import OpenBanking.Notice
import OpenBanking.TokenRequest.Basic

/-!
# Messages of the gateway

A request and a response for each method. Every field of a response has a default, so a
gateway may leave out what an older or newer client does not know.
-/

namespace OpenBanking

open Json

/-- A request or response without fields. -/
structure Empty where
deriving DecidableEq

namespace Empty

/-- All fields at their defaults. -/
instance : Inhabited Empty := ⟨{}⟩

/-- Members of the JSON object. -/
def fields : Fields Unit := .nil

/-- Written as an object of its fields. -/
instance : Wire Empty where
  codec := .record "Empty" fields (fun () => {}) fun _ => ()

end Empty

/-- The body of a failed response. -/
structure ErrorBody where
  /-- Name of the status. -/
  code : String := ""
  /-- What failed. -/
  message : String := ""
deriving DecidableEq

namespace ErrorBody

/-- All fields at their defaults. -/
instance : Inhabited ErrorBody := ⟨{}⟩

/-- Members of the JSON object. -/
def fields : Fields (String × String × Unit) :=
  .cons (.required "code") <| .cons (.withDefault "message" "") .nil

/-- Written as an object of its fields. -/
instance : Wire ErrorBody where
  codec := .record "ErrorBody" fields
    (fun (code, message, ()) => ⟨code, message⟩)
    fun x => (x.code, x.message, ())

end ErrorBody

/-- What became of a verification code. -/
inductive VerificationStatus where
  /-- Not known. -/
  | invalid
  /-- The verification is not known. -/
  | unknown
  /-- The code is right. -/
  | success
  /-- The code is wrong. -/
  | incorrectCode
  /-- The code came too late. -/
  | expiredCode
  /-- Too many codes were wrong. -/
  | tooManyCodeAttempts
deriving DecidableEq

/-- Wire names. -/
instance : Named VerificationStatus where
  all := [.invalid, .unknown, .success, .incorrectCode, .expiredCode, .tooManyCodeAttempts]
  name
    | .invalid => "INVALID"
    | .unknown => "UNKNOWN"
    | .success => "SUCCESS"
    | .incorrectCode => "INCORRECT_CODE"
    | .expiredCode => "EXPIRED_CODE"
    | .tooManyCodeAttempts => "TOO_MANY_CODE_ATTEMPTS"
  mem_all x := by cases x <;> simp
  names_nodup := by decide

/-- Written as its name. -/
instance : Wire VerificationStatus := ⟨.named VerificationStatus⟩

/-- How outcomes are shown. -/
instance : ToString VerificationStatus where
  toString
    | .invalid => "INVALID"
    | .unknown => "UNKNOWN"
    | .success => "SUCCESS"
    | .incorrectCode => "INCORRECT_CODE"
    | .expiredCode => "EXPIRED_CODE"
    | .tooManyCodeAttempts => "TOO_MANY_CODE_ATTEMPTS"

/-- The value where none is given. -/
instance : Inhabited VerificationStatus := ⟨.invalid⟩

/-! ## Members -/

/-- Reserves the id of a new member. -/
structure CreateMemberRequest where
  /-- Marks a repeated request. -/
  nonce : String := ""
  /-- What kind of member. -/
  kind : MemberKind := .personal
  /-- In which realm. -/
  realmId : String := ""
  /-- For which token request. -/
  tokenRequestId : String := ""
deriving DecidableEq

namespace CreateMemberRequest

/-- All fields at their defaults. -/
instance : Inhabited CreateMemberRequest := ⟨{}⟩

/-- Members of the JSON object. -/
def fields : Fields (String × MemberKind × String × String × Unit) :=
  .cons (.required "nonce") <| .cons (.required "member_type") <|
  .cons (.withDefault "realm_id" "") <| .cons (.withDefault "token_request_id" "") .nil

/-- Written as an object of its fields. -/
instance : Wire CreateMemberRequest where
  codec := .record "CreateMemberRequest" fields
    (fun (nonce, kind, realmId, tokenRequestId, ()) => ⟨nonce, kind, realmId, tokenRequestId⟩)
    fun x => (x.nonce, x.kind, x.realmId, x.tokenRequestId, ())

end CreateMemberRequest

/-- The reserved id. -/
structure CreateMemberResponse where
  /-- The id. -/
  memberId : String := ""
deriving DecidableEq

namespace CreateMemberResponse

/-- All fields at their defaults. -/
instance : Inhabited CreateMemberResponse := ⟨{}⟩

/-- Members of the JSON object. -/
def fields : Fields (String × Unit) :=
  .cons (.withDefault "member_id" "") .nil

/-- Written as an object of its fields. -/
instance : Wire CreateMemberResponse where
  codec := .record "CreateMemberResponse" fields
    (fun (memberId, ()) => ⟨memberId⟩)
    fun x => (x.memberId, ())

end CreateMemberResponse

/-- Applies an update. -/
structure UpdateMemberRequest where
  /-- The update. -/
  update : MemberUpdate := {}
  /-- Its signature. -/
  signature : Signature := {}
  /-- What is told beside it. -/
  metadata : List OperationMetadata := []
deriving DecidableEq

namespace UpdateMemberRequest

/-- All fields at their defaults. -/
instance : Inhabited UpdateMemberRequest := ⟨{}⟩

/-- Members of the JSON object. -/
def fields : Fields (MemberUpdate × Signature × List OperationMetadata × Unit) :=
  .cons (.required "update") <| .cons (.required "update_signature") <|
  .cons (.withDefault "metadata" []) .nil

/-- Written as an object of its fields. -/
instance : Wire UpdateMemberRequest where
  codec := .record "UpdateMemberRequest" fields
    (fun (update, signature, metadata, ()) => ⟨update, signature, metadata⟩)
    fun x => (x.update, x.signature, x.metadata, ())

end UpdateMemberRequest

/-- The record of a member. -/
structure MemberResponse where
  /-- The record. -/
  member : MemberRecord := {}
deriving DecidableEq

namespace MemberResponse

/-- All fields at their defaults. -/
instance : Inhabited MemberResponse := ⟨{}⟩

/-- Members of the JSON object. -/
def fields : Fields (MemberRecord × Unit) :=
  .cons (.withDefault "member" {}) .nil

/-- Written as an object of its fields. -/
instance : Wire MemberResponse where
  codec := .record "MemberResponse" fields (fun (member, ()) => ⟨member⟩) fun x => (x.member, ())

end MemberResponse

/-- Asks for a record. -/
structure GetMemberRequest where
  /-- Whose record. -/
  memberId : String := ""
deriving DecidableEq

namespace GetMemberRequest

/-- All fields at their defaults. -/
instance : Inhabited GetMemberRequest := ⟨{}⟩

/-- Members of the JSON object. -/
def fields : Fields (String × Unit) :=
  .cons (.required "member_id") .nil

/-- Written as an object of its fields. -/
instance : Wire GetMemberRequest where
  codec := .record "GetMemberRequest" fields
    (fun (memberId, ()) => ⟨memberId⟩)
    fun x => (x.memberId, ())

end GetMemberRequest

/-- Asks whom an alias names. -/
structure ResolveAliasRequest where
  /-- The alias. -/
  knownAs : Alias := {}
deriving DecidableEq

namespace ResolveAliasRequest

/-- All fields at their defaults. -/
instance : Inhabited ResolveAliasRequest := ⟨{}⟩

/-- Members of the JSON object. -/
def fields : Fields (Alias × Unit) :=
  .cons (.required "alias") .nil

/-- Written as an object of its fields. -/
instance : Wire ResolveAliasRequest where
  codec := .record "ResolveAliasRequest" fields
    (fun (knownAs, ()) => ⟨knownAs⟩)
    fun x => (x.knownAs, ())

end ResolveAliasRequest

/-- Whom an alias names. -/
structure ResolveAliasResponse where
  /-- The member, if there is one. -/
  member : Option Party := none
deriving DecidableEq

namespace ResolveAliasResponse

/-- All fields at their defaults. -/
instance : Inhabited ResolveAliasResponse := ⟨{}⟩

/-- Members of the JSON object. -/
def fields : Fields (Option Party × Unit) :=
  .cons (.optional "member") .nil

/-- Written as an object of its fields. -/
instance : Wire ResolveAliasResponse where
  codec := .record "ResolveAliasResponse" fields
    (fun (member, ()) => ⟨member⟩)
    fun x => (x.member, ())

end ResolveAliasResponse

/-- The aliases of the calling member. -/
structure GetAliasesResponse where
  /-- Verified ones. -/
  aliases : List Alias := []
  /-- The others. -/
  unverifiedAliases : List Alias := []
deriving DecidableEq

namespace GetAliasesResponse

/-- All fields at their defaults. -/
instance : Inhabited GetAliasesResponse := ⟨{}⟩

/-- Members of the JSON object. -/
def fields : Fields (List Alias × List Alias × Unit) :=
  .cons (.withDefault "aliases" []) <| .cons (.withDefault "unverified_aliases" []) .nil

/-- Written as an object of its fields. -/
instance : Wire GetAliasesResponse where
  codec := .record "GetAliasesResponse" fields
    (fun (aliases, unverifiedAliases, ()) => ⟨aliases, unverifiedAliases⟩)
    fun x => (x.aliases, x.unverifiedAliases, ())

end GetAliasesResponse

/-- The agent that vouches where no other is named. -/
structure GetDefaultAgentResponse where
  /-- The agent. -/
  memberId : String := ""
deriving DecidableEq

namespace GetDefaultAgentResponse

/-- All fields at their defaults. -/
instance : Inhabited GetDefaultAgentResponse := ⟨{}⟩

/-- Members of the JSON object. -/
def fields : Fields (String × Unit) :=
  .cons (.withDefault "member_id" "") .nil

/-- Written as an object of its fields. -/
instance : Wire GetDefaultAgentResponse where
  codec := .record "GetDefaultAgentResponse" fields
    (fun (memberId, ()) => ⟨memberId⟩)
    fun x => (x.memberId, ())

end GetDefaultAgentResponse

/-! ## Verification and recovery -/

/-- Asks for another code. -/
structure RetryVerificationRequest where
  /-- The member. -/
  memberId : String := ""
  /-- The alias to verify. -/
  knownAs : Alias := {}
deriving DecidableEq

namespace RetryVerificationRequest

/-- All fields at their defaults. -/
instance : Inhabited RetryVerificationRequest := ⟨{}⟩

/-- Members of the JSON object. -/
def fields : Fields (String × Alias × Unit) :=
  .cons (.required "member_id") <| .cons (.required "alias") .nil

/-- Written as an object of its fields. -/
instance : Wire RetryVerificationRequest where
  codec := .record "RetryVerificationRequest" fields
    (fun (memberId, knownAs, ()) => ⟨memberId, knownAs⟩)
    fun x => (x.memberId, x.knownAs, ())

end RetryVerificationRequest

/-- A verification that has begun. -/
structure VerificationIdResponse where
  /-- Names the verification. -/
  verificationId : String := ""
deriving DecidableEq

namespace VerificationIdResponse

/-- All fields at their defaults. -/
instance : Inhabited VerificationIdResponse := ⟨{}⟩

/-- Members of the JSON object. -/
def fields : Fields (String × Unit) :=
  .cons (.withDefault "verification_id" "") .nil

/-- Written as an object of its fields. -/
instance : Wire VerificationIdResponse where
  codec := .record "VerificationIdResponse" fields
    (fun (verificationId, ()) => ⟨verificationId⟩)
    fun x => (x.verificationId, ())

end VerificationIdResponse

/-- Hands in a code. -/
structure VerifyAliasRequest where
  /-- The verification. -/
  verificationId : String := ""
  /-- The code. -/
  code : String := ""
deriving DecidableEq

namespace VerifyAliasRequest

/-- All fields at their defaults. -/
instance : Inhabited VerifyAliasRequest := ⟨{}⟩

/-- Members of the JSON object. -/
def fields : Fields (String × String × Unit) :=
  .cons (.required "verification_id") <| .cons (.required "code") .nil

/-- Written as an object of its fields. -/
instance : Wire VerifyAliasRequest where
  codec := .record "VerifyAliasRequest" fields
    (fun (verificationId, code, ()) => ⟨verificationId, code⟩)
    fun x => (x.verificationId, x.code, ())

end VerifyAliasRequest

/-- Begins a recovery. -/
structure BeginRecoveryRequest where
  /-- An alias of the member. -/
  knownAs : Alias := {}
deriving DecidableEq

namespace BeginRecoveryRequest

/-- All fields at their defaults. -/
instance : Inhabited BeginRecoveryRequest := ⟨{}⟩

/-- Members of the JSON object. -/
def fields : Fields (Alias × Unit) :=
  .cons (.required "alias") .nil

/-- Written as an object of its fields. -/
instance : Wire BeginRecoveryRequest where
  codec := .record "BeginRecoveryRequest" fields
    (fun (knownAs, ()) => ⟨knownAs⟩)
    fun x => (x.knownAs, ())

end BeginRecoveryRequest

/-- Hands in the code of a recovery. -/
structure CompleteRecoveryRequest where
  /-- The verification. -/
  verificationId : String := ""
  /-- The code. -/
  code : String := ""
  /-- The key to vouch for. -/
  key : Key := {}
deriving DecidableEq

namespace CompleteRecoveryRequest

/-- All fields at their defaults. -/
instance : Inhabited CompleteRecoveryRequest := ⟨{}⟩

/-- Members of the JSON object. -/
def fields : Fields (String × String × Key × Unit) :=
  .cons (.required "verification_id") <| .cons (.required "code") <| .cons (.required "key") .nil

/-- Written as an object of its fields. -/
instance : Wire CompleteRecoveryRequest where
  codec := .record "CompleteRecoveryRequest" fields
    (fun (verificationId, code, key, ()) => ⟨verificationId, code, key⟩)
    fun x => (x.verificationId, x.code, x.key, ())

end CompleteRecoveryRequest

/-- The word of the agent. -/
structure CompleteRecoveryResponse where
  /-- The signed authorization. -/
  entry : RecoveryEntry := {}
  /-- What became of the code. -/
  status : VerificationStatus := .invalid
deriving DecidableEq

namespace CompleteRecoveryResponse

/-- All fields at their defaults. -/
instance : Inhabited CompleteRecoveryResponse := ⟨{}⟩

/-- Members of the JSON object. -/
def fields : Fields (RecoveryEntry × VerificationStatus × Unit) :=
  .cons (.withDefault "recovery_entry" {}) <| .cons (.withDefault "status" .invalid) .nil

/-- Written as an object of its fields. -/
instance : Wire CompleteRecoveryResponse where
  codec := .record "CompleteRecoveryResponse" fields
    (fun (entry, status, ()) => ⟨entry, status⟩)
    fun x => (x.entry, x.status, ())

end CompleteRecoveryResponse

/-! ## Accounts -/

/-- Asks for something of an account. -/
structure AccountRequest where
  /-- The account. -/
  accountId : String := ""
deriving DecidableEq

namespace AccountRequest

/-- All fields at their defaults. -/
instance : Inhabited AccountRequest := ⟨{}⟩

/-- Members of the JSON object. -/
def fields : Fields (String × Unit) :=
  .cons (.required "account_id") .nil

/-- Written as an object of its fields. -/
instance : Wire AccountRequest where
  codec := .record "AccountRequest" fields
    (fun (accountId, ()) => ⟨accountId⟩)
    fun x => (x.accountId, ())

end AccountRequest

/-- An account. -/
structure GetAccountResponse where
  /-- The account. -/
  account : Account := {}
deriving DecidableEq

namespace GetAccountResponse

/-- All fields at their defaults. -/
instance : Inhabited GetAccountResponse := ⟨{}⟩

/-- Members of the JSON object. -/
def fields : Fields (Account × Unit) :=
  .cons (.withDefault "account" {}) .nil

/-- Written as an object of its fields. -/
instance : Wire GetAccountResponse where
  codec := .record "GetAccountResponse" fields
    (fun (account, ()) => ⟨account⟩)
    fun x => (x.account, ())

end GetAccountResponse

/-- Accounts. -/
structure GetAccountsResponse where
  /-- The accounts. -/
  accounts : List Account := []
deriving DecidableEq

namespace GetAccountsResponse

/-- All fields at their defaults. -/
instance : Inhabited GetAccountsResponse := ⟨{}⟩

/-- Members of the JSON object. -/
def fields : Fields (List Account × Unit) :=
  .cons (.withDefault "accounts" []) .nil

/-- Written as an object of its fields. -/
instance : Wire GetAccountsResponse where
  codec := .record "GetAccountsResponse" fields
    (fun (accounts, ()) => ⟨accounts⟩)
    fun x => (x.accounts, ())

end GetAccountsResponse

/-- A balance. -/
structure GetBalanceResponse where
  /-- The balance, if it may be seen. -/
  balance : Option Balance := none
  /-- What became of the request. -/
  status : RequestStatus := .invalid
deriving DecidableEq

namespace GetBalanceResponse

/-- All fields at their defaults. -/
instance : Inhabited GetBalanceResponse := ⟨{}⟩

/-- Members of the JSON object. -/
def fields : Fields (Option Balance × RequestStatus × Unit) :=
  .cons (.optional "balance") <| .cons (.withDefault "status" .invalid) .nil

/-- Written as an object of its fields. -/
instance : Wire GetBalanceResponse where
  codec := .record "GetBalanceResponse" fields
    (fun (balance, status, ()) => ⟨balance, status⟩)
    fun x => (x.balance, x.status, ())

end GetBalanceResponse

/-- Asks for balances. -/
structure GetBalancesRequest where
  /-- The accounts. -/
  accountIds : List String := []
deriving DecidableEq

namespace GetBalancesRequest

/-- All fields at their defaults. -/
instance : Inhabited GetBalancesRequest := ⟨{}⟩

/-- Members of the JSON object. -/
def fields : Fields (List String × Unit) :=
  .cons (.required "account_id") .nil

/-- Written as an object of its fields. -/
instance : Wire GetBalancesRequest where
  codec := .record "GetBalancesRequest" fields
    (fun (accountIds, ()) => ⟨accountIds⟩)
    fun x => (x.accountIds, ())

end GetBalancesRequest

/-- Balances. -/
structure GetBalancesResponse where
  /-- One answer an account. -/
  responses : List GetBalanceResponse := []
deriving DecidableEq

namespace GetBalancesResponse

/-- All fields at their defaults. -/
instance : Inhabited GetBalancesResponse := ⟨{}⟩

/-- Members of the JSON object. -/
def fields : Fields (List GetBalanceResponse × Unit) :=
  .cons (.withDefault "response" []) .nil

/-- Written as an object of its fields. -/
instance : Wire GetBalancesResponse where
  codec := .record "GetBalancesResponse" fields
    (fun (responses, ()) => ⟨responses⟩)
    fun x => (x.responses, ())

end GetBalancesResponse

/-- Asks for a transaction. -/
structure GetTransactionRequest where
  /-- The account. -/
  accountId : String := ""
  /-- The transaction. -/
  transactionId : String := ""
deriving DecidableEq

namespace GetTransactionRequest

/-- All fields at their defaults. -/
instance : Inhabited GetTransactionRequest := ⟨{}⟩

/-- Members of the JSON object. -/
def fields : Fields (String × String × Unit) :=
  .cons (.required "account_id") <| .cons (.required "transaction_id") .nil

/-- Written as an object of its fields. -/
instance : Wire GetTransactionRequest where
  codec := .record "GetTransactionRequest" fields
    (fun (accountId, transactionId, ()) => ⟨accountId, transactionId⟩)
    fun x => (x.accountId, x.transactionId, ())

end GetTransactionRequest

/-- A transaction. -/
structure GetTransactionResponse where
  /-- The transaction, if it may be seen. -/
  transaction : Option Transaction := none
  /-- What became of the request. -/
  status : RequestStatus := .invalid
deriving DecidableEq

namespace GetTransactionResponse

/-- All fields at their defaults. -/
instance : Inhabited GetTransactionResponse := ⟨{}⟩

/-- Members of the JSON object. -/
def fields : Fields (Option Transaction × RequestStatus × Unit) :=
  .cons (.optional "transaction") <| .cons (.withDefault "status" .invalid) .nil

/-- Written as an object of its fields. -/
instance : Wire GetTransactionResponse where
  codec := .record "GetTransactionResponse" fields
    (fun (transaction, status, ()) => ⟨transaction, status⟩)
    fun x => (x.transaction, x.status, ())

end GetTransactionResponse

/-- Asks for transactions. -/
structure GetTransactionsRequest where
  /-- The account. -/
  accountId : String := ""
  /-- Which of them. -/
  page : Page := {}
deriving DecidableEq

namespace GetTransactionsRequest

/-- All fields at their defaults. -/
instance : Inhabited GetTransactionsRequest := ⟨{}⟩

/-- Members of the JSON object. -/
def fields : Fields (String × Page × Unit) :=
  .cons (.required "account_id") <| .cons (.required "page") .nil

/-- Written as an object of its fields. -/
instance : Wire GetTransactionsRequest where
  codec := .record "GetTransactionsRequest" fields
    (fun (accountId, page, ()) => ⟨accountId, page⟩)
    fun x => (x.accountId, x.page, ())

end GetTransactionsRequest

/-- Transactions. -/
structure GetTransactionsResponse where
  /-- The transactions. -/
  transactions : List Transaction := []
  /-- Where they end. -/
  offset : String := ""
  /-- What became of the request. -/
  status : RequestStatus := .invalid
deriving DecidableEq

namespace GetTransactionsResponse

/-- All fields at their defaults. -/
instance : Inhabited GetTransactionsResponse := ⟨{}⟩

/-- Members of the JSON object. -/
def fields : Fields (List Transaction × String × RequestStatus × Unit) :=
  .cons (.withDefault "transactions" []) <| .cons (.withDefault "offset" "") <|
  .cons (.withDefault "status" .invalid) .nil

/-- Written as an object of its fields. -/
instance : Wire GetTransactionsResponse where
  codec := .record "GetTransactionsResponse" fields
    (fun (transactions, offset, status, ()) => ⟨transactions, offset, status⟩)
    fun x => (x.transactions, x.offset, x.status, ())

end GetTransactionsResponse

/-- Where money can be sent to an account. -/
structure ResolveDestinationsResponse where
  /-- The destinations. -/
  destinations : List TransferEndpoint := []
deriving DecidableEq

namespace ResolveDestinationsResponse

/-- All fields at their defaults. -/
instance : Inhabited ResolveDestinationsResponse := ⟨{}⟩

/-- Members of the JSON object. -/
def fields : Fields (List TransferEndpoint × Unit) :=
  .cons (.withDefault "destinations" []) .nil

/-- Written as an object of its fields. -/
instance : Wire ResolveDestinationsResponse where
  codec := .record "ResolveTransferDestinationsResponse" fields
    (fun (destinations, ()) => ⟨destinations⟩)
    fun x => (x.destinations, ())

end ResolveDestinationsResponse

/-! ## Banks -/

/-- Asks where a bank links accounts. -/
structure GetBankInfoRequest where
  /-- The bank. -/
  bankId : String := ""
deriving DecidableEq

namespace GetBankInfoRequest

/-- All fields at their defaults. -/
instance : Inhabited GetBankInfoRequest := ⟨{}⟩

/-- Members of the JSON object. -/
def fields : Fields (String × Unit) :=
  .cons (.required "bank_id") .nil

/-- Written as an object of its fields. -/
instance : Wire GetBankInfoRequest where
  codec := .record "GetBankInfoRequest" fields
    (fun (bankId, ()) => ⟨bankId⟩)
    fun x => (x.bankId, ())

end GetBankInfoRequest

/-- Where a bank links accounts. -/
structure GetBankInfoResponse where
  /-- The places. -/
  info : BankInfo := {}
deriving DecidableEq

namespace GetBankInfoResponse

/-- All fields at their defaults. -/
instance : Inhabited GetBankInfoResponse := ⟨{}⟩

/-- Members of the JSON object. -/
def fields : Fields (BankInfo × Unit) :=
  .cons (.withDefault "info" {}) .nil

/-- Written as an object of its fields. -/
instance : Wire GetBankInfoResponse where
  codec := .record "GetBankInfoResponse" fields (fun (info, ()) => ⟨info⟩) fun x => (x.info, ())

end GetBankInfoResponse

/-- Banks. -/
structure GetBanksResponse where
  /-- The banks. -/
  banks : List Bank := []
  /-- Which page this is. -/
  paging : Paging := {}
deriving DecidableEq

namespace GetBanksResponse

/-- All fields at their defaults. -/
instance : Inhabited GetBanksResponse := ⟨{}⟩

/-- Members of the JSON object. -/
def fields : Fields (List Bank × Paging × Unit) :=
  .cons (.withDefault "banks" []) <| .cons (.withDefault "paging" {}) .nil

/-- Written as an object of its fields. -/
instance : Wire GetBanksResponse where
  codec := .record "GetBanksResponse" fields
    (fun (banks, paging, ()) => ⟨banks, paging⟩)
    fun x => (x.banks, x.paging, ())

end GetBanksResponse

/-! ## Notices and blobs -/

/-- Sends a notice. -/
structure NotifyRequest where
  /-- To whose devices. -/
  knownAs : Alias
  /-- The notice. -/
  body : NoticeBody
deriving DecidableEq

namespace NotifyRequest

/-- Members of the JSON object. -/
def fields : Fields (Alias × NoticeBody × Unit) :=
  .cons (.required "alias") <| .cons (.required "body") .nil

/-- Written as an object of its fields. -/
instance : Wire NotifyRequest where
  codec := .record "NotifyRequest" fields
    (fun (knownAs, body, ()) => ⟨knownAs, body⟩)
    fun x => (x.knownAs, x.body, ())

end NotifyRequest

/-- Withdraws a notice. -/
structure InvalidateNotificationRequest where
  /-- The notice. -/
  notificationId : String := ""
deriving DecidableEq

namespace InvalidateNotificationRequest

/-- All fields at their defaults. -/
instance : Inhabited InvalidateNotificationRequest := ⟨{}⟩

/-- Members of the JSON object. -/
def fields : Fields (String × Unit) :=
  .cons (.required "notification_id") .nil

/-- Written as an object of its fields. -/
instance : Wire InvalidateNotificationRequest where
  codec := .record "InvalidateNotificationRequest" fields
    (fun (notificationId, ()) => ⟨notificationId⟩)
    fun x => (x.notificationId, ())

end InvalidateNotificationRequest

/-- What became of a notice. -/
structure NotifyResponse where
  /-- What became of it. -/
  status : NoticeStatus := .invalid
deriving DecidableEq

namespace NotifyResponse

/-- All fields at their defaults. -/
instance : Inhabited NotifyResponse := ⟨{}⟩

/-- Members of the JSON object. -/
def fields : Fields (NoticeStatus × Unit) :=
  .cons (.withDefault "status" .invalid) .nil

/-- Written as an object of its fields. -/
instance : Wire NotifyResponse where
  codec := .record "NotifyResponse" fields (fun (status, ()) => ⟨status⟩) fun x => (x.status, ())

end NotifyResponse

/-- Asks for a blob. -/
structure GetBlobRequest where
  /-- The blob. -/
  blobId : String := ""
deriving DecidableEq

namespace GetBlobRequest

/-- All fields at their defaults. -/
instance : Inhabited GetBlobRequest := ⟨{}⟩

/-- Members of the JSON object. -/
def fields : Fields (String × Unit) :=
  .cons (.required "blob_id") .nil

/-- Written as an object of its fields. -/
instance : Wire GetBlobRequest where
  codec := .record "GetBlobRequest" fields (fun (blobId, ()) => ⟨blobId⟩) fun x => (x.blobId, ())

end GetBlobRequest

/-- A blob. -/
structure GetBlobResponse where
  /-- The blob. -/
  blob : Blob := {}
deriving DecidableEq

namespace GetBlobResponse

/-- All fields at their defaults. -/
instance : Inhabited GetBlobResponse := ⟨{}⟩

/-- Members of the JSON object. -/
def fields : Fields (Blob × Unit) :=
  .cons (.withDefault "blob" {}) .nil

/-- Written as an object of its fields. -/
instance : Wire GetBlobResponse where
  codec := .record "GetBlobResponse" fields (fun (blob, ()) => ⟨blob⟩) fun x => (x.blob, ())

end GetBlobResponse

/-! ## Token requests and certificates -/

/-- Stores a token request. -/
structure StoreTokenRequestRequest where
  /-- What is asked for. -/
  payload : RequestPayload := {}
  /-- Hints. -/
  options : RequestOptions := {}
deriving DecidableEq

namespace StoreTokenRequestRequest

/-- All fields at their defaults. -/
instance : Inhabited StoreTokenRequestRequest := ⟨{}⟩

/-- Members of the JSON object. -/
def fields : Fields (RequestPayload × RequestOptions × Unit) :=
  .cons (.required "request_payload") <| .cons (.required "request_options") .nil

/-- Written as an object of its fields. -/
instance : Wire StoreTokenRequestRequest where
  codec := .record "StoreTokenRequestRequest" fields
    (fun (payload, options, ()) => ⟨payload, options⟩)
    fun x => (x.payload, x.options, ())

end StoreTokenRequestRequest

/-- A stored token request. -/
structure StoredTokenRequest where
  /-- Names the request. -/
  id : String := ""
  /-- What is asked for. -/
  payload : RequestPayload := {}
  /-- Hints. -/
  options : RequestOptions := {}
deriving DecidableEq

namespace StoredTokenRequest

/-- All fields at their defaults. -/
instance : Inhabited StoredTokenRequest := ⟨{}⟩

/-- Members of the JSON object. -/
def fields : Fields (String × RequestPayload × RequestOptions × Unit) :=
  .cons (.required "id") <| .cons (.withDefault "request_payload" {}) <|
  .cons (.withDefault "request_options" {}) .nil

/-- Written as an object of its fields. -/
instance : Wire StoredTokenRequest where
  codec := .record "StoredTokenRequest" fields
    (fun (id, payload, options, ()) => ⟨id, payload, options⟩)
    fun x => (x.id, x.payload, x.options, ())

end StoredTokenRequest

/-- A stored token request. -/
structure TokenRequestResponse where
  /-- The request. -/
  stored : StoredTokenRequest := {}
deriving DecidableEq

namespace TokenRequestResponse

/-- All fields at their defaults. -/
instance : Inhabited TokenRequestResponse := ⟨{}⟩

/-- Members of the JSON object. -/
def fields : Fields (StoredTokenRequest × Unit) :=
  .cons (.withDefault "token_request" {}) .nil

/-- Written as an object of its fields. -/
instance : Wire TokenRequestResponse where
  codec := .record "TokenRequestResponse" fields
    (fun (stored, ()) => ⟨stored⟩)
    fun x => (x.stored, ())

end TokenRequestResponse

/-- Asks for a stored token request. -/
structure RetrieveTokenRequestRequest where
  /-- The request. -/
  requestId : String := ""
deriving DecidableEq

namespace RetrieveTokenRequestRequest

/-- All fields at their defaults. -/
instance : Inhabited RetrieveTokenRequestRequest := ⟨{}⟩

/-- Members of the JSON object. -/
def fields : Fields (String × Unit) :=
  .cons (.required "request_id") .nil

/-- Written as an object of its fields. -/
instance : Wire RetrieveTokenRequestRequest where
  codec := .record "RetrieveTokenRequestRequest" fields
    (fun (requestId, ()) => ⟨requestId⟩)
    fun x => (x.requestId, ())

end RetrieveTokenRequestRequest

/-- Hands in a certificate. -/
structure VerifyEidasRequest where
  /-- What was signed. -/
  payload : EidasPayload := {}
  /-- The signature. -/
  signature : String := ""
deriving DecidableEq

namespace VerifyEidasRequest

/-- All fields at their defaults. -/
instance : Inhabited VerifyEidasRequest := ⟨{}⟩

/-- Members of the JSON object. -/
def fields : Fields (EidasPayload × String × Unit) :=
  .cons (.required "payload") <| .cons (.required "signature") .nil

/-- Written as an object of its fields. -/
instance : Wire VerifyEidasRequest where
  codec := .record "VerifyEidasRequest" fields
    (fun (payload, signature, ()) => ⟨payload, signature⟩)
    fun x => (x.payload, x.signature, ())

end VerifyEidasRequest

end OpenBanking
