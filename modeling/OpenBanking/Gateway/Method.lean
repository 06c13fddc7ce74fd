import OpenBanking.Json.Choice

/-!
# Methods of the gateway

Every call names one of these methods. Over HTTP a method is addressed by its path, and no
other path names it.
-/

namespace OpenBanking

open Json

/-- What the gateway can be asked to do. -/
inductive Method where
  /-- Reserve a member id. -/
  | createMember
  /-- Apply a signed update of a member. -/
  | updateMember
  /-- Fetch the record of a member. -/
  | getMember
  /-- Delete the member that calls. -/
  | deleteMember
  /-- Find the member that owns an alias. -/
  | resolveAlias
  /-- List the aliases of the member that calls. -/
  | getAliases
  /-- Fetch the agent that recovers members by default. -/
  | getDefaultAgent
  /-- Send the code of an alias again. -/
  | retryVerification
  /-- Prove to own an alias. -/
  | verifyAlias
  /-- Begin to recover a member. -/
  | beginRecovery
  /-- Exchange a code for the word of an agent. -/
  | completeRecovery
  /-- Fetch an account. -/
  | getAccount
  /-- List the accounts. -/
  | getAccounts
  /-- Fetch a balance. -/
  | getBalance
  /-- Fetch several balances. -/
  | getBalances
  /-- Fetch a transaction. -/
  | getTransaction
  /-- Fetch a page of transactions. -/
  | getTransactions
  /-- List where money can be sent. -/
  | resolveTransferDestinations
  /-- Fetch where accounts of a bank are linked. -/
  | getBankInfo
  /-- List banks. -/
  | getBanks
  /-- Notify the devices of a member. -/
  | notify
  /-- Withdraw a notice. -/
  | invalidateNotification
  /-- Fetch a blob. -/
  | getBlob
  /-- Store a token request. -/
  | storeTokenRequest
  /-- Fetch a stored token request. -/
  | retrieveTokenRequest
  /-- Verify an eIDAS certificate. -/
  | verifyEidas
deriving DecidableEq

/-- Names, as they stand in paths. -/
instance : Named Method where
  all := [.createMember, .updateMember, .getMember, .deleteMember, .resolveAlias, .getAliases,
    .getDefaultAgent, .retryVerification, .verifyAlias, .beginRecovery, .completeRecovery,
    .getAccount, .getAccounts, .getBalance, .getBalances, .getTransaction, .getTransactions,
    .resolveTransferDestinations, .getBankInfo, .getBanks, .notify, .invalidateNotification,
    .getBlob, .storeTokenRequest, .retrieveTokenRequest, .verifyEidas]
  name
    | .createMember => "CreateMember"
    | .updateMember => "UpdateMember"
    | .getMember => "GetMember"
    | .deleteMember => "DeleteMember"
    | .resolveAlias => "ResolveAlias"
    | .getAliases => "GetAliases"
    | .getDefaultAgent => "GetDefaultAgent"
    | .retryVerification => "RetryVerification"
    | .verifyAlias => "VerifyAlias"
    | .beginRecovery => "BeginRecovery"
    | .completeRecovery => "CompleteRecovery"
    | .getAccount => "GetAccount"
    | .getAccounts => "GetAccounts"
    | .getBalance => "GetBalance"
    | .getBalances => "GetBalances"
    | .getTransaction => "GetTransaction"
    | .getTransactions => "GetTransactions"
    | .resolveTransferDestinations => "ResolveTransferDestinations"
    | .getBankInfo => "GetBankInfo"
    | .getBanks => "GetBanks"
    | .notify => "Notify"
    | .invalidateNotification => "InvalidateNotification"
    | .getBlob => "GetBlob"
    | .storeTokenRequest => "StoreTokenRequest"
    | .retrieveTokenRequest => "RetrieveTokenRequest"
    | .verifyEidas => "VerifyEidas"
  mem_all x := by cases x <;> simp
  names_nodup := by decide

/-- A method is shown by its name. -/
instance : ToString Method := ⟨nameOf⟩

namespace Method

/-- The path of a method. -/
def path (method : Method) : String := "/v1/" ++ nameOf method

/-- The method that a path names. -/
def ofPath? (path : String) : Option Method :=
  match path.toList with
  | '/' :: 'v' :: '1' :: '/' :: name => ofName? (String.ofList name)
  | _ => none

end Method

end OpenBanking
