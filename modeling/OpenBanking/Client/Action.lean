import OpenBanking.Client.Accounts
import OpenBanking.Client.Own

/-!
# Actions of clients

All that a client can do, as data: turns of how it calls from now on, and requests, which leave the
client as it is. What holds of every history of a client is said of lists of actions.
-/

namespace OpenBanking.Client

/-- What changes how a client calls from now on. -/
inductive Turn where
  /-- Act under an access token. -/
  | useAccessToken (tokenId : String)
  /-- Act on its own behalf, and not because a person asked. -/
  | clearAccessToken
  /-- Say whether a person asks for the calls. -/
  | setCustomerInitiated (customerInitiated : Bool)
  /-- Tell of the device. -/
  | setTracking (tracking : Tracking)
  /-- Tell nothing of the device. -/
  | clearTracking
deriving DecidableEq

/-- What a client can be asked for. -/
inductive Request where
  /-- Fetch the record of a member. -/
  | getMember (memberId : String)
  /-- Apply operations to a record. -/
  | updateMember (record : MemberRecord) (operations : List MemberOperation)
      (metadata : List OperationMetadata)
  /-- Let the default agent recover the member. -/
  | useDefaultRecoveryRule
  /-- List the aliases. -/
  | getAliases
  /-- Have the code of an alias sent again. -/
  | retryVerification (x : Alias)
  /-- Hand in the code of an alias. -/
  | verifyAlias (verificationId code : String)
  /-- Vouch for the new key of a member. -/
  | authorizeRecovery (authorization : Authorization)
  /-- Fetch the agent that recovers members by default. -/
  | getDefaultAgent
  /-- Delete the member. -/
  | deleteMember
  /-- Store a token request. -/
  | storeTokenRequest (request : TokenRequest)
  /-- Have an eIDAS certificate verified. -/
  | verifyEidas (payload : EidasPayload) (signature : String)
  /-- Fetch where accounts of a bank are linked. -/
  | getBankInfo (bankId : String)
  /-- Fetch an account. -/
  | getAccount (accountId : String)
  /-- List the accounts. -/
  | getAccounts
  /-- Fetch a balance. -/
  | getBalance (accountId : String) (level : KeyLevel)
  /-- Fetch balances as far as they are served. -/
  | getBalances (accountIds : List String) (level : KeyLevel)
  /-- Fetch a transaction. -/
  | getTransaction (accountId transactionId : String) (level : KeyLevel)
  /-- Fetch a page of transactions. -/
  | getTransactions (accountId : String) (page : Page) (level : KeyLevel)
  /-- List where money can be sent to an account. -/
  | resolveTransferDestinations (accountId : String)
deriving DecidableEq

/-- What a client can do. -/
inductive Action where
  /-- Change how it calls. -/
  | turn (change : Turn)
  /-- Do what it is asked for. -/
  | ask (request : Request)
deriving DecidableEq

/-- The client after a turn. -/
def Turn.apply (client : Client) : Turn → Client
  | useAccessToken tokenId => client.useAccessToken tokenId
  | clearAccessToken => client.clearAccessToken
  | setCustomerInitiated customerInitiated => client.setCustomerInitiated customerInitiated
  | setTracking tracking => client.setTracking tracking
  | clearTracking => client.clearTracking

/-- Does what a client is asked for; what it gives is left aside. -/
def Request.send (client : Client) : Request → Flow Session Unit
  | getMember memberId => discard (client.getMember memberId)
  | updateMember record operations metadata =>
    discard (client.updateMember record operations metadata)
  | useDefaultRecoveryRule => discard client.useDefaultRecoveryRule
  | getAliases => discard client.getAliases
  | retryVerification x => discard (client.retryVerification x)
  | verifyAlias verificationId code => client.verifyAlias verificationId code
  | authorizeRecovery authorization => discard (client.authorizeRecovery authorization)
  | getDefaultAgent => discard client.getDefaultAgent
  | deleteMember => client.deleteMember
  | storeTokenRequest request => discard (client.storeTokenRequest request)
  | verifyEidas payload signature => discard (client.verifyEidas payload signature)
  | getBankInfo bankId => discard (client.getBankInfo bankId)
  | getAccount accountId => discard (client.getAccount accountId)
  | getAccounts => discard client.getAccounts
  | getBalance accountId level => discard (client.getBalance accountId level)
  | getBalances accountIds level => discard (client.getBalances accountIds level)
  | getTransaction accountId transactionId level =>
    discard (client.getTransaction accountId transactionId level)
  | getTransactions accountId page level =>
    discard (client.getTransactions accountId page level)
  | resolveTransferDestinations accountId =>
    discard (client.resolveTransferDestinations accountId)

/-- A client in a session after an action. A request that fails ends only itself. -/
def Action.step (state : Client × Session) : Action → Client × Session
  | turn change => (change.apply state.1, state.2)
  | ask request => (state.1, ((request.send state.1).run state.2).2)

/-- A client in a session after actions, the first one first. -/
def Action.runAll (state : Client × Session) (history : List Action) : Client × Session :=
  history.foldl step state

end OpenBanking.Client
