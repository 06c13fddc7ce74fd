import OpenBanking.Member.Acting

/-!
# Actions of members

All that a member can do, as data. What holds of every history of a member is said of lists of
actions; `Member.Action.run` does an action and gives the JSON form of what comes of it.
-/

namespace OpenBanking

open Json

/-- What a member can do. -/
inductive Member.Action where
  /-- Act under an access token from now on. -/
  | useAccessToken (tokenId : String)
  /-- Act on its own behalf from now on. -/
  | clearAccessToken
  /-- Say whether a person asks for the calls from now on. -/
  | setCustomerInitiated (customerInitiated : Bool)
  /-- Tell of the device from now on. -/
  | setTracking (tracking : Tracking)
  /-- Tell nothing of the device from now on. -/
  | clearTracking
  /-- Fetch the record. -/
  | refresh
  /-- Apply operations to the record. -/
  | update (operations : List MemberOperation) (metadata : List OperationMetadata)
  /-- Add keys in one update. -/
  | addKeys (keys : List Key)
  /-- Remove keys in one update. -/
  | removeKeys (keyIds : List String)
  /-- Add aliases in one update. -/
  | addAliases (aliases : List Alias)
  /-- Remove aliases in one update. -/
  | removeAliases (aliases : List Alias)
  /-- Let the default agent recover the member. -/
  | useDefaultRecoveryRule
  /-- List the aliases. -/
  | getAliases
  /-- Fetch the first alias. -/
  | firstAlias
  /-- Have the code of an alias sent again. -/
  | retryVerification (x : Alias)
  /-- Hand in the code of an alias. -/
  | verifyAlias (verificationId code : String)
  /-- Vouch for the new key of a member. -/
  | authorizeRecovery (authorization : Authorization)
  /-- Fetch the agent that recovers members by default. -/
  | getDefaultAgent
  /-- Delete the member. -/
  | deleteMember
  /-- Fetch an account. -/
  | getAccount (accountId : String)
  /-- List the accounts. -/
  | getAccounts
  /-- Fetch a balance. -/
  | getBalance (accountId : String) (level : KeyLevel)
  /-- Fetch balances as far as they are served. -/
  | getBalances (accountIds : List String) (level : KeyLevel)
  /-- Fetch a transaction. -/
  | getTransaction (accountId transactionId : String) (level : KeyLevel)
  /-- Fetch a page of transactions. -/
  | getTransactions (accountId : String) (page : Page) (level : KeyLevel)
  /-- List where money can be sent to an account. -/
  | resolveTransferDestinations (accountId : String)
  /-- Fetch where accounts of a bank are linked. -/
  | getBankInfo (bankId : String)
  /-- Store a token request. -/
  | storeTokenRequest (request : TokenRequest)
  /-- Have an eIDAS certificate verified. -/
  | verifyEidas (payload : EidasPayload) (signature : String)
  /-- List the public halves of the keys that the member holds. -/
  | publicKeys
deriving DecidableEq

namespace Member.Action

/-- What an action does to the client; nothing, save for those that set how calls are made. -/
def turn (client : Client) : Action → Client
  | useAccessToken tokenId => client.useAccessToken tokenId
  | clearAccessToken => client.clearAccessToken
  | setCustomerInitiated customerInitiated => client.setCustomerInitiated customerInitiated
  | setTracking tracking => client.setTracking tracking
  | clearTracking => client.clearTracking
  | _ => client

/-- Changes the client; nothing is sent. -/
def turned (action : Action) : Flow (Member × Session) Value := do
  Flow.change fun (member, session) =>
    ({ member with client := action.turn member.client }, session)
  return .null

/-- Shows the record after a change. -/
def changed (flow : Flow (Member × Session) Unit) : Flow (Member × Session) Value := do
  flow
  Flow.read fun (member, _) => toValue member.record

/-- Shows what the client gives. -/
def asked {α : Type} [Wire α] (flow : Client → Flow Session α) : Flow (Member × Session) Value := do
  let client ← Flow.read (·.1.client)
  let x ← Flow.onSecond (flow client)
  return toValue x

/-- Has the client do something that gives nothing. -/
def done (flow : Client → Flow Session Unit) : Flow (Member × Session) Value := do
  let client ← Flow.read (·.1.client)
  Flow.onSecond (flow client)
  return .null

/-- Does an action. -/
def run : Action → Flow (Member × Session) Value
  | useAccessToken tokenId => turned (.useAccessToken tokenId)
  | clearAccessToken => turned .clearAccessToken
  | setCustomerInitiated customerInitiated => turned (.setCustomerInitiated customerInitiated)
  | setTracking tracking => turned (.setTracking tracking)
  | clearTracking => turned .clearTracking
  | refresh => changed Member.refresh
  | update operations metadata => changed (Member.update operations metadata)
  | addKeys keys => changed (Member.addKeys keys)
  | removeKeys keyIds => changed (Member.removeKeys keyIds)
  | addAliases aliases => changed (Member.addAliases aliases)
  | removeAliases aliases => changed (Member.removeAliases aliases)
  | useDefaultRecoveryRule => changed Member.useDefaultRecoveryRule
  | getAliases => asked (·.getAliases)
  | firstAlias => do
    let member ← Flow.read (·.1)
    let x ← Flow.onSecond member.firstAlias
    return toValue x
  | retryVerification x => asked (·.retryVerification x)
  | verifyAlias verificationId code => done (·.verifyAlias verificationId code)
  | authorizeRecovery authorization => asked (·.authorizeRecovery authorization)
  | getDefaultAgent => asked (·.getDefaultAgent)
  | deleteMember => done (·.deleteMember)
  | getAccount accountId => asked (·.getAccount accountId)
  | getAccounts => asked (·.getAccounts)
  | getBalance accountId level => asked (·.getBalance accountId level)
  | getBalances accountIds level => asked (·.getBalances accountIds level)
  | getTransaction accountId transactionId level =>
    asked (·.getTransaction accountId transactionId level)
  | getTransactions accountId page level => asked (·.getTransactions accountId page level)
  | resolveTransferDestinations accountId => asked (·.resolveTransferDestinations accountId)
  | getBankInfo bankId => asked (·.getBankInfo bankId)
  | storeTokenRequest request => asked (·.storeTokenRequest request)
  | verifyEidas payload signature => asked (·.verifyEidas payload signature)
  | publicKeys => asked (·.engine.publicKeys)

end Member.Action

end OpenBanking
