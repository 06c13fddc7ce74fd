import OpenBanking.Client.Basic

/-!
# Calls about accounts

What a client asks about accounts, its own or those of the member whose access token it
acts under. Where the gateway wants the key of a higher level it serves no data, and the call
fails, except that several balances are given as far as they are served.
-/

namespace OpenBanking

/-- The balance that an entry serves. -/
def GetBalanceResponse.served? (entry : GetBalanceResponse) : Option Balance :=
  match entry.status, entry.balance with
  | .successful, some balance => some balance
  | _, _ => none

/-- The transaction that an entry serves. -/
def GetTransactionResponse.served? (entry : GetTransactionResponse) : Option Transaction :=
  match entry.status, entry.transaction with
  | .successful, some transaction => some transaction
  | _, _ => none

namespace Client

variable (client : Client)

/-- Sends a value in a call about accounts, signed at a level. -/
def askAccounts {α β : Type} [Json.Wire α] [Json.Wire β] (level : KeyLevel) (method : Method)
    (x : α) : Flow Session β :=
  (client.identity (client.accountContext level)).exchange method x

/-- Gives what is served, or wants a higher level. -/
def served {α : Type} (reason : String) : Option α → Flow Session α
  | some x => .give x
  | none => .fail (.stepUpRequired reason)

/-- An account. -/
def getAccount (accountId : String) : Flow Session Account := do
  let response : GetAccountResponse ←
    client.askAccounts .low .getAccount (⟨accountId⟩ : AccountRequest)
  return response.account

/-- The accounts. -/
def getAccounts : Flow Session (List Account) := do
  let response : GetAccountsResponse ← client.askAccounts .low .getAccounts ({} : Empty)
  return response.accounts

/-- The balance of an account. -/
def getBalance (accountId : String) (level : KeyLevel) : Flow Session Balance := do
  let response : GetBalanceResponse ←
    client.askAccounts level .getBalance (⟨accountId⟩ : AccountRequest)
  served "Balance step up required." response.served?

/-- The balances of accounts, as far as they are served. -/
def getBalances (accountIds : List String) (level : KeyLevel) : Flow Session (List Balance) := do
  let response : GetBalancesResponse ←
    client.askAccounts level .getBalances (⟨accountIds⟩ : GetBalancesRequest)
  return (response.responses.filter (·.status = .successful)).filterMap (·.balance)

/-- A transaction of an account. -/
def getTransaction (accountId transactionId : String) (level : KeyLevel) :
    Flow Session Transaction := do
  let response : GetTransactionResponse ←
    client.askAccounts level .getTransaction (⟨accountId, transactionId⟩ : GetTransactionRequest)
  served "Transaction step up required." response.served?

/-- A page of the transactions of an account. -/
def getTransactions (accountId : String) (page : Page) (level : KeyLevel) :
    Flow Session (PagedList Transaction) := do
  let response : GetTransactionsResponse ←
    client.askAccounts level .getTransactions (⟨accountId, page⟩ : GetTransactionsRequest)
  served "Transactions step up required." <|
    if response.status = .successful then some ⟨response.transactions, response.offset⟩ else none

/-- Where money can be sent to an account. -/
def resolveTransferDestinations (accountId : String) : Flow Session (List TransferEndpoint) := do
  let response : ResolveDestinationsResponse ←
    client.askAccounts .low .resolveTransferDestinations (⟨accountId⟩ : AccountRequest)
  return response.destinations

end Client

end OpenBanking
