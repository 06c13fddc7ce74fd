import OpenBanking.Json.Choice

/-!
# Accounts

Accounts at banks with their balances and transactions, the endpoints of transfers, and
the pages in which long lists are fetched.
-/

namespace OpenBanking

open Json

/-- What became of a request for account data. -/
inductive RequestStatus where
  /-- It was not answered. -/
  | invalid
  /-- It was answered. -/
  | successful
  /-- It needs the consent of the account holder. -/
  | moreSignaturesNeeded
deriving DecidableEq

/-- Wire names. -/
instance : Named RequestStatus where
  all := [.invalid, .successful, .moreSignaturesNeeded]
  name
    | .invalid => "INVALID_REQUEST"
    | .successful => "SUCCESSFUL_REQUEST"
    | .moreSignaturesNeeded => "MORE_SIGNATURES_NEEDED"
  mem_all x := by cases x <;> simp
  names_nodup := by decide

/-- Written as its name. -/
instance : Wire RequestStatus := ⟨.named RequestStatus⟩

/-- The value where none is given. -/
instance : Inhabited RequestStatus := ⟨.invalid⟩

/-- An amount of a currency. -/
structure Money where
  /-- The amount as a decimal text. -/
  value : String := ""
  /-- The currency. -/
  currency : String := ""
deriving DecidableEq

namespace Money

/-- All fields at their defaults. -/
instance : Inhabited Money := ⟨{}⟩

/-- Members of the JSON object. -/
def fields : Fields (String × String × Unit) :=
  .cons (.required "value") <| .cons (.required "currency") .nil

/-- Written as an object of its fields. -/
instance : Wire Money where
  codec := .record "Money" fields
    (fun (value, currency, ()) => ⟨value, currency⟩)
    fun x => (x.value, x.currency, ())

end Money

/-- An account at a bank. -/
structure Account where
  /-- Names the account. -/
  id : String := ""
  /-- Its name. -/
  name : String := ""
  /-- The bank. -/
  bankId : String := ""
  /-- Whether it is locked. -/
  isLocked : Bool := false
deriving DecidableEq

namespace Account

/-- All fields at their defaults. -/
instance : Inhabited Account := ⟨{}⟩

/-- Members of the JSON object. -/
def fields : Fields (String × String × String × Bool × Unit) :=
  .cons (.required "id") <| .cons (.required "name") <| .cons (.required "bank_id") <|
  .cons (.withDefault "is_locked" false) .nil

/-- Written as an object of its fields. -/
instance : Wire Account where
  codec := .record "Account" fields
    (fun (id, name, bankId, isLocked, ()) => ⟨id, name, bankId, isLocked⟩)
    fun x => (x.id, x.name, x.bankId, x.isLocked, ())

end Account

/-- What an account holds. -/
structure Balance where
  /-- The account. -/
  accountId : String := ""
  /-- Booked amount. -/
  current : Money := {}
  /-- Amount at disposal. -/
  available : Money := {}
  /-- When it was so, in milliseconds since 1970. -/
  updatedAt : Int64 := 0
deriving DecidableEq

namespace Balance

/-- All fields at their defaults. -/
instance : Inhabited Balance := ⟨{}⟩

/-- Members of the JSON object. -/
def fields : Fields (String × Money × Money × Int64 × Unit) :=
  .cons (.required "account_id") <| .cons (.required "current") <|
  .cons (.required "available") <| .cons (.withDefault "updated_at_ms" 0) .nil

/-- Written as an object of its fields. -/
instance : Wire Balance where
  codec := .record "Balance" fields
    (fun (accountId, current, available, updatedAt, ()) =>
      ⟨accountId, current, available, updatedAt⟩)
    fun x => (x.accountId, x.current, x.available, x.updatedAt, ())

end Balance

/-- Which way the money went. -/
inductive TransactionKind where
  /-- Not known. -/
  | invalid
  /-- Out of the account. -/
  | debit
  /-- Into the account. -/
  | credit
deriving DecidableEq

/-- Wire names. -/
instance : Named TransactionKind where
  all := [.invalid, .debit, .credit]
  name
    | .invalid => "INVALID_TYPE"
    | .debit => "DEBIT"
    | .credit => "CREDIT"
  mem_all x := by cases x <;> simp
  names_nodup := by decide

/-- Written as its name. -/
instance : Wire TransactionKind := ⟨.named TransactionKind⟩

/-- The value where none is given. -/
instance : Inhabited TransactionKind := ⟨.invalid⟩

/-- How far a transaction has come. -/
inductive TransactionStatus where
  /-- Not known. -/
  | invalid
  /-- Under way. -/
  | processing
  /-- Done. -/
  | success
  /-- Failed. -/
  | failure
deriving DecidableEq

/-- Wire names. -/
instance : Named TransactionStatus where
  all := [.invalid, .processing, .success, .failure]
  name
    | .invalid => "INVALID_STATUS"
    | .processing => "PROCESSING"
    | .success => "SUCCESS"
    | .failure => "FAILURE"
  mem_all x := by cases x <;> simp
  names_nodup := by decide

/-- Written as its name. -/
instance : Wire TransactionStatus := ⟨.named TransactionStatus⟩

/-- The value where none is given. -/
instance : Inhabited TransactionStatus := ⟨.invalid⟩

/-- A movement of an account. -/
structure Transaction where
  /-- Names the transaction. -/
  id : String := ""
  /-- Which way the money went. -/
  kind : TransactionKind := .invalid
  /-- How far it has come. -/
  status : TransactionStatus := .invalid
  /-- How much was moved. -/
  amount : Money := {}
  /-- What the bank says of it. -/
  description : String := ""
  /-- The token that allowed it. -/
  tokenId : String := ""
  /-- When it was made, in milliseconds since 1970. -/
  createdAt : Int64 := 0
deriving DecidableEq

namespace Transaction

/-- All fields at their defaults. -/
instance : Inhabited Transaction := ⟨{}⟩

/-- Members of the JSON object. -/
def fields :
    Fields (String × TransactionKind × TransactionStatus × Money × String × String × Int64
      × Unit) :=
  .cons (.required "id") <| .cons (.required "type") <| .cons (.required "status") <|
  .cons (.required "amount") <| .cons (.withDefault "description" "") <|
  .cons (.withDefault "token_id" "") <| .cons (.withDefault "created_at_ms" 0) .nil

/-- Written as an object of its fields. -/
instance : Wire Transaction where
  codec := .record "Transaction" fields
    (fun (id, kind, status, amount, description, tokenId, createdAt, ()) =>
      ⟨id, kind, status, amount, description, tokenId, createdAt⟩)
    fun x => (x.id, x.kind, x.status, x.amount, x.description, x.tokenId, x.createdAt, ())

end Transaction

/-- How an account is addressed. -/
inductive BankAccount where
  /-- An account linked to a member. -/
  | token (memberId accountId : String)
  /-- An account in the euro area. -/
  | sepa (iban bic : String)
  /-- An account in the United Kingdom. -/
  | fasterPayments (sortCode accountNumber : String)
  /-- An account in a form of its bank. -/
  | custom (bankId payload : String)
deriving DecidableEq

namespace BankAccount

/-- Members of the content of `token`. -/
def tokenFields : Fields (String × String × Unit) :=
  .cons (.required "member_id") <| .cons (.required "account_id") .nil

/-- Members of the content of `sepa`. -/
def sepaFields : Fields (String × String × Unit) :=
  .cons (.required "iban") <| .cons (.withDefault "bic" "") .nil

/-- Members of the content of `fasterPayments`. -/
def fasterPaymentsFields : Fields (String × String × Unit) :=
  .cons (.required "sort_code") <| .cons (.required "account_number") .nil

/-- Members of the content of `custom`. -/
def customFields : Fields (String × String × Unit) :=
  .cons (.required "bank_id") <| .cons (.required "payload") .nil

/-- The variants by name. -/
def variants : List (Variant BankAccount) :=
  [.record "token" "BankAccount::Token" tokenFields fun (memberId, accountId, ()) =>
      .token memberId accountId,
   .record "sepa" "BankAccount::Sepa" sepaFields fun (iban, bic, ()) => .sepa iban bic,
   .record "faster_payments" "BankAccount::FasterPayments" fasterPaymentsFields
      fun (sortCode, accountNumber, ()) => .fasterPayments sortCode accountNumber,
   .record "custom" "BankAccount::Custom" customFields fun (bankId, payload, ()) =>
      .custom bankId payload]

/-- Written as its variant. -/
instance : Wire BankAccount where
  codec := .choice variants fun
    | .token memberId accountId =>
      tagged "token" (.object (tokenFields.members (memberId, accountId, ())))
    | .sepa iban bic => tagged "sepa" (.object (sepaFields.members (iban, bic, ())))
    | .fasterPayments sortCode accountNumber =>
      tagged "faster_payments"
        (.object (fasterPaymentsFields.members (sortCode, accountNumber, ())))
    | .custom bankId payload =>
      tagged "custom" (.object (customFields.members (bankId, payload, ())))

end BankAccount

/-- Where money comes from or goes to. -/
structure TransferEndpoint where
  /-- The account. -/
  account : BankAccount
  /-- Its bank. -/
  bankId : String
deriving DecidableEq

namespace TransferEndpoint

/-- Members of the JSON object. -/
def fields : Fields (BankAccount × String × Unit) :=
  .cons (.required "account") <| .cons (.withDefault "bank_id" "") .nil

/-- Written as an object of its fields. -/
instance : Wire TransferEndpoint where
  codec := .record "TransferEndpoint" fields
    (fun (account, bankId, ()) => ⟨account, bankId⟩)
    fun x => (x.account, x.bankId, ())

end TransferEndpoint

/-- Where the money of a transfer may go. -/
inductive TransferDestination where
  /-- An account linked to a member. -/
  | token (memberId accountId : String)
  /-- An account in the euro area. -/
  | sepa (iban bic : String)
  /-- An account in the euro area, at once. -/
  | sepaInstant (iban : String)
  /-- An account in the United Kingdom. -/
  | fasterPayments (sortCode accountNumber : String)
  /-- An account in a form of its bank. -/
  | custom (bankId payload : String)
deriving DecidableEq

namespace TransferDestination

/-- Members of the content of `token`. -/
def tokenFields : Fields (String × String × Unit) :=
  .cons (.required "member_id") <| .cons (.withDefault "account_id" "") .nil

/-- Members of the content of `sepa`. -/
def sepaFields : Fields (String × String × Unit) :=
  .cons (.required "iban") <| .cons (.withDefault "bic" "") .nil

/-- Members of the content of `sepaInstant`. -/
def sepaInstantFields : Fields (String × Unit) :=
  .cons (.required "iban") .nil

/-- Members of the content of `fasterPayments`. -/
def fasterPaymentsFields : Fields (String × String × Unit) :=
  .cons (.required "sort_code") <| .cons (.required "account_number") .nil

/-- Members of the content of `custom`. -/
def customFields : Fields (String × String × Unit) :=
  .cons (.required "bank_id") <| .cons (.required "payload") .nil

/-- The variants by name. -/
def variants : List (Variant TransferDestination) :=
  [.record "token" "TransferDestination::Token" tokenFields fun (memberId, accountId, ()) =>
      .token memberId accountId,
   .record "sepa" "TransferDestination::Sepa" sepaFields fun (iban, bic, ()) => .sepa iban bic,
   .record "sepa_instant" "TransferDestination::SepaInstant" sepaInstantFields fun (iban, ()) =>
      .sepaInstant iban,
   .record "faster_payments" "TransferDestination::FasterPayments" fasterPaymentsFields
      fun (sortCode, accountNumber, ()) => .fasterPayments sortCode accountNumber,
   .record "custom" "TransferDestination::Custom" customFields fun (bankId, payload, ()) =>
      .custom bankId payload]

/-- Written as its variant. -/
instance : Wire TransferDestination where
  codec := .choice variants fun
    | .token memberId accountId =>
      tagged "token" (.object (tokenFields.members (memberId, accountId, ())))
    | .sepa iban bic => tagged "sepa" (.object (sepaFields.members (iban, bic, ())))
    | .sepaInstant iban => tagged "sepa_instant" (.object (sepaInstantFields.members (iban, ())))
    | .fasterPayments sortCode accountNumber =>
      tagged "faster_payments"
        (.object (fasterPaymentsFields.members (sortCode, accountNumber, ())))
    | .custom bankId payload =>
      tagged "custom" (.object (customFields.members (bankId, payload, ())))

end TransferDestination

/-- Which part of a list is asked for. -/
structure Page where
  /-- Where the part before it ended. -/
  offset : Option String := none
  /-- How many items it may have. -/
  limit : UInt32 := 0
deriving DecidableEq

namespace Page

/-- All fields at their defaults. -/
instance : Inhabited Page := ⟨{}⟩

/-- Members of the JSON object. -/
def fields : Fields (Option String × UInt32 × Unit) :=
  .cons (.optional "offset") <| .cons (.required "limit") .nil

/-- Written as an object of its fields. -/
instance : Wire Page where
  codec := .record "Page" fields
    (fun (offset, limit, ()) => ⟨offset, limit⟩)
    fun x => (x.offset, x.limit, ())

end Page

/-- A part of a list. -/
structure PagedList (α : Type) where
  /-- Its items. -/
  items : List α
  /-- Where it ends. -/
  offset : String
deriving DecidableEq

namespace PagedList

/-- Members of the JSON object. -/
def fields {α : Type} [Wire α] : Fields (List α × String × Unit) :=
  .cons (.required "items") <| .cons (.required "offset") .nil

/-- Written as an object of its fields. -/
instance [Wire α] : Wire (PagedList α) where
  codec := .record "PagedList" fields
    (fun (items, offset, ()) => ⟨items, offset⟩)
    fun x => (x.items, x.offset, ())

end PagedList

end OpenBanking
