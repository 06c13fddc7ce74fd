import OpenBanking.Account
import OpenBanking.Bank
import OpenBanking.Proofs.Json.Choice

/-!
# Accounts and banks lose nothing

Money, accounts, transactions and banks are read back from what they are written as, where arrays
and objects may nest as deep as theirs do. A part of a list loses nothing if its items lose nothing
on two levels less.
-/

namespace OpenBanking

open Json

/-! ## Accounts -/

instance (depth : Nat) : Definite depth RequestStatus := .named

instance (depth : Nat) : Definite (depth + 1) Money :=
  .record (by unfold Money.fields; infer_instance)

instance (depth : Nat) : Definite (depth + 1) Account :=
  .record (by unfold Account.fields; infer_instance)

instance (depth : Nat) : Definite (depth + 2) Balance :=
  .record (by unfold Balance.fields; infer_instance)

instance (depth : Nat) : Definite depth TransactionKind := .named

instance (depth : Nat) : Definite depth TransactionStatus := .named

instance (depth : Nat) : Definite (depth + 2) Transaction :=
  .record (by unfold Transaction.fields; infer_instance)

instance (depth : Nat) : BankAccount.tokenFields.Lossless depth := by
  unfold BankAccount.tokenFields
  infer_instance

instance (depth : Nat) : BankAccount.sepaFields.Lossless depth := by
  unfold BankAccount.sepaFields
  infer_instance

instance (depth : Nat) : BankAccount.fasterPaymentsFields.Lossless depth := by
  unfold BankAccount.fasterPaymentsFields
  infer_instance

instance (depth : Nat) : BankAccount.customFields.Lossless depth := by
  unfold BankAccount.customFields
  infer_instance

instance (depth : Nat) : Definite (depth + 2) BankAccount := .choice fun
  | .token _ _ => .record 0 rfl rfl
  | .sepa _ _ => .record 1 rfl rfl
  | .fasterPayments _ _ => .record 2 rfl rfl
  | .custom _ _ => .record 3 rfl rfl

instance (depth : Nat) : Definite (depth + 3) TransferEndpoint :=
  .record (by unfold TransferEndpoint.fields; infer_instance)

instance (depth : Nat) : TransferDestination.tokenFields.Lossless depth := by
  unfold TransferDestination.tokenFields
  infer_instance

instance (depth : Nat) : TransferDestination.sepaFields.Lossless depth := by
  unfold TransferDestination.sepaFields
  infer_instance

instance (depth : Nat) : TransferDestination.sepaInstantFields.Lossless depth := by
  unfold TransferDestination.sepaInstantFields
  infer_instance

instance (depth : Nat) : TransferDestination.fasterPaymentsFields.Lossless depth := by
  unfold TransferDestination.fasterPaymentsFields
  infer_instance

instance (depth : Nat) : TransferDestination.customFields.Lossless depth := by
  unfold TransferDestination.customFields
  infer_instance

instance (depth : Nat) : Definite (depth + 2) TransferDestination := .choice fun
  | .token _ _ => .record 0 rfl rfl
  | .sepa _ _ => .record 1 rfl rfl
  | .sepaInstant _ => .record 2 rfl rfl
  | .fasterPayments _ _ => .record 3 rfl rfl
  | .custom _ _ => .record 4 rfl rfl

instance (depth : Nat) : Definite (depth + 1) Page :=
  .record (by unfold Page.fields; infer_instance)

instance {α : Type} (depth : Nat) [Wire α] [Lossless depth α] :
    Definite (depth + 2) (PagedList α) :=
  .record (by unfold PagedList.fields; infer_instance)
    (show ["items", "offset"].Nodup by decide)

/-! ## Banks -/

instance (depth : Nat) : Definite (depth + 2) BankInfo :=
  .record (by unfold BankInfo.fields; infer_instance)

instance (depth : Nat) : Definite (depth + 2) Bank :=
  .record (by unfold Bank.fields; infer_instance)

instance (depth : Nat) : Definite (depth + 1) Paging :=
  .record (by unfold Paging.fields; infer_instance)

instance (depth : Nat) : Definite (depth + 2) BankQuery :=
  .record (by unfold BankQuery.fields; infer_instance)

end OpenBanking
