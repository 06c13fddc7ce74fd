import OpenBanking.Member.Operation
import OpenBanking.Proofs.Json.Choice

/-!
# Members lose nothing

Aliases, keys, members and the operations upon them are read back from what they are written as,
where arrays and objects may nest as deep as theirs do. The fields of each record have distinct
names, and so have the variants of each choice.
-/

namespace OpenBanking

open Json

/-! ## Aliases and keys -/

instance (depth : Nat) : Definite depth AliasKind := .named

instance (depth : Nat) : Definite (depth + 1) Alias :=
  .record (by unfold Alias.fields; infer_instance)

instance (depth : Nat) : Definite depth KeyLevel := .named

instance (depth : Nat) : Definite depth KeyAlgorithm := .named

instance (depth : Nat) : Definite (depth + 1) Key := .record (by unfold Key.fields; infer_instance)

instance (depth : Nat) : Definite (depth + 1) Signature :=
  .record (by unfold Signature.fields; infer_instance)

instance (depth : Nat) : Definite (depth + 1) Tracking :=
  .record (by unfold Tracking.fields; infer_instance)

instance (depth : Nat) : Definite (depth + 1) Envelope :=
  .record (by unfold Envelope.fields; infer_instance)

/-! ## Members -/

instance (depth : Nat) : Definite depth MemberKind := .named

instance (depth : Nat) : Definite (depth + 2) RecoveryRule :=
  .record (by unfold RecoveryRule.fields; infer_instance)

instance (depth : Nat) : Definite (depth + 3) MemberRecord :=
  .record (by unfold MemberRecord.fields; infer_instance)

instance (depth : Nat) : Definite (depth + 2) Party :=
  .record (by unfold Party.fields; infer_instance)

instance (depth : Nat) : Definite (depth + 3) DeviceKeys :=
  .record (by unfold DeviceKeys.fields; infer_instance)

instance (depth : Nat) : Definite (depth + 2) Authorization :=
  .record (by unfold Authorization.fields; infer_instance)

instance (depth : Nat) : Definite (depth + 3) RecoveryEntry :=
  .record (by unfold RecoveryEntry.fields; infer_instance)

/-! ## Operations -/

instance (depth : Nat) : Definite (depth + 2) AddKey :=
  .record (by unfold AddKey.fields; infer_instance)

instance (depth : Nat) : Definite (depth + 1) RemoveKey :=
  .record (by unfold RemoveKey.fields; infer_instance)

instance (depth : Nat) : Definite (depth + 1) AliasChange :=
  .record (by unfold AliasChange.fields; infer_instance)

instance (depth : Nat) : Definite (depth + 3) SetRecoveryRule :=
  .record (by unfold SetRecoveryRule.fields; infer_instance)

instance (depth : Nat) : Definite (depth + 4) MemberOperation := .choice fun
  | .addKey _ => .newtype 0 rfl rfl
  | .removeKey _ => .newtype 1 rfl rfl
  | .addAlias _ => .newtype 2 rfl rfl
  | .removeAlias _ => .newtype 3 rfl rfl
  | .recoveryRule _ => .newtype 4 rfl rfl
  | .recover _ => .newtype 5 rfl rfl

instance (depth : Nat) : Definite (depth + 2) AliasMetadata :=
  .record (by unfold AliasMetadata.fields; infer_instance)

instance (depth : Nat) : Definite (depth + 3) OperationMetadata := .choice fun
  | .addAlias _ => .newtype 0 rfl rfl

instance (depth : Nat) : Definite (depth + 6) MemberUpdate :=
  .record (by unfold MemberUpdate.fields; infer_instance)

end OpenBanking
