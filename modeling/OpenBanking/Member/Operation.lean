import OpenBanking.Member

/-!
# Operations on members

An update of a member is a list of operations upon the state that the hash of its last
update names. Aliases travel in operations as hashes; metadata beside the update tells the
gateway the aliases behind them.
-/

namespace OpenBanking

open Json

/-- Approve a key. -/
structure AddKey where
  /-- The key. -/
  key : Key
deriving DecidableEq

namespace AddKey

/-- Members of the JSON object. -/
def fields : Fields (Key × Unit) :=
  .cons (.required "key") .nil

/-- Written as an object of its fields. -/
instance : Wire AddKey where
  codec := .record "MemberAddKeyOperation" fields (fun (key, ()) => ⟨key⟩) fun x => (x.key, ())

end AddKey

/-- Withdraw a key. -/
structure RemoveKey where
  /-- The key. -/
  keyId : String
deriving DecidableEq

namespace RemoveKey

/-- Members of the JSON object. -/
def fields : Fields (String × Unit) :=
  .cons (.required "key_id") .nil

/-- Written as an object of its fields. -/
instance : Wire RemoveKey where
  codec := .record "MemberRemoveKeyOperation" fields
    (fun (keyId, ()) => ⟨keyId⟩)
    fun x => (x.keyId, ())

end RemoveKey

/-- Add or remove an alias. -/
structure AliasChange where
  /-- Hash of the alias. -/
  aliasHash : String
  /-- Realm of the alias. -/
  realmId : String
deriving DecidableEq

namespace AliasChange

/-- Members of the JSON object. -/
def fields : Fields (String × String × Unit) :=
  .cons (.required "alias_hash") <| .cons (.withDefault "realm_id" "") .nil

/-- Written as an object of its fields. -/
instance : Wire AliasChange where
  codec := .record "MemberAliasOperation" fields
    (fun (aliasHash, realmId, ()) => ⟨aliasHash, realmId⟩)
    fun x => (x.aliasHash, x.realmId, ())

end AliasChange

/-- Replace the recovery rule. -/
structure SetRecoveryRule where
  /-- The new rule. -/
  rule : RecoveryRule
deriving DecidableEq

namespace SetRecoveryRule

/-- Members of the JSON object. -/
def fields : Fields (RecoveryRule × Unit) :=
  .cons (.required "recovery_rule") .nil

/-- Written as an object of its fields. -/
instance : Wire SetRecoveryRule where
  codec := .record "MemberRecoveryRulesOperation" fields
    (fun (rule, ()) => ⟨rule⟩)
    fun x => (x.rule, ())

end SetRecoveryRule

/-- One change of a member. -/
inductive MemberOperation where
  /-- Approve a key. -/
  | addKey (change : AddKey)
  /-- Withdraw a key. -/
  | removeKey (change : RemoveKey)
  /-- Add an alias. -/
  | addAlias (change : AliasChange)
  /-- Remove an alias. -/
  | removeAlias (change : AliasChange)
  /-- Replace the recovery rule. -/
  | recoveryRule (change : SetRecoveryRule)
  /-- Take over with keys that an agent vouches for. -/
  | recover (entry : RecoveryEntry)
deriving DecidableEq

/-- Written as its variant. -/
instance : Wire MemberOperation where
  codec := .choice
    [.newtype "add_key" MemberOperation.addKey,
      .newtype "remove_key" MemberOperation.removeKey,
      .newtype "add_alias" MemberOperation.addAlias,
      .newtype "remove_alias" MemberOperation.removeAlias,
      .newtype "recovery_rules" MemberOperation.recoveryRule,
      .newtype "recover" MemberOperation.recover]
    fun
      | .addKey change => tagged "add_key" (toValue change)
      | .removeKey change => tagged "remove_key" (toValue change)
      | .addAlias change => tagged "add_alias" (toValue change)
      | .removeAlias change => tagged "remove_alias" (toValue change)
      | .recoveryRule change => tagged "recovery_rules" (toValue change)
      | .recover entry => tagged "recover" (toValue entry)

/-- The alias behind a hash. -/
structure AliasMetadata where
  /-- The hash. -/
  aliasHash : String
  /-- The alias. -/
  knownAs : Alias
deriving DecidableEq

namespace AliasMetadata

/-- Members of the JSON object. -/
def fields : Fields (String × Alias × Unit) :=
  .cons (.required "alias_hash") <| .cons (.required "alias") .nil

/-- Written as an object of its fields. -/
instance : Wire AliasMetadata where
  codec := .record "AddAliasMetadata" fields
    (fun (aliasHash, knownAs, ()) => ⟨aliasHash, knownAs⟩)
    fun x => (x.aliasHash, x.knownAs, ())

end AliasMetadata

/-- What is told beside an operation. -/
inductive OperationMetadata where
  /-- The alias that is added. -/
  | addAlias (entry : AliasMetadata)
deriving DecidableEq

/-- Written as its variant. -/
instance : Wire OperationMetadata where
  codec := .choice
    [.newtype "add_alias_metadata" OperationMetadata.addAlias]
    fun
      | .addAlias entry => tagged "add_alias_metadata" (toValue entry)

/-- Operations upon a known state of a member. -/
structure MemberUpdate where
  /-- The member. -/
  memberId : String := ""
  /-- Hash of its last update; empty for the first. -/
  prevHash : String := ""
  /-- The operations in order. -/
  operations : List MemberOperation := []
deriving DecidableEq

namespace MemberUpdate

/-- All fields at their defaults. -/
instance : Inhabited MemberUpdate := ⟨{}⟩

/-- Members of the JSON object. -/
def fields : Fields (String × String × List MemberOperation × Unit) :=
  .cons (.required "member_id") <| .cons (.required "prev_hash") <|
  .cons (.required "operations") .nil

/-- Written as an object of its fields. -/
instance : Wire MemberUpdate where
  codec := .record "MemberUpdate" fields
    (fun (memberId, prevHash, operations, ()) => ⟨memberId, prevHash, operations⟩)
    fun x => (x.memberId, x.prevHash, x.operations, ())

end MemberUpdate

namespace MemberOperation

/-- Approves a key. -/
def ofKey (key : Key) : MemberOperation := .addKey ⟨key⟩

/-- Withdraws a key. -/
def withoutKey (keyId : String) : MemberOperation := .removeKey ⟨keyId⟩

/-- The change that adds or removes an alias: hash and realm of its normal spelling. -/
def aliasChange (x : Alias) : AliasChange :=
  let normal := x.normalize
  ⟨normal.hash, normal.realmId⟩

/-- Adds an alias. -/
def ofAlias (x : Alias) : MemberOperation := .addAlias (aliasChange x)

/-- Removes an alias. -/
def withoutAlias (x : Alias) : MemberOperation := .removeAlias (aliasChange x)

/-- Replaces the recovery rule. -/
def ofRule (rule : RecoveryRule) : MemberOperation := .recoveryRule ⟨rule⟩

/-- Makes an agent the only one to vouch for the member. -/
def ofAgent (agentId : String) : MemberOperation := ofRule ⟨agentId, []⟩

end MemberOperation

/-- Tells the alias that an operation adds, in its normal spelling. -/
def OperationMetadata.ofAlias (x : Alias) : OperationMetadata :=
  let normal := x.normalize
  .addAlias ⟨normal.hash, normal⟩

namespace MemberUpdate

/-- An update without operations, upon the state of a record. -/
def ofRecord (record : MemberRecord) : MemberUpdate := ⟨record.id, record.lastHash, []⟩

/-- An update without operations, upon the state that a hash names. -/
def forMember (memberId prevHash : String) : MemberUpdate := ⟨memberId, prevHash, []⟩

/-- The update with one more operation at its end. -/
def push (update : MemberUpdate) (operation : MemberOperation) : MemberUpdate :=
  { update with operations := update.operations ++ [operation] }

/-- The update with more operations at its end. -/
def append (update : MemberUpdate) (operations : List MemberOperation) : MemberUpdate :=
  { update with operations := update.operations ++ operations }

/-- What is added to an update in one step. -/
inductive Step where
  /-- A key to approve. -/
  | addKey (key : Key)
  /-- A key to withdraw. -/
  | removeKey (keyId : String)
  /-- An alias to add. -/
  | addAlias (x : Alias)
  /-- An alias to remove. -/
  | removeAlias (x : Alias)
  /-- A recovery rule to set. -/
  | recoveryRule (rule : RecoveryRule)
  /-- The word of an agent. -/
  | recover (entry : RecoveryEntry)
  /-- An operation. -/
  | operation (operation : MemberOperation)
  /-- Operations in order. -/
  | operations (operations : List MemberOperation)
deriving DecidableEq

/-- The update after a step. -/
def add (update : MemberUpdate) : Step → MemberUpdate
  | .addKey key => update.push (.ofKey key)
  | .removeKey keyId => update.push (.withoutKey keyId)
  | .addAlias x => update.push (.ofAlias x)
  | .removeAlias x => update.push (.withoutAlias x)
  | .recoveryRule rule => update.push (.ofRule rule)
  | .recover entry => update.push (.recover entry)
  | .operation operation => update.push operation
  | .operations operations => update.append operations

/-- The update after steps in order. -/
def addAll (update : MemberUpdate) (steps : List Step) : MemberUpdate := steps.foldl add update

end MemberUpdate

end OpenBanking
