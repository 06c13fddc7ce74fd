import OpenBanking.Anonymous

/-!
# Actions without identity

All that can be asked before a member can sign, as data. What holds of every call without
identity is said of these actions; `Anonymous.Action.run` does an action and gives the JSON form
of what comes of it.
-/

namespace OpenBanking.Anonymous

open Json

/-- What can be asked without identity. -/
inductive Action where
  /-- Find the member that owns an alias. -/
  | resolveAlias (x : Alias)
  /-- Ask whether a member owns an alias. -/
  | aliasExists (x : Alias)
  /-- Find the id of the member that owns an alias. -/
  | getMemberId (x : Alias)
  /-- Reserve a member id. -/
  | createMemberId (kind : MemberKind) (realmId : Option String)
  /-- Send the first update of a member. -/
  | createMember (memberId : String) (operations : List MemberOperation)
      (metadata : List OperationMetadata) (signer : Signer)
  /-- Fetch the record of a member. -/
  | getMember (memberId : String)
  /-- Fetch the agent that recovers members by default. -/
  | getDefaultAgent
  /-- Ask the devices of a member to approve keys. -/
  | notifyAddKey (x : Alias) (keys : List Key) (device : DeviceMetadata)
  /-- Withdraw a notice. -/
  | invalidateNotification (notificationId : String)
  /-- Fetch a blob. -/
  | getBlob (blobId : String)
  /-- Begin to recover a member. -/
  | beginRecovery (x : Alias)
  /-- Write what an agent signs to let a key take over a member. -/
  | createRecoveryAuthorization (memberId : String) (key : Key)
  /-- Exchange a code for the word of the default agent. -/
  | getRecoveryAuthorization (verificationId code : String) (key : Key)
  /-- Recover a member by the words of agents. -/
  | completeRecovery (memberId : String) (entries : List RecoveryEntry) (privileged : Key)
      (engine : Engine)
  /-- Recover a member by a code. -/
  | completeRecoveryByDefault (memberId verificationId code : String) (engine : Engine)
  /-- List banks. -/
  | getBanks (query : BankQuery)
deriving DecidableEq

namespace Action

/-- Shows what a flow gives. -/
def shown {α : Type} [Wire α] (flow : Flow Session α) : Flow Session Value := do
  let x ← flow
  return toValue x

/-- Does an action. -/
def run : Action → Flow Session Value
  | resolveAlias x => shown (Anonymous.resolveAlias x)
  | aliasExists x => shown (Anonymous.aliasExists x)
  | getMemberId x => shown (Anonymous.getMemberId x)
  | createMemberId kind realmId => shown (Anonymous.createMemberId kind realmId)
  | createMember memberId operations metadata signer =>
    shown (Anonymous.createMember memberId operations metadata signer)
  | getMember memberId => shown (Anonymous.getMember memberId)
  | getDefaultAgent => shown Anonymous.getDefaultAgent
  | notifyAddKey x keys device => shown (Anonymous.notifyAddKey x keys device)
  | invalidateNotification notificationId =>
    shown (Anonymous.invalidateNotification notificationId)
  | getBlob blobId => shown (Anonymous.getBlob blobId)
  | beginRecovery x => shown (Anonymous.beginRecovery x)
  | createRecoveryAuthorization memberId key =>
    shown (Anonymous.createRecoveryAuthorization memberId key)
  | getRecoveryAuthorization verificationId code key =>
    shown (Anonymous.getRecoveryAuthorization verificationId code key)
  | completeRecovery memberId entries privileged engine =>
    shown (Anonymous.completeRecovery memberId entries privileged engine)
  | completeRecoveryByDefault memberId verificationId code engine =>
    shown (Anonymous.completeRecoveryByDefault memberId verificationId code engine)
  | getBanks query => shown (Anonymous.getBanks query)

end Action

end OpenBanking.Anonymous
