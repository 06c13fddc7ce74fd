import OpenBanking.Gateway.Message
import OpenBanking.Keys.Engine

/-!
# Calls without identity

What can be asked before a member can sign: who owns an alias, a new member id, the recovery
of a member. These calls carry no headers but those of the channel. An update sent here is
signed by a key that the update itself puts in place.
-/

namespace OpenBanking.Anonymous

/-- Sends a value in a call without identity. -/
def ask {α β : Type} [Json.Wire α] [Json.Wire β] (method : Method) (x : α) : Flow Session β :=
  Session.exchange method [] x

/-! ## Aliases and members -/

/-- The member that owns an alias. A member without id is none. -/
def resolveAlias (x : Alias) : Flow Session (Option Party) := do
  let response : ResolveAliasResponse ← ask .resolveAlias (⟨x⟩ : ResolveAliasRequest)
  return response.member.filter fun member => !member.id.isEmpty

/-- Whether a member owns an alias. -/
def aliasExists (x : Alias) : Flow Session Bool := do
  let member ← resolveAlias x
  return member.isSome

/-- The id of the member that owns an alias. -/
def getMemberId (x : Alias) : Flow Session String := do
  match ← resolveAlias x with
  | some member => return member.id
  | none => .fail (.notFound ("no member with alias " ++ x.value))

/-- A new member id, in a realm if one is given. -/
def createMemberId (kind : MemberKind) (realmId : Option String) : Flow Session String := do
  let nonce ← Session.freshNonce
  let response : CreateMemberResponse ←
    ask .createMember (⟨nonce, kind, realmId.getD "", ""⟩ : CreateMemberRequest)
  return response.memberId

/-- The record of a member. -/
def getMember (memberId : String) : Flow Session MemberRecord := do
  let response : MemberResponse ← ask .getMember (⟨memberId⟩ : GetMemberRequest)
  return response.member

/-- The agent that recovers members by default. -/
def getDefaultAgent : Flow Session String := do
  let response : GetDefaultAgentResponse ← ask .getDefaultAgent ({} : Empty)
  return response.memberId

/-- Sends an update in the name of the member that it is about. -/
def applyUpdate (update : MemberUpdate) (metadata : List OperationMetadata) (signer : Signer) :
    Flow Session MemberRecord := do
  let signature ← Flow.ofCrypto (signer.sign update)
  let response : MemberResponse ←
    ask .updateMember
      (⟨update, ⟨update.memberId, signer.keyId, signature⟩, metadata⟩ : UpdateMemberRequest)
  return response.member

/-- Sends the first update of a new member. -/
def createMember (memberId : String) (operations : List MemberOperation)
    (metadata : List OperationMetadata) (signer : Signer) : Flow Session MemberRecord := do
  let record ←
    applyUpdate ((MemberUpdate.forMember memberId "").append operations) metadata signer
  Session.emit (.memberCreated record.id)
  return record

/-! ## Notices and blobs -/

/-- Asks the devices of the member that owns an alias to approve keys. -/
def notifyAddKey (x : Alias) (keys : List Key) (device : DeviceMetadata) :
    Flow Session NoticeStatus := do
  let response : NotifyResponse ← ask .notify (⟨x, .addKey ⟨keys, device⟩⟩ : NotifyRequest)
  return response.status

/-- Withdraws a notice. -/
def invalidateNotification (notificationId : String) : Flow Session NoticeStatus := do
  let response : NotifyResponse ←
    ask .invalidateNotification (⟨notificationId⟩ : InvalidateNotificationRequest)
  return response.status

/-- A blob that everyone may fetch. -/
def getBlob (blobId : String) : Flow Session Blob := do
  let response : GetBlobResponse ← ask .getBlob (⟨blobId⟩ : GetBlobRequest)
  return response.blob

/-! ## Recovery -/

/-- Begins to recover the member that owns an alias; gives the id of the verification. -/
def beginRecovery (x : Alias) : Flow Session String := do
  let response : VerificationIdResponse ←
    ask .beginRecovery (⟨x.normalize⟩ : BeginRecoveryRequest)
  return response.verificationId

/-- What an agent signs to let a key take over a member. -/
def createRecoveryAuthorization (memberId : String) (key : Key) : Flow Session Authorization := do
  let record ← getMember memberId
  return ⟨record.id, record.lastHash, key⟩

/-- Exchanges a code for the word of the default agent. A code that is not accepted fails. -/
def getRecoveryAuthorization (verificationId code : String) (key : Key) :
    Flow Session RecoveryEntry := do
  let response : CompleteRecoveryResponse ←
    ask .completeRecovery (⟨verificationId, code, key⟩ : CompleteRecoveryRequest)
  if response.status = .success then return response.entry
  else .fail (.verification (Json.nameOf response.status))

/-- The update that recovers a member: the words of agents, then the new keys. -/
def recoveryUpdate (record : MemberRecord) (entries : List RecoveryEntry) (keys : List Key) :
    MemberUpdate :=
  (MemberUpdate.ofRecord record).append
    (entries.map MemberOperation.recover ++ keys.map MemberOperation.ofKey)

/-- Recovers a member by the words of agents for a privileged key that the engine holds. -/
def completeRecovery (memberId : String) (entries : List RecoveryEntry) (privileged : Key)
    (engine : Engine) : Flow Session MemberRecord := do
  let standard ← engine.generate .standard
  let low ← engine.generate .low
  let signer ← engine.signer .privileged
  let record ← getMember memberId
  let recovered ←
    applyUpdate (recoveryUpdate record entries [privileged, standard, low]) [] signer
  Session.emit (.memberRecovered recovered.id)
  return recovered

/-- The update that recovers a member by the word of the default agent, step by step. -/
def defaultRecoveryUpdate (record : MemberRecord) (entry : RecoveryEntry)
    (privileged standard low : Key) : MemberUpdate :=
  MemberUpdate.ofRecord record
    |>.add (.recover entry)
    |>.add (.addKey privileged)
    |>.add (.addKey standard)
    |>.add (.addKey low)

/-- Recovers a member by a code, which the default agent accepts, with new keys. -/
def completeRecoveryByDefault (memberId verificationId code : String) (engine : Engine) :
    Flow Session MemberRecord := do
  let privileged ← engine.generate .privileged
  let standard ← engine.generate .standard
  let low ← engine.generate .low
  let signer ← engine.signer .privileged
  let entry ← getRecoveryAuthorization verificationId code privileged
  let record ← getMember memberId
  let recovered ←
    applyUpdate (defaultRecoveryUpdate record entry privileged standard low) [] signer
  Session.emit (.memberRecoveredByDefault recovered.id)
  return recovered

/-! ## Banks and token requests -/

/-- The banks that a query is about. -/
def getBanks (query : BankQuery) : Flow Session (List Bank) := do
  let response : GetBanksResponse ← ask .getBanks query
  return response.banks

/-- A stored token request. -/
def retrieveTokenRequest (requestId : String) : Flow Session TokenRequest := do
  let response : TokenRequestResponse ←
    ask .retrieveTokenRequest (⟨requestId⟩ : RetrieveTokenRequestRequest)
  return ⟨response.stored.payload, response.stored.options⟩

end OpenBanking.Anonymous
