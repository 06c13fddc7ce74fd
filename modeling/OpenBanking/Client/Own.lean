import OpenBanking.Client.Basic

/-!
# Calls about the member

What a client asks about its own member: records, updates, aliases, recovery, token requests
and banks. All are signed with the low key, save the deletion of the member; an update is
itself signed with the privileged key before it is sent.
-/

namespace OpenBanking

namespace Client

variable (client : Client)

/-- Sends a value in a call about the member. -/
def ask {α β : Type} [Json.Wire α] [Json.Wire β] (method : Method) (x : α) : Flow Session β :=
  (client.identity client.ownContext).exchange method x

/-- The record of a member. -/
def getMember (memberId : String) : Flow Session MemberRecord := do
  let response : MemberResponse ← client.ask .getMember (⟨memberId⟩ : GetMemberRequest)
  return response.member

/-- The signature of a value with the privileged key. -/
def signPrivileged {α : Type} [Json.Wire α] (x : α) : Flow Session Signature := do
  let signer ← client.engine.signer .privileged
  let signature ← Flow.ofCrypto (signer.sign x)
  return ⟨client.memberId, signer.keyId, signature⟩

/-- Applies operations to a record; without operations the record stays as it is. -/
def updateMember (record : MemberRecord) (operations : List MemberOperation)
    (metadata : List OperationMetadata) : Flow Session MemberRecord := do
  if operations.isEmpty then return record
  let update := (MemberUpdate.ofRecord record).append operations
  let signature ← client.signPrivileged update
  let response : MemberResponse ←
    client.ask .updateMember (⟨update, signature, metadata⟩ : UpdateMemberRequest)
  return response.member

/-- The agent that recovers members by default. -/
def getDefaultAgent : Flow Session String := do
  let response : GetDefaultAgentResponse ← client.ask .getDefaultAgent ({} : Empty)
  return response.memberId

/-- Lets the default agent recover the member. -/
def useDefaultRecoveryRule : Flow Session MemberRecord := do
  let record ← client.getMember client.memberId
  let agentId ← client.getDefaultAgent
  client.updateMember record [.ofAgent agentId] []

/-- The aliases of the member. -/
def getAliases : Flow Session (List Alias) := do
  let response : GetAliasesResponse ← client.ask .getAliases ({} : Empty)
  return response.aliases

/-- Has the code of an alias sent again; gives the id of the verification. -/
def retryVerification (x : Alias) : Flow Session String := do
  let response : VerificationIdResponse ←
    client.ask .retryVerification (⟨client.memberId, x⟩ : RetryVerificationRequest)
  return response.verificationId

/-- Hands in the code of an alias. -/
def verifyAlias (verificationId code : String) : Flow Session Unit := do
  let _ : Empty ← client.ask .verifyAlias (⟨verificationId, code⟩ : VerifyAliasRequest)
  return ()

/-- Vouches for the new key of a member; nothing is sent. -/
def authorizeRecovery (authorization : Authorization) : Flow Session Signature :=
  client.signPrivileged authorization

/-- Deletes the member, signed with the privileged key. -/
def deleteMember : Flow Session Unit := do
  let _ : Empty ←
    (client.identity (client.memberContext .privileged)).exchange .deleteMember ({} : Empty)
  return ()

/-- Stores a token request; gives its id. -/
def storeTokenRequest (request : TokenRequest) : Flow Session String := do
  let response : TokenRequestResponse ←
    client.ask .storeTokenRequest (⟨request.payload, request.options⟩ : StoreTokenRequestRequest)
  return response.stored.id

/-- Has an eIDAS certificate verified, whose key made the signature of the payload. -/
def verifyEidas (payload : EidasPayload) (signature : String) : Flow Session EidasResponse :=
  client.ask .verifyEidas (⟨payload, signature⟩ : VerifyEidasRequest)

/-- Where accounts of a bank are linked. -/
def getBankInfo (bankId : String) : Flow Session BankInfo := do
  let response : GetBankInfoResponse ← client.ask .getBankInfo (⟨bankId⟩ : GetBankInfoRequest)
  return response.info

end Client

end OpenBanking
