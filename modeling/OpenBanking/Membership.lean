import OpenBanking.Anonymous
import OpenBanking.Member.Acting

/-!
# Becoming a member

How members that act come about: a member is created with a full set of keys, found by keys
that are already there, or recovered. A new device gets keys that the member has yet to
approve.
-/

namespace OpenBanking.Membership

/-- The member of a record, acting with the keys of an engine. -/
def bind (record : MemberRecord) (engine : Engine) : Flow Session Member := do
  let cluster ← Flow.read (·.cluster)
  return ⟨record, .new record.id engine, cluster⟩

/-- The operations of a first update: three keys, the agent that recovers the member, and an
alias if there is one. -/
def firstOperations (keys : List Key) (agentId : String) (x : Option Alias) :
    List MemberOperation :=
  keys.map .ofKey ++ [.ofAgent agentId] ++ x.toList.map .ofAlias

/-- Gives a member id without keys a full set of keys, the default agent, and an alias if
one is given. -/
def setUp (x : Option Alias) (memberId : String) : Flow Session Member := do
  let agentId ← Anonymous.getDefaultAgent
  let engine : Engine := ⟨memberId⟩
  let privileged ← engine.generate .privileged
  let standard ← engine.generate .standard
  let low ← engine.generate .low
  let normal := x.map (·.normalize)
  let signer ← engine.signer .privileged
  let record ←
    Anonymous.createMember memberId (firstOperations [privileged, standard, low] agentId normal)
      (normal.toList.map .ofAlias) signer
  bind record ⟨record.id⟩

/-- Creates a member, in a realm if one is given. -/
def create (x : Option Alias) (kind : MemberKind) (realmId : Option String) :
    Flow Session Member := do
  let memberId ← Anonymous.createMemberId kind realmId
  setUp x memberId

/-- Makes keys for a new device of the member that owns an alias. -/
def provisionDevice (x : Alias) : Flow Session DeviceKeys := do
  let memberId ← Anonymous.getMemberId x
  let engine : Engine := ⟨memberId⟩
  let privileged ← engine.generate .privileged
  let standard ← engine.generate .standard
  let low ← engine.generate .low
  return ⟨memberId, [privileged, standard, low]⟩

/-- The member of an id, acting with the keys that are already there. -/
def find (memberId : String) : Flow Session Member := do
  let client : Client := .new memberId ⟨memberId⟩
  let record ← client.getMember memberId
  let cluster ← Flow.read (·.cluster)
  return ⟨record, client, cluster⟩

/-- Recovers a member by the words of agents for a privileged key that the engine holds. -/
def recover (memberId : String) (entries : List RecoveryEntry) (privileged : Key)
    (engine : Engine) : Flow Session Member := do
  let record ← Anonymous.completeRecovery memberId entries privileged engine
  bind record engine

/-- Recovers a member by a code, which the default agent accepts. -/
def recoverByDefault (memberId verificationId code : String) : Flow Session Member := do
  let engine : Engine := ⟨memberId⟩
  let record ← Anonymous.completeRecoveryByDefault memberId verificationId code engine
  bind record engine

/-- A business that was onboarded, with the answer to the verification of its certificate. -/
structure Onboarding where
  /-- The new member. -/
  member : Member
  /-- The answer, which may still be pending. -/
  response : EidasResponse

/-- Creates a business in the realm of a bank and has its eIDAS certificate verified. The
signer holds the key of the certificate. -/
def onboard (authorizationNumber certificate bankId : String) (signer : Signer) :
    Flow Session Onboarding := do
  let realmId ← Anonymous.getMemberId (.bank bankId)
  let x := ((Alias.eidas authorizationNumber).inRealm realmId).normalize
  let member ← create (some x) .business (some realmId)
  let payload : EidasPayload := ⟨.rs256, x, certificate, member.id⟩
  let signature ← Flow.ofCrypto (signer.sign payload)
  let response ← member.client.verifyEidas payload signature
  Session.emit (.eidasSubmitted member.id response.status)
  return ⟨member, response⟩

end OpenBanking.Membership
