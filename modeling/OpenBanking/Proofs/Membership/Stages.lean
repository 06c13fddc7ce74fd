import OpenBanking.Proofs.Membership.Lives
import OpenBanking.Proofs.Recovery.Signature
import OpenBanking.Proofs.Sending.Stages

/-!
# Stages of becoming a member

Members are created, given keys for a new device, recovered and onboarded in flows of several calls.
What each flow does between its calls sends nothing: it makes keys, takes a signer, signs, logs. So
its stages are those of its calls in their order. All stages are plain but two: an alias has to be
that of a member, and the code of a recovery has to be accepted.
-/

namespace OpenBanking

open Json

/-!
## Single calls

Each call is one stage, plain unless its response is checked.
-/

namespace Anonymous

variable {α γ : Type} [Wire α]

/-- A call without identity whose response is checked is one stage. -/
theorem passes_check (stage : Stage) (x : α)
    (checked : stage.method.response.Carrier → Except ClientError γ)
    (judges : ∀ response, stage.check response = (checked response).map fun _ => ()) :
    Session.Passes [stage]
      (ask stage.method x >>= fun response => .ofExcept (checked response)) := by
  have asks : Session.Performs (Session.Asked (fun _ call => call.method = stage.method)
      (Session.read stage.method.response.Carrier)) (ask stage.method x) :=
    performs_ask fun _ => rfl
  have checks : Session.Performs (Session.Asked (fun _ call => call.method = stage.method)
      fun answer => Session.read stage.method.response.Carrier answer >>= checked)
      (ask stage.method x >>= fun response => .ofExcept (checked response)) :=
    asks.check (fun response => Session.silent_ofExcept (checked response))
      fun response session => by rw [Flow.run_ofExcept]
  exact checks.passes_check judges

/-- If it is only mapped the stage is plain. -/
theorem passes_ask (method : Method) (x : α) (f : method.response.Carrier → γ) :
    Session.Passes [.plain method]
      (ask method x >>= fun response : method.response.Carrier => pure (f response)) :=
  passes_check (.plain method) x (fun response => .ok (f response)) fun _ => rfl

/-- The id of a new member is had in one plain stage. -/
theorem passes_createMemberId (kind : MemberKind) (realmId : Option String) :
    Session.Passes [.plain .createMember] (createMemberId kind realmId) :=
  Session.Passes.after (fun _ => passes_ask .createMember _ CreateMemberResponse.memberId)
    Session.silent_freshNonce

/-- The default agent is had in one plain stage. -/
theorem passes_getDefaultAgent : Session.Passes [.plain .getDefaultAgent] getDefaultAgent :=
  passes_ask .getDefaultAgent _ GetDefaultAgentResponse.memberId

/-- The record of a member is had in one plain stage. -/
theorem passes_getMember (memberId : String) :
    Session.Passes [.plain .getMember] (getMember memberId) :=
  passes_ask .getMember _ MemberResponse.member

/-- An update is signed and applied in one plain stage. -/
theorem passes_applyUpdate (update : MemberUpdate) (metadata : List OperationMetadata)
    (signer : Signer) :
    Session.Passes [.plain .updateMember] (applyUpdate update metadata signer) :=
  Session.Passes.after (fun _ => passes_ask .updateMember _ MemberResponse.member)
    (Session.silent_ofCrypto _)

/-- The owner of an alias is had in one stage, which nobody without an id passes. -/
theorem passes_getMemberId (x : Alias) : Session.Passes [.owner x] (getMemberId x) := by
  have checks : getMemberId x =
      ask .resolveAlias (⟨x⟩ : ResolveAliasRequest) >>= fun response : ResolveAliasResponse =>
        .ofExcept ((response.member.filter fun member => !member.id.isEmpty).elim
          (.error (.notFound ("no member with alias " ++ x.value))) fun member => .ok member.id) := by
    rw [getMemberId, resolveAlias, bind_assoc]
    refine congrArg _ (funext fun response => ?_)
    rw [pure_bind]
    cases response.member.filter fun member => !member.id.isEmpty <;> rfl
  rw [checks]
  refine passes_check (.owner x) _ _ fun (response : ResolveAliasResponse) => ?_
  obtain ⟨_ | member⟩ := response
  · rfl
  · by_cases nameless : member.id = ""
    · simp [Stage.owner, nameless, Option.filter, Except.map]
    · simp [Stage.owner, nameless, Option.filter, Except.map]

/-- The word of the default agent is had in one stage, which only an accepted code passes. -/
theorem passes_getRecoveryAuthorization (verificationId code : String) (key : Key) :
    Session.Passes [.acceptance] (getRecoveryAuthorization verificationId code key) := by
  have checks : getRecoveryAuthorization verificationId code key =
      ask .completeRecovery (⟨verificationId, code, key⟩ : CompleteRecoveryRequest) >>=
        fun response : CompleteRecoveryResponse =>
          .ofExcept (if response.status = .success then .ok response.entry
            else .error (.verification (nameOf response.status))) := by
    refine congrArg _ (funext fun response => ?_)
    by_cases accepted : response.status = .success
    · rw [if_pos accepted, if_pos accepted]
      rfl
    · rw [if_neg accepted, if_neg accepted]
      rfl
  rw [checks]
  refine passes_check .acceptance _ _ fun (response : CompleteRecoveryResponse) => ?_
  by_cases accepted : response.status = .success
  · simp [Stage.acceptance, accepted, Except.map]
  · simp [Stage.acceptance, accepted, Except.map]

end Anonymous

namespace Client

variable (client : Client)

/-- A client gets a record in one plain stage. -/
theorem passes_getMember (memberId : String) :
    Session.Passes [.plain .getMember] (client.getMember memberId) :=
  (client.performs_getMember (P := fun _ call => call.method = .getMember) memberId
    fun _ _ _ => rfl).passes_plain

/-- A client gets the default agent in one plain stage. -/
theorem passes_getDefaultAgent :
    Session.Passes [.plain .getDefaultAgent] client.getDefaultAgent :=
  (client.performs_getDefaultAgent (P := fun _ call => call.method = .getDefaultAgent)
    fun _ _ _ => rfl).passes_plain

/-- A client updates its member in one plain stage if there is anything to update. -/
theorem passes_updateMember (record : MemberRecord) {operations : List MemberOperation}
    (some : operations ≠ []) (metadata : List OperationMetadata) :
    Session.Passes [.plain .updateMember] (client.updateMember record operations metadata) :=
  (client.performs_updateMember (P := fun _ call => call.method = .updateMember) record some metadata
    fun _ _ _ _ _ => rfl).passes_plain

/-- The default rule is taken over in three plain stages: the record, the agent and the update. -/
theorem passes_useDefaultRecoveryRule :
    Session.Passes [.plain .getMember, .plain .getDefaultAgent, .plain .updateMember]
      client.useDefaultRecoveryRule := by
  refine (client.passes_getMember client.memberId).bind fun record => ?_
  refine client.passes_getDefaultAgent.bind fun agentId => ?_
  exact client.passes_updateMember record (List.cons_ne_nil _ _) []

/-- A certificate is verified in one plain stage, whatever the verdict is. -/
theorem passes_verifyEidas (payload : EidasPayload) (signature : String) :
    Session.Passes [.plain .verifyEidas] (client.verifyEidas payload signature) :=
  (client.performs_verifyEidas (P := fun _ call => call.method = .verifyEidas) payload signature
    fun _ _ _ => rfl).passes (Stage.verdict_plain .verifyEidas)

end Client

/-!
## Flows of several calls

A flow goes through the stages of its parts one after the other; the parts that send nothing have
none.
-/

namespace Anonymous

/-- A member is created in one plain stage. -/
theorem passes_createMember (memberId : String) (operations : List MemberOperation)
    (metadata : List OperationMetadata) (signer : Signer) :
    Session.Passes [.plain .updateMember] (createMember memberId operations metadata signer) :=
  (passes_applyUpdate _ metadata signer).before fun record =>
    (Session.silent_emit _).bind fun _ => Session.silent_pure record

/-- What both recoveries end with are two stages. -/
theorem passes_recoverWith (memberId : String) (update : MemberRecord → MemberUpdate)
    (signer : Signer) (event : String → Event) :
    Session.Passes [.plain .getMember, .plain .updateMember]
      (recoverWith memberId update signer event) := by
  refine (passes_getMember memberId).bind fun record => ?_
  refine (passes_applyUpdate _ [] signer).before fun recovered => ?_
  exact (Session.silent_emit _).bind fun _ => Session.silent_pure recovered

/-- A recovery goes through these two stages, and makes its keys before them. -/
theorem passes_completeRecovery (memberId : String) (entries : List RecoveryEntry)
    (privileged : Key) (engine : Engine) :
    Session.Passes [.plain .getMember, .plain .updateMember]
      (completeRecovery memberId entries privileged engine) := by
  rw [completeRecovery_eq]
  exact Session.Passes.after (fun _ => passes_recoverWith memberId _ _ _)
    (silent_recoveryKeys engine)

/-- A recovery by the default rule goes through them once its code is accepted. -/
theorem passes_completeRecoveryByDefault (memberId verificationId code : String)
    (engine : Engine) :
    Session.Passes [.acceptance, .plain .getMember, .plain .updateMember]
      (completeRecoveryByDefault memberId verificationId code engine) := by
  rw [completeRecoveryByDefault_eq]
  refine Session.Passes.after (fun keys => ?_) (silent_defaultRecoveryKeys engine)
  refine (passes_getRecoveryAuthorization verificationId code _).bind fun entry => ?_
  exact passes_recoverWith memberId _ _ _

end Anonymous

namespace Membership

/-- A client is made of a record without a call. -/
theorem silent_bind (record : MemberRecord) (engine : Engine) :
    Session.Silent (bind record engine) :=
  (Session.silent_read _).bind fun _ => Session.silent_pure _

/-- A member is set up in two plain stages. -/
theorem passes_setUp (x : Option Alias) (memberId : String) :
    Session.Passes [.plain .getDefaultAgent, .plain .updateMember] (setUp x memberId) := by
  rw [setUp_eq]
  refine Anonymous.passes_getDefaultAgent.bind fun agentId => ?_
  refine Session.Passes.after (fun keys => ?_) (Anonymous.silent_defaultRecoveryKeys _)
  exact (Anonymous.passes_createMember memberId _ _ _).before fun record =>
    silent_bind record ⟨record.id⟩

/-- The stages of a way to a member. -/
def Origin.stages : Origin → List Stage
  | create .. => [.plain .createMember, .plain .getDefaultAgent, .plain .updateMember]
  | setUp .. => [.plain .getDefaultAgent, .plain .updateMember]
  | find .. => [.plain .getMember]
  | recover .. => [.plain .getMember, .plain .updateMember]
  | recoverByDefault .. => [.acceptance, .plain .getMember, .plain .updateMember]

/-- Every way to a member goes through its stages. -/
theorem Origin.passes (origin : Origin) : Session.Passes origin.stages origin.run := by
  cases origin with
  | create x kind realmId =>
    exact (Anonymous.passes_createMemberId kind realmId).bind fun memberId =>
      passes_setUp x memberId
  | setUp x memberId => exact passes_setUp x memberId
  | find memberId =>
    refine ((Client.new memberId ⟨memberId⟩).passes_getMember memberId).before fun record => ?_
    exact (Session.silent_read _).bind fun cluster => Session.silent_pure _
  | recover memberId entries privileged engine =>
    exact (Anonymous.passes_completeRecovery memberId entries privileged engine).before fun record =>
      silent_bind record engine
  | recoverByDefault memberId verificationId code =>
    exact (Anonymous.passes_completeRecoveryByDefault memberId verificationId code
      ⟨memberId⟩).before fun record => silent_bind record ⟨memberId⟩

/-- Keys for a new device are made once the owner of the alias is known. -/
theorem passes_provisionDevice (x : Alias) :
    Session.Passes [.owner x] (provisionDevice x) := by
  refine (Anonymous.passes_getMemberId x).before fun memberId => ?_
  refine (Engine.silent_generate _ .privileged).bind fun privileged => ?_
  refine (Engine.silent_generate _ .standard).bind fun standard => ?_
  exact (Engine.silent_generate _ .low).bind fun low => Session.silent_pure _

/-- A business is onboarded in the stages of its bank, its creation and its verification. -/
theorem passes_onboard (authorizationNumber certificate bankId : String) (signer : Signer) :
    Session.Passes [.owner (.bank bankId), .plain .createMember, .plain .getDefaultAgent,
        .plain .updateMember, .plain .verifyEidas]
      (onboard authorizationNumber certificate bankId signer) := by
  refine (Anonymous.passes_getMemberId (.bank bankId)).bind fun realmId => ?_
  refine (Origin.create (some ((Alias.eidas authorizationNumber).inRealm realmId).normalize) .business
    (some realmId)).passes.bind fun member => ?_
  refine Session.Passes.after (fun signature => ?_) (Session.silent_ofCrypto _)
  refine (member.client.passes_verifyEidas _ signature).before fun response => ?_
  exact (Session.silent_emit _).bind fun _ => Session.silent_pure _

end Membership

namespace Member

/-- Renewing a record in a session gives the record to nobody but the member. -/
theorem acting_renew (member : Member) (flow : Member → Flow Session MemberRecord) :
    member.acting (renew flow) = flow member >>= fun _ => pure () := by
  refine Flow.ext fun session => ?_
  have ran := run_renew flow member session
  rw [Flow.run_bind]
  generalize (flow member).run session = gave at ran ⊢
  have acts : (member.acting (renew flow)).run session =
      (((renew flow).run (member, session)).1, ((renew flow).run (member, session)).2.2) := rfl
  rw [acts, ran]
  obtain ⟨_ | record, later⟩ := gave <;> rfl

/-- A member names the default agent in the three stages of its client. -/
theorem passes_useDefaultRecoveryRule (member : Member) :
    Session.Passes [.plain .getMember, .plain .getDefaultAgent, .plain .updateMember]
      (member.acting useDefaultRecoveryRule) := by
  rw [useDefaultRecoveryRule, acting_renew]
  exact member.client.passes_useDefaultRecoveryRule.before fun _ => Session.silent_pure ()

end Member

namespace Membership

/-- The flows of several calls. -/
inductive Procedure where
  /-- Go a way to a member. -/
  | become (origin : Origin)
  /-- Make keys for a new device of the owner of an alias. -/
  | provisionDevice (x : Alias)
  /-- Recover a member by the words of agents, for its record. -/
  | completeRecovery (memberId : String) (entries : List RecoveryEntry) (privileged : Key)
    (engine : Engine)
  /-- Recover a member by a code, for its record. -/
  | completeRecoveryByDefault (memberId verificationId code : String) (engine : Engine)
  /-- Let the default agent recover a member. -/
  | useDefaultRecoveryRule (member : Member)
  /-- Onboard a business of a bank. -/
  | onboard (authorizationNumber certificate bankId : String) (signer : Signer)

namespace Procedure

/-- Does what is to be done, whatever it gives. -/
def run : Procedure → Flow Session Unit
  | become origin => discard origin.run
  | provisionDevice x => discard (Membership.provisionDevice x)
  | completeRecovery memberId entries privileged engine =>
    discard (Anonymous.completeRecovery memberId entries privileged engine)
  | completeRecoveryByDefault memberId verificationId code engine =>
    discard (Anonymous.completeRecoveryByDefault memberId verificationId code engine)
  | useDefaultRecoveryRule member => member.acting Member.useDefaultRecoveryRule
  | onboard authorizationNumber certificate bankId signer =>
    discard (Membership.onboard authorizationNumber certificate bankId signer)

/-- The stages of a procedure. -/
def stages : Procedure → List Stage
  | become origin => origin.stages
  | provisionDevice x => [.owner x]
  | completeRecovery .. => [.plain .getMember, .plain .updateMember]
  | completeRecoveryByDefault .. => [.acceptance, .plain .getMember, .plain .updateMember]
  | useDefaultRecoveryRule .. =>
    [.plain .getMember, .plain .getDefaultAgent, .plain .updateMember]
  | onboard _ _ bankId _ =>
    [.owner (.bank bankId), .plain .createMember, .plain .getDefaultAgent, .plain .updateMember,
      .plain .verifyEidas]

/-- Every procedure goes through its stages. -/
theorem passes (procedure : Procedure) : Session.Passes procedure.stages procedure.run := by
  have discards {α : Type} {stages : List Stage} {flow : Flow Session α}
      (passes : Session.Passes stages flow) : Session.Passes stages (discard flow) :=
    passes.before fun _ => Session.silent_pure ()
  cases procedure with
  | become origin => exact discards origin.passes
  | provisionDevice x => exact discards (passes_provisionDevice x)
  | completeRecovery memberId entries privileged engine =>
    exact discards (Anonymous.passes_completeRecovery memberId entries privileged engine)
  | completeRecoveryByDefault memberId verificationId code engine =>
    exact discards (Anonymous.passes_completeRecoveryByDefault memberId verificationId code engine)
  | useDefaultRecoveryRule member => exact member.passes_useDefaultRecoveryRule
  | onboard authorizationNumber certificate bankId signer =>
    exact discards (passes_onboard authorizationNumber certificate bankId signer)

/-- A procedure stops at its first failure and reports it unchanged. Whatever the gateway does, its
calls have the methods of its first stages in their order. Where an answer is refused, because it
did not come, cannot be read or does not fit, nothing is sent after it, and the error is that of the
procedure. If there is no error, all stages were gone through and all answers accepted. -/
theorem stops_at_first_failure (procedure : Procedure) (session : Session) :
    ∃ sent, (procedure.run.run session).2.calls = session.calls ++ sent ∧
      sent.map (·.method) <+: procedure.stages.map (·.method) ∧
      (∀ (k : Nat) (call : Call), sent[k]? = some call →
        ∃ stage, procedure.stages[k]? = some stage ∧ call.method = stage.method ∧
          ∀ error, stage.Refuses (session.gateway (session.calls ++ sent.take k) call) error →
            sent.length = k + 1 ∧ (procedure.run.run session).1 = .error error) ∧
      ((procedure.run.run session).1 = .ok () →
        sent.map (·.method) = procedure.stages.map (·.method) ∧
          ∀ (k : Nat) (call : Call) (stage : Stage), sent[k]? = some call →
            procedure.stages[k]? = some stage →
              stage.Accepts (session.gateway (session.calls ++ sent.take k) call)) := by
  obtain ⟨sent, went, passed⟩ := procedure.passes session
  refine ⟨sent, went.calls_eq, passed.isPrefix_methods, ?_, ?_⟩
  · intro k call isSent
    obtain ⟨stage, isStage, same, stops⟩ := passed.stops isSent
    exact ⟨stage, isStage, same, fun error refuses => stops error refuses.verdict_eq⟩
  · intro succeeded
    obtain ⟨methods, accepted⟩ := passed.completes (by rw [succeeded]; rfl)
    exact ⟨methods, fun k call stage isSent isStage =>
      Stage.accepts_iff.2 (accepted k call stage isSent isStage)⟩

end Procedure

end Membership

end OpenBanking
