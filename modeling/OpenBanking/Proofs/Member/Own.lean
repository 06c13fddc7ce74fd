import OpenBanking.Member.Action
import OpenBanking.Proofs.Client.Sending
import OpenBanking.Proofs.Member.Change

/-!
# Members stay who they are

The id of a member is held twice, in its record and in its client, and the record is replaced by
what the gateway answers. Of the gateway it is assumed that whoever asks for a member or updates it
is told a record of that member. Then every action leaves both ids what they were, also where it
fails, and its calls name this id wherever they name a member.
-/

namespace OpenBanking

open Json

/-- The answer to the method is the record of a member. -/
def Method.tellsRecord : Method → Bool
  | .getMember | .updateMember => true
  | _ => false

/-- The records that a gateway tells are those of the members that are asked for or updated. -/
structure Gateway.Faithful (gateway : Gateway) : Prop where
  /-- Whoever asks for a member is told its record. -/
  fetches : ∀ (earlier : List Call) (call : Call) (memberId : String) (record : MemberRecord),
    call.method = .getMember → decode call.body = .ok (GetMemberRequest.mk memberId) →
    Session.read MemberResponse (gateway earlier call) = .ok ⟨record⟩ → record.id = memberId
  /-- Whoever updates a member is told its record. -/
  updates : ∀ (earlier : List Call) (call : Call) (request : UpdateMemberRequest)
    (record : MemberRecord),
    call.method = .updateMember → decode call.body = .ok request →
    Session.read MemberResponse (gateway earlier call) = .ok ⟨record⟩ →
    record.id = request.update.memberId

/-- A call names a member wherever it names one: a question for a record in its request, an update
in the update and in its signature, and both in the header of the member, beside what is in front.
-/
structure Call.Names (call : Call) (id : String) (front : Headers) : Prop where
  /-- What is asked for. -/
  fetches : call.method = .getMember → decode call.body = .ok (GetMemberRequest.mk id)
  /-- What is updated, and in whose name it is signed. -/
  updates : call.method = .updateMember → ∃ request : UpdateMemberRequest,
    decode call.body = .ok request ∧ request.update.memberId = id ∧ request.signature.memberId = id
  /-- Who calls. -/
  header : call.method.tellsRecord = true →
    call.headers.values HeaderName.memberId = front.values HeaderName.memberId ++ [id]

/-- Calls of other methods name no member of their own. -/
theorem Call.names_of_other {call : Call} (other : call.method.tellsRecord = false) (id : String)
    (front : Headers) : call.Names id front where
  fetches isFetch := by
    rw [isFetch] at other
    cases other
  updates isUpdate := by
    rw [isUpdate] at other
    cases other
  header tells := by
    rw [other] at tells
    cases tells

/-- A signed call names its member once, behind the headers of the channel. -/
theorem Identity.values_memberId_signedCall (who : Identity) (channel : Channel) (key : SecretKey)
    (createdAt : Int64) (method : Method) (body : List UInt8) :
    (who.signedCall channel key createdAt method body).headers.values HeaderName.memberId =
      channel.headers.values HeaderName.memberId ++ [who.memberId] := by
  obtain ⟨memberId, engine, token, initiated, level, tracking⟩ := who
  refine (Headers.values_append channel.headers _ _).trans ?_
  congr 1
  cases token <;> cases initiated <;> cases told : tracking.isEmpty <;>
    simp [signedHeaders, CallContext.headers, Headers.values, told, HeaderName.memberId,
      HeaderName.keyId, HeaderName.signature, HeaderName.createdAt, HeaderName.onBehalfOf,
      HeaderName.customerInitiated, HeaderName.keyLevel, HeaderName.tracking]

namespace Session

/-- Under a faithful gateway the calls of a flow name a member, and its value has a property. -/
def KeepsTo {α : Type} (id : String) (Q : α → Prop) (flow : Flow Session α) : Prop :=
  ∀ session : Session, session.gateway.Faithful → ∃ sent,
    session.Went (flow.run session).2 sent ∧
    (∀ call ∈ sent, call.Names id session.channel.headers) ∧
    ∀ x, (flow.run session).1 = .ok x → Q x

section KeepsTo

variable {α β : Type} {id : String} {Q : α → Prop} {R : β → Prop}

/-- The property of the first value may be used for what follows. -/
theorem KeepsTo.bind {flow : Flow Session α} {next : α → Flow Session β} (first : KeepsTo id Q flow)
    (later : ∀ x, Q x → KeepsTo id R (next x)) : KeepsTo id R (flow >>= next) := by
  intro session faithful
  obtain ⟨before, went, names, value⟩ := first session faithful
  rw [Flow.run_bind]
  generalize flow.run session = ran at went value ⊢
  obtain ⟨result, middle⟩ := ran
  cases result with
  | error error => exact ⟨before, went, names, nofun⟩
  | ok x =>
    have still : middle.gateway.Faithful := by
      rw [went.gateway_eq]
      exact faithful
    obtain ⟨after, wentOn, namesLater, valueLater⟩ := later x (value x rfl) middle still
    refine ⟨before ++ after, went.trans wentOn, ?_, valueLater⟩
    intro call sent
    rcases List.mem_append.1 sent with early | late
    · exact names call early
    · rw [← went.channel_eq]
      exact namesLater call late

/-- What sends nothing names nobody else. -/
theorem Silent.keepsTo {flow : Flow Session α} (silent : Silent flow)
    (value : ∀ session x, (flow.run session).1 = .ok x → Q x) : KeepsTo id Q flow :=
  fun session _ => ⟨[], (silent session).went, by simp, value session⟩

/-- Nor does a flow that is told no record. -/
theorem Performs.keepsTo {flow : Flow Session α}
    (performs : Performs (fun _ sent _ => ∀ call ∈ sent, call.method.tellsRecord = false) flow) :
    KeepsTo id (fun _ => True) flow := by
  intro session _
  obtain ⟨sent, went, others⟩ := performs session
  exact ⟨sent, went, fun call mem => Call.names_of_other (others call mem) id _,
    fun _ _ => trivial⟩

end KeepsTo

end Session

namespace Client

variable {client : Client} {id : String}

/-- A signed call of a client names its member. -/
theorem values_memberId_signedCall (client : Client) (channel : Channel) (key : SecretKey)
    (createdAt : Int64) (method : Method) (body : List UInt8) :
    ((client.identity client.ownContext).signedCall channel key createdAt method
      body).headers.values HeaderName.memberId =
        channel.headers.values HeaderName.memberId ++ [client.memberId] :=
  (client.identity client.ownContext).values_memberId_signedCall channel key createdAt method body

/-- Fetching its own record, a client is told a record of its member. -/
theorem keepsTo_getMember (own : client.memberId = id) :
    Session.KeepsTo id (·.id = id) (client.getMember id) := by
  subst own
  have asks := client.performs_getMember (P := fun channel call => call.method = .getMember ∧
    decode call.body = .ok (GetMemberRequest.mk client.memberId) ∧
    call.headers.values HeaderName.memberId =
      channel.headers.values HeaderName.memberId ++ [client.memberId]) client.memberId
    fun _ _ _ => ⟨rfl, Identity.decode_signedCall _ _ _ _ _ _,
      values_memberId_signedCall _ _ _ _ _ _⟩
  intro session faithful
  obtain ⟨sent, went, asked⟩ := asks session
  refine ⟨sent, went, ?_, ?_⟩
  · intro call mem
    obtain ⟨isFetch, decoded, header⟩ := asked.forall_mem call mem
    exact ⟨fun _ => decoded, fun isUpdate => absurd (isFetch.symm.trans isUpdate) nofun,
      fun _ => header⟩
  · intro record gave
    rw [gave] at asked
    obtain ⟨call, _, ⟨isFetch, decoded, _⟩, told⟩ := asked.exists_of_ok
    exact faithful.fetches _ call _ record isFetch decoded (Session.readRecord_eq_ok.1 told)

/-- Updating a record of its member, a client is told another one. -/
theorem keepsTo_updateMember (own : client.memberId = id) {latest : MemberRecord}
    (same : latest.id = id) (operations : List MemberOperation)
    (metadata : List OperationMetadata) :
    Session.KeepsTo id (·.id = id) (client.updateMember latest operations metadata) := by
  by_cases hollow : operations = []
  · -- Nothing is sent, and the record stays the one that was fetched.
    subst hollow
    refine (Session.silent_pure latest).keepsTo ?_
    rintro session record ⟨⟩
    exact same
  · subst own
    have asks := client.performs_updateMember (P := fun channel call =>
      call.method = .updateMember ∧ (∃ request : UpdateMemberRequest,
        decode call.body = .ok request ∧ request.update.memberId = client.memberId ∧
          request.signature.memberId = client.memberId) ∧
      call.headers.values HeaderName.memberId =
        channel.headers.values HeaderName.memberId ++ [client.memberId]) latest hollow metadata
      fun _ _ _ _ _ => ⟨rfl, ⟨_, Identity.decode_signedCall _ _ _ _ _ _, same, rfl⟩,
        values_memberId_signedCall _ _ _ _ _ _⟩
    intro session faithful
    obtain ⟨sent, went, asked⟩ := asks session
    refine ⟨sent, went, ?_, ?_⟩
    · intro call mem
      obtain ⟨isUpdate, request, header⟩ := asked.forall_mem call mem
      exact ⟨fun isFetch => absurd (isUpdate.symm.trans isFetch) nofun, fun _ => request,
        fun _ => header⟩
    · intro record gave
      rw [gave] at asked
      obtain ⟨call, _, ⟨isUpdate, ⟨request, decoded, updates, _⟩, _⟩, told⟩ := asked.exists_of_ok
      rw [faithful.updates _ call request record isUpdate decoded
        (Session.readRecord_eq_ok.1 told), updates]

end Client

/-- What is sent does not depend on whether the value is used. -/
theorem Session.Sends.of_discard {α : Type} {P : Channel → Call → Prop} {methods : List Method}
    {flow : Flow Session α} (sends : Session.Sends P methods (discard flow)) :
    Session.Sends P methods flow := by
  intro session
  have same : (discard flow).run session =
      ((flow.run session).1.map fun _ => (), (flow.run session).2) :=
    Flow.run_bind_pure flow (fun _ => ()) session
  obtain ⟨sent, all⟩ := sends session
  rw [same] at all
  refine ⟨sent, all.calls_eq, all.channel_eq, all.isPrefix_methods, fun succeeded => ?_, all.holds⟩
  refine all.methods_eq ?_
  generalize (flow.run session).1 = result at succeeded ⊢
  cases result with
  | error error => exact succeeded
  | ok x => rfl

namespace Member

/-- Both ids of a member are this one. -/
structure Of (member : Member) (id : String) : Prop where
  /-- The one in its record. -/
  record_id : member.record.id = id
  /-- The one of its client. -/
  client_memberId : member.client.memberId = id

/-- A change fetches and updates the record of the member itself. -/
theorem Change.keepsTo_send (change : Change) {member : Member} {id : String}
    (own : member.Of id) : Session.KeepsTo id (·.id = id) (change.send member) := by
  have subject : change.subject member = id := by
    cases change with
    | useDefaultRecoveryRule => exact own.client_memberId
    | _ => exact own.record_id
  have plans : Session.KeepsTo id (fun _ => True) (change.plan member.client) := by
    refine Session.Performs.keepsTo ((change.performs_plan member.client).mono ?_)
    intro session sent result planned call mem
    rw [planned.1 call mem]
    rfl
  rw [send, subject]
  refine (Client.keepsTo_getMember own.client_memberId).bind fun latest same => ?_
  refine plans.bind fun operations _ => ?_
  exact Client.keepsTo_updateMember own.client_memberId same operations change.metadata

/-- Under a faithful gateway a member stays who it is, and its calls name it. -/
def Stays {α : Type} (id : String) (flow : Flow (Member × Session) α) : Prop :=
  ∀ (member : Member) (session : Session), member.Of id → session.gateway.Faithful →
    (flow.run (member, session)).2.1.Of id ∧ ∃ sent,
      (flow.run (member, session)).2.2.calls = session.calls ++ sent ∧
      ∀ call ∈ sent, call.Names id session.channel.headers

section Stays

variable {α : Type} {id : String}

/-- A member whose record is replaced by one of its own stays. -/
theorem stays_renew {flow : Member → Flow Session MemberRecord}
    (keeps : ∀ member : Member, member.Of id → Session.KeepsTo id (·.id = id) (flow member)) :
    Stays id (renew flow) := by
  intro member session own faithful
  obtain ⟨sent, went, names, told⟩ := keeps member own session faithful
  rw [run_renew]
  generalize (flow member).run session = ran at went told ⊢
  rcases ran with ⟨_ | record, later⟩
  · exact ⟨own, sent, went.calls_eq, names⟩
  · exact ⟨⟨told record rfl, own.client_memberId⟩, sent, went.calls_eq, names⟩

/-- Showing the record changes nothing. -/
theorem Stays.changed {flow : Flow (Member × Session) Unit} (stays : Stays id flow) :
    Stays id (Action.changed flow) := by
  intro member session own faithful
  have after := stays member session own faithful
  rw [Action.changed, Flow.run_bind]
  generalize flow.run (member, session) = ran at after ⊢
  rcases ran with ⟨_ | _, later⟩ <;> exact after

/-- Whatever changes how a client calls leaves whom it calls for. -/
theorem stays_turned (action : Action) : Stays id (Action.turned action) := by
  intro member session own _
  have same : (action.turn member.client).memberId = member.client.memberId := by
    cases action <;> rfl
  refine ⟨⟨own.record_id, same.trans own.client_memberId⟩, [], ?_, by simp⟩
  exact (List.append_nil _).symm

/-- What is asked for without being told a record leaves the member. -/
theorem stays_of_sends {β : Type} {flow : Member → Flow Session α}
    {P : Member → Channel → Call → Prop} {methods : List Method}
    (sends : ∀ member, Session.Sends (P member) methods (flow member)) (f : α → β)
    (others : methods.all (!·.tellsRecord) = true) :
    Stays id (do
      let member ← Flow.read (·.1)
      let x ← Flow.onSecond (flow member)
      return f x) := by
  intro member session own _
  have later : ((do
      let member ← Flow.read (·.1)
      let x ← Flow.onSecond (flow member)
      return f x : Flow (Member × Session) β).run (member, session)).2 =
        (member, ((flow member).run session).2) := by
    have gives : (Flow.onSecond (flow member)).run (member, session) =
        (((flow member).run session).1, member, ((flow member).run session).2) := rfl
    rw [Flow.run_bind_of_ok (Flow.run_read _ _), Flow.run_bind_pure, gives]
  rw [later]
  obtain ⟨sent, all⟩ := sends member session
  refine ⟨own, sent, all.calls_eq, fun call mem => Call.names_of_other ?_ id _⟩
  have among := all.isPrefix_methods.subset (List.mem_map_of_mem mem)
  simpa using List.all_eq_true.1 others _ among

/-- A request that is told no record leaves the member. -/
theorem stays_asked [Wire α] {flow : Client → Flow Session α} (request : Client.Request)
    (same : ∀ client, request.send client = discard (flow client))
    (others : request.methods.all (!·.tellsRecord) = true := by rfl) :
    Stays id (Action.asked flow) := by
  have sends (member : Member) : Session.Sends (member.client.Tells request.level) request.methods
      (flow member.client) := by
    have sent := request.sends member.client
    rw [same] at sent
    exact sent.of_discard
  exact stays_of_sends sends toValue others

/-- So does one that gives nothing. -/
theorem stays_done {flow : Client → Flow Session Unit} (request : Client.Request)
    (same : ∀ client, request.send client = flow client)
    (others : request.methods.all (!·.tellsRecord) = true := by rfl) :
    Stays id (Action.done flow) := by
  have sends (member : Member) : Session.Sends (member.client.Tells request.level) request.methods
      (flow member.client) := by
    rw [← same]
    exact request.sends member.client
  exact stays_of_sends sends (fun _ => Value.null) others

end Stays

/-- Every action of a member leaves who it is. -/
theorem Action.stays (action : Action) (id : String) : Stays id action.run := by
  have changes (change : Change) : Stays id (Action.changed change.run) := by
    rw [change.run_eq_renew]
    exact (stays_renew fun member own => change.keepsTo_send own).changed
  cases action with
  | useAccessToken tokenId => exact stays_turned _
  | clearAccessToken => exact stays_turned _
  | setCustomerInitiated customerInitiated => exact stays_turned _
  | setTracking tracking => exact stays_turned _
  | clearTracking => exact stays_turned _
  | refresh => exact changes .refresh
  | update operations metadata => exact changes (.update operations metadata)
  | addKeys keys => exact changes (.addKeys keys)
  | removeKeys keyIds => exact changes (.removeKeys keyIds)
  | addAliases aliases => exact changes (.addAliases aliases)
  | removeAliases aliases => exact changes (.removeAliases aliases)
  | useDefaultRecoveryRule => exact changes .useDefaultRecoveryRule
  | getAliases => exact stays_asked .getAliases fun _ => rfl
  | firstAlias =>
    have sends (member : Member) : Session.Sends (member.client.Tells .low) [.getAliases]
        member.firstAlias := by
      have aliases : Session.Sends (member.client.Tells .low) [.getAliases]
          member.client.getAliases :=
        Session.Sends.of_discard (Client.Request.sends member.client .getAliases)
      exact aliases.map _
    exact stays_of_sends sends _ rfl
  | retryVerification x => exact stays_asked (.retryVerification x) fun _ => rfl
  | verifyAlias verificationId code =>
    exact stays_done (.verifyAlias verificationId code) fun _ => rfl
  | authorizeRecovery authorization =>
    exact stays_asked (.authorizeRecovery authorization) fun _ => rfl
  | getDefaultAgent => exact stays_asked .getDefaultAgent fun _ => rfl
  | deleteMember => exact stays_done .deleteMember fun _ => rfl
  | getAccount accountId => exact stays_asked (.getAccount accountId) fun _ => rfl
  | getAccounts => exact stays_asked .getAccounts fun _ => rfl
  | getBalance accountId level => exact stays_asked (.getBalance accountId level) fun _ => rfl
  | getBalances accountIds level => exact stays_asked (.getBalances accountIds level) fun _ => rfl
  | getTransaction accountId transactionId level =>
    exact stays_asked (.getTransaction accountId transactionId level) fun _ => rfl
  | getTransactions accountId page level =>
    exact stays_asked (.getTransactions accountId page level) fun _ => rfl
  | resolveTransferDestinations accountId =>
    exact stays_asked (.resolveTransferDestinations accountId) fun _ => rfl
  | getBankInfo bankId => exact stays_asked (.getBankInfo bankId) fun _ => rfl
  | storeTokenRequest request => exact stays_asked (.storeTokenRequest request) fun _ => rfl
  | verifyEidas payload signature =>
    exact stays_asked (.verifyEidas payload signature) fun _ => rfl
  | publicKeys =>
    have sends (member : Member) :
        Session.Sends (fun _ _ => True) [] member.client.engine.publicKeys :=
      (Session.silent_read _).sends
    exact stays_of_sends sends _ rfl

end Member

end OpenBanking
