import OpenBanking.Member.Acting
import OpenBanking.Proofs.Asking

/-!
# Properties of what is sent

A flow only sends calls with a property if each flow it is made of does, whatever the gateway
answers and wherever the flow fails. A flow that sends nothing has every such property, and one call
has it if it holds of its method and body under all headers.
-/

namespace OpenBanking

open Json

namespace Session

/-- Every call that a flow sends has a property. -/
def OnlySends {α : Type} (P : Call → Prop) (flow : Flow Session α) : Prop :=
  ∀ session : Session, ∃ sent,
    (flow.run session).2.calls = session.calls ++ sent ∧ ∀ call ∈ sent, P call

section OnlySends

variable {P : Call → Prop} {α β : Type}

/-- What sends nothing sends only calls with the property. -/
theorem Silent.onlySends {flow : Flow Session α} (silent : Silent flow) : OnlySends P flow := by
  intro session
  refine ⟨[], ?_, by simp⟩
  rw [(silent session).calls_eq, List.append_nil]

/-- A sequence of flows that only send calls with the property only sends such calls. -/
theorem OnlySends.bind {flow : Flow Session α} {next : α → Flow Session β}
    (first : OnlySends P flow) (later : ∀ x, OnlySends P (next x)) :
    OnlySends P (flow >>= next) := by
  intro session
  obtain ⟨sent, calls, all⟩ := first session
  rw [Flow.run_bind]
  generalize flow.run session = ran at calls ⊢
  obtain ⟨result, middle⟩ := ran
  cases result with
  | error error => exact ⟨sent, calls, all⟩
  | ok x =>
    obtain ⟨sentLater, callsLater, allLater⟩ := later x middle
    refine ⟨sent ++ sentLater, ?_, ?_⟩
    · rw [callsLater, calls, List.append_assoc]
    · intro call mem
      cases List.mem_append.1 mem with
      | inl before => exact all call before
      | inr after => exact allLater call after

/-- What follows a flow and sends nothing leaves the calls. -/
theorem Silent.run_bind_calls {flow : Flow Session α} {next : α → Flow Session β}
    (silent : ∀ x, Silent (next x)) (session : Session) :
    ((flow >>= next).run session).2.calls = (flow.run session).2.calls := by
  rw [Flow.run_bind]
  generalize flow.run session = ran
  obtain ⟨result, later⟩ := ran
  cases result with
  | error error => rfl
  | ok x => exact (silent x later).calls_eq

/-- Calls with a property have each property that follows from it. -/
theorem OnlySends.mono {Q : Call → Prop} {flow : Flow Session α} (sends : OnlySends P flow)
    (follows : ∀ call, P call → Q call) : OnlySends Q flow := by
  intro session
  obtain ⟨sent, calls, all⟩ := sends session
  exact ⟨sent, calls, fun call mem => follows call (all call mem)⟩

/-- After a silent flow only what follows it sends. -/
theorem Silent.exists_sent_of_run_bind {flow : Flow Session α} (silent : Silent flow)
    {next : α → Flow Session β} {session : Session}
    (later : ∀ x middle, flow.run session = (.ok x, middle) → OnlySends P (next x)) :
    ∃ sent, ((flow >>= next).run session).2.calls = session.calls ++ sent ∧
      ∀ call ∈ sent, P call := by
  have way := silent session
  cases ran : flow.run session with
  | mk result middle =>
    rw [ran] at way
    cases result with
    | error error =>
      refine ⟨[], ?_, by simp⟩
      rw [Flow.run_bind_of_error ran, way.calls_eq, List.append_nil]
    | ok x =>
      obtain ⟨sent, calls, all⟩ := later x middle ran middle
      refine ⟨sent, ?_, all⟩
      rw [Flow.run_bind_of_ok ran, calls, way.calls_eq]

/-- A flow whose value is only mapped sends the same. -/
theorem OnlySends.map {flow : Flow Session α} (first : OnlySends P flow) (f : α → β) :
    OnlySends P (flow >>= fun x => pure (f x)) :=
  first.bind fun x => (silent_pure (f x)).onlySends

/-- An exchange sends at most the call of its value. -/
theorem onlySends_exchange [Wire α] [Wire β] {method : Method} {x : α}
    (holds : ∀ headers, P ⟨method, headers, encode x⟩) (headers : Headers) :
    OnlySends P (exchange method headers x : Flow Session β) := by
  intro session
  by_cases closed : session.channel.closed = true
  · refine ⟨[], ?_, by simp⟩
    rw [run_exchange_of_closed closed, List.append_nil]
  · have opened : session.channel.closed = false := by simpa using closed
    refine ⟨[session.channel.callOf method headers (encode x)], ?_, ?_⟩
    · rw [run_exchange_of_open opened, answered_calls]
    · intro call mem
      rw [List.mem_singleton.1 mem, Channel.callOf]
      exact holds _

end OnlySends

variable {α : Type}

/-- Logging sends nothing. -/
theorem silent_emit (event : Event) : Silent (emit event) := fun _ => ⟨rfl, rfl, rfl⟩

/-- Failing sends nothing. -/
theorem silent_fail (error : ClientError) : Silent (.fail error : Flow Session α) :=
  fun _ => ⟨rfl, rfl, rfl⟩

/-- What is there already sends nothing. -/
theorem silent_ofExcept (result : Except ClientError α) : Silent (.ofExcept result) := by
  intro session
  rw [Flow.run_ofExcept]
  exact ⟨rfl, rfl, rfl⟩

/-- A random identifier sends nothing. -/
theorem silent_freshNonce : Silent freshNonce := fun _ => ⟨rfl, rfl, rfl⟩

end Session

variable {P : Call → Prop} {α β : Type} [Wire α] [Wire β] {method : Method} {x : α}

/-- Signing a body sends nothing. -/
theorem Identity.silent_headers (who : Identity) (body : List UInt8) :
    Session.Silent (who.headers body) := by
  refine (who.engine.silent_signer _).bind fun signer => ?_
  refine (Session.silent_read _).bind fun createdAt => ?_
  exact (Session.silent_ofCrypto _).bind fun signature => Session.silent_pure _

/-- A signed exchange sends at most the call of its value. -/
theorem Identity.onlySends_exchange (who : Identity)
    (holds : ∀ headers, P ⟨method, headers, encode x⟩) :
    Session.OnlySends P (who.exchange method x : Flow Session β) :=
  (who.silent_headers (encode x)).onlySends.bind (Session.onlySends_exchange holds)

/-- A call without identity sends at most the call of its value. -/
theorem Anonymous.onlySends_ask (holds : ∀ headers, P ⟨method, headers, encode x⟩) :
    Session.OnlySends P (ask method x : Flow Session β) :=
  Session.onlySends_exchange holds []

/-- A call about the member sends at most the call of its value. -/
theorem Client.onlySends_ask (client : Client)
    (holds : ∀ headers, P ⟨method, headers, encode x⟩) :
    Session.OnlySends P (client.ask method x : Flow Session β) :=
  Identity.onlySends_exchange _ holds

/-! ## Updates -/

/-- Signing with the privileged key sends nothing. -/
theorem Client.silent_signPrivileged (client : Client) (x : α) :
    Session.Silent (client.signPrivileged x) := by
  refine (client.engine.silent_signer .privileged).bind fun signer => ?_
  exact (Session.silent_ofCrypto _).bind fun signature => Session.silent_pure _

/-- An update of a client sends at most a request of the operations and metadata. -/
theorem Client.onlySends_updateMember (client : Client) (record : MemberRecord)
    (operations : List MemberOperation) (metadata : List OperationMetadata)
    (holds : ∀ update signature headers,
      P ⟨.updateMember, headers, encode (UpdateMemberRequest.mk update signature metadata)⟩) :
    Session.OnlySends P (client.updateMember record operations metadata) := by
  rw [updateMember]
  by_cases none : operations.isEmpty = true
  · rw [if_pos none]
    exact (Session.silent_pure record).onlySends
  · rw [if_neg none]
    refine (client.silent_signPrivileged _).onlySends.bind fun signature => ?_
    exact (client.onlySends_ask (holds _ signature)).map _

/-- An update in the name of its own member sends at most a request of it and its metadata, which
names the key of the signer. -/
theorem Anonymous.onlySends_applyUpdate (update : MemberUpdate) (metadata : List OperationMetadata)
    (signer : Signer)
    (holds : ∀ signature headers, P ⟨.updateMember, headers, encode
      (UpdateMemberRequest.mk update ⟨update.memberId, signer.keyId, signature⟩ metadata)⟩) :
    Session.OnlySends P (applyUpdate update metadata signer) := by
  refine (Session.silent_ofCrypto _).onlySends.bind fun signature => ?_
  exact (onlySends_ask (holds _)).map _

/-- So does the first update of a member. -/
theorem Anonymous.onlySends_createMember (memberId : String) (operations : List MemberOperation)
    (metadata : List OperationMetadata) (signer : Signer)
    (holds : ∀ update signature headers,
      P ⟨.updateMember, headers, encode (UpdateMemberRequest.mk update signature metadata)⟩) :
    Session.OnlySends P (createMember memberId operations metadata signer) := by
  refine (onlySends_applyUpdate _ metadata signer fun _ => holds _ _).bind fun record => ?_
  exact (Session.silent_emit _).onlySends.map fun _ => record

/-! ## Members that act -/

namespace Member

/-- Has a member act in a session. -/
def acting (member : Member) (flow : Flow (Member × Session) α) : Flow Session α := fun session =>
  let (result, _, later) := flow.run (member, session)
  (result, later)

/-- Renewing the record of a member changes the session as the flow that gives the record. -/
theorem run_acting_renew (member : Member) (flow : Member → Flow Session MemberRecord)
    (session : Session) :
    ((member.acting (renew flow)).run session).2 = ((flow member).run session).2 := by
  have gives : (Flow.onSecond (flow member)).run (member, session) =
      (((flow member).run session).1, member, ((flow member).run session).2) := rfl
  show ((renew flow).run (member, session)).2.2 = _
  rw [renew, Flow.run_bind_of_ok (Flow.run_read _ _), Flow.run_bind, gives]
  cases ((flow member).run session).1 with
  | ok record => rfl
  | error error => rfl

/-- An update of a member sends at most a question for its record and a request of the metadata. -/
theorem onlySends_acting_update (member : Member) (operations : List MemberOperation)
    (metadata : List OperationMetadata)
    (asks : ∀ headers, P ⟨.getMember, headers, encode (GetMemberRequest.mk member.id)⟩)
    (updates : ∀ update signature headers,
      P ⟨.updateMember, headers, encode (UpdateMemberRequest.mk update signature metadata)⟩) :
    Session.OnlySends P (member.acting (update operations metadata)) := by
  intro session
  rw [update, run_acting_renew]
  have both : Session.OnlySends P (do
      let latest ← member.client.getMember member.id
      member.client.updateMember latest operations metadata) := by
    refine ((member.client.onlySends_ask asks).map _).bind fun latest => ?_
    exact member.client.onlySends_updateMember latest operations metadata updates
  exact both session

end Member

end OpenBanking
