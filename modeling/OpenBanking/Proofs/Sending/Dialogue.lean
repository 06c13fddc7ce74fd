import OpenBanking.Proofs.Sending

/-!
# What is sent and what comes of it

Where the next call depends on the last answer, what a flow sends and what it gives have to be said
together. A flow performs a relation if, from every session, the calls that it sends and its result
stand in it. A sequence performs what its flows perform one after the other, the second one after
the calls of the first.
-/

namespace OpenBanking

open Json

namespace Session

/-- Calls were sent between two sessions, over the same channel to the same gateway. -/
structure Went (session later : Session) (sent : List Call) : Prop where
  /-- They stand behind the calls before. -/
  calls_eq : later.calls = session.calls ++ sent
  /-- The channel is the same. -/
  channel_eq : later.channel = session.channel
  /-- The gateway is the same. -/
  gateway_eq : later.gateway = session.gateway

/-- On the same way without a call nothing was sent. -/
theorem SameWay.went {session later : Session} (way : session.SameWay later) :
    session.Went later [] :=
  ⟨by rw [way.calls_eq, List.append_nil], way.channel_eq, way.gateway_eq⟩

/-- What was sent first stands before what was sent then. -/
theorem Went.trans {session middle later : Session} {before after : List Call}
    (first : session.Went middle before) (second : middle.Went later after) :
    session.Went later (before ++ after) := by
  refine ⟨?_, second.channel_eq.trans first.channel_eq, second.gateway_eq.trans first.gateway_eq⟩
  rw [second.calls_eq, first.calls_eq, List.append_assoc]

/-- From every session, the calls that a flow sends and its result stand in a relation. -/
def Performs {α : Type} (T : Session → List Call → Except ClientError α → Prop)
    (flow : Flow Session α) : Prop :=
  ∀ session : Session, ∃ sent,
    session.Went (flow.run session).2 sent ∧ T session sent (flow.run session).1

section Performs

variable {α β : Type} {T : Session → List Call → Except ClientError α → Prop}

/-- A silent flow performs what its results do without calls. -/
theorem Silent.performs {flow : Flow Session α} (silent : Silent flow)
    (holds : ∀ session, T session [] (flow.run session).1) : Performs T flow :=
  fun session => ⟨[], (silent session).went, holds session⟩

/-- A flow performs each relation that follows from one that it performs. -/
theorem Performs.mono {U : Session → List Call → Except ClientError α → Prop}
    {flow : Flow Session α} (performs : Performs T flow)
    (follows : ∀ session sent result, T session sent result → U session sent result) :
    Performs U flow := by
  intro session
  obtain ⟨sent, went, holds⟩ := performs session
  exact ⟨sent, went, follows _ _ _ holds⟩

/-- A sequence ends where its first flow fails, and otherwise goes on with the value, after the
calls that were sent for it. -/
theorem Performs.bind {U : α → Session → List Call → Except ClientError β → Prop}
    {V : Session → List Call → Except ClientError β → Prop} {flow : Flow Session α}
    {next : α → Flow Session β} (first : Performs T flow) (later : ∀ x, Performs (U x) (next x))
    (failed : ∀ session sent error, T session sent (.error error) → V session sent (.error error))
    (joined : ∀ session middle before after x result, session.Went middle before →
      T session before (.ok x) → U x middle after result → V session (before ++ after) result) :
    Performs V (flow >>= next) := by
  intro session
  obtain ⟨before, went, holds⟩ := first session
  rw [Flow.run_bind]
  generalize flow.run session = ran at went holds ⊢
  obtain ⟨result, middle⟩ := ran
  cases result with
  | error error => exact ⟨before, went, failed session before error holds⟩
  | ok x =>
    obtain ⟨after, wentOn, holdsLater⟩ := later x middle
    exact ⟨before ++ after, went.trans wentOn, joined _ _ _ _ _ _ went holds holdsLater⟩

end Performs

/-! ## One question -/

/-- A question fails before anything is sent, or sends one call with a property and gives what is
read from the answer. -/
inductive Asked {α : Type} (P : Channel → Call → Prop) (reading : Answer → Except ClientError α)
    (session : Session) : List Call → Except ClientError α → Prop where
  | unsent (error : ClientError) : Asked P reading session [] (.error error)
  | answered {call : Call} {result : Except ClientError α} (holds : P session.channel call)
    (gives : reading (session.gateway session.calls call) = result) :
    Asked P reading session [call] result

section Asked

variable {α β : Type} {P : Channel → Call → Prop} {reading : Answer → Except ClientError α}

/-- Whatever is sent has the property. -/
theorem Asked.forall_mem {session : Session} {sent : List Call} {result : Except ClientError α}
    (asked : Asked P reading session sent result) : ∀ call ∈ sent, P session.channel call := by
  cases asked with
  | unsent => simp
  | answered holds => simpa using holds

/-- A value is read from the answer to the one call that was sent. -/
theorem Asked.exists_of_ok {session : Session} {sent : List Call} {x : α}
    (asked : Asked P reading session sent (.ok x)) :
    ∃ call, sent = [call] ∧ P session.channel call ∧
      reading (session.gateway session.calls call) = .ok x := by
  cases asked with
  | answered holds gives => exact ⟨_, rfl, holds, gives⟩

/-- A question that gave a value sent one call, and the value was read from its answer. -/
theorem Performs.exists_of_run_ok {flow : Flow Session α} (asks : Performs (Asked P reading) flow)
    {session later : Session} {x : α} (gave : flow.run session = (.ok x, later)) :
    ∃ call, session.Went later [call] ∧ P session.channel call ∧
      reading (session.gateway session.calls call) = .ok x := by
  obtain ⟨sent, went, asked⟩ := asks session
  rw [gave] at went asked
  obtain ⟨call, rfl, holds, told⟩ := asked.exists_of_ok
  exact ⟨call, went, holds, told⟩

/-- A silent check of what was read is a part of the reading. -/
theorem Performs.check {flow : Flow Session α} (asks : Performs (Asked P reading) flow)
    {next : α → Flow Session β} (silent : ∀ x, Silent (next x))
    {checked : α → Except ClientError β}
    (gives : ∀ x session, ((next x).run session).1 = checked x) :
    Performs (Asked P fun answer => reading answer >>= checked) (flow >>= next) := by
  have checks (x : α) :
      Performs (fun _ sent result => sent = [] ∧ result = checked x) (next x) :=
    (silent x).performs fun session => ⟨rfl, gives x session⟩
  refine asks.bind checks ?_ ?_
  · intro session sent error asked
    cases asked with
    | unsent => exact .unsent error
    | answered holds failed =>
      refine .answered holds ?_
      rw [failed]
      rfl
  · rintro session middle before after x result _ asked ⟨rfl, rfl⟩
    cases asked with
    | answered holds gave =>
      refine .answered holds ?_
      rw [gave]
      rfl

/-- So is what is made of the value that was read. -/
theorem Performs.map {flow : Flow Session α} (asks : Performs (Asked P reading) flow) (f : α → β) :
    Performs (Asked P fun answer => (reading answer).map f) (flow >>= fun x => pure (f x)) := by
  have checks := asks.check (fun x => silent_pure (f x)) (fun x session => rfl)
  have same : (fun answer => reading answer >>= fun x => .ok (f x)) =
      fun answer => (reading answer).map f := by
    funext answer
    cases reading answer <;> rfl
  rwa [same] at checks

/-- A question after what sends nothing is still one question. -/
theorem Silent.asks {flow : Flow Session β} (silent : Silent flow) {next : β → Flow Session α}
    (asks : ∀ x, Performs (Asked P reading) (next x)) :
    Performs (Asked P reading) (flow >>= next) := by
  have first : Performs (fun _ sent _ => sent = []) flow := silent.performs fun _ => rfl
  refine first.bind asks ?_ ?_
  · rintro session sent error rfl
    exact .unsent error
  · rintro session middle before after x result went rfl asked
    rw [List.nil_append]
    cases asked with
    | unsent error => exact .unsent error
    | answered holds gives =>
      rw [went.gateway_eq, went.calls_eq, List.append_nil] at gives
      rw [went.channel_eq] at holds
      exact .answered holds gives

/-- An exchange asks with the call of its value. -/
theorem performs_exchange [Wire α] [Wire β] {method : Method} {headers : Headers} {x : α}
    (holds : ∀ channel : Channel, P channel (channel.callOf method headers (encode x))) :
    Performs (Asked P (read β)) (exchange method headers x) := by
  intro session
  cases closed : session.channel.closed with
  | true =>
    rw [run_exchange_of_closed closed]
    exact ⟨[], SameWay.went ⟨rfl, rfl, rfl⟩, .unsent _⟩
  | false =>
    rw [run_exchange_of_open closed]
    exact ⟨[_], ⟨rfl, rfl, rfl⟩, .answered (holds session.channel) rfl⟩

end Asked

end Session

variable {P : Channel → Call → Prop} {α β : Type} [Wire α] [Wire β] {method : Method} {x : α}

/-- A call without identity asks with the headers of the channel. -/
theorem Anonymous.performs_ask
    (holds : ∀ channel : Channel, P channel ⟨method, channel.headers, encode x⟩) :
    Session.Performs (Session.Asked P (Session.read β)) (ask method x) := by
  refine Session.performs_exchange fun channel => ?_
  rw [Channel.callOf, List.append_nil]
  exact holds channel

/-- A call without identity holds the written value. -/
theorem Anonymous.decode_asked [Lossless depthLimit α] (channel : Channel) (method : Method)
    (x : α) :
    decode (Call.mk method channel.headers (encode x)).body = .ok x := by
  dsimp only
  exact decode_encode x

/-- A signed call holds the written value. -/
theorem Identity.decode_signedCall [Lossless depthLimit α] (who : Identity) (channel : Channel)
    (key : SecretKey) (createdAt : Int64) (method : Method) (x : α) :
    decode (who.signedCall channel key createdAt method (encode x)).body = .ok x := by
  have body : (who.signedCall channel key createdAt method (encode x)).body = encode x := rfl
  rw [body, decode_encode]

/-- A signed exchange asks with the signed call of its value. -/
theorem Identity.performs_exchange (who : Identity)
    (holds : ∀ channel key createdAt,
      P channel (who.signedCall channel key createdAt method (encode x))) :
    Session.Performs (Session.Asked P (Session.read β)) (who.exchange method x) := by
  intro session
  cases found : session.keys.byLevel session.now who.engine.memberId who.context.keyLevel with
  | error error =>
    rw [run_exchange_of_error found]
    exact ⟨[], Session.SameWay.went ⟨rfl, rfl, rfl⟩, .unsent _⟩
  | ok key =>
    rw [exchange, Flow.run_bind_of_ok (run_headers_of_byLevel found (encode x))]
    exact Session.performs_exchange (fun channel => holds channel key session.now) session

namespace Session

/-- The record that an answer tells. -/
def readRecord (answer : Answer) : Except ClientError MemberRecord :=
  (read MemberResponse answer).map (·.member)

/-- Only a response that can be read tells a record. -/
theorem readRecord_eq_ok {answer : Answer} {record : MemberRecord} :
    readRecord answer = .ok record ↔ read MemberResponse answer = .ok ⟨record⟩ := by
  rw [readRecord]
  cases read MemberResponse answer with
  | error error => exact ⟨nofun, nofun⟩
  | ok response =>
    obtain ⟨told⟩ := response
    simp [Except.map]

end Session

namespace Client

variable (client : Client)

/-- The question for a record asks once, and gives the record that the answer tells. -/
theorem performs_getMember (memberId : String)
    (holds : ∀ channel key createdAt, P channel ((client.identity client.ownContext).signedCall
      channel key createdAt .getMember (encode (GetMemberRequest.mk memberId)))) :
    Session.Performs (Session.Asked P Session.readRecord) (client.getMember memberId) :=
  ((client.identity client.ownContext).performs_exchange holds).map _

/-- The question for the default agent asks once, and gives the id that the answer tells. -/
theorem performs_getDefaultAgent
    (holds : ∀ channel key createdAt, P channel ((client.identity client.ownContext).signedCall
      channel key createdAt .getDefaultAgent (encode ({} : Empty)))) :
    Session.Performs
      (Session.Asked P fun answer => (Session.read GetDefaultAgentResponse answer).map (·.memberId))
      client.getDefaultAgent :=
  ((client.identity client.ownContext).performs_exchange holds).map _

/-- An update of operations asks once, in the name of the member of the client. -/
theorem performs_updateMember (record : MemberRecord) {operations : List MemberOperation}
    (some : operations ≠ []) (metadata : List OperationMetadata)
    (holds : ∀ channel key createdAt keyId signature,
      P channel ((client.identity client.ownContext).signedCall channel key createdAt .updateMember
        (encode (UpdateMemberRequest.mk ⟨record.id, record.lastHash, operations⟩
          ⟨client.memberId, keyId, signature⟩ metadata)))) :
    Session.Performs (Session.Asked P Session.readRecord)
      (client.updateMember record operations metadata) := by
  have update : (MemberUpdate.ofRecord record).append operations =
      ⟨record.id, record.lastHash, operations⟩ := by
    simp [MemberUpdate.ofRecord, MemberUpdate.append]
  have none : operations.isEmpty = false := by simpa using some
  simp only [updateMember, none, update, Bool.false_eq_true, ↓reduceIte, signPrivileged, bind_assoc,
    pure_bind]
  refine (client.engine.silent_signer .privileged).asks fun signer => ?_
  refine (Session.silent_ofCrypto _).asks fun signature => ?_
  have asks := (client.identity client.ownContext).performs_exchange (β := MemberResponse)
    fun channel key createdAt => holds channel key createdAt signer.keyId signature
  exact asks.map _

/-- The question for a verdict asks once, and gives the answer as it is read. -/
theorem performs_verifyEidas (payload : EidasPayload) (signature : String)
    (holds : ∀ channel key createdAt, P channel ((client.identity client.ownContext).signedCall
      channel key createdAt .verifyEidas (encode (VerifyEidasRequest.mk payload signature)))) :
    Session.Performs (Session.Asked P (Session.read EidasResponse))
      (client.verifyEidas payload signature) :=
  (client.identity client.ownContext).performs_exchange holds

/-- An update without operations gives the record and sends nothing. -/
theorem updateMember_nil (record : MemberRecord) (metadata : List OperationMetadata) :
    client.updateMember record [] metadata = pure record := rfl

end Client

end OpenBanking
