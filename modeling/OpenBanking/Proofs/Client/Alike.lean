import Mathlib.Data.List.Forall2
import OpenBanking.Proofs.Client.Sending

/-!
# Sessions that differ in delegation

Two sessions are alike if their calls differ only in the headers of delegation, and in these only
where accounts are asked about. Whatever the access token and the mark of two clients are, what they
are asked for leads from alike sessions to alike sessions. The gateways may serve the two clients
different accounts, but answer at the same time and anything else with the same result.
-/

namespace OpenBanking

open Json

/-- The headers of delegation. -/
def HeaderName.ofDelegation : List String := [onBehalfOf, customerInitiated]

/-- Two calls differ only in the headers of delegation, and not at all if they are not about
accounts. -/
structure Call.Alike (call other : Call) : Prop where
  /-- They call the same method. -/
  method_eq : other.method = call.method
  /-- They carry the same body. -/
  body_eq : other.body = call.body
  /-- They carry the same other headers. -/
  headers_eq : other.headers.filter (·.1 ∉ HeaderName.ofDelegation) =
    call.headers.filter (·.1 ∉ HeaderName.ofDelegation)
  /-- Calls about the member are the same. -/
  eq_of_member : call.method.isAboutAccounts = false → other = call

/-- A call is like itself. -/
theorem Call.Alike.refl (call : Call) : call.Alike call := ⟨rfl, rfl, rfl, fun _ => rfl⟩

/-- The calls that are not about accounts. -/
def Call.aboutMember (calls : List Call) : List Call :=
  calls.filter fun call => !call.method.isAboutAccounts

/-- Calls that are alike one by one are the same as far as they are not about accounts. -/
theorem Call.aboutMember_eq_of_alike {calls others : List Call}
    (alike : List.Forall₂ Call.Alike calls others) : aboutMember others = aboutMember calls := by
  induction alike with
  | nil => rfl
  | @cons call other calls others first _ ih =>
    unfold aboutMember at ih ⊢
    cases about : call.method.isAboutAccounts with
    | true => simp [first.method_eq, about, ih]
    | false => simp [first.eq_of_member about, about, ih]

/-- Two gateways answer alike calls after alike calls at the same time, and calls that are not about
accounts with the same result. -/
def Gateway.Alike (gateway other : Gateway) : Prop :=
  ∀ {earlier earlierOther : List Call} {call callOther : Call},
    List.Forall₂ Call.Alike earlier earlierOther → call.Alike callOther →
      (other earlierOther callOther).arrival = (gateway earlier call).arrival ∧
      (call.method.isAboutAccounts = false →
        (other earlierOther callOther).result = (gateway earlier call).result)

namespace Session

/-- Two sessions have alike gateways and calls, the same channel and keys, and the same time. -/
structure Alike (session other : Session) : Prop where
  /-- The channel is the same. -/
  channel_eq : other.channel = session.channel
  /-- The keys are the same. -/
  keys_eq : other.keys = session.keys
  /-- It is the same time. -/
  now_eq : other.now = session.now
  /-- What was sent is alike. -/
  calls : List.Forall₂ Call.Alike session.calls other.calls
  /-- What will be answered is alike. -/
  gateway : Gateway.Alike session.gateway other.gateway

/-- After alike calls sessions are still alike. -/
theorem Alike.answered {session other : Session} (alike : session.Alike other)
    {call callOther : Call} (calls : call.Alike callOther) :
    (session.answered call).Alike (other.answered callOther) where
  channel_eq := alike.channel_eq
  keys_eq := alike.keys_eq
  now_eq := (alike.gateway alike.calls calls).1
  calls := List.rel_append alike.calls (.cons calls .nil)
  gateway := alike.gateway

/-- Exchanges that send alike calls lead to alike sessions, and give the same if they are not about
accounts. -/
theorem Alike.exchange {α β : Type} [Wire α] [Wire β] {session other : Session}
    (alike : session.Alike other) {method : Method} {headers headersOther : Headers} {x : α}
    (calls : (session.channel.callOf method headers (encode x)).Alike
      (session.channel.callOf method headersOther (encode x))) :
    ((Session.exchange method headers x : Flow Session β).run session).2.Alike
        ((Session.exchange method headersOther x : Flow Session β).run other).2 ∧
      (method.isAboutAccounts = false →
        ((Session.exchange method headersOther x : Flow Session β).run other).1 =
          ((Session.exchange method headers x : Flow Session β).run session).1) := by
  cases closed : session.channel.closed with
  | true =>
    have closedOther : other.channel.closed = true := by rw [alike.channel_eq, closed]
    rw [run_exchange_of_closed closed, run_exchange_of_closed closedOther]
    exact ⟨alike, fun _ => rfl⟩
  | false =>
    have openedOther : other.channel.closed = false := by rw [alike.channel_eq, closed]
    rw [run_exchange_of_open closed, run_exchange_of_open openedOther, alike.channel_eq]
    refine ⟨alike.answered calls, fun member => ?_⟩
    have result := (alike.gateway alike.calls calls).2 member
    show read β _ = read β _
    rw [read, read, result]

/-! ## Flows in alike sessions -/

variable {α β : Type}

/-- One flow leads from a session to one that is alike to where the other leads from an alike one.
-/
def Follows (flow other : Flow Session α) : Prop :=
  ∀ ⦃session sessionOther : Session⦄, session.Alike sessionOther →
    (flow.run session).2.Alike (other.run sessionOther).2

/-- A flow does the same in alike sessions. -/
def Respects (flow : Flow Session α) : Prop :=
  ∀ ⦃session other : Session⦄, session.Alike other →
    (flow.run other).1 = (flow.run session).1 ∧ (flow.run session).2.Alike (flow.run other).2

/-- What does the same leads to alike sessions. -/
theorem Respects.follows {flow : Flow Session α} (respects : Respects flow) : Follows flow flow :=
  fun _ _ alike => (respects alike).2

/-- A value is the same everywhere. -/
theorem respects_pure (x : α) : Respects (pure x) := fun _ _ alike => ⟨rfl, alike⟩

/-- A sequence of flows that do the same does the same. -/
theorem Respects.bind {flow : Flow Session α} {next : α → Flow Session β} (first : Respects flow)
    (later : ∀ x, Respects (next x)) : Respects (flow >>= next) := by
  intro session other alike
  obtain ⟨result, middle⟩ := first alike
  rw [Flow.run_bind, Flow.run_bind]
  generalize flow.run session = ran at result middle ⊢
  generalize flow.run other = ranOther at result middle ⊢
  obtain ⟨outcome, after⟩ := ran
  obtain ⟨outcomeOther, afterOther⟩ := ranOther
  cases result
  cases outcome with
  | error error => exact ⟨rfl, middle⟩
  | ok x => exact later x middle

/-- A flow whose value is only mapped does the same. -/
theorem Respects.map {flow : Flow Session α} (first : Respects flow) (f : α → β) :
    Respects (flow >>= fun x => pure (f x)) :=
  first.bind fun x => respects_pure (f x)

/-- What keys give or refuse is the same. -/
theorem respects_ofCrypto (result : Except CryptoError α) : Respects (.ofCrypto result) := by
  intro session other alike
  cases result <;> exact ⟨rfl, alike⟩

/-- What follows and leaves the session leaves sessions alike. -/
theorem Follows.bind_of_keeps {flow other : Flow Session α} {next : α → Flow Session β}
    (first : Follows flow other) (keeps : ∀ x, Flow.Keeps id (next x)) :
    Follows (flow >>= next) (other >>= next) := by
  have same (flow : Flow Session α) (session : Session) :
      ((flow >>= next).run session).2 = (flow.run session).2 := by
    rw [Flow.run_bind]
    generalize flow.run session = ran
    obtain ⟨result, later⟩ := ran
    cases result with
    | error error => rfl
    | ok x => exact keeps x later
  intro session sessionOther alike
  rw [same, same]
  exact first alike

end Session

/-- The signer of a level is the same. -/
theorem Engine.respects_signer (engine : Engine) (level : KeyLevel) :
    Session.Respects (engine.signer level) := by
  intro session other alike
  have same : other.keys.byLevel other.now engine.memberId level =
      session.keys.byLevel session.now engine.memberId level := by
    rw [alike.keys_eq, alike.now_eq]
  cases found : session.keys.byLevel session.now engine.memberId level with
  | error error =>
    rw [run_signer_of_error found, run_signer_of_error (same.trans found)]
    exact ⟨rfl, alike⟩
  | ok key =>
    rw [run_signer_of_byLevel found, run_signer_of_byLevel (same.trans found)]
    exact ⟨rfl, alike⟩

/-- Signed exchanges of one member and level that send alike calls lead to alike sessions, and give
the same if they are not about accounts. -/
theorem Identity.alike_exchange {α β : Type} [Wire α] [Wire β] {who other : Identity}
    {method : Method} {x : α} (engine : other.engine = who.engine)
    (level : other.context.keyLevel = who.context.keyLevel)
    (calls : ∀ channel key createdAt,
      (who.signedCall channel key createdAt method (encode x)).Alike
        (other.signedCall channel key createdAt method (encode x)))
    {session sessionOther : Session} (alike : session.Alike sessionOther) :
    ((who.exchange method x : Flow Session β).run session).2.Alike
        ((other.exchange method x : Flow Session β).run sessionOther).2 ∧
      (method.isAboutAccounts = false →
        ((other.exchange method x : Flow Session β).run sessionOther).1 =
          ((who.exchange method x : Flow Session β).run session).1) := by
  have same : sessionOther.keys.byLevel sessionOther.now other.engine.memberId
      other.context.keyLevel =
        session.keys.byLevel session.now who.engine.memberId who.context.keyLevel := by
    rw [alike.keys_eq, alike.now_eq, engine, level]
  cases found : session.keys.byLevel session.now who.engine.memberId who.context.keyLevel with
  | error error =>
    rw [run_exchange_of_error found, run_exchange_of_error (same.trans found)]
    exact ⟨alike, fun _ => rfl⟩
  | ok key =>
    rw [exchange, exchange, Flow.run_bind_of_ok (run_headers_of_byLevel found (encode x)),
      Flow.run_bind_of_ok (run_headers_of_byLevel (same.trans found) (encode x)), alike.now_eq]
    exact alike.exchange (calls session.channel key session.now)

/-- Besides its delegation a context tells what the context without delegation tells. -/
theorem CallContext.filter_headers (context : CallContext) :
    context.headers.filter (·.1 ∉ HeaderName.ofDelegation) =
      ({ keyLevel := context.keyLevel, tracking := context.tracking } : CallContext).headers := by
  obtain ⟨token, initiated, level, tracking⟩ := context
  cases token <;> cases initiated <;> cases told : tracking.isEmpty <;>
    simp [headers, told, HeaderName.ofDelegation, HeaderName.onBehalfOf,
      HeaderName.customerInitiated, HeaderName.keyLevel, HeaderName.tracking]

namespace Client

/-- Giving what is served leaves the session. -/
theorem keeps_served {α : Type} (reason : String) (x : Option α) :
    Flow.Keeps (id : Session → Session) (served reason x) := by
  cases x with
  | none => exact Flow.keeps_fail _
  | some x => exact Flow.keeps_pure x

variable {client other : Client} {α β : Type} [Wire α] [Wire β] {method : Method}

/-- A call about the member does the same in alike sessions. -/
theorem respects_member (level : KeyLevel) (member : method.isAboutAccounts = false) (x : α) :
    Session.Respects
      ((client.identity (client.memberContext level)).exchange method x : Flow Session β) := by
  intro session sessionOther alike
  obtain ⟨later, same⟩ := Identity.alike_exchange (β := β) rfl rfl
    (fun channel key createdAt => Call.Alike.refl
      ((client.identity (client.memberContext level)).signedCall channel key createdAt method
        (encode x))) alike
  exact ⟨same member, later⟩

/-- Calls about accounts of clients that differ only in delegation lead to alike sessions. -/
theorem follows_askAccounts (same : other.clearAccessToken = client.clearAccessToken)
    (level : KeyLevel) (about : method.isAboutAccounts = true) (x : α) :
    Session.Follows (client.askAccounts level method x : Flow Session β)
      (other.askAccounts level method x) := by
  obtain ⟨memberId, engine, tracking⟩ : other.memberId = client.memberId ∧
      other.engine = client.engine ∧ other.tracking = client.tracking := by
    simpa [clearAccessToken] using same
  have calls (channel : Channel) (key : SecretKey) (createdAt : Int64) :
      ((client.identity (client.accountContext level)).signedCall channel key createdAt method
        (encode x)).Alike ((other.identity (other.accountContext level)).signedCall channel key
          createdAt method (encode x)) := by
    refine ⟨rfl, rfl, ?_, fun member => absurd (about.symm.trans member) (by decide)⟩
    simp only [Identity.signedCall, Identity.signedHeaders, Channel.callOf, List.filter_append,
      CallContext.filter_headers, identity, accountContext, memberId, tracking]
  have signed : (other.identity (other.accountContext level)).context.keyLevel =
      (client.identity (client.accountContext level)).context.keyLevel := rfl
  intro session sessionOther alike
  exact (Identity.alike_exchange (β := β) engine signed calls alike).1

end Client

end OpenBanking
