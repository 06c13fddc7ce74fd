import OpenBanking.Proofs.Flow
import OpenBanking.Proofs.Json.Lossless
import OpenBanking.Session

/-!
# What a call changes

A closed channel refuses a call, and nothing changes. An open channel hands the gateway one call,
whose static headers stand first, and its answer changes the clock and what was sent and logged; the
channel, the gateway, the keys, the seeds and the random octets stay.
-/

namespace OpenBanking.Session

open Json

/-- The session after the gateway has answered a call. -/
def answered (session : Session) (call : Call) : Session :=
  let answer := session.gateway session.calls call
  { session with
    calls := session.calls ++ [call]
    now := answer.arrival
    events := session.events ++ [.ofResult call.method
      (answer.arrival.toInt - session.now.toInt).toNat answer.result] }

section Answered

variable (session : Session) (call : Call)

/-- The call stands behind those before it. -/
@[simp]
theorem answered_calls : (session.answered call).calls = session.calls ++ [call] := rfl

/-- An answer leaves the channel. -/
@[simp]
theorem answered_channel : (session.answered call).channel = session.channel := rfl

/-- An answer leaves the gateway. -/
@[simp]
theorem answered_gateway : (session.answered call).gateway = session.gateway := rfl

/-- An answer leaves the keys. -/
@[simp]
theorem answered_keys : (session.answered call).keys = session.keys := rfl

/-- An answer leaves the seeds. -/
@[simp]
theorem answered_seeds : (session.answered call).seeds = session.seeds := rfl

/-- An answer leaves the random octets. -/
@[simp]
theorem answered_entropy : (session.answered call).entropy = session.entropy := rfl

end Answered

variable {session : Session}

/-- A closed channel refuses every call. -/
theorem run_send_of_closed (closed : session.channel.closed = true) (method : Method)
    (headers : Headers) (body : List UInt8) :
    (send method headers body).run session = (.error .channelClosed, session) := by
  simp [Flow.run, send, Channel.admit?, closed]

/-- An open channel hands the gateway one call. -/
theorem run_send_of_open (opened : session.channel.closed = false) (method : Method)
    (headers : Headers) (body : List UInt8) :
    (send method headers body).run session =
      ((session.gateway session.calls (session.channel.callOf method headers body)).result,
        session.answered (session.channel.callOf method headers body)) := by
  cases admitted : session.channel.admit? with
  | none => simp [Channel.admit?, opened] at admitted
  | some channel =>
    have released := Channel.release_of_admit? admitted
    have same : channel.callOf method headers body =
        session.channel.callOf method headers body := by
      simp only [Channel.admit?, opened, Bool.false_eq_true, ↓reduceIte, Option.some.injEq]
        at admitted
      rw [← admitted]
      rfl
    simp only [Flow.run, send, admitted, released, same, log, answered]
    rfl

/-- What an exchange makes of an answer. -/
def read (β : Type) [Wire β] (answer : Answer) : Except ClientError β :=
  match answer.result with
  | .ok body => readAnswer body
  | .error error => .error error

/-- A written value is read back from an answer. -/
theorem read_encode {β : Type} [Wire β] [Lossless depthLimit β] (x : β) (arrival : Int64) :
    read β ⟨.ok (encode x), arrival⟩ = .ok x := by
  have some : (encode x).isEmpty = false := List.isEmpty_eq_false_iff.2 (toValue x).octets_ne_nil
  simp only [read, readAnswer, some, Bool.false_eq_true, ↓reduceIte, decode_encode]

/-- A closed channel refuses every exchange. -/
theorem run_exchange_of_closed {α β : Type} [Wire α] [Wire β]
    (closed : session.channel.closed = true) (method : Method) (headers : Headers) (x : α) :
    (exchange method headers x : Flow Session β).run session = (.error .channelClosed, session) :=
  Flow.run_bind_of_error (run_send_of_closed closed method headers (encode x)) _

/-- An exchange over an open channel is one call with the written value, and its answer is read. -/
theorem run_exchange_of_open {α β : Type} [Wire α] [Wire β]
    (opened : session.channel.closed = false) (method : Method) (headers : Headers) (x : α) :
    (exchange method headers x : Flow Session β).run session =
      (read β (session.gateway session.calls (session.channel.callOf method headers (encode x))),
        session.answered (session.channel.callOf method headers (encode x))) := by
  have sent := run_send_of_open opened method headers (encode x)
  generalize session.channel.callOf method headers (encode x) = call at sent ⊢
  cases result : (session.gateway session.calls call).result with
  | error error =>
    rw [result] at sent
    rw [read, result]
    exact Flow.run_bind_of_error sent _
  | ok body =>
    rw [result] at sent
    rw [read, result]
    exact (Flow.run_bind_of_ok sent _).trans (Flow.run_ofExcept _ _)

/-! ## Flows that send nothing -/

/-- The same calls have been sent, and later calls go the same way. -/
structure SameWay (session later : Session) : Prop where
  /-- Nothing was sent. -/
  calls_eq : later.calls = session.calls
  /-- The channel is the same. -/
  channel_eq : later.channel = session.channel
  /-- The gateway is the same. -/
  gateway_eq : later.gateway = session.gateway

/-- What goes the same way as what goes the same way goes the same way. -/
theorem SameWay.trans {session middle later : Session} (first : session.SameWay middle)
    (second : middle.SameWay later) : session.SameWay later :=
  ⟨second.calls_eq.trans first.calls_eq, second.channel_eq.trans first.channel_eq,
    second.gateway_eq.trans first.gateway_eq⟩

/-- A flow sends nothing, whether it fails or not. -/
def Silent {α : Type} (flow : Flow Session α) : Prop :=
  ∀ session : Session, session.SameWay (flow.run session).2

/-- A sequence of silent flows is silent. -/
theorem Silent.bind {α β : Type} {flow : Flow Session α} {next : α → Flow Session β}
    (first : Silent flow) (later : ∀ x, Silent (next x)) : Silent (flow >>= next) := by
  intro session
  have before := first session
  rw [Flow.run_bind]
  generalize flow.run session = ran at before ⊢
  obtain ⟨result, middle⟩ := ran
  cases result with
  | error error => exact before
  | ok x => exact before.trans (later x middle)

/-- A value sends nothing. -/
theorem silent_pure {α : Type} (x : α) : Silent (pure x) := fun _ => ⟨rfl, rfl, rfl⟩

/-- Reading sends nothing. -/
theorem silent_read {α : Type} (f : Session → α) : Silent (.read f) := fun _ => ⟨rfl, rfl, rfl⟩

/-- What keys give or refuse sends nothing. -/
theorem silent_ofCrypto {α : Type} (result : Except CryptoError α) : Silent (.ofCrypto result) := by
  intro session
  cases result <;> exact ⟨rfl, rfl, rfl⟩

/-- A new key sends nothing. -/
theorem silent_freshKey (level : KeyLevel) : Silent (freshKey level) := by
  intro session
  cases seeds : session.seeds with
  | nil =>
    simp only [Flow.run, freshKey, seeds]
    exact ⟨rfl, rfl, rfl⟩
  | cons seed later =>
    have made := silent_ofCrypto (SecretKey.ofSeed seed level) { session with seeds := later }
    simp only [Flow.run, freshKey, seeds]
    exact ⟨made.calls_eq, made.channel_eq, made.gateway_eq⟩

/-- A new session in the sandbox. Its gateway answers every call with a body, and its clock stands
still. -/
def steady (channel : Channel) (answer : Call → List UInt8) (keys : KeyStore)
    (seeds : List String) : Session where
  cluster := .sandbox
  channel
  gateway _ call := ⟨.ok (answer call), 0⟩
  keys
  seeds
  entropy _ := []
  now := 0

end OpenBanking.Session
