import OpenBanking.Proofs.Sending

/-!
# The order of what is sent

A flow has a fixed list of methods: it sends calls of these in this order, stops at the first one
that fails, and has sent all of them if it gives a value. The lists of flows in sequence are
appended, and each call has a property that may speak of the channel it goes over, which no flow
changes.
-/

namespace OpenBanking

open Json

namespace Session

/-- What was sent between two sessions: calls of the first of the methods, of all of them if the
flow has succeeded, each with a property over the channel. -/
structure Sent (P : Channel → Call → Prop) (methods : List Method) (session later : Session)
    (succeeded : Bool) (sent : List Call) : Prop where
  /-- They stand behind the calls before. -/
  calls_eq : later.calls = session.calls ++ sent
  /-- The channel is the same. -/
  channel_eq : later.channel = session.channel
  /-- The methods come in order. -/
  isPrefix_methods : sent.map (·.method) <+: methods
  /-- Success takes all of them. -/
  methods_eq : succeeded = true → sent.map (·.method) = methods
  /-- Each call has the property. -/
  holds : ∀ call ∈ sent, P session.channel call

/-- A flow sends calls of these methods in order, with a property. -/
def Sends {α : Type} (P : Channel → Call → Prop) (methods : List Method) (flow : Flow Session α) :
    Prop :=
  ∀ session : Session, ∃ sent,
    Sent P methods session (flow.run session).2 (flow.run session).1.isOk sent

section Sends

variable {P : Channel → Call → Prop} {α β : Type}

/-- A flow that is silent sends calls of no methods. -/
theorem Silent.sends {flow : Flow Session α} (silent : Silent flow) : Sends P [] flow := by
  intro session
  have way := silent session
  refine ⟨[], ?_, way.channel_eq, List.prefix_refl [], fun _ => rfl, by simp⟩
  rw [way.calls_eq, List.append_nil]

/-- The methods of a sequence are those of its flows, one after the other. -/
theorem Sends.bind {before after : List Method} {flow : Flow Session α}
    {next : α → Flow Session β} (first : Sends P before flow) (later : ∀ x, Sends P after (next x)) :
    Sends P (before ++ after) (flow >>= next) := by
  intro session
  obtain ⟨sent, sentFirst⟩ := first session
  rw [Flow.run_bind]
  generalize flow.run session = ran at sentFirst ⊢
  obtain ⟨result, middle⟩ := ran
  cases result with
  | error error =>
    -- The sequence ends here, in the middle of the methods of its first flow.
    refine ⟨sent, sentFirst.calls_eq, sentFirst.channel_eq, ?_, nofun, sentFirst.holds⟩
    exact sentFirst.isPrefix_methods.trans (List.prefix_append before after)
  | ok x =>
    obtain ⟨sentLater, sentNext⟩ := later x middle
    have all : sent.map (·.method) = before := sentFirst.methods_eq rfl
    refine ⟨sent ++ sentLater, ?_, ?_, ?_, ?_, ?_⟩
    · rw [sentNext.calls_eq, sentFirst.calls_eq, List.append_assoc]
    · rw [sentNext.channel_eq, sentFirst.channel_eq]
    · rw [List.map_append, all, List.prefix_append_right_inj]
      exact sentNext.isPrefix_methods
    · intro succeeded
      rw [List.map_append, all, sentNext.methods_eq succeeded]
    · intro call mem
      cases List.mem_append.1 mem with
      | inl early => exact sentFirst.holds call early
      | inr late => exact sentFirst.channel_eq ▸ sentNext.holds call late

/-- A flow after a silent one has the methods of both. -/
theorem Sends.after {methods : List Method} {flow : Flow Session α} {next : α → Flow Session β}
    (later : ∀ x, Sends P methods (next x)) (silent : Silent flow) :
    Sends P methods (flow >>= next) :=
  silent.sends.bind later

/-- A flow whose value is only mapped sends the same. -/
theorem Sends.map {methods : List Method} {flow : Flow Session α} (first : Sends P methods flow)
    (f : α → β) : Sends P methods (flow >>= fun x => pure (f x)) := by
  have both := first.bind fun x => (silent_pure (f x)).sends (P := P)
  rwa [List.append_nil] at both

/-- Calls with a property have each property that follows from it. -/
theorem Sends.mono {Q : Channel → Call → Prop} {methods : List Method} {flow : Flow Session α}
    (sends : Sends P methods flow) (follows : ∀ channel call, P channel call → Q channel call) :
    Sends Q methods flow := by
  intro session
  obtain ⟨sent, all⟩ := sends session
  exact ⟨sent, all.calls_eq, all.channel_eq, all.isPrefix_methods, all.methods_eq,
    fun call mem => follows _ call (all.holds call mem)⟩

/-- An exchange sends the call of its value. -/
theorem sends_exchange [Wire α] [Wire β] {method : Method} {headers : Headers} {x : α}
    (holds : ∀ channel : Channel, P channel (channel.callOf method headers (encode x))) :
    Sends P [method] (exchange method headers x : Flow Session β) := by
  intro session
  cases closed : session.channel.closed with
  | true =>
    rw [run_exchange_of_closed closed]
    exact ⟨[], (List.append_nil _).symm, rfl, List.nil_prefix, nofun, by simp⟩
  | false =>
    rw [run_exchange_of_open closed]
    refine ⟨[_], rfl, rfl, List.prefix_refl _, fun _ => rfl, ?_⟩
    intro call mem
    rw [List.mem_singleton.1 mem]
    exact holds session.channel

end Sends

end Session

variable {P : Channel → Call → Prop} {α β : Type} [Wire α] [Wire β] {method : Method} {x : α}

/-- A signed exchange sends the signed call of its value. -/
theorem Identity.sends_exchange (who : Identity)
    (holds : ∀ channel key createdAt,
      P channel (who.signedCall channel key createdAt method (encode x))) :
    Session.Sends P [method] (who.exchange method x : Flow Session β) := by
  intro session
  cases found : session.keys.byLevel session.now who.engine.memberId who.context.keyLevel with
  | error error =>
    rw [run_exchange_of_error found]
    exact ⟨[], (List.append_nil _).symm, rfl, List.nil_prefix, nofun, by simp⟩
  | ok key =>
    rw [exchange, Flow.run_bind_of_ok (run_headers_of_byLevel found (encode x))]
    exact Session.sends_exchange (fun channel => holds channel key session.now) session

/-- An update of a client sends one signed request of the operations and metadata, and none if there
are no operations. -/
theorem Client.sends_updateMember (client : Client) (record : MemberRecord)
    (operations : List MemberOperation) (metadata : List OperationMetadata)
    (holds : ∀ channel key createdAt signature,
      P channel ((client.identity client.ownContext).signedCall channel key createdAt .updateMember
        (encode (UpdateMemberRequest.mk ⟨record.id, record.lastHash, operations⟩ signature
          metadata)))) :
    Session.Sends P (if operations.isEmpty then [] else [.updateMember])
      (client.updateMember record operations metadata) := by
  have update : (MemberUpdate.ofRecord record).append operations =
      ⟨record.id, record.lastHash, operations⟩ := by
    simp [MemberUpdate.ofRecord, MemberUpdate.append]
  cases none : operations.isEmpty with
  | true =>
    simp only [updateMember, none, ↓reduceIte]
    exact (Session.silent_pure record).sends
  | false =>
    simp only [updateMember, none, update, Bool.false_eq_true, ↓reduceIte]
    refine Session.Sends.after (fun signature => ?_) (client.silent_signPrivileged _)
    have asks : Session.Sends P [.updateMember] (client.ask .updateMember
        (UpdateMemberRequest.mk ⟨record.id, record.lastHash, operations⟩ signature metadata) :
          Flow Session MemberResponse) :=
      Identity.sends_exchange _ fun channel key createdAt => holds channel key createdAt signature
    exact asks.map _

/-- Renewing the record of a member sends what the flow sends that gives the record. -/
theorem Member.sends_acting_renew (member : Member) {methods : List Method}
    {flow : Member → Flow Session MemberRecord} (sends : Session.Sends P methods (flow member)) :
    Session.Sends P methods (member.acting (renew flow)) := by
  intro session
  have succeeds : ((member.acting (renew flow)).run session).1.isOk =
      ((flow member).run session).1.isOk := by
    have gives : (Flow.onSecond (flow member)).run (member, session) =
        (((flow member).run session).1, member, ((flow member).run session).2) := rfl
    show ((renew flow).run (member, session)).1.isOk = _
    rw [renew, Flow.run_bind_of_ok (Flow.run_read _ _), Flow.run_bind, gives]
    cases ((flow member).run session).1 <;> rfl
  rw [run_acting_renew, succeeds]
  exact sends session

end OpenBanking
