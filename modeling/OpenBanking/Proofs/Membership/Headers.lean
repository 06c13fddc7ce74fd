import OpenBanking.Proofs.Gateway.Headers
import OpenBanking.Proofs.Membership.Bootstrap

/-!
# Headers of all calls

Whatever those do who share the channel of a configuration, every call that they send has headers of
different names, so that whoever gets it finds the key of the developer, what names and signs for a
member, and all of the context in which the member calls.
-/

namespace OpenBanking.Membership

section Clear

variable {config : Config} {channel : Channel} (built : config.channel = .ok channel)

include built

/-- What an activity sends over the channel of a configuration has clear headers. -/
theorem Activity.clear_of_makes {activity : Activity} {call : Call}
    (makes : activity.Makes channel call) : call.Clear config := by
  unfold Makes at makes
  split at makes
  next client level _ =>
    obtain ⟨key, createdAt, headers⟩ := makes
    exact Call.clear_of_sublist built headers (Identity.names_signedHeaders_sublist _ _ _ _)
  next =>
    exact Call.clear_of_sublist built (makes.trans (List.append_nil _).symm) (List.nil_sublist _)

/-- The context of a client is read from what it signs. -/
theorem ofHeaders?_of_signs {client : Client} {level : KeyLevel} {call : Call}
    (signs : client.Signs level channel call) :
    CallContext.ofHeaders? call.headers = some (client.contextOf level call.method) := by
  obtain ⟨key, createdAt, headers⟩ := signs
  exact Identity.ofHeaders?_of_headers_eq (Config.leavesNames_channel built) headers

end Clear

/-- Headers lose nothing. The headers of a context have different names, its four fields are read
from them, and so no other context has the same headers. And in every history over the channel of a
configuration, every call that is sent has headers of different names, each of which is found by its
name; the key of the developer is the configured one; and a call that a client sends has, behind the
static headers, those of the member, the key, the signature and the time, then those of the context
of the client, which is read back from the call. -/
theorem headers_loseNothing {config : Config} {channel : Channel}
    (built : config.channel = .ok channel) :
    (∀ context : CallContext, context.headers.names.Nodup ∧
      (context.headers.value? HeaderName.keyLevel).bind Json.ofName? = some context.keyLevel ∧
      context.headers.value? HeaderName.onBehalfOf = context.onBehalfOf ∧
      (context.headers.value? HeaderName.customerInitiated).isSome = context.customerInitiated ∧
      CallContext.trackingOf? (context.headers.value? HeaderName.tracking) = some context.tracking ∧
      ∀ other : CallContext, other.headers = context.headers → other = context) ∧
    ∀ start : Session, start.channel.headers = channel.headers → ∀ history : List Activity,
      (Activity.runAll start history).calls =
        start.calls ++ (Activity.transcript start history).flatMap (·.2) ∧
      ∀ activity sent, (activity, sent) ∈ Activity.transcript start history → ∀ call ∈ sent,
        call.Clear config ∧
        ∀ client level, activity.signer? = some (client, level) →
          CallContext.ofHeaders? call.headers = some (client.contextOf level call.method) ∧
          ∃ keyId signature createdAt, call.headers = channel.headers ++
            [(HeaderName.memberId, client.memberId), (HeaderName.keyId, keyId),
              (HeaderName.signature, signature), (HeaderName.createdAt, createdAt)] ++
            (client.contextOf level call.method).headers := by
  constructor
  · intro context
    refine ⟨?_, context.keyLevel_headers, context.value?_headers.2.1,
      context.isSome_customerInitiated_headers, context.trackingOf?_headers,
      fun other same => CallContext.headers_injective same⟩
    exact HeaderName.nodup_names.sublist
      (context.names_headers_sublist.trans (List.sublist_append_right _ _))
  · intro start opened history
    refine ⟨Activity.calls_runAll start history, fun activity sent mem call called => ?_⟩
    have makes := Activity.makes_of_headers_eq opened
      ((Activity.makes_of_mem_transcript mem).2 call called)
    refine ⟨Activity.clear_of_makes built makes, fun client level signer => ?_⟩
    have signs : client.Signs level channel call := by
      rwa [Activity.Makes, signer] at makes
    refine ⟨ofHeaders?_of_signs built signs, ?_⟩
    obtain ⟨key, createdAt, headers⟩ := signs
    exact ⟨_, _, _, headers.trans (List.append_assoc _ _ _).symm⟩

/-- With a low key the question for the accounts is one signed call. -/
theorem Activity.step_getAccounts {session : Session} (opened : session.channel.closed = false)
    {client : Client} {key : SecretKey}
    (found : session.keys.byLevel session.now client.engine.memberId .low = .ok key) :
    Activity.step session (.request client .getAccounts) =
      session.answered ((client.identity (client.accountContext .low)).signedCall session.channel key
        session.now .getAccounts (Json.encode ({} : Empty))) := by
  have asked := @Identity.run_exchange_of_byLevel (client.identity (client.accountContext .low)) session
    Empty GetAccountsResponse _ _ key found opened .getAccounts {}
  calc Activity.step session (.request client .getAccounts)
      = (client.getAccounts.run session).2 :=
        congrArg Prod.snd (Flow.run_bind_pure client.getAccounts (fun _ => ()) session)
    _ = ((client.askAccounts .low .getAccounts ({} : Empty) :
          Flow Session GetAccountsResponse).run session).2 :=
        congrArg Prod.snd (Flow.run_bind_pure _ GetAccountsResponse.accounts session)
    _ = _ := congrArg Prod.snd asked

/-- Under an access token without a character, and telling of a place that is a quotation mark, a
client asks for accounts because a person wants it. -/
theorem headers_loseNothing_getAccounts :
    ∃ (start : Session) (call : Call),
      (Activity.runAll start [.request ⟨"m:1", ⟨"m:1"⟩, some "", true, { geoLocation := "\"" }⟩
          .getAccounts]).calls = [call] ∧
        call.headers.names.Nodup ∧ call.header? HeaderName.developerKey = some "d" ∧
        CallContext.ofHeaders? call.headers =
          some
            { onBehalfOf := some "", customerInitiated := true,
              tracking := { geoLocation := "\"" } } := by
  obtain ⟨_, ones⟩ := KeyText.exists_ofSeed_ones
  obtain ⟨key, made, _⟩ := SecretKey.exists_ofSeed ones .low
  obtain ⟨channel, built, opened⟩ : ∃ channel,
      ({ developerKey := some "d" } : Config).channel = .ok channel ∧ channel.closed = false :=
    ⟨_, rfl, rfl⟩
  have found : (KeyStore.empty.put "m:1" key).byLevel 0 "m:1" .low = .ok key :=
    KeyStore.byLevel_put_of_ofSeed made .empty "m:1" 0
  have step := @Activity.step_getAccounts
    (.steady channel (fun _ => []) (KeyStore.empty.put "m:1" key) []) opened
    ⟨"m:1", ⟨"m:1"⟩, some "", true, { geoLocation := "\"" }⟩ key found
  have told := (headers_loseNothing built).2
    (.steady channel (fun _ => []) (KeyStore.empty.put "m:1" key) []) rfl
    [.request ⟨"m:1", ⟨"m:1"⟩, some "", true, { geoLocation := "\"" }⟩ .getAccounts]
  have unsent : (Session.steady channel (fun _ => []) (KeyStore.empty.put "m:1" key) []).calls =
      [] := rfl
  generalize Session.steady channel (fun _ => []) (KeyStore.empty.put "m:1" key) [] = start
    at step told unsent
  have context : (⟨"m:1", ⟨"m:1"⟩, some "", true, { geoLocation := "\"" }⟩ : Client).contextOf .low
      .getAccounts =
        { onBehalfOf := some "", customerInitiated := true, tracking := { geoLocation := "\"" } } := rfl
  generalize (⟨"m:1", ⟨"m:1"⟩, some "", true, { geoLocation := "\"" }⟩ : Client) = client
    at step told context ⊢
  generalize isCall : (client.identity (client.accountContext .low)).signedCall start.channel key
    start.now .getAccounts (Json.encode ({} : Empty)) = call at step
  have method : call.method = .getAccounts := by
    rw [← isCall]
    rfl
  have sent : Activity.transcript start [.request client .getAccounts] =
      [(.request client .getAccounts, [call])] := by
    rw [Activity.transcript, step, Session.answered_calls, List.drop_left]
    rfl
  rw [sent, unsent] at told
  obtain ⟨⟨nodup, _, developer, given, named⟩, signed⟩ :=
    told.2 _ _ List.mem_cons_self call List.mem_cons_self
  obtain rfl : "d" = developer := Option.some.inj given
  refine ⟨start, call, told.1, nodup, named, ?_⟩
  rw [(signed client .low rfl).1, method, context]

end OpenBanking.Membership
