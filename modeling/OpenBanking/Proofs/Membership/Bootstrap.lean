import OpenBanking.Anonymous.Action
import OpenBanking.Proofs.Client.Sending
import OpenBanking.Proofs.Membership.Stages

/-!
# Bootstrapping carries no identity

Whoever has no identity yet, or must not use it, asks in calls that have the headers of the channel
and no others. This holds of everything that is asked without identity and of the flows made of it,
with whatever keys are there and whatever the gateway answers, and also after clients of the same
channel have sent signed calls: nothing that a signed call adds stays on the channel.
-/

namespace OpenBanking

/-- A call has the headers of the channel and no others. -/
def Channel.Bare (channel : Channel) (call : Call) : Prop := call.headers = channel.headers

/-- Where the channel leaves the names of signed calls, a bare call has none of them. -/
theorem Channel.Bare.header?_eq_none {channel : Channel} {call : Call} (bare : channel.Bare call)
    (leaves : channel.LeavesNames) {name : String}
    (named : name ∈ HeaderName.ofIdentity ++ HeaderName.ofContext) : call.header? name = none := by
  have free : ∀ header ∈ channel.headers, header.1 ≠ name := by
    intro header held same
    rw [← same] at named
    exact leaves header held named
  have hidden := Headers.value?_append_of_forall_ne free []
  rw [List.append_nil] at hidden
  rw [Call.header?, bare, hidden]
  rfl

/-! ## What is asked without identity -/

namespace Anonymous

/-- A question without identity is one bare call, whatever its method is. -/
theorem sends_ask {α β : Type} [Json.Wire α] [Json.Wire β] (method : Method) (x : α) :
    Session.Sends Channel.Bare [method] (ask method x : Flow Session β) :=
  Session.sends_exchange fun channel => List.append_nil channel.headers

/-- An alias is resolved in one bare call. -/
theorem sends_resolveAlias (x : Alias) :
    Session.Sends Channel.Bare [.resolveAlias] (resolveAlias x) :=
  (sends_ask _ _).map _

/-- The owner of an alias is had, or found missing, in one call. -/
theorem sends_getMemberId (x : Alias) :
    Session.Sends Channel.Bare [.resolveAlias] (getMemberId x) := by
  refine (sends_resolveAlias x).bind fun owner => ?_
  cases owner with
  | none => exact (Session.silent_fail _).sends
  | some member => exact (Session.silent_pure _).sends

/-- The id of a new member is had in one bare call; the nonce is made before it. -/
theorem sends_createMemberId (kind : MemberKind) (realmId : Option String) :
    Session.Sends Channel.Bare [.createMember] (createMemberId kind realmId) :=
  Session.Sends.after (fun _ => (sends_ask _ _).map _) Session.silent_freshNonce

/-- The record of a member is had in one bare call. -/
theorem sends_getMember (memberId : String) :
    Session.Sends Channel.Bare [.getMember] (getMember memberId) :=
  (sends_ask _ _).map _

/-- The default agent is had in one bare call. -/
theorem sends_getDefaultAgent : Session.Sends Channel.Bare [.getDefaultAgent] getDefaultAgent :=
  (sends_ask _ _).map _

/-- The signature of an update stands in its body. -/
theorem sends_applyUpdate (update : MemberUpdate) (metadata : List OperationMetadata)
    (signer : Signer) :
    Session.Sends Channel.Bare [.updateMember] (applyUpdate update metadata signer) :=
  Session.Sends.after (fun _ => (sends_ask _ _).map _) (Session.silent_ofCrypto _)

/-- A member is created by one bare call, after which the event is only logged. -/
theorem sends_createMember (memberId : String) (operations : List MemberOperation)
    (metadata : List OperationMetadata) (signer : Signer) :
    Session.Sends Channel.Bare [.updateMember] (createMember memberId operations metadata signer) :=
  (sends_applyUpdate _ metadata signer).bind fun record =>
    ((Session.silent_emit _).bind fun _ => Session.silent_pure record).sends

/-- A code is handed in by one call, accepted or not. -/
theorem sends_getRecoveryAuthorization (verificationId code : String) (key : Key) :
    Session.Sends Channel.Bare [.completeRecovery]
      (getRecoveryAuthorization verificationId code key) := by
  refine (sends_ask _ _).bind fun (response : CompleteRecoveryResponse) => ?_
  by_cases success : response.status = .success
  · rw [if_pos success]
    exact (Session.silent_pure _).sends
  · rw [if_neg success]
    exact (Session.silent_fail _).sends

/-- What both recoveries end with are two bare calls: one for the record, one for the update of it.
-/
theorem sends_recoverWith (memberId : String) (update : MemberRecord → MemberUpdate)
    (signer : Signer) (event : String → Event) :
    Session.Sends Channel.Bare [.getMember, .updateMember]
      (recoverWith memberId update signer event) := by
  refine (sends_getMember memberId).bind fun record => ?_
  exact (sends_applyUpdate _ [] signer).bind fun recovered =>
    ((Session.silent_emit _).bind fun _ => Session.silent_pure recovered).sends

/-- A recovery makes its keys first and then sends these two calls. -/
theorem sends_completeRecovery (memberId : String) (entries : List RecoveryEntry)
    (privileged : Key) (engine : Engine) :
    Session.Sends Channel.Bare [.getMember, .updateMember]
      (completeRecovery memberId entries privileged engine) := by
  rw [completeRecovery_eq]
  exact Session.Sends.after (fun _ => sends_recoverWith memberId _ _ _) (silent_recoveryKeys engine)

/-- A recovery by the default rule hands its code in before these two calls. -/
theorem sends_completeRecoveryByDefault (memberId verificationId code : String) (engine : Engine) :
    Session.Sends Channel.Bare [.completeRecovery, .getMember, .updateMember]
      (completeRecoveryByDefault memberId verificationId code engine) := by
  rw [completeRecoveryByDefault_eq]
  refine Session.Sends.after (fun keys => ?_) (silent_defaultRecoveryKeys engine)
  exact (sends_getRecoveryAuthorization verificationId code _).bind fun entry =>
    sends_recoverWith memberId _ _ _

namespace Action

/-- The methods that an action calls, in order. -/
def methods : Action → List Method
  | resolveAlias _ | aliasExists _ | getMemberId _ => [.resolveAlias]
  | createMemberId _ _ => [.createMember]
  | createMember _ _ _ _ => [.updateMember]
  | getMember _ | createRecoveryAuthorization _ _ => [.getMember]
  | getDefaultAgent => [.getDefaultAgent]
  | notifyAddKey _ _ _ => [.notify]
  | invalidateNotification _ => [.invalidateNotification]
  | getBlob _ => [.getBlob]
  | beginRecovery _ => [.beginRecovery]
  | getRecoveryAuthorization _ _ _ => [.completeRecovery]
  | completeRecovery _ _ _ _ => [.getMember, .updateMember]
  | completeRecoveryByDefault _ _ _ _ => [.completeRecovery, .getMember, .updateMember]
  | getBanks _ => [.getBanks]

/-- Showing what a flow gives sends nothing more. -/
theorem sends_shown {α : Type} [Json.Wire α] {methods : List Method} {flow : Flow Session α}
    (sends : Session.Sends Channel.Bare methods flow) :
    Session.Sends Channel.Bare methods (shown flow) :=
  sends.map Json.toValue

/-- What an action sends: bare calls of its methods in order. -/
theorem sends (action : Action) : Session.Sends Channel.Bare action.methods action.run := by
  cases action with
  | resolveAlias x => exact sends_shown (sends_resolveAlias x)
  | aliasExists x => exact sends_shown ((sends_resolveAlias x).map _)
  | getMemberId x => exact sends_shown (sends_getMemberId x)
  | createMemberId kind realmId => exact sends_shown (sends_createMemberId kind realmId)
  | createMember memberId operations metadata signer =>
    exact sends_shown (sends_createMember memberId operations metadata signer)
  | getMember memberId => exact sends_shown (sends_getMember memberId)
  | getDefaultAgent => exact sends_shown sends_getDefaultAgent
  | notifyAddKey x keys device => exact sends_shown ((sends_ask _ _).map _)
  | invalidateNotification notificationId => exact sends_shown ((sends_ask _ _).map _)
  | getBlob blobId => exact sends_shown ((sends_ask _ _).map _)
  | beginRecovery x => exact sends_shown ((sends_ask _ _).map _)
  | createRecoveryAuthorization memberId key => exact sends_shown ((sends_getMember memberId).map _)
  | getRecoveryAuthorization verificationId code key =>
    exact sends_shown (sends_getRecoveryAuthorization verificationId code key)
  | completeRecovery memberId entries privileged engine =>
    exact sends_shown (sends_completeRecovery memberId entries privileged engine)
  | completeRecoveryByDefault memberId verificationId code engine =>
    exact sends_shown (sends_completeRecoveryByDefault memberId verificationId code engine)
  | getBanks query => exact sends_shown ((sends_ask _ _).map _)

end Action

end Anonymous

namespace Membership

/-! ## The flows made of it -/

/-- A member is set up in two bare calls, between which its keys are made. -/
theorem sends_setUp (x : Option Alias) (memberId : String) :
    Session.Sends Channel.Bare [.getDefaultAgent, .updateMember] (setUp x memberId) := by
  rw [setUp_eq]
  refine Anonymous.sends_getDefaultAgent.bind fun agentId => ?_
  refine Session.Sends.after (fun keys => ?_) (Anonymous.silent_defaultRecoveryKeys _)
  exact (Anonymous.sends_createMember memberId _ _ _).bind fun record =>
    (silent_bind record ⟨record.id⟩).sends

/-- The keys of a new device are made after the one call for the owner of the alias. -/
theorem sends_provisionDevice (x : Alias) :
    Session.Sends Channel.Bare [.resolveAlias] (provisionDevice x) := by
  refine (Anonymous.sends_getMemberId x).bind fun memberId => Session.Silent.sends ?_
  refine (Engine.silent_generate _ .privileged).bind fun privileged => ?_
  refine (Engine.silent_generate _ .standard).bind fun standard => ?_
  exact (Engine.silent_generate _ .low).bind fun low => Session.silent_pure _

/-- All that is done without identity: what can be asked without one, and the flows made of it. -/
inductive Bootstrap where
  /-- Ask something. -/
  | ask (action : Anonymous.Action)
  /-- Fetch a stored token request. -/
  | retrieveTokenRequest (requestId : String)
  /-- Create a member, in a realm or in none. -/
  | create (x : Option Alias) (kind : MemberKind) (realmId : Option String)
  /-- Set up an id without keys. -/
  | setUp (x : Option Alias) (memberId : String)
  /-- Make keys for a new device of the owner of an alias. -/
  | provisionDevice (x : Alias)
  /-- Recover a member by the words of agents, to act for it. -/
  | recover (memberId : String) (entries : List RecoveryEntry) (privileged : Key) (engine : Engine)
  /-- Recover a member by a code, to act for it. -/
  | recoverByDefault (memberId verificationId code : String)

namespace Bootstrap

/-- Does what is to be done, whatever it gives. -/
def run : Bootstrap → Flow Session Unit
  | ask action => discard action.run
  | retrieveTokenRequest requestId => discard (Anonymous.retrieveTokenRequest requestId)
  | create x kind realmId => discard (Membership.create x kind realmId)
  | setUp x memberId => discard (Membership.setUp x memberId)
  | provisionDevice x => discard (Membership.provisionDevice x)
  | recover memberId entries privileged engine =>
    discard (Membership.recover memberId entries privileged engine)
  | recoverByDefault memberId verificationId code =>
    discard (Membership.recoverByDefault memberId verificationId code)

/-- The methods that are called, in order. -/
def methods : Bootstrap → List Method
  | ask action => action.methods
  | retrieveTokenRequest _ => [.retrieveTokenRequest]
  | create _ _ _ => [.createMember, .getDefaultAgent, .updateMember]
  | setUp _ _ => [.getDefaultAgent, .updateMember]
  | provisionDevice _ => [.resolveAlias]
  | recover _ _ _ _ => [.getMember, .updateMember]
  | recoverByDefault _ _ _ => [.completeRecovery, .getMember, .updateMember]

/-- What is sent: bare calls of these methods in order. -/
theorem sends (x : Bootstrap) : Session.Sends Channel.Bare x.methods x.run := by
  cases x with
  | ask action => exact action.sends.map _
  | retrieveTokenRequest requestId => exact ((Anonymous.sends_ask _ _).map _).map _
  | create x kind realmId =>
    have creates : Session.Sends Channel.Bare [.createMember, .getDefaultAgent, .updateMember]
        (Membership.create x kind realmId) :=
      (Anonymous.sends_createMemberId kind realmId).bind fun memberId => sends_setUp x memberId
    exact creates.map _
  | setUp x memberId => exact (sends_setUp x memberId).map _
  | provisionDevice x => exact (sends_provisionDevice x).map _
  | recover memberId entries privileged engine =>
    have recovers : Session.Sends Channel.Bare [.getMember, .updateMember]
        (Membership.recover memberId entries privileged engine) :=
      (Anonymous.sends_completeRecovery memberId entries privileged engine).bind fun record =>
        (silent_bind record engine).sends
    exact recovers.map _
  | recoverByDefault memberId verificationId code =>
    have recovers : Session.Sends Channel.Bare [.completeRecovery, .getMember, .updateMember]
        (Membership.recoverByDefault memberId verificationId code) :=
      (Anonymous.sends_completeRecoveryByDefault memberId verificationId code _).bind fun record =>
        (silent_bind record _).sends
    exact recovers.map _

end Bootstrap

/-! ## Histories of a channel -/

/-- What those who share a channel do, one after the other. -/
inductive Activity where
  /-- Something is done without identity. -/
  | bootstrap (x : Bootstrap)
  /-- A client sends a request, signed in the name of its member. -/
  | request (client : Client) (x : Client.Request)
  /-- A member is found by the keys that are there, in its own name. -/
  | find (memberId : String)
  /-- The channel is shut down. -/
  | shutdown
  /-- Keys, seeds, random octets and the clock change elsewhere. -/
  | elsewhere (keys : KeyStore) (seeds : List String) (entropy : Nat → List UInt8) (now : Int64)

namespace Activity

/-- The session after an activity, whether it failed or not. -/
def step (session : Session) : Activity → Session
  | bootstrap x => (x.run.run session).2
  | request client x => ((x.send client).run session).2
  | find memberId => ((Membership.find memberId).run session).2
  | shutdown => (Session.shutdown.run session).2
  | elsewhere keys seeds entropy now => { session with keys, seeds, entropy, now }

/-- The session after a history. -/
def runAll (session : Session) (history : List Activity) : Session := history.foldl step session

/-- The activities of a history, each with the calls that it sent. -/
def transcript : Session → List Activity → List (Activity × List Call)
  | _, [] => []
  | session, activity :: later =>
    (activity, (activity.step session).calls.drop session.calls.length) ::
      transcript (activity.step session) later

/-- A transcript tells all activities of its history. -/
theorem map_transcript (session : Session) (history : List Activity) :
    (transcript session history).map (·.1) = history := by
  induction history generalizing session with
  | nil => rfl
  | cons activity later ih => rw [transcript, List.map_cons, ih]

/-- The methods that an activity calls, in order. -/
def methods : Activity → List Method
  | bootstrap x => x.methods
  | request _ x => x.methods
  | find _ => [.getMember]
  | shutdown | elsewhere _ _ _ _ => []

/-- The client whose calls an activity sends and the level that they are signed at, unless it is
done without identity. -/
def signer? : Activity → Option (Client × KeyLevel)
  | request client x => some (client, x.level)
  | find memberId => some (.new memberId ⟨memberId⟩, .low)
  | bootstrap _ | shutdown | elsewhere _ _ _ _ => none

/-- A call is one that an activity sends over a channel: signed by its client, or bare if it has
none. -/
def Makes (activity : Activity) (channel : Channel) (call : Call) : Prop :=
  match activity.signer? with
  | some (client, level) => client.Signs level channel call
  | none => channel.Bare call

/-- Of a channel only the headers count. -/
theorem makes_of_headers_eq {activity : Activity} {channel other : Channel} {call : Call}
    (same : other.headers = channel.headers) (makes : activity.Makes other call) :
    activity.Makes channel call := by
  unfold Makes at makes ⊢
  cases signer : activity.signer? with
  | none =>
    rw [signer] at makes
    exact makes.trans same
  | some who =>
    obtain ⟨client, level⟩ := who
    rw [signer] at makes
    obtain ⟨key, createdAt, headers⟩ := makes
    exact ⟨key, createdAt, same ▸ headers⟩

/-- What one activity does: it sends calls of its methods behind those before, and leaves the
headers of the channel. -/
theorem exists_sent_step (activity : Activity) (session : Session) :
    ∃ sent, (activity.step session).calls = session.calls ++ sent ∧
      (activity.step session).channel.headers = session.channel.headers ∧
      sent.map (·.method) <+: activity.methods ∧
      ∀ call ∈ sent, activity.Makes session.channel call := by
  have told {α : Type} {flow : Flow Session α}
      (sends : Session.Sends activity.Makes activity.methods flow) : ∃ sent,
      (flow.run session).2.calls = session.calls ++ sent ∧
        (flow.run session).2.channel.headers = session.channel.headers ∧
        sent.map (·.method) <+: activity.methods ∧
        ∀ call ∈ sent, activity.Makes session.channel call := by
    obtain ⟨sent, all⟩ := sends session
    exact ⟨sent, all.calls_eq, congrArg Channel.headers all.channel_eq, all.isPrefix_methods,
      all.holds⟩
  cases activity with
  | bootstrap x => exact told x.sends
  | request client x => exact told (x.sends_signed client)
  | find memberId =>
    have finds : Session.Sends ((Client.new memberId ⟨memberId⟩).Signs .low) [.getMember]
        (Membership.find memberId) :=
      ((Client.new memberId ⟨memberId⟩).sends_getMember memberId).bind fun record =>
        ((Session.silent_read _).bind fun cluster => Session.silent_pure _).sends
    exact told finds
  | shutdown => exact ⟨[], (List.append_nil _).symm, rfl, List.nil_prefix, by simp⟩
  | elsewhere keys seeds entropy now =>
    exact ⟨[], (List.append_nil _).symm, rfl, List.nil_prefix, by simp⟩

/-- The calls of a session after a history are those before and those of its activities. -/
theorem calls_runAll (session : Session) (history : List Activity) :
    (runAll session history).calls =
      session.calls ++ (transcript session history).flatMap (·.2) := by
  induction history generalizing session with
  | nil => exact (List.append_nil _).symm
  | cons activity later ih =>
    obtain ⟨sent, calls, _⟩ := activity.exists_sent_step session
    have own : (activity.step session).calls.drop session.calls.length = sent := by
      rw [calls, List.drop_left]
    rw [transcript, List.flatMap_cons, own, ← List.append_assoc, ← calls]
    exact ih (activity.step session)

/-- Whatever is done in a history sends calls of its methods in order, over the headers that the
channel had at the start. -/
theorem makes_of_mem_transcript {session : Session} {history : List Activity} {activity : Activity}
    {sent : List Call} (mem : (activity, sent) ∈ transcript session history) :
    sent.map (·.method) <+: activity.methods ∧ ∀ call ∈ sent, activity.Makes session.channel call := by
  -- The headers of the channel are what they were, however long the history is by then.
  induction history generalizing session with
  | nil => cases mem
  | cons first later ih =>
    obtain ⟨own, calls, headers, methods, makes⟩ := first.exists_sent_step session
    rcases List.mem_cons.1 mem with same | mem
    · obtain ⟨rfl, isOwn⟩ := Prod.mk.inj same
      rw [calls, List.drop_left] at isOwn
      rw [isOwn]
      exact ⟨methods, makes⟩
    · obtain ⟨methods, makesLater⟩ := ih mem
      exact ⟨methods, fun call called => makes_of_headers_eq headers (makesLater call called)⟩

/-- Whatever is done without identity in a history sends bare calls of its methods in order. -/
theorem bare_of_mem_transcript {session : Session} {history : List Activity} {x : Bootstrap}
    {sent : List Call} (mem : (bootstrap x, sent) ∈ transcript session history) :
    sent.map (·.method) <+: x.methods ∧ ∀ call ∈ sent, session.channel.Bare call :=
  makes_of_mem_transcript mem

end Activity

/-- Bootstrapping carries no identity. In every history of a channel, in which clients may send
signed requests, members be found, keys and clocks change and the channel be shut down, the calls
that are sent are those of the activities in order, and whatever is done without identity sends
calls of its methods in order that have exactly the headers that the channel had at the start. If
these leave the names of signed calls, as those of every configuration do, then such a call has none
of the headers that tell a member, a key, a signature, a time, a level, an access token, the mark of
a person or the tracking. Where nothing is done but without identity, this holds of all calls that
are sent. -/
theorem bootstrap_calls_bare (start : Session) :
    (∀ history : List Activity,
      (Activity.runAll start history).calls =
        start.calls ++ (Activity.transcript start history).flatMap (·.2) ∧
      ∀ (x : Bootstrap) (sent : List Call),
        (.bootstrap x, sent) ∈ Activity.transcript start history →
        sent.map (·.method) <+: x.methods ∧
        ∀ call ∈ sent, call.headers = start.channel.headers ∧
          (start.channel.LeavesNames →
            ∀ name ∈ HeaderName.ofIdentity ++ HeaderName.ofContext, call.header? name = none)) ∧
    ∀ operations : List Bootstrap, ∃ sent,
      (Activity.runAll start (operations.map .bootstrap)).calls = start.calls ++ sent ∧
      ∀ call ∈ sent, call.headers = start.channel.headers := by
  constructor
  · intro history
    refine ⟨Activity.calls_runAll start history, fun x sent mem => ?_⟩
    obtain ⟨methods, bare⟩ := Activity.bare_of_mem_transcript mem
    refine ⟨methods, fun call called => ⟨bare call called, fun leaves name named => ?_⟩⟩
    exact (bare call called).header?_eq_none leaves named
  · intro operations
    refine ⟨_, Activity.calls_runAll start _, fun call called => ?_⟩
    obtain ⟨⟨activity, sent⟩, mem, called⟩ := List.mem_flatMap.1 called
    have listed : activity ∈
        (Activity.transcript start (operations.map Activity.bootstrap)).map (·.1) :=
      List.mem_map_of_mem mem
    rw [Activity.map_transcript] at listed
    obtain ⟨x, _, rfl⟩ := List.mem_map.1 listed
    exact (Activity.bare_of_mem_transcript mem).2 call called

/-- With a low key the question for the aliases of a member is one signed call. -/
theorem Activity.step_getAliases {session : Session} (opened : session.channel.closed = false)
    {id : String} {key : SecretKey} (found : session.keys.byLevel session.now id .low = .ok key) :
    Activity.step session (.request (.new id ⟨id⟩) .getAliases) =
      session.answered ((⟨id, ⟨id⟩, {}⟩ : Identity).signedCall session.channel key session.now
        .getAliases (Json.encode ({} : Empty))) := by
  have asked := @Identity.run_exchange_of_byLevel ⟨id, ⟨id⟩, {}⟩ session Empty GetAliasesResponse
    _ _ key found opened .getAliases {}
  calc Activity.step session (.request (.new id ⟨id⟩) .getAliases)
      = ((Client.new id ⟨id⟩).getAliases.run session).2 :=
        congrArg Prod.snd (Flow.run_bind_pure (Client.new id ⟨id⟩).getAliases (fun _ => ()) session)
    _ = (((Client.new id ⟨id⟩).ask .getAliases ({} : Empty) :
          Flow Session GetAliasesResponse).run session).2 :=
        congrArg Prod.snd (Flow.run_bind_pure _ GetAliasesResponse.aliases session)
    _ = _ := congrArg Prod.snd asked

/-- The question for the record of a member without identity is one call with the headers of the
channel. -/
theorem Activity.calls_step_getMember {session : Session} (opened : session.channel.closed = false)
    (id : String) :
    (Activity.step session (.bootstrap (.ask (.getMember id)))).calls =
      session.calls ++ [session.channel.plainCall .getMember (GetMemberRequest.mk id)] := by
  have asked := Anonymous.run_ask_of_open (β := MemberResponse) opened .getMember
    (GetMemberRequest.mk id)
  calc (Activity.step session (.bootstrap (.ask (.getMember id)))).calls
      = ((Anonymous.Action.getMember id).run.run session).2.calls :=
        Session.Silent.run_bind_calls (fun _ => Session.silent_pure _) _
    _ = ((Anonymous.getMember id).run session).2.calls :=
        Session.Silent.run_bind_calls (fun _ => Session.silent_pure _) _
    _ = ((Anonymous.ask .getMember (GetMemberRequest.mk id) : Flow Session MemberResponse).run
          session).2.calls :=
        Session.Silent.run_bind_calls (fun _ => Session.silent_pure _) _
    _ = session.calls ++ [session.channel.plainCall .getMember (GetMemberRequest.mk id)] := by
        rw [asked, Session.answered_calls]
        rfl

/-- After a signed call of a member, which names the key of twos, a question without identity has
only the header of the channel. -/
theorem bootstrap_calls_bare_after_getAliases :
    ∃ key, SecretKey.ofSeed KeyText.seedOfTwos .low = .ok key ∧ ∃ signed bare : Call,
      (Activity.runAll (.steady { headers := [(HeaderName.developerKey, "d")] } (fun _ => [])
          (KeyStore.empty.put "m:1" key) [])
        [.request (.new "m:1" ⟨"m:1"⟩) .getAliases, .bootstrap (.ask (.getMember "m:1"))]).calls =
          [signed, bare] ∧
        signed.header? HeaderName.keyId = some key.id ∧
        bare.headers = [(HeaderName.developerKey, "d")] ∧
        bare.header? HeaderName.keyId = none := by
  obtain ⟨_, twos⟩ := KeyText.exists_ofSeed_twos
  obtain ⟨key, made, _, level, _⟩ := SecretKey.exists_ofSeed twos .low
  refine ⟨key, made, ?_⟩
  have leaves : ({ headers := [(HeaderName.developerKey, "d")] } : Channel).LeavesNames := by
    unfold Channel.LeavesNames
    decide
  generalize start_eq : Session.steady { headers := [(HeaderName.developerKey, "d")] } (fun _ => [])
    (KeyStore.empty.put "m:1" key) [] = start
  have opened : start.channel.closed = false := by rw [← start_eq]; rfl
  have channel_eq : start.channel = { headers := [(HeaderName.developerKey, "d")] } := by
    rw [← start_eq]; rfl
  have found : start.keys.byLevel start.now "m:1" .low = .ok key := by
    rw [← start_eq]
    exact KeyStore.byLevel_put_of_ofSeed made .empty "m:1" 0
  have first := Activity.step_getAliases opened found
  have attests : ((⟨"m:1", ⟨"m:1"⟩, {}⟩ : Identity).signedCall start.channel key start.now .getAliases
      (Json.encode ({} : Empty))).Attests key start.now :=
    Identity.attests_signedCall (channel_eq ▸ leaves) level start.now .getAliases _
  generalize (⟨"m:1", ⟨"m:1"⟩, {}⟩ : Identity).signedCall start.channel key start.now .getAliases
    (Json.encode ({} : Empty)) = signed at first attests
  have openedLater : (start.answered signed).channel.closed = false := opened
  have second := Activity.calls_step_getMember openedLater "m:1"
  have told : Activity.transcript start
      [.request (.new "m:1" ⟨"m:1"⟩) .getAliases, .bootstrap (.ask (.getMember "m:1"))] =
      [(.request (.new "m:1" ⟨"m:1"⟩) .getAliases, [signed]),
        (.bootstrap (.ask (.getMember "m:1")),
          [start.channel.plainCall .getMember (GetMemberRequest.mk "m:1")])] := by
    rw [Activity.transcript, Activity.transcript, Activity.transcript, first, second,
      Session.answered_calls, List.drop_left, List.drop_left]
    rfl
  obtain ⟨calls, bares⟩ := (bootstrap_calls_bare start).1
    [.request (.new "m:1" ⟨"m:1"⟩) .getAliases, .bootstrap (.ask (.getMember "m:1"))]
  rw [told] at calls bares
  have none_before : start.calls = [] := by rw [← start_eq]; rfl
  rw [none_before] at calls
  obtain ⟨_, isBare⟩ := bares _ _ (List.mem_cons_of_mem _ List.mem_cons_self)
  obtain ⟨headers, hidden⟩ := isBare _ List.mem_cons_self
  rw [channel_eq] at headers hidden calls
  exact ⟨signed, _, calls, attests.keyId_eq, headers, hidden leaves _ (by decide)⟩

end Membership

end OpenBanking
