import OpenBanking.Proofs.Keys.Fresh
import OpenBanking.Proofs.Member.Update
import OpenBanking.Proofs.Sending.Dialogue

/-!
# Changes of members

Whatever changes the known record of a member does three things: it fetches the record that the
gateway has now, plans operations, and sends an update of the fetched record, unless nothing is
planned. The known record is replaced in the end only, so a change that fails leaves the member as
it was, and one that succeeds chains on the record that it has fetched itself.
-/

namespace OpenBanking.Member

open Json

/-- What changes the known record of a member. -/
inductive Change where
  /-- Fetch the record. -/
  | refresh
  /-- Apply operations to the record. -/
  | update (operations : List MemberOperation) (metadata : List OperationMetadata)
  /-- Add a key. -/
  | addKey (key : Key)
  /-- Add keys in one update. -/
  | addKeys (keys : List Key)
  /-- Remove a key. -/
  | removeKey (keyId : String)
  /-- Remove keys in one update. -/
  | removeKeys (keyIds : List String)
  /-- Add an alias. -/
  | addAlias (x : Alias)
  /-- Add aliases in one update. -/
  | addAliases (aliases : List Alias)
  /-- Remove an alias. -/
  | removeAlias (x : Alias)
  /-- Remove aliases in one update. -/
  | removeAliases (aliases : List Alias)
  /-- Let the default agent recover the member. -/
  | useDefaultRecoveryRule
deriving DecidableEq

/-- Renewing a record replaces the known one by what the flow gives, and nothing if it fails. -/
theorem run_renew (flow : Member → Flow Session MemberRecord) (member : Member)
    (session : Session) :
    (renew flow).run (member, session) =
      match (flow member).run session with
      | (.ok record, later) => (.ok (), { member with record }, later)
      | (.error error, later) => (.error error, member, later) := by
  have gives : (Flow.onSecond (flow member)).run (member, session) =
      (((flow member).run session).1, member, ((flow member).run session).2) := rfl
  rw [renew, Flow.run_bind_of_ok (Flow.run_read _ _), Flow.run_bind, gives]
  rcases (flow member).run session with ⟨_ | record, later⟩ <;> rfl

namespace Change

/-- Makes a change. -/
def run : Change → Flow (Member × Session) Unit
  | refresh => Member.refresh
  | update operations metadata => Member.update operations metadata
  | addKey key => Member.addKey key
  | addKeys keys => Member.addKeys keys
  | removeKey keyId => Member.removeKey keyId
  | removeKeys keyIds => Member.removeKeys keyIds
  | addAlias x => Member.addAlias x
  | addAliases aliases => Member.addAliases aliases
  | removeAlias x => Member.removeAlias x
  | removeAliases aliases => Member.removeAliases aliases
  | useDefaultRecoveryRule => Member.useDefaultRecoveryRule

/-- The operations of a change, unless the gateway has a say in them. -/
def given : Change → Option (List MemberOperation)
  | refresh => some []
  | update operations _ => some operations
  | addKey key => some [.ofKey key]
  | addKeys keys => some (keys.map .ofKey)
  | removeKey keyId => some [.withoutKey keyId]
  | removeKeys keyIds => some (keyIds.map .withoutKey)
  | addAlias x => some [.ofAlias x.normalize]
  | addAliases aliases => some ((aliases.map (·.normalize)).map .ofAlias)
  | removeAlias x => some [.withoutAlias x]
  | removeAliases aliases => some (aliases.map .withoutAlias)
  | useDefaultRecoveryRule => none

/-- What a change tells beside its operations. -/
def metadata : Change → List OperationMetadata
  | update _ metadata => metadata
  | addAlias x => [.ofAlias x.normalize]
  | addAliases aliases => (aliases.map (·.normalize)).map .ofAlias
  | _ => []

/-- The member whose record is fetched. -/
def subject (member : Member) : Change → String
  | useDefaultRecoveryRule => member.client.memberId
  | _ => member.id

/-- Plans the operations of a change. -/
def plan (client : Client) (change : Change) : Flow Session (List MemberOperation) :=
  match change.given with
  | some operations => pure operations
  | none => do
    let agentId ← client.getDefaultAgent
    return [.ofAgent agentId]

/-- Fetches the record, plans the operations and applies them. -/
def send (change : Change) (member : Member) : Flow Session MemberRecord := do
  let latest ← member.client.getMember (change.subject member)
  let operations ← change.plan member.client
  member.client.updateMember latest operations change.metadata

/-- Without operations a change only fetches the record. -/
theorem send_of_hollow {change : Change} (hollow : change.given = some []) (member : Member) :
    change.send member = member.client.getMember (change.subject member) := by
  simp only [send, plan, hollow, pure_bind, Client.updateMember_nil, bind_pure]

/-- Every change renews the record in the same way. -/
theorem run_eq_renew (change : Change) : change.run = renew change.send := by
  cases change with
  | refresh =>
    have same : send refresh = fun member => member.client.getMember member.id :=
      funext fun member => send_of_hollow rfl member
    rw [same]
    rfl
  | useDefaultRecoveryRule =>
    have same : send useDefaultRecoveryRule = fun member => member.client.useDefaultRecoveryRule := by
      funext member
      simp only [send, plan, given, subject, metadata, bind_assoc, pure_bind,
        Client.useDefaultRecoveryRule]
    rw [same]
    rfl
  | _ => rfl

/-- What a change does after it has fetched a record: nothing if it has no operations, or else one
update that chains on this record, perhaps after a question for the default agent. -/
inductive Chained (gateway : Gateway) (earlier : List Call) (latest : MemberRecord) :
    Option (List MemberOperation) → List Call → MemberRecord → Prop where
  | unchanged : Chained gateway earlier latest (some []) [] latest
  | updated {given : Option (List MemberOperation)} {asked : List Call} {call : Call}
    {request : UpdateMemberRequest} {record : MemberRecord} (planned : given ≠ some [])
    (others : ∀ other ∈ asked, other.method = .getDefaultAgent)
    (isUpdate : call.method = .updateMember) (sent : decode call.body = .ok request)
    (chained : request.update.prevHash = latest.lastHash)
    (answer : Session.read MemberResponse (gateway (earlier ++ asked) call) = .ok ⟨record⟩) :
    Chained gateway earlier latest given (asked ++ [call]) record

/-- What a change does that succeeds: first it fetches a record, and it goes on with that. -/
inductive Renewed (gateway : Gateway) (earlier : List Call)
    (given : Option (List MemberOperation)) : List Call → MemberRecord → Prop where
  | fetched {fetch : Call} {latest record : MemberRecord} {later : List Call}
    (isFetch : fetch.method = .getMember)
    (answer : Session.read MemberResponse (gateway earlier fetch) = .ok ⟨latest⟩)
    (chained : Chained gateway (earlier ++ [fetch]) latest given later record) :
    Renewed gateway earlier given (fetch :: later) record

/-- Planning asks at most for the default agent, and that only if the operations are not given. -/
theorem performs_plan (change : Change) (client : Client) :
    Session.Performs (fun _ sent result => (∀ call ∈ sent, call.method = .getDefaultAgent) ∧
        ∀ operations, result = .ok operations →
          change.given = some operations ∧ sent = [] ∨ change.given = none ∧ operations ≠ [])
      (change.plan client) := by
  cases known : change.given with
  | some operations =>
    rw [plan, known]
    refine (Session.silent_pure operations).performs fun session => ⟨by simp, ?_⟩
    rintro other ⟨⟩
    exact .inl ⟨rfl, rfl⟩
  | none =>
    rw [plan, known]
    have asks : Session.Performs (fun _ sent _ => ∀ call ∈ sent, call.method = .getDefaultAgent)
        client.getDefaultAgent := by
      refine (client.performs_getDefaultAgent
        (P := fun _ call => call.method = .getDefaultAgent) fun _ _ _ => rfl).mono ?_
      intro session sent result asked
      cases asked with
      | unsent => simp
      | answered holds => simpa using holds
    have plans (agentId : String) :
        Session.Performs (fun _ sent result => sent = [] ∧ result = .ok [.ofAgent agentId])
          (pure [MemberOperation.ofAgent agentId]) :=
      (Session.silent_pure _).performs fun _ => ⟨rfl, rfl⟩
    refine asks.bind plans (fun _ _ _ others => ⟨others, nofun⟩) ?_
    rintro session middle before after agentId result _ others ⟨rfl, rfl⟩
    rw [List.append_nil]
    refine ⟨others, ?_⟩
    rintro operations ⟨⟩
    exact .inr ⟨rfl, List.cons_ne_nil _ _⟩

/-- Updating a fetched record sends one update that chains on it, if there are operations. -/
theorem performs_update (client : Client) (latest : MemberRecord)
    (operations : List MemberOperation) (metadata : List OperationMetadata) :
    Session.Performs (fun session sent result => ∀ record, result = .ok record →
        operations = [] ∧ sent = [] ∧ record = latest ∨
          operations ≠ [] ∧ ∃ call request, sent = [call] ∧ call.method = .updateMember ∧
            decode call.body = .ok request ∧
            (request : UpdateMemberRequest).update.prevHash = latest.lastHash ∧
            Session.read MemberResponse (session.gateway session.calls call) = .ok ⟨record⟩)
      (client.updateMember latest operations metadata) := by
  by_cases hollow : operations = []
  · subst hollow
    refine (Session.silent_pure latest).performs fun session record gave => .inl ⟨rfl, rfl, ?_⟩
    cases gave
    rfl
  · have asks := client.performs_updateMember (P := fun _ call => call.method = .updateMember ∧
      ∃ request : UpdateMemberRequest, decode call.body = .ok request ∧
        request.update.prevHash = latest.lastHash) latest hollow metadata
      fun _ _ _ _ _ => ⟨rfl, _, Identity.decode_signedCall _ _ _ _ _ _, rfl⟩
    refine asks.mono ?_
    rintro session sent result asked record rfl
    cases asked with
    | @answered call _ holds gives =>
      obtain ⟨isUpdate, request, decoded, chained⟩ := holds
      have told := Session.readRecord_eq_ok.1 gives
      exact .inr ⟨hollow, call, request, rfl, isUpdate, decoded, chained, told⟩

/-- A change that gives a record has renewed it. -/
theorem performs_send (change : Change) (member : Member) :
    Session.Performs (fun session sent result => ∀ record, result = .ok record →
        Renewed session.gateway session.calls change.given sent record) (change.send member) := by
  have fetches := member.client.performs_getMember (P := fun _ call => call.method = .getMember)
    (change.subject member) fun _ _ _ => rfl
  have applies (latest : MemberRecord) :
      Session.Performs (fun session sent result => ∀ record, result = .ok record →
          Chained session.gateway session.calls latest change.given sent record) (do
        let operations ← change.plan member.client
        member.client.updateMember latest operations change.metadata) := by
    refine (change.performs_plan member.client).bind
      (fun operations => performs_update member.client latest operations change.metadata)
      (fun _ _ _ _ _ => nofun) ?_
    rintro session middle asked after operations result went ⟨others, planned⟩ updates record rfl
    rcases updates record rfl with ⟨rfl, rfl, rfl⟩ | ⟨some, call, request, rfl, sent⟩
    · rcases planned [] rfl with ⟨known, rfl⟩ | ⟨_, wrong⟩
      · rw [known]
        exact .unchanged
      · exact absurd rfl wrong
    · obtain ⟨isUpdate, decoded, chained, told⟩ := sent
      rw [went.gateway_eq, went.calls_eq] at told
      refine .updated ?_ others isUpdate decoded chained told
      intro hollow
      rcases planned operations rfl with ⟨known, _⟩ | ⟨unknown, _⟩
      · rw [known] at hollow
        exact some (Option.some.inj hollow)
      · rw [unknown] at hollow
        cases hollow
  refine fetches.bind applies (fun _ _ _ _ _ => nofun) ?_
  rintro session middle before after latest result went asked chains record rfl
  cases asked with
  | @answered fetch _ isFetch gives =>
    have chained := chains record rfl
    rw [went.gateway_eq, went.calls_eq] at chained
    exact .fetched isFetch (Session.readRecord_eq_ok.1 gives) chained

/-- A change is atomic, and chains on the record that it has fetched. If it fails the member is as
it was. If it succeeds the client is as it was, and the known record is the one that the update was
answered with, whose previous hash is that of the record that the same change has fetched, or this
record if there are no operations. In that case a key for the question is all that it takes. -/
theorem atomic_and_chained (change : Change) (member : Member) (session : Session) :
    (∀ error later last, change.run.run (member, session) = (.error error, later, last) →
      later = member) ∧
    (∀ later last, change.run.run (member, session) = (.ok (), later, last) →
      later.client = member.client ∧ later.cluster = member.cluster ∧
        ∃ sent, last.calls = session.calls ++ sent ∧
          Renewed session.gateway session.calls change.given sent later.record) ∧
    (change.given = some [] → session.channel.closed = false →
      ∀ low, session.keys.byLevel session.now member.client.engine.memberId .low = .ok low →
        ∃ fetch : Call, fetch.method = .getMember ∧
          ∀ latest,
            Session.read MemberResponse (session.gateway session.calls fetch) = .ok ⟨latest⟩ →
            change.run.run (member, session) =
              (.ok (), { member with record := latest }, session.answered fetch)) := by
  have ran := run_renew change.send member session
  rw [← change.run_eq_renew] at ran
  obtain ⟨sent, went, renewed⟩ := change.performs_send member session
  refine ⟨?_, ?_, ?_⟩
  · intro error later last failed
    rw [ran] at failed
    generalize (change.send member).run session = sends at failed
    rcases sends with ⟨_ | record, after⟩ <;> cases failed
    rfl
  · intro later last gave
    rw [ran] at gave
    generalize (change.send member).run session = sends at gave went renewed
    rcases sends with ⟨_ | record, after⟩ <;> cases gave
    exact ⟨rfl, rfl, sent, went.calls_eq, renewed record rfl⟩
  · intro hollow opened low found
    obtain ⟨fetch, isFetch, _, asked⟩ := Client.exists_run_ask (β := MemberResponse) opened found
      .getMember (GetMemberRequest.mk (change.subject member))
    refine ⟨fetch, isFetch, fun latest told => ?_⟩
    rw [told] at asked
    rw [ran, send_of_hollow hollow, Client.getMember, Flow.run_bind_of_ok asked]
    rfl

/-- A member whose known record is old adds a key, with a privileged key of ones and a low key of
twos, and the gateway tells one record all along. -/
theorem atomic_and_chained_addKey :
    ∃ privileged low, SecretKey.ofSeed KeyText.seedOfOnes .privileged = .ok privileged ∧
      SecretKey.ofSeed KeyText.seedOfTwos .low = .ok low ∧
      ∃ session : Session, ∃ later last sent,
        session = .steady {} (fun _ => encode (MemberResponse.mk { id := "m:1", lastHash := "h" }))
          ((KeyStore.empty.put "m:1" privileged).put "m:1" low) [] ∧
        (addKey {}).run.run
          (⟨{ id := "m:1", lastHash := "old" }, .new "m:1" ⟨"m:1"⟩, .sandbox⟩, session) =
            (.ok (), later, last) ∧
        last.calls = sent ∧ Renewed session.gateway [] (some [.ofKey {}]) sent later.record := by
  obtain ⟨_, ones⟩ := KeyText.exists_ofSeed_ones
  obtain ⟨_, twos⟩ := KeyText.exists_ofSeed_twos
  obtain ⟨privileged, madePrivileged, _, level, lasting⟩ := SecretKey.exists_ofSeed ones .privileged
  obtain ⟨low, madeLow, _, lowLevel, lowLasting⟩ := SecretKey.exists_ofSeed twos .low
  have apart := SecretKey.id_ne_id_of_ones_of_twos madePrivileged madeLow
  have held : privileged ∈ ((KeyStore.empty.put "m:1" privileged).put "m:1" low).keysOf "m:1" :=
    KeyStore.mem_keysOf_put_of_ne (KeyStore.mem_keysOf_put .empty "m:1" privileged) apart
  obtain ⟨signer, signs⟩ := KeyStore.exists_byLevel
    (⟨held, level, SecretKey.isExpired_of_eq_none lasting 0⟩ :
      ((KeyStore.empty.put "m:1" privileged).put "m:1" low).CanSign 0 "m:1" .privileged privileged)
  have found := KeyStore.byLevel_put_of_ofSeed madeLow (KeyStore.empty.put "m:1" privileged) "m:1" 0
  generalize start : Session.steady {}
    (fun _ => encode (MemberResponse.mk { id := "m:1", lastHash := "h" }))
    ((KeyStore.empty.put "m:1" privileged).put "m:1" low) [] = session
  generalize who : (⟨{ id := "m:1", lastHash := "old" }, .new "m:1" ⟨"m:1"⟩, .sandbox⟩ : Member) =
    member
  have tells (earlier : List Call) (call : Call) :
      session.gateway earlier call =
        ⟨.ok (encode (MemberResponse.mk { id := "m:1", lastHash := "h" })), 0⟩ := by
    rw [← start]
    rfl
  have opened : session.channel.closed = false := by
    rw [← start]
    rfl
  have calls : session.keys.byLevel session.now member.client.engine.memberId .low = .ok low := by
    rw [← start, ← who]
    exact found
  obtain ⟨fetch, fetched⟩ : ∃ fetch, (member.client.getMember member.id).run session =
      (.ok { id := "m:1", lastHash := "h" }, session.answered fetch) := by
    obtain ⟨fetch, _, _, asked⟩ := Client.exists_run_ask (β := MemberResponse) opened calls
      .getMember (GetMemberRequest.mk member.id)
    rw [tells, Session.read_encode] at asked
    exact ⟨fetch, Flow.run_bind_of_ok asked _⟩
  have openedLater : (session.answered fetch).channel.closed = false := opened
  have signsLater : (session.answered fetch).keys.byLevel (session.answered fetch).now
      member.client.engine.memberId .privileged = .ok signer := by
    rw [← start, ← who]
    exact signs
  have callsLater : (session.answered fetch).keys.byLevel (session.answered fetch).now
      member.client.engine.memberId .low = .ok low := by
    rw [← start, ← who]
    exact found
  obtain ⟨call, _, _, updated⟩ := Client.run_updateMember_of_byLevel openedLater
    { id := "m:1", lastHash := "h" } (List.cons_ne_nil (.ofKey {}) []) [] signsLater callsLater
  rw [Session.answered_gateway, tells, Session.read_encode] at updated
  have sends : (send (addKey {}) member).run session =
      (.ok { id := "m:1", lastHash := "h" }, (session.answered fetch).answered call) :=
    (Flow.run_bind_of_ok fetched _).trans updated
  have ran : (addKey {}).run.run (member, session) =
      (.ok (), { member with record := { id := "m:1", lastHash := "h" } },
        (session.answered fetch).answered call) := by
    rw [run_eq_renew, run_renew, sends]
  obtain ⟨_, _, sent, sentCalls, renewed⟩ :=
    (atomic_and_chained (addKey {}) member session).2.1 _ _ ran
  have none : session.calls = [] := by
    rw [← start]
    rfl
  rw [none] at sentCalls renewed
  exact ⟨privileged, low, madePrivileged, madeLow, session, _, _, sent, start.symm, ran, sentCalls,
    renewed⟩

end Change

end OpenBanking.Member
