import OpenBanking.Membership
import OpenBanking.Proofs.Member.Own
import OpenBanking.Proofs.Membership.SetUp

/-!
# Whole lives of members

A member comes about in one of five ways and acts from then on, while the session around it may
change at will. Under faithful gateways its two ids agree at the beginning, each action leaves them,
and so they are what they were however long it lives.
-/

namespace OpenBanking

open Json

/-! ## Ways to a member -/

namespace Membership

/-- The ways to a member that acts. -/
inductive Origin where
  /-- Create it, in a realm or in none. -/
  | create (x : Option Alias) (kind : MemberKind) (realmId : Option String)
  /-- Set up an id without keys. -/
  | setUp (x : Option Alias) (memberId : String)
  /-- Find it by keys that are there. -/
  | find (memberId : String)
  /-- Recover it by the words of agents. -/
  | recover (memberId : String) (entries : List RecoveryEntry) (privileged : Key) (engine : Engine)
  /-- Recover it by a code. -/
  | recoverByDefault (memberId verificationId code : String)

/-- Goes a way to a member. -/
def Origin.run : Origin → Flow Session Member
  | create x kind realmId => Membership.create x kind realmId
  | setUp x memberId => Membership.setUp x memberId
  | find memberId => Membership.find memberId
  | recover memberId entries privileged engine =>
    Membership.recover memberId entries privileged engine
  | recoverByDefault memberId verificationId code =>
    Membership.recoverByDefault memberId verificationId code

/-- The ids of the members that a flow gives agree. -/
def Agrees (flow : Flow Session Member) : Prop :=
  ∀ (session later : Session) (member : Member),
    flow.run session = (.ok member, later) → member.Of member.id

/-- A member that is bound to a record has the id of the record. -/
theorem agrees_bind (record : MemberRecord) (engine : Engine) : Agrees (bind record engine) := by
  rintro session later member ⟨⟩
  exact ⟨rfl, rfl⟩

/-- It does not matter what comes before. -/
theorem Agrees.after {α : Type} {next : α → Flow Session Member} (agrees : ∀ x, Agrees (next x))
    (flow : Flow Session α) : Agrees (flow >>= next) := by
  intro session later member gave
  obtain ⟨x, middle, _, bound⟩ := Flow.exists_of_run_bind_ok gave
  exact agrees x middle later member bound

/-- A member that was set up acts under the id of the record that was told. -/
theorem agrees_setUp (x : Option Alias) (memberId : String) : Agrees (setUp x memberId) := by
  rw [setUp_eq]
  refine Agrees.after (fun agentId => ?_) _
  refine Agrees.after (fun keys => ?_) _
  exact Agrees.after (fun record => agrees_bind record ⟨record.id⟩) _

/-- The ids of a member that was found agree, as its record was asked for by the other one. -/
theorem of_run_find {memberId : String} {session later : Session} {member : Member}
    (faithful : session.gateway.Faithful)
    (gave : (find memberId).run session = (.ok member, later)) : member.Of member.id := by
  obtain ⟨record, middle, fetched, bound⟩ := Flow.exists_of_run_bind_ok gave
  cases bound
  have keeps : Session.KeepsTo memberId (·.id = memberId)
      ((Client.new memberId ⟨memberId⟩).getMember memberId) := Client.keepsTo_getMember rfl
  obtain ⟨_, _, _, told⟩ := keeps session faithful
  rw [fetched] at told
  exact ⟨rfl, (told record rfl).symm⟩

/-- Whichever way a member came about, its two ids agree. -/
theorem Origin.agree (origin : Origin) {session later : Session} {member : Member}
    (faithful : session.gateway.Faithful)
    (gave : origin.run.run session = (.ok member, later)) : member.Of member.id := by
  cases origin with
  | create x kind realmId =>
    exact Agrees.after (agrees_setUp x) (Anonymous.createMemberId kind realmId) _ _ _ gave
  | setUp x memberId => exact agrees_setUp x memberId _ _ _ gave
  | find memberId => exact of_run_find faithful gave
  | recover memberId entries privileged engine =>
    exact Agrees.after (fun record => agrees_bind record engine)
      (Anonymous.completeRecovery memberId entries privileged engine) _ _ _ gave
  | recoverByDefault memberId verificationId code =>
    exact Agrees.after (fun record => agrees_bind record ⟨memberId⟩)
      (Anonymous.completeRecoveryByDefault memberId verificationId code ⟨memberId⟩) _ _ _ gave

end Membership

/-! ## A faithful gateway -/

/-- A record of the id that a question for a record or an update names. -/
def Call.mirrored (call : Call) : List UInt8 :=
  let named : Except ReadError String :=
    if call.method = .getMember then (decode call.body).map GetMemberRequest.memberId
    else (decode call.body).map fun request : UpdateMemberRequest => request.update.memberId
  match named with
  | .ok memberId => encode (MemberResponse.mk { id := memberId })
  | .error _ => []

/-- A gateway that mirrors the id is faithful. -/
theorem Gateway.faithful_of_mirrored {gateway : Gateway}
    (mirrors : ∀ earlier call, gateway earlier call = ⟨.ok call.mirrored, 0⟩) :
    gateway.Faithful where
  fetches earlier call memberId record isFetch decoded told := by
    have answer : gateway earlier call =
        ⟨.ok (encode (MemberResponse.mk { id := memberId })), 0⟩ := by
      simp only [mirrors, Call.mirrored, isFetch, decoded, Except.map, ↓reduceIte]
    rw [answer, Session.read_encode] at told
    cases told
    rfl
  updates earlier call request record isUpdate decoded told := by
    have answer : gateway earlier call =
        ⟨.ok (encode (MemberResponse.mk { id := request.update.memberId })), 0⟩ := by
      simp only [mirrors, Call.mirrored, isUpdate, decoded, Except.map, reduceCtorEq, ↓reduceIte]
    rw [answer, Session.read_encode] at told
    cases told
    rfl

/-- Behind such a gateway a low key is enough to fetch a record. -/
theorem Client.exists_run_getMember_of_mirrored {session : Session}
    (mirrors : ∀ earlier call, session.gateway earlier call = ⟨.ok call.mirrored, 0⟩)
    (opened : session.channel.closed = false) {client : Client} {low : SecretKey}
    (found : session.keys.byLevel session.now client.engine.memberId .low = .ok low)
    (memberId : String) :
    ∃ call, call.method = .getMember ∧ (client.getMember memberId).run session =
      (.ok { id := memberId }, session.answered call) := by
  obtain ⟨call, isFetch, body, asked⟩ := exists_run_ask (β := MemberResponse) opened found
    .getMember (GetMemberRequest.mk memberId)
  have answer : call.mirrored = encode (MemberResponse.mk { id := memberId }) := by
    simp only [Call.mirrored, isFetch, body, decode_encode, Except.map, ↓reduceIte]
  rw [mirrors, answer, Session.read_encode] at asked
  exact ⟨call, isFetch, Flow.run_bind_of_ok asked _⟩

namespace Member

/-- A member was obtained with an id in one of the ways and has acted since, well or not. Between
its actions the session may change at will, but the gateway stays faithful. -/
inductive Lives (id : String) : Member → Prop where
  | obtained (origin : Membership.Origin) {session later : Session} {member : Member}
      (faithful : session.gateway.Faithful)
      (gave : origin.run.run session = (.ok member, later)) (named : member.id = id) :
      Lives id member
  | acted {member : Member} (lives : Lives id member) (action : Action) {session : Session}
      (faithful : session.gateway.Faithful) : Lives id (action.run.run (member, session)).2.1

/-- However long it lives, a member is of the id that it was obtained with. -/
theorem Lives.of {id : String} {member : Member} (lives : Lives id member) : member.Of id := by
  induction lives with
  | obtained origin faithful gave named =>
    rw [← named]
    exact origin.agree faithful gave
  | acted _ action faithful own => exact (action.stays id _ _ own faithful).1

/-- A member never drifts to another one. However it was obtained and whatever it has done, under
gateways that answer whoever asks for a member or updates it with a record of that member, its
record and its client have the id that it was obtained with, and whatever it does next, each
question for a record and each update that it sends names this id: in the request, in the update and
its signature, and in the header of the member. -/
theorem never_drifts {id : String} {member : Member} (lives : Lives id member) :
    member.record.id = id ∧ member.client.memberId = id ∧
    ∀ (action : Action) (session : Session), session.gateway.Faithful →
      ∃ sent, (action.run.run (member, session)).2.2.calls = session.calls ++ sent ∧
        ∀ call ∈ sent, call.Names id session.channel.headers :=
  ⟨lives.of.record_id, lives.of.client_memberId,
    fun action session faithful => (action.stays id member session lives.of faithful).2⟩

/-- Found by its low key behind a gateway that mirrors ids, a member asks for its record again. -/
theorem never_drifts_refresh :
    ∃ low, SecretKey.ofSeed KeyText.seedOfOnes .low = .ok low ∧ ∃ member later call,
      (Membership.find "m:1").run
          (.steady {} Call.mirrored (KeyStore.empty.put "m:1" low) []) = (.ok member, later) ∧
        (Action.refresh.run.run (member, later)).2.2.calls = later.calls ++ [call] ∧
        call.method = .getMember ∧ member.record.id = "m:1" ∧ call.Names "m:1" [] := by
  obtain ⟨_, ones⟩ := KeyText.exists_ofSeed_ones
  obtain ⟨low, made, _⟩ := SecretKey.exists_ofSeed ones .low
  have key := KeyStore.byLevel_put_of_ofSeed made .empty "m:1" 0
  generalize start : Session.steady {} Call.mirrored (KeyStore.empty.put "m:1" low) [] = session
  have mirrors (earlier : List Call) (call : Call) :
      session.gateway earlier call = ⟨.ok call.mirrored, 0⟩ := by
    rw [← start]
    rfl
  have opened : session.channel.closed = false := by
    rw [← start]
    rfl
  have bare : session.channel.headers = [] := by
    rw [← start]
    rfl
  generalize who : Client.new "m:1" ⟨"m:1"⟩ = client
  have found : session.keys.byLevel session.now client.engine.memberId .low = .ok low := by
    rw [← start, ← who]
    exact key
  obtain ⟨fetch, _, fetched⟩ :=
    Client.exists_run_getMember_of_mirrored mirrors opened found "m:1"
  have gave : (Membership.find "m:1").run session =
      (.ok ⟨{ id := "m:1" }, client, session.cluster⟩, session.answered fetch) := by
    rw [Membership.find, who, Flow.run_bind_of_ok fetched]
    rfl
  -- The question leaves the way to the gateway and the keys as they were.
  generalize after : session.answered fetch = later at gave
  have mirrorsLater (earlier : List Call) (call : Call) :
      later.gateway earlier call = ⟨.ok call.mirrored, 0⟩ := by
    rw [← after]
    exact mirrors earlier call
  have openedLater : later.channel.closed = false := by
    rw [← after]
    exact opened
  have foundLater : later.keys.byLevel later.now client.engine.memberId .low = .ok low := by
    rw [← after, ← start, ← who]
    exact key
  obtain ⟨again, isFetch, refetched⟩ :=
    Client.exists_run_getMember_of_mirrored mirrorsLater openedLater foundLater "m:1"
  have calls : (Action.refresh.run.run
      ((⟨{ id := "m:1" }, client, session.cluster⟩ : Member), later)).2.2.calls =
        later.calls ++ [again] := by
    have ran : Member.refresh.run ((⟨{ id := "m:1" }, client, session.cluster⟩ : Member), later) =
        (.ok (), ⟨{ id := "m:1" }, client, session.cluster⟩, later.answered again) := by
      rw [Member.refresh, run_renew]
      simp only [Member.id, refetched]
    rw [Action.run, Action.changed, Flow.run_bind_of_ok ran]
    exact later.answered_calls again
  have lives : Lives "m:1" ⟨{ id := "m:1" }, client, session.cluster⟩ :=
    .obtained (.find "m:1") (Gateway.faithful_of_mirrored mirrors) gave rfl
  obtain ⟨own, _, names⟩ := never_drifts lives
  obtain ⟨sent, sentCalls, named⟩ :=
    names .refresh later (Gateway.faithful_of_mirrored mirrorsLater)
  have same : sent = [again] := List.append_cancel_left (sentCalls.symm.trans calls)
  subst same
  have headers : later.channel.headers = [] := by
    rw [← after]
    exact bare
  refine ⟨low, made, _, later, again, start ▸ gave, calls, isFetch, own, ?_⟩
  rw [← headers]
  exact named again (by simp)

end Member

end OpenBanking
