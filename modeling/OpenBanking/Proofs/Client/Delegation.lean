import Mathlib.Data.List.Induction
import OpenBanking.Proofs.Client.Alike

/-!
# Whom delegation reaches

The client after a history acts under the access token last used since delegation was last given up,
and because a person asked if that was last said since then. Calls about accounts carry both, and no
other call does; the tracking last set and not cleared is carried by all. Thus histories that differ
only in delegation send the same calls about the member.
-/

namespace OpenBanking.Client

namespace Action

/-! ## What a history leaves -/

/-- The last value that the actions since the last one of a kind give. -/
def lastSince {β : Type} (ends : Action → Bool) (value? : Action → Option β)
    (history : List Action) : Option β :=
  (history.reverse.takeWhile fun action => !ends action).findSome? value?

/-- Nothing is left right after an action of the kind; else the last action is asked first. -/
theorem lastSince_concat {β : Type} (ends : Action → Bool) (value? : Action → Option β)
    (history : List Action) (action : Action) :
    lastSince ends value? (history ++ [action]) =
      if ends action then none else (value? action).or (lastSince ends value? history) := by
  cases ended : ends action with
  | true => simp [lastSince, ended]
  | false => cases given : value? action <;> simp [lastSince, ended, given]

/-- The access token that the action uses. -/
def token? : Action → Option String
  | turn (.useAccessToken tokenId) => some tokenId
  | _ => none

/-- What the action says of whether a person asks. -/
def initiated? : Action → Option Bool
  | turn (.setCustomerInitiated customerInitiated) => some customerInitiated
  | _ => none

/-- The tracking that the action sets. -/
def tracking? : Action → Option Tracking
  | turn (.setTracking tracking) => some tracking
  | _ => none

/-- The access token last used since the last one was cleared. -/
def tokenAfter (history : List Action) : Option String :=
  lastSince (· = turn .clearAccessToken) token? history

/-- It was last said that a person asks, since an access token was last cleared. -/
def initiatedAfter (history : List Action) : Bool :=
  lastSince (· = turn .clearAccessToken) initiated? history = some true

/-- The tracking last set since tracking was last cleared. -/
def trackingAfter (history : List Action) : Tracking :=
  (lastSince (· = turn .clearTracking) tracking? history).getD {}

/-- What a call of a method at a level is to tell after a history. -/
def contextAfter (history : List Action) (level : KeyLevel) (method : Method) : CallContext where
  onBehalfOf := if method.isAboutAccounts then tokenAfter history else none
  customerInitiated := method.isAboutAccounts && initiatedAfter history
  keyLevel := level
  tracking := trackingAfter history

/-- The last action is done last. -/
theorem runAll_concat (state : Client × Session) (history : List Action) (action : Action) :
    runAll state (history ++ [action]) = action.step (runAll state history) := by
  rw [runAll, List.foldl_append]
  rfl

/-- The client after a history is what the history says. -/
theorem runAll_client (memberId : String) (engine : Engine) (start : Session)
    (history : List Action) :
    (runAll (new memberId engine, start) history).1 =
      ⟨memberId, engine, tokenAfter history, initiatedAfter history, trackingAfter history⟩ := by
  induction history using List.reverseRecOn with
  | nil => rfl
  | append_singleton history action ih =>
    rw [runAll_concat, tokenAfter, initiatedAfter, trackingAfter, lastSince_concat,
      lastSince_concat, lastSince_concat]
    generalize runAll (new memberId engine, start) history = state at ih
    obtain ⟨client, session⟩ := state
    cases ih
    cases action with
    | ask request => rfl
    | turn change =>
      cases change with
      | useAccessToken tokenId => rfl
      | clearAccessToken => rfl
      | setCustomerInitiated customerInitiated =>
        cases customerInitiated <;> rfl
      | setTracking tracking => rfl
      | clearTracking => rfl

/-- What a client tells after a history is what the history says. -/
theorem contextOf_runAll (memberId : String) (engine : Engine) (start : Session)
    (history : List Action) (level : KeyLevel) (method : Method) :
    (runAll (new memberId engine, start) history).1.contextOf level method =
      contextAfter history level method := by
  rw [runAll_client, contextOf, contextAfter]
  cases method.isAboutAccounts <;> rfl

end Action

/-! ## Histories that differ in delegation -/

namespace Request

/-- Without a method about accounts a request does not depend on delegation. -/
theorem send_clearAccessToken {request : Request}
    (member : ∀ method ∈ request.methods, method.isAboutAccounts = false) (client : Client) :
    request.send client.clearAccessToken = request.send client := by
  cases request
  all_goals first | rfl | exact absurd (member _ List.mem_cons_self) (by decide)

/-- Without a method about accounts a request does the same in alike sessions. -/
theorem respects_send {request : Request}
    (member : ∀ method ∈ request.methods, method.isAboutAccounts = false) (client : Client) :
    Session.Respects (request.send client) := by
  have signs {α : Type} [Json.Wire α] (x : α) : Session.Respects (client.signPrivileged x) := by
    refine (client.engine.respects_signer .privileged).bind fun signer => ?_
    exact (Session.respects_ofCrypto _).map _
  have update (record : MemberRecord) (operations : List MemberOperation)
      (metadata : List OperationMetadata) :
      Session.Respects (client.updateMember record operations metadata) := by
    unfold Client.updateMember
    split
    · exact Session.respects_pure record
    · exact (signs _).bind fun signature => (respects_member .low rfl _).map _
  cases request with
  | getMember memberId => exact ((respects_member .low rfl _).map _).map _
  | updateMember record operations metadata => exact (update record operations metadata).map _
  | useDefaultRecoveryRule =>
    refine Session.Respects.map ?_ _
    refine ((respects_member .low rfl _).map _).bind fun record => ?_
    exact ((respects_member .low rfl _).map _).bind fun agentId => update record _ []
  | getAliases => exact ((respects_member .low rfl _).map _).map _
  | retryVerification x => exact ((respects_member .low rfl _).map _).map _
  | verifyAlias verificationId code => exact (respects_member .low rfl _).map _
  | authorizeRecovery authorization => exact (signs authorization).map _
  | getDefaultAgent => exact ((respects_member .low rfl _).map _).map _
  | deleteMember => exact (respects_member .privileged rfl _).map _
  | storeTokenRequest request => exact ((respects_member .low rfl _).map _).map _
  | verifyEidas payload signature => exact (respects_member .low rfl _).map _
  | getBankInfo bankId => exact ((respects_member .low rfl _).map _).map _
  | getAccount | getAccounts | getBalance | getBalances | getTransaction | getTransactions
  | resolveTransferDestinations =>
    exact absurd (member _ List.mem_cons_self) (by decide)

/-- What two clients that differ only in delegation are asked for leads to alike sessions. -/
theorem follows_send {client other : Client}
    (same : other.clearAccessToken = client.clearAccessToken) (request : Request) :
    Session.Follows (request.send client) (request.send other) := by
  have asks {α β γ : Type} [Json.Wire α] [Json.Wire β] {method : Method} (level : KeyLevel)
      (about : method.isAboutAccounts = true) (x : α) {next : β → Flow Session γ}
      (leaves : ∀ y, Flow.Keeps id (next y)) :
      Session.Follows (discard (client.askAccounts level method x >>= next))
        (discard (other.askAccounts level method x >>= next)) :=
    ((follows_askAccounts same level about x).bind_of_keeps leaves).bind_of_keeps
      fun _ => Flow.keeps_pure _
  by_cases member : ∀ method ∈ request.methods, method.isAboutAccounts = false
  · rw [← send_clearAccessToken member client, ← send_clearAccessToken member other, same]
    exact (respects_send member _).follows
  · cases request with
    | getAccount accountId => exact asks .low rfl _ fun _ => Flow.keeps_pure _
    | getAccounts => exact asks .low rfl _ fun _ => Flow.keeps_pure _
    | getBalance accountId level => exact asks level rfl _ fun _ => keeps_served _ _
    | getBalances accountIds level => exact asks level rfl _ fun _ => Flow.keeps_pure _
    | getTransaction accountId transactionId level =>
      exact asks level rfl _ fun _ => keeps_served _ _
    | getTransactions accountId page level => exact asks level rfl _ fun _ => keeps_served _ _
    | resolveTransferDestinations accountId => exact asks .low rfl _ fun _ => Flow.keeps_pure _
    | _ =>
      refine absurd ?_ member
      simp [methods, Method.isAboutAccounts]

end Request

namespace Action

/-- The action is about delegation. -/
def isDelegation : Action → Bool
  | turn (.useAccessToken _) | turn .clearAccessToken | turn (.setCustomerInitiated _) => true
  | _ => false

/-- The actions of a history that are not about delegation. -/
def besidesDelegation (history : List Action) : List Action :=
  history.filter fun action => !action.isDelegation

/-- What is about delegation has no part in the tracking. -/
theorem trackingAfter_besidesDelegation (history : List Action) :
    trackingAfter (besidesDelegation history) = trackingAfter history := by
  induction history using List.reverseRecOn with
  | nil => rfl
  | append_singleton history action ih =>
    rw [besidesDelegation, List.filter_append, ← besidesDelegation]
    cases about : action.isDelegation with
    | true =>
      have skipped : trackingAfter (history ++ [action]) = trackingAfter history := by
        rw [trackingAfter, lastSince_concat]
        cases action with
        | ask request => cases about
        | turn change =>
          cases change with
          | useAccessToken | clearAccessToken | setCustomerInitiated => rfl
          | setTracking | clearTracking => cases about
      rw [skipped, List.filter_cons_of_neg (by simp [about]), List.filter_nil, List.append_nil, ih]
    | false =>
      rw [List.filter_cons_of_pos (by simp [about]), List.filter_nil]
      unfold trackingAfter at ih ⊢
      rw [lastSince_concat, lastSince_concat]
      split
      · rfl
      · cases tracking? action with
        | none => exact ih
        | some tracking => rfl

/-- After histories that differ only in delegation clients differ only in delegation. -/
theorem clearAccessToken_runAll {history other : List Action}
    (same : besidesDelegation other = besidesDelegation history) (memberId : String)
    (engine : Engine) (start startOther : Session) :
    (runAll (new memberId engine, startOther) other).1.clearAccessToken =
      (runAll (new memberId engine, start) history).1.clearAccessToken := by
  have tracking : trackingAfter other = trackingAfter history := by
    rw [← trackingAfter_besidesDelegation other, same, trackingAfter_besidesDelegation]
  rw [runAll_client, runAll_client, tracking]
  rfl

/-- Two clients differ only in delegation, in alike sessions. -/
structure Alike (state other : Client × Session) : Prop where
  /-- Without delegation the clients are the same. -/
  client_eq : other.1.clearAccessToken = state.1.clearAccessToken
  /-- The sessions are alike. -/
  session : state.2.Alike other.2

/-- What is about delegation changes nothing but delegation. -/
theorem step_of_isDelegation {action : Action} (about : action.isDelegation = true)
    (state : Client × Session) :
    (action.step state).1.clearAccessToken = state.1.clearAccessToken ∧
      (action.step state).2 = state.2 := by
  cases action with
  | ask request => cases about
  | turn change =>
    cases change with
    | useAccessToken | clearAccessToken | setCustomerInitiated => exact ⟨rfl, rfl⟩
    | setTracking | clearTracking => cases about

/-- Histories about delegation change nothing but delegation. -/
theorem runAll_of_isDelegation {history : List Action}
    (about : ∀ action ∈ history, action.isDelegation = true) (state : Client × Session) :
    (runAll state history).1.clearAccessToken = state.1.clearAccessToken ∧
      (runAll state history).2 = state.2 := by
  induction history generalizing state with
  | nil => exact ⟨rfl, rfl⟩
  | cons action later ih =>
    obtain ⟨client, session⟩ := step_of_isDelegation (about action List.mem_cons_self) state
    obtain ⟨clientLater, sessionLater⟩ :=
      ih (fun action mem => about action (List.mem_cons_of_mem _ mem)) (action.step state)
    exact ⟨clientLater.trans client, sessionLater.trans session⟩

/-- What is not about delegation leads from alike states to alike states. -/
theorem Alike.step {state other : Client × Session} (alike : Alike state other) {action : Action}
    (besides : action.isDelegation = false) : Alike (action.step state) (action.step other) := by
  obtain ⟨same, sessions⟩ := alike
  cases action with
  | ask request => exact ⟨same, Request.follows_send same request sessions⟩
  | turn change =>
    refine ⟨?_, sessions⟩
    cases change with
    | useAccessToken | clearAccessToken | setCustomerInitiated => cases besides
    | setTracking tracking => exact congrArg (setTracking · tracking) same
    | clearTracking => exact congrArg clearTracking same

/-- Histories that differ only in delegation lead from alike states to alike states. -/
theorem Alike.runAll {state other : Client × Session} (alike : Alike state other)
    {history historyOther : List Action}
    (same : besidesDelegation historyOther = besidesDelegation history) :
    Alike (Action.runAll state history) (Action.runAll other historyOther) := by
  induction history generalizing historyOther state other with
  | nil =>
    have all : ∀ action ∈ historyOther, action.isDelegation = true := by
      intro action mem
      simpa using List.filter_eq_nil_iff.1 same action mem
    obtain ⟨client, session⟩ := runAll_of_isDelegation all other
    exact ⟨client.trans alike.client_eq, session ▸ alike.session⟩
  | cons action later ih =>
    cases about : action.isDelegation with
    | true =>
      -- The other history waits.
      obtain ⟨client, session⟩ := step_of_isDelegation about state
      refine ih ⟨alike.client_eq.trans client.symm, session ▸ alike.session⟩ ?_
      rw [same, besidesDelegation, List.filter_cons_of_neg (by simp [about])]
      rfl
    | false =>
      -- The other history does the same after some delegation.
      rw [besidesDelegation, besidesDelegation, List.filter_cons_of_pos (by simp [about])] at same
      obtain ⟨front, back, rfl, fronts, -, rest⟩ := List.filter_eq_cons_iff.1 same
      have all : ∀ action ∈ front, action.isDelegation = true := by
        intro action mem
        simpa using fronts action mem
      obtain ⟨client, session⟩ := runAll_of_isDelegation all other
      have before : Alike state (Action.runAll other front) :=
        ⟨client.trans alike.client_eq, session ▸ alike.session⟩
      have split : Action.runAll other (front ++ action :: back) =
          Action.runAll (action.step (Action.runAll other front)) back := List.foldl_append
      rw [split]
      exact ih (before.step about) rest

end Action

/-- Delegation reaches the calls about accounts and no others. After every history, whatever the
session is by then, a request sends calls of its methods in order, all of them if it succeeds.
Besides the headers of the channel, a call about accounts carries the access token last used since
one was last cleared, and the mark if it was last said since then that a person asks; no other call
carries either. Every call carries the level of its request, and the tracking last set and not
cleared if it tells anything. After two histories that differ only in delegation a request without
calls about accounts does the same in every session; and from alike sessions the two histories send
calls that are alike one by one, and the same calls about the member. -/
theorem delegation_reaches_accounts (memberId : String) (engine : Engine) :
    (∀ (history : List Action) (request : Request) (start session : Session), ∃ sent,
      Session.Sent
        (fun channel call =>
          call.Tells channel.headers (Action.contextAfter history request.level call.method))
        request.methods session
        ((request.send (Action.runAll (new memberId engine, start) history).1).run session).2
        ((request.send (Action.runAll (new memberId engine, start) history).1).run session).1.isOk
        sent) ∧
    ∀ history other : List Action,
      Action.besidesDelegation other = Action.besidesDelegation history →
      (∀ (request : Request) (start startOther : Session),
        (∀ method ∈ request.methods, method.isAboutAccounts = false) →
          request.send (Action.runAll (new memberId engine, startOther) other).1 =
            request.send (Action.runAll (new memberId engine, start) history).1) ∧
      ∀ session sessionOther : Session, session.Alike sessionOther →
        List.Forall₂ Call.Alike
            (Action.runAll (new memberId engine, session) history).2.calls
            (Action.runAll (new memberId engine, sessionOther) other).2.calls ∧
          Call.aboutMember (Action.runAll (new memberId engine, sessionOther) other).2.calls =
            Call.aboutMember (Action.runAll (new memberId engine, session) history).2.calls := by
  constructor
  · intro history request start session
    have tells (channel : Channel) (call : Call)
        (told : (Action.runAll (new memberId engine, start) history).1.Tells request.level channel
          call) :
        call.Tells channel.headers (Action.contextAfter history request.level call.method) := by
      rw [Tells, Action.contextOf_runAll] at told
      exact told
    exact (request.sends _).mono tells session
  · intro history other same
    constructor
    · intro request start startOther member
      rw [← request.send_clearAccessToken member, Action.clearAccessToken_runAll same,
        Request.send_clearAccessToken member]
    · intro session sessionOther alike
      have states : Action.Alike (new memberId engine, session)
          (new memberId engine, sessionOther) := ⟨rfl, alike⟩
      have calls := (states.runAll same).session.calls
      exact ⟨calls, Call.aboutMember_eq_of_alike calls⟩

/-- A member with one key lists its aliases, once under an access token and once before it says that
a person asks. Both times one call is sent, and it is the same one. -/
theorem delegation_reaches_accounts_getAliases :
    ∃ (session : Session) (call : Call), call.method = .getAliases ∧
      Call.aboutMember (Action.runAll (new "m:1" ⟨"m:1"⟩, session)
        [.turn (.useAccessToken "ta:1"), .ask .getAliases]).2.calls = [call] ∧
      Call.aboutMember (Action.runAll (new "m:1" ⟨"m:1"⟩, session)
        [.ask .getAliases, .turn (.setCustomerInitiated true)]).2.calls = [call] := by
  obtain ⟨pair, found⟩ := KeyText.exists_ofSeed_ones
  obtain ⟨key, _, _, level, lasting⟩ := SecretKey.exists_ofSeed found .low
  have able : (KeyStore.empty.put "m:1" key).CanSign 0 "m:1" .low key :=
    ⟨KeyStore.mem_keysOf_put _ _ _, level, SecretKey.isExpired_of_eq_none lasting 0⟩
  obtain ⟨low, held⟩ := KeyStore.exists_byLevel able
  refine ⟨.steady {} (fun _ => []) (KeyStore.empty.put "m:1" key) [], ?_⟩
  have alike : (Session.steady {} (fun _ => []) (KeyStore.empty.put "m:1" key) []).Alike
      (.steady {} (fun _ => []) (KeyStore.empty.put "m:1" key) []) :=
    ⟨rfl, rfl, rfl, .nil, fun _ _ => ⟨rfl, fun _ => rfl⟩⟩
  have signs : (Session.steady {} (fun _ => []) (KeyStore.empty.put "m:1" key) []).keys.byLevel
      (Session.steady {} (fun _ => []) (KeyStore.empty.put "m:1" key) []).now "m:1" .low =
        .ok low := held
  have opened : (Session.steady {} (fun _ => []) (KeyStore.empty.put "m:1" key)
      []).channel.closed = false := rfl
  have unsent : (Session.steady {} (fun _ => []) (KeyStore.empty.put "m:1" key) []).calls = [] := rfl
  generalize Session.steady {} (fun _ => []) (KeyStore.empty.put "m:1" key) [] = session
    at alike signs opened unsent ⊢
  obtain ⟨call, method, _, ran⟩ : ∃ call : Call, call.method = .getAliases ∧
      call.body = Json.encode ({} : Empty) ∧
      ((new "m:1" ⟨"m:1"⟩).ask .getAliases ({} : Empty) : Flow Session GetAliasesResponse).run
        session = (Session.read _ (session.gateway session.calls call), session.answered call) :=
    exists_run_ask opened signs .getAliases ({} : Empty)
  have sent : (Action.runAll (new "m:1" ⟨"m:1"⟩, session)
      [.ask .getAliases, .turn (.setCustomerInitiated true)]).2.calls = [call] := by
    show (((new "m:1" ⟨"m:1"⟩).getAliases >>= fun _ => pure ()).run session).2.calls = [call]
    rw [Flow.run_bind_pure, getAliases, Flow.run_bind_pure, ran, Session.answered_calls, unsent]
    rfl
  have about : Call.aboutMember [call] = [call] := by
    simp [Call.aboutMember, method, Method.isAboutAccounts]
  have same := (((delegation_reaches_accounts "m:1" ⟨"m:1"⟩).2
    [.ask .getAliases, .turn (.setCustomerInitiated true)]
    [.turn (.useAccessToken "ta:1"), .ask .getAliases] rfl).2 session session alike).2
  rw [sent, about] at same
  exact ⟨call, method, same, sent.symm ▸ about⟩

end OpenBanking.Client
