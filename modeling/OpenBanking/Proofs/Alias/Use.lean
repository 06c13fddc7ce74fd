import OpenBanking.Membership
import OpenBanking.Proofs.Alias.Normal
import OpenBanking.Proofs.Lossless.Message
import OpenBanking.Proofs.Sending

/-!
# Aliases on their way to the gateway

Some uses of an alias normalize it before they send it: aliases of one normal spelling are then the
same to the gateway, and no other spelling is told. The others forward the spelling that they were
given, in a single call. So they tell aliases of one normal spelling apart unless they send nothing,
and tell the normal spelling only of an alias that has it already.
-/

namespace OpenBanking

open Json

/-! ## Aliases that calls tell -/

/-- The alias that metadata tell. -/
def OperationMetadata.knownAs : OperationMetadata → Alias
  | .addAlias entry => entry.knownAs

namespace Call

/-- The request that the body of a call holds, if it is one. -/
def request? (α : Type) [Wire α] (call : Call) : Option α :=
  (decode call.body : Except ReadError α).toOption

/-- The aliases that a call tells, if its body is a request of its method. -/
def aliases? (call : Call) : Option (List Alias) :=
  match call.method with
  | .resolveAlias => (call.request? ResolveAliasRequest).map fun request => [request.knownAs]
  | .notify => (call.request? NotifyRequest).map fun request => [request.knownAs]
  | .beginRecovery => (call.request? BeginRecoveryRequest).map fun request => [request.knownAs]
  | .retryVerification =>
    (call.request? RetryVerificationRequest).map fun request => [request.knownAs]
  | .updateMember =>
    (call.request? UpdateMemberRequest).map fun request => request.metadata.map (·.knownAs)
  | _ => some []

/-- A call tells no aliases but some of these. -/
def TellsOnly (aliases : List Alias) (call : Call) : Prop :=
  ∃ told, call.aliases? = some told ∧ ∀ x ∈ told, x ∈ aliases

/-- The body of a written request holds the request. -/
theorem request?_encode {α : Type} [Wire α] [Lossless depthLimit α] (method : Method)
    (headers : Headers)
    (x : α) : request? α ⟨method, headers, encode x⟩ = some x := by
  rw [request?, decode_encode]
  rfl

/-- Calls of one method and one body tell the same aliases. -/
theorem aliases?_eq_of_body_eq {call other : Call} (method : call.method = other.method)
    (body : call.body = other.body) : call.aliases? = other.aliases? := by
  simp only [aliases?, request?, method, body]

/-- A call of an update tells the aliases of its metadata. -/
theorem aliases?_updateMember (headers : Headers) (request : UpdateMemberRequest) :
    aliases? ⟨.updateMember, headers, encode request⟩ = some (request.metadata.map (·.knownAs)) := by
  simp only [aliases?, request?_encode, Option.map_some]

end Call

/-! ## Uses of an alias -/

/-- What takes an alias, with all that it takes beside. -/
inductive AliasUse where
  /-- Find the member that owns it. -/
  | resolveAlias
  /-- Ask whether a member owns it. -/
  | aliasExists
  /-- Find the id of the member that owns it. -/
  | getMemberId
  /-- Ask the devices of the member that owns it to approve keys. -/
  | notifyAddKey (keys : List Key) (device : DeviceMetadata)
  /-- Have the code of it sent again. -/
  | retryVerification (client : Client)
  /-- Make keys for a new device of the member that owns it. -/
  | provisionDevice
  /-- Begin to recover the member that owns it. -/
  | beginRecovery
  /-- Set up a member with it. -/
  | setUp (memberId : String)
  /-- Create a member with it. -/
  | create (kind : MemberKind) (realmId : Option String)
  /-- Add it to a member, among others. -/
  | addAliases (member : Member) (before after : List Alias)
  /-- Remove it from a member, among others. -/
  | removeAliases (member : Member) (before after : List Alias)

namespace AliasUse

/-- Whether the use normalizes the alias; the others forward its spelling. -/
def normalizes : AliasUse → Bool
  | resolveAlias | aliasExists | getMemberId | notifyAddKey .. | retryVerification _
  | provisionDevice => false
  | beginRecovery | setUp _ | create .. | addAliases .. | removeAliases .. => true

/-- The aliases that a use of an alias takes. -/
def taken (x : Alias) : AliasUse → List Alias
  | addAliases _ before after | removeAliases _ before after => before ++ x :: after
  | _ => [x]

/-- Does a flow and forgets what it gives. -/
def done {α : Type} (flow : Flow Session α) : Flow Session Unit := flow >>= fun _ => pure ()

/-- Does what a use is for. -/
def run (x : Alias) : AliasUse → Flow Session Unit
  | resolveAlias => done (Anonymous.resolveAlias x)
  | aliasExists => done (Anonymous.aliasExists x)
  | getMemberId => done (Anonymous.getMemberId x)
  | notifyAddKey keys device => done (Anonymous.notifyAddKey x keys device)
  | retryVerification client => done (client.retryVerification x)
  | provisionDevice => done (Membership.provisionDevice x)
  | beginRecovery => done (Anonymous.beginRecovery x)
  | setUp memberId => done (Membership.setUp (some x) memberId)
  | create kind realmId => done (Membership.create (some x) kind realmId)
  | addAliases member before after => member.acting (Member.addAliases (before ++ x :: after))
  | removeAliases member before after => member.acting (Member.removeAliases (before ++ x :: after))

/-- The calls that a use of an alias sends. -/
def sent (use : AliasUse) (x : Alias) (session : Session) : List Call :=
  ((use.run x).run session).2.calls.drop session.calls.length

/-- The bodies that a use of an alias sends. -/
def bodies (use : AliasUse) (x : Alias) (session : Session) : List (List UInt8) :=
  (use.sent x session).map (·.body)

/-- A call can be made: the channel is open, and there is a key for a call that is signed. -/
def CanCall (session : Session) : AliasUse → Prop
  | retryVerification client => session.channel.closed = false ∧
    ∃ key, session.keys.CanSign session.now client.engine.memberId .low key
  | _ => session.channel.closed = false

end AliasUse

/-! ## Spellings that are forwarded -/

/-- A flow about an alias sends one call, which tells the alias, if it is able to, and nothing
otherwise. -/
structure Forwards {α : Type} (flow : Alias → Flow Session α) (able : Session → Prop) : Prop where
  /-- The call of an able session. -/
  sends : ∀ session, able session → ∃ method, ∀ x, ∃ call : Call,
    ((flow x).run session).2.calls = session.calls ++ [call] ∧ call.method = method ∧
      call.aliases? = some [x]
  /-- The silence of others. -/
  silent : ∀ session, ¬able session → ∀ x, ((flow x).run session).2.calls = session.calls

namespace Forwards

variable {α β : Type} {flow : Alias → Flow Session α} {able : Session → Prop}

/-- What follows and sends nothing changes nothing. -/
theorem bind (first : Forwards flow able) {next : Alias → α → Flow Session β}
    (silent : ∀ x value, Session.Silent (next x value)) :
    Forwards (fun x => flow x >>= next x) able := by
  constructor
  · intro session can
    obtain ⟨method, calls⟩ := first.sends session can
    refine ⟨method, fun x => ?_⟩
    obtain ⟨call, sent, told⟩ := calls x
    refine ⟨call, ?_, told⟩
    rw [Session.Silent.run_bind_calls (silent x), sent]
  · intro session cannot x
    rw [Session.Silent.run_bind_calls (silent x), first.silent session cannot x]

/-- Mapping the value changes nothing. -/
theorem map (first : Forwards flow able) (f : Alias → α → β) :
    Forwards (fun x => flow x >>= fun value => pure (f x value)) able :=
  first.bind fun x value => Session.silent_pure (f x value)

/-- A call without identity needs an open channel. -/
theorem anonymous [Wire α] [Wire β] {method : Method} {request : Alias → α}
    (told : ∀ x headers, Call.aliases? ⟨method, headers, encode (request x)⟩ = some [x]) :
    Forwards (fun x => (Anonymous.ask method (request x) : Flow Session β))
      fun session => session.channel.closed = false := by
  constructor
  · intro session opened
    refine ⟨method, fun x => ⟨⟨method, session.channel.headers, encode (request x)⟩, ?_, rfl,
      told x _⟩⟩
    rw [Anonymous.run_ask_of_open opened, Session.answered_calls]
  · intro session closed x
    have shut : session.channel.closed = true := by simpa using closed
    have refused := Session.run_exchange_of_closed (β := β) shut method [] (request x)
    rw [Anonymous.ask, refused]

/-- A call about the member needs a low key besides. -/
theorem client (client : Client) [Wire α] [Wire β] {method : Method} {request : Alias → α}
    (told : ∀ x headers, Call.aliases? ⟨method, headers, encode (request x)⟩ = some [x]) :
    Forwards (fun x => (client.ask method (request x) : Flow Session β))
      fun session => session.channel.closed = false ∧
        ∃ key, session.keys.CanSign session.now client.engine.memberId .low key := by
  constructor
  · rintro session ⟨opened, key, canSign⟩
    obtain ⟨low, found⟩ := KeyStore.exists_byLevel canSign
    refine ⟨method, fun x => ?_⟩
    obtain ⟨call, methodEq, bodyEq, ran⟩ :=
      Client.exists_run_ask (β := β) opened found method (request x)
    refine ⟨call, ?_, methodEq, ?_⟩
    · rw [ran, Session.answered_calls]
    · rw [← told x []]
      exact Call.aliases?_eq_of_body_eq methodEq bodyEq
  · intro session cannot x
    -- Without a key the headers fail; with one they are made, and the closed channel refuses them.
    by_cases able : ∃ key, session.keys.CanSign session.now client.engine.memberId .low key
    · have shut : session.channel.closed = true := by
        cases closed : session.channel.closed with
        | true => rfl
        | false => exact absurd ⟨closed, able⟩ cannot
      obtain ⟨key, canSign⟩ := able
      obtain ⟨low, found⟩ := KeyStore.exists_byLevel canSign
      have signed : ((client.identity client.ownContext).headers (encode (request x))).run session =
          (.ok _, session) := Identity.run_headers_of_byLevel found _
      rw [Client.ask, Identity.exchange, Flow.run_bind_of_ok signed,
        Session.run_exchange_of_closed shut]
    · have missing := KeyStore.byLevel_of_forall_not (not_exists.1 able)
      have failed : ((client.identity client.ownContext).exchange method (request x) :
          Flow Session β).run session = (.error _, session) :=
        Identity.run_exchange_of_error missing method _
      rw [Client.ask, failed]

end Forwards

/-- What the lookup of an alias sends tells the spelling that was given. -/
theorem forwards_resolveAlias :
    Forwards Anonymous.resolveAlias fun session => session.channel.closed = false := by
  have asks : Forwards
      (fun x => (Anonymous.ask .resolveAlias (ResolveAliasRequest.mk x) :
        Flow Session ResolveAliasResponse)) fun session => session.channel.closed = false := by
    refine .anonymous fun x headers => ?_
    simp only [Call.aliases?, Call.request?_encode, Option.map_some]
  exact asks.map _

/-- So does the search for the id of its member. -/
theorem forwards_getMemberId :
    Forwards Anonymous.getMemberId fun session => session.channel.closed = false := by
  refine forwards_resolveAlias.bind fun x member => ?_
  cases member with
  | none => exact Session.silent_fail _
  | some member => exact Session.silent_pure _

/-- Every use that does not normalize the alias forwards it. -/
theorem AliasUse.forwards_run {use : AliasUse} (forwards : use.normalizes = false) :
    Forwards use.run use.CanCall := by
  cases use with
  | resolveAlias => exact forwards_resolveAlias.map _
  | aliasExists =>
    have looks : Forwards Anonymous.aliasExists fun session => session.channel.closed = false :=
      forwards_resolveAlias.map _
    exact looks.map _
  | getMemberId => exact forwards_getMemberId.map _
  | notifyAddKey keys device =>
    have asks : Forwards
        (fun x => (Anonymous.ask .notify (NotifyRequest.mk x (.addKey ⟨keys, device⟩)) :
          Flow Session NotifyResponse)) fun session => session.channel.closed = false := by
      refine .anonymous fun x headers => ?_
      simp only [Call.aliases?, Call.request?_encode, Option.map_some]
    have notifies : Forwards (fun x => Anonymous.notifyAddKey x keys device)
        fun session => session.channel.closed = false :=
      asks.map _
    exact notifies.map _
  | retryVerification client =>
    have asks : Forwards
        (fun x => (client.ask .retryVerification (RetryVerificationRequest.mk client.memberId x) :
          Flow Session VerificationIdResponse)) (CanCall · (.retryVerification client)) := by
      refine .client client fun x headers => ?_
      simp only [Call.aliases?, Call.request?_encode, Option.map_some]
    have retries : Forwards client.retryVerification (CanCall · (.retryVerification client)) :=
      asks.map _
    exact retries.map _
  | provisionDevice =>
    have provisions : Forwards Membership.provisionDevice
        fun session => session.channel.closed = false := by
      refine forwards_getMemberId.bind fun x memberId => ?_
      refine (Engine.silent_generate ⟨memberId⟩ .privileged).bind fun privileged => ?_
      refine (Engine.silent_generate ⟨memberId⟩ .standard).bind fun standard => ?_
      exact (Engine.silent_generate ⟨memberId⟩ .low).bind fun low => Session.silent_pure _
    exact provisions.map _
  | beginRecovery | setUp | create | addAliases | removeAliases => cases forwards

/-! ## Spellings that are normalized -/

/-- A call that cannot tell an alias tells none. -/
theorem Call.tellsOnly_of_aliases?_eq_nil {call : Call} (told : call.aliases? = some [])
    (aliases : List Alias) : call.TellsOnly aliases :=
  ⟨[], told, by simp⟩

/-- The metadata of normal spellings tell just these. -/
theorem Call.tellsOnly_updateMember (aliases : List Alias) (update : MemberUpdate)
    (signature : Signature) (headers : Headers) :
    Call.TellsOnly (aliases.map (·.normalize)) ⟨.updateMember, headers,
      encode (UpdateMemberRequest.mk update signature
        ((aliases.map (·.normalize)).map .ofAlias))⟩ := by
  refine ⟨_, aliases?_updateMember headers _, ?_⟩
  intro x told
  simpa [OperationMetadata.ofAlias, OperationMetadata.knownAs] using told

namespace AliasUse

variable {x y : Alias}

/-- Setting up a member goes by the normal spelling of the alias. -/
theorem setUp_eq_of_normalize_eq (same : x.normalize = y.normalize) :
    Membership.setUp (some x) = Membership.setUp (some y) := by
  funext memberId
  simp only [Membership.setUp, Option.map_some, same]

/-- A use that normalizes aliases does the same with all aliases of one normal spelling. -/
theorem run_eq_of_normalize_eq {use : AliasUse} (normalizes : use.normalizes = true)
    (same : x.normalize = y.normalize) : use.run x = use.run y := by
  cases use with
  | beginRecovery => rw [run, run, Anonymous.beginRecovery, Anonymous.beginRecovery, same]
  | setUp memberId => rw [run, run, setUp_eq_of_normalize_eq same]
  | create kind realmId =>
    rw [run, run, Membership.create, Membership.create, setUp_eq_of_normalize_eq same]
  | addAliases member before after =>
    have lists : (before ++ x :: after).map (·.normalize) =
        (before ++ y :: after).map (·.normalize) := by
      rw [List.map_append, List.map_append, List.map_cons, List.map_cons, same]
    rw [run, run, Member.addAliases, Member.addAliases, lists]
  | removeAliases member before after =>
    have lists : (before ++ x :: after).map MemberOperation.withoutAlias =
        (before ++ y :: after).map MemberOperation.withoutAlias := by
      rw [List.map_append, List.map_append, List.map_cons, List.map_cons,
        Alias.withoutAlias_eq_of_normalize_eq same]
    rw [run, run, Member.removeAliases, Member.removeAliases, lists]
  | resolveAlias | aliasExists | getMemberId | notifyAddKey | retryVerification
  | provisionDevice => cases normalizes

/-- Setting up a member tells no spelling of its alias but the normal one. -/
theorem onlySends_setUp (x : Alias) (memberId : String) :
    Session.OnlySends (Call.TellsOnly [x.normalize]) (Membership.setUp (some x) memberId) := by
  have asks : Session.OnlySends (Call.TellsOnly [x.normalize]) Anonymous.getDefaultAgent :=
    (Anonymous.onlySends_ask fun _ => Call.tellsOnly_of_aliases?_eq_nil rfl _).map _
  refine asks.bind fun agentId => ?_
  -- The keys are made here and go out only as operations.
  refine (Engine.silent_generate ⟨memberId⟩ .privileged).onlySends.bind fun privileged => ?_
  refine (Engine.silent_generate ⟨memberId⟩ .standard).onlySends.bind fun standard => ?_
  refine (Engine.silent_generate ⟨memberId⟩ .low).onlySends.bind fun low => ?_
  refine (Engine.silent_signer ⟨memberId⟩ .privileged).onlySends.bind fun signer => ?_
  have creates : Session.OnlySends (Call.TellsOnly [x.normalize])
      (Anonymous.createMember memberId
        (Membership.firstOperations [privileged, standard, low] agentId (some x.normalize))
        ([x].map (·.normalize) |>.map .ofAlias) signer) :=
    Anonymous.onlySends_createMember _ _ _ _ (Call.tellsOnly_updateMember [x])
  refine creates.bind fun record => ?_
  exact (Session.silent_read _).onlySends.map _

/-- A use that normalizes aliases tells no spelling but the normal ones of what it takes. -/
theorem onlySends_run {use : AliasUse} (normalizes : use.normalizes = true) (x : Alias) :
    Session.OnlySends (Call.TellsOnly ((use.taken x).map (·.normalize))) (use.run x) := by
  cases use with
  | beginRecovery =>
    have asks : Session.OnlySends (Call.TellsOnly [x.normalize]) (Anonymous.beginRecovery x) := by
      refine (Anonymous.onlySends_ask fun headers => ⟨[x.normalize], ?_, by simp⟩).map _
      simp only [Call.aliases?, Call.request?_encode, Option.map_some]
    exact asks.map _
  | setUp memberId => exact (onlySends_setUp x memberId).map _
  | create kind realmId =>
    have reserves : Session.OnlySends (Call.TellsOnly [x.normalize])
        (Anonymous.createMemberId kind realmId) := by
      refine Session.silent_freshNonce.onlySends.bind fun nonce => ?_
      exact (Anonymous.onlySends_ask fun _ => Call.tellsOnly_of_aliases?_eq_nil rfl _).map _
    have creates : Session.OnlySends (Call.TellsOnly [x.normalize])
        (Membership.create (some x) kind realmId) :=
      reserves.bind (onlySends_setUp x)
    exact creates.map _
  | addAliases member before after =>
    exact member.onlySends_acting_update _ _ (fun _ => Call.tellsOnly_of_aliases?_eq_nil rfl _)
      (Call.tellsOnly_updateMember (before ++ x :: after))
  | removeAliases member before after =>
    refine member.onlySends_acting_update _ _ (fun _ => Call.tellsOnly_of_aliases?_eq_nil rfl _) ?_
    intro update signature headers
    exact Call.tellsOnly_of_aliases?_eq_nil (Call.aliases?_updateMember headers _) _
  | resolveAlias | aliasExists | getMemberId | notifyAddKey | retryVerification
  | provisionDevice => cases normalizes

/-! ## The rule and its exceptions -/

variable {use : AliasUse} {session : Session}

/-- The calls that a use sends are those that it adds. -/
theorem sent_eq_of_calls_eq {sent : List Call}
    (calls : ((use.run x).run session).2.calls = session.calls ++ sent) :
    use.sent x session = sent := by
  rw [AliasUse.sent, calls, List.drop_left]

/-- A use that forwards aliases and can make a call sends one call for each of two, by one method,
which tells the alias. -/
theorem exists_sent_of_canCall (forwards : use.normalizes = false) (able : use.CanCall session)
    (x y : Alias) :
    ∃ call other, use.sent x session = [call] ∧ use.sent y session = [other] ∧
      call.method = other.method ∧ call.aliases? = some [x] ∧ other.aliases? = some [y] := by
  obtain ⟨method, calls⟩ := (forwards_run forwards).sends session able
  obtain ⟨call, sent, methodEq, told⟩ := calls x
  obtain ⟨other, otherSent, otherMethodEq, otherTold⟩ := calls y
  exact ⟨call, other, sent_eq_of_calls_eq sent, sent_eq_of_calls_eq otherSent,
    methodEq.trans otherMethodEq.symm, told, otherTold⟩

/-- A use that forwards aliases and cannot make a call sends nothing. -/
theorem sent_eq_nil_of_not_canCall (forwards : use.normalizes = false)
    (unable : ¬use.CanCall session) (x : Alias) : use.sent x session = [] := by
  apply sent_eq_of_calls_eq
  rw [(forwards_run forwards).silent session unable x, List.append_nil]

/-- A use that forwards aliases and can make a call sends one body for two spellings only if they
are the same. -/
theorem eq_of_bodies_eq (forwards : use.normalizes = false) (able : use.CanCall session)
    (bodies : use.bodies x session = use.bodies y session) : x = y := by
  obtain ⟨call, other, sent, otherSent, method, told, otherTold⟩ :=
    exists_sent_of_canCall forwards able x y
  rw [AliasUse.bodies, AliasUse.bodies, sent, otherSent] at bodies
  have body : call.body = other.body := by simpa using bodies
  rw [Call.aliases?_eq_of_body_eq method body, otherTold] at told
  simpa using told.symm

/-- A use that forwards aliases and can make a call tells the normal spelling only if it was given.
-/
theorem normalize_eq_of_tellsOnly (forwards : use.normalizes = false) (able : use.CanCall session)
    (normal : ∀ call ∈ use.sent x session, call.TellsOnly ((use.taken x).map (·.normalize))) :
    x.normalize = x := by
  obtain ⟨call, _, sent, _, _, told, _⟩ := exists_sent_of_canCall forwards able x x
  have taken : use.taken x = [x] := by
    cases use with
    | addAliases | removeAliases => cases forwards
    | _ => rfl
  rw [sent] at normal
  obtain ⟨spellings, same, only⟩ := normal call List.mem_cons_self
  rw [told] at same
  cases same
  have listed := only x List.mem_cons_self
  rw [taken] at listed
  have own : x = x.normalize := by simpa using listed
  exact own.symm

/-- A call that tells an alias in its normal spelling tells only that. -/
theorem tellsOnly_of_canCall (forwards : use.normalizes = false) (able : use.CanCall session)
    (normal : x.normalize = x) :
    ∀ call ∈ use.sent x session, call.TellsOnly ((use.taken x).map (·.normalize)) := by
  obtain ⟨call, _, sent, _, _, told, _⟩ := exists_sent_of_canCall forwards able x x
  intro other mem
  rw [sent, List.mem_singleton] at mem
  rw [mem]
  refine ⟨[x], told, ?_⟩
  intro z listed
  have taken : x ∈ use.taken x := by
    cases use <;> simp [AliasUse.taken]
  rw [List.mem_singleton.1 listed]
  exact List.mem_map.2 ⟨x, taken, normal⟩

/-- When two spellings of one normal spelling are the same to the gateway, and when it is told
normal spellings alone: always if the use normalizes aliases, and also if it sends nothing;
otherwise the two must be one spelling, and the one that is told must be the normal one. -/
theorem bodies_eq_and_normal_iff (use : AliasUse) {x y : Alias} (same : x.normalize = y.normalize)
    (session : Session) :
    (use.bodies x session = use.bodies y session ↔
      use.normalizes = true ∨ ¬use.CanCall session ∨ x = y) ∧
    ((∀ call ∈ use.sent x session, call.TellsOnly ((use.taken x).map (·.normalize))) ↔
      use.normalizes = true ∨ ¬use.CanCall session ∨ x.normalize = x) := by
  cases normalizes : use.normalizes with
  | true =>
    have equal := run_eq_of_normalize_eq normalizes same
    obtain ⟨sent, calls, normal⟩ := onlySends_run normalizes x session
    rw [← sent_eq_of_calls_eq calls] at normal
    refine ⟨⟨fun _ => .inl rfl, fun _ => ?_⟩, fun _ => .inl rfl, fun _ => normal⟩
    rw [AliasUse.bodies, AliasUse.bodies, AliasUse.sent, AliasUse.sent, equal]
  | false =>
    by_cases able : use.CanCall session
    · constructor
      · constructor
        · intro bodies
          exact .inr (.inr (eq_of_bodies_eq normalizes able bodies))
        · rintro (never | unable | rfl)
          · cases never
          · exact absurd able unable
          · rfl
      · constructor
        · intro normal
          exact .inr (.inr (normalize_eq_of_tellsOnly normalizes able normal))
        · rintro (never | unable | normal)
          · cases never
          · exact absurd able unable
          · exact tellsOnly_of_canCall normalizes able normal
    · have nothing := sent_eq_nil_of_not_canCall normalizes able
      constructor
      · refine ⟨fun _ => .inr (.inl able), fun _ => ?_⟩
        rw [AliasUse.bodies, AliasUse.bodies, nothing, nothing]
      · refine ⟨fun _ => .inr (.inl able), fun _ => ?_⟩
        rw [nothing]
        simp

/-- A recovery begins alike for two spellings of an address. -/
theorem bodies_eq_and_normal_iff_email :
    (Alias.email " Alice@Example.com ").normalize = (Alias.email "alice@example.com").normalize ∧
      AliasUse.beginRecovery.bodies (.email " Alice@Example.com ")
          (.steady {} (fun _ => []) .empty []) =
        AliasUse.beginRecovery.bodies (.email "alice@example.com")
          (.steady {} (fun _ => []) .empty []) := by
  have same : (Alias.email " Alice@Example.com ").normalize =
      (Alias.email "alice@example.com").normalize := by decide +kernel
  exact ⟨same, (bodies_eq_and_normal_iff .beginRecovery same _).1.2 (.inl rfl)⟩

/-- The lookup of an address tells two spellings of it apart, and tells a spelling that is not
normal. -/
theorem resolveAlias_bodies_ne_email :
    (Alias.email " Alice@Example.com ").normalize = (Alias.email "alice@example.com").normalize ∧
      AliasUse.resolveAlias.bodies (.email " Alice@Example.com ")
          (.steady {} (fun _ => []) .empty []) ≠
        AliasUse.resolveAlias.bodies (.email "alice@example.com")
          (.steady {} (fun _ => []) .empty []) ∧
      ¬∀ call ∈ AliasUse.resolveAlias.sent (.email " Alice@Example.com ")
          (.steady {} (fun _ => []) .empty []),
        call.TellsOnly [(Alias.email " Alice@Example.com ").normalize] := by
  have able : AliasUse.resolveAlias.CanCall (.steady {} (fun _ => []) .empty []) := rfl
  refine ⟨by decide +kernel, ?_, ?_⟩
  · intro bodies
    have one : Alias.email " Alice@Example.com " = Alias.email "alice@example.com" :=
      eq_of_bodies_eq rfl able bodies
    revert one
    decide
  · intro normal
    have own : (Alias.email " Alice@Example.com ").normalize = Alias.email " Alice@Example.com " :=
      normalize_eq_of_tellsOnly rfl able normal
    revert own
    decide +kernel

end AliasUse

end OpenBanking
