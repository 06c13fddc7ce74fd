import OpenBanking.Proofs.Alias.Lookup
import OpenBanking.Proofs.Membership.Stages

/-!
# Onboarding speaks of one alias

A business is onboarded in five calls, and the answer to each of the first four goes into those
after it. The alias is normalized before the member is created, again when its operation and its
metadata are made, and within the hash; since a normal spelling is its own normal spelling, all of
them and the payload that the certificate signs speak of the same alias, in the realm of the bank
that was found, and of the member that was created there.
-/

namespace OpenBanking

open Json

namespace Anonymous

variable {session later : Session}

/-- Whoever was told the id of an owner has asked for it in one call, which was answered by a member
of this id. -/
theorem exists_of_run_getMemberId {x : Alias} {memberId : String}
    (gave : (getMemberId x).run session = (.ok memberId, later)) :
    ∃ call party, session.Went later [call] ∧ call.method = .resolveAlias ∧
      decode call.body = .ok (ResolveAliasRequest.mk x) ∧
      Session.read ResolveAliasResponse (session.gateway session.calls call) = .ok ⟨some party⟩ ∧
      party.id = memberId := by
  obtain ⟨owner, middle, resolved, owned⟩ := Flow.exists_of_run_bind_ok gave
  obtain ⟨response, told, found, rfl⟩ := of_run_resolveAlias_ok resolved
  -- Only a member with an id is an owner.
  cases owner with
  | none => cases owned
  | some party =>
    cases owned
    obtain ⟨isMember, _⟩ := ResolveAliasResponse.owner?_eq_some_iff.1 found
    obtain ⟨member⟩ := response
    cases isMember
    exact ⟨_, party, ⟨rfl, rfl, rfl⟩, rfl, decode_asked session.channel .resolveAlias _, told, rfl⟩

/-- Whoever was given a new id has asked for it in one call, with the kind and the realm. -/
theorem exists_of_run_createMemberId {kind : MemberKind} {realmId : Option String} {memberId : String}
    (gave : (createMemberId kind realmId).run session = (.ok memberId, later)) :
    ∃ call nonce, session.Went later [call] ∧ call.method = .createMember ∧
      decode call.body = .ok (CreateMemberRequest.mk nonce kind (realmId.getD "") "") ∧
      Session.read CreateMemberResponse (session.gateway session.calls call) = .ok ⟨memberId⟩ := by
  have asks : Session.Performs (Session.Asked (fun _ call => call.method = .createMember ∧
      ∃ nonce, decode call.body = .ok (CreateMemberRequest.mk nonce kind (realmId.getD "") ""))
      fun answer => (Session.read CreateMemberResponse answer).map (·.memberId))
      (createMemberId kind realmId) :=
    Session.silent_freshNonce.asks fun nonce =>
      (performs_ask fun channel => ⟨rfl, nonce, decode_asked channel .createMember _⟩).map _
  obtain ⟨call, went, ⟨method, nonce, decoded⟩, told⟩ := asks.exists_of_run_ok gave
  refine ⟨call, nonce, went, method, decoded, ?_⟩
  cases read : Session.read CreateMemberResponse (session.gateway session.calls call) with
  | error error =>
    rw [read] at told
    cases told
  | ok response =>
    rw [read] at told
    cases told
    rfl

/-- An update that is signed is one question for the record, and one that is not is not asked. -/
theorem performs_applyUpdate (update : MemberUpdate) (metadata : List OperationMetadata)
    (signer : Signer) :
    Session.Performs (Session.Asked
      (fun _ call => ∃ request, call.CarriesOwn update metadata signer request) Session.readRecord)
      (applyUpdate update metadata signer) := by
  cases signed : signer.signOctets (canonicalOctets update) with
  | error error =>
    intro session
    rw [run_applyUpdate_of_error metadata signed]
    exact ⟨[], Session.SameWay.went ⟨rfl, rfl, rfl⟩, .unsent _⟩
  | ok signature =>
    have asks : Session.Performs (Session.Asked
        (fun _ call => ∃ request, call.CarriesOwn update metadata signer request)
        (Session.read MemberResponse)) (ask .updateMember
          (UpdateMemberRequest.mk update ⟨update.memberId, signer.keyId, signature⟩ metadata)) :=
      performs_ask fun channel => ⟨_, Call.carriesOwn_of_signed channel.headers metadata signed⟩
    have sends : applyUpdate update metadata signer = (do
        let response : MemberResponse ← ask .updateMember
          (UpdateMemberRequest.mk update ⟨update.memberId, signer.keyId, signature⟩ metadata)
        return response.member) := by
      rw [applyUpdate, Signer.sign, signed]
      rfl
    rw [sends]
    exact asks.map _

/-- A new member whose record was told was updated in one call. -/
theorem exists_of_run_createMember {memberId : String} {operations : List MemberOperation}
    {metadata : List OperationMetadata} {signer : Signer} {record : MemberRecord}
    (gave : (createMember memberId operations metadata signer).run session = (.ok record, later)) :
    ∃ call request, session.Went later [call] ∧
      call.CarriesOwn ⟨memberId, "", operations⟩ metadata signer request ∧
      Session.read MemberResponse (session.gateway session.calls call) = .ok ⟨record⟩ := by
  have update : (MemberUpdate.forMember memberId "").append operations =
      ⟨memberId, "", operations⟩ := by
    simp [MemberUpdate.forMember, MemberUpdate.append]
  obtain ⟨told, middle, updated, logged⟩ := Flow.exists_of_run_bind_ok gave
  cases logged
  rw [update] at updated
  obtain ⟨call, went, ⟨request, carries⟩, read⟩ :=
    (performs_applyUpdate _ metadata signer).exists_of_run_ok updated
  exact ⟨call, request, ⟨went.calls_eq, went.channel_eq, went.gateway_eq⟩, carries,
    Session.readRecord_eq_ok.1 read⟩

end Anonymous

namespace Membership

variable {session later : Session}

/-- A member that was set up was updated in its second call, under the agent that the first one
told, and has the record that was answered. -/
theorem exists_of_run_setUp {x : Option Alias} {memberId : String} {member : Member}
    (gave : (setUp x memberId).run session = (.ok member, later)) :
    ∃ agent update request agentId keys own, session.Went later [agent, update] ∧
      agent.method = .getDefaultAgent ∧
      update.CarriesOwn ⟨memberId, "", firstOperations keys agentId (x.map (·.normalize))⟩
        ((x.map (·.normalize)).toList.map .ofAlias) own request ∧
      Session.read MemberResponse (session.gateway (session.calls ++ [agent]) update) =
        .ok ⟨member.record⟩ := by
  rw [setUp_eq] at gave
  obtain ⟨agentId, asked, askedAgent, gave⟩ := Flow.exists_of_run_bind_ok gave
  obtain ⟨agent, isAgent, _, _, rfl⟩ := Anonymous.exists_of_run_getDefaultAgent askedAgent
  obtain ⟨⟨privileged, standard, low, own⟩, keyed, keys, gave⟩ := Flow.exists_of_run_bind_ok gave
  obtain ⟨record, created, createdMember, bound⟩ := Flow.exists_of_run_bind_ok gave
  cases bound
  have way := (Anonymous.of_run_defaultRecoveryKeys keys).1
  obtain ⟨update, request, went, carries, told⟩ :=
    Anonymous.exists_of_run_createMember createdMember
  have first : session.Went (session.answered agent) [agent] := ⟨rfl, rfl, rfl⟩
  rw [way.gateway_eq, way.calls_eq] at told
  exact ⟨agent, update, request, agentId, [privileged, standard, low], own,
    first.trans (way.went.trans went), isAgent, carries, told⟩

/-! ## The trail of an onboarding -/

/-- What the gateway sees of an onboarding: its calls, what it answers to the first, and what it
decodes of those that carry something on. -/
structure Trail where
  /-- Asks for the bank. -/
  resolve : Call
  /-- The bank that was found. -/
  bank : Party
  /-- Reserves an id. -/
  create : Call
  /-- What it asks for. -/
  created : CreateMemberRequest
  /-- Asks for the agent that recovers members by default. -/
  agent : Call
  /-- Updates the new member. -/
  update : Call
  /-- The update and what is told beside it. -/
  updated : UpdateMemberRequest
  /-- Has the certificate verified. -/
  verify : Call
  /-- What is verified. -/
  verified : VerifyEidasRequest

namespace Trail

/-- The calls in order. -/
def calls (trail : Trail) : List Call :=
  [trail.resolve, trail.create, trail.agent, trail.update, trail.verify]

/-- A trail is that of a run which onboarded a member. -/
structure Of (trail : Trail) (bankId : String) (session later : Session) (onboarding : Onboarding) :
    Prop where
  /-- These calls were sent and no others. -/
  calls_eq : later.calls = session.calls ++ trail.calls
  /-- Their methods. -/
  methods_eq : trail.calls.map (·.method) =
    [.resolveAlias, .createMember, .getDefaultAgent, .updateMember, .verifyEidas]
  /-- The first one asks for the alias of the bank. -/
  resolves : decode trail.resolve.body = .ok (ResolveAliasRequest.mk (.bank bankId))
  /-- It was answered by the bank. -/
  resolved : Session.read ResolveAliasResponse (session.gateway session.calls trail.resolve) =
    .ok ⟨some trail.bank⟩
  /-- What is asked for the new member can be decoded. -/
  creates : decode trail.create.body = .ok trail.created
  /-- The id that is updated is the one that was answered. -/
  reserved : Session.read CreateMemberResponse
    (session.gateway (session.calls ++ [trail.resolve]) trail.create) =
      .ok ⟨trail.updated.update.memberId⟩
  /-- The update can be decoded. -/
  updates : decode trail.update.body = .ok trail.updated
  /-- The record of the member is the one that was answered. -/
  recorded : Session.read MemberResponse
    (session.gateway (session.calls ++ [trail.resolve, trail.create, trail.agent]) trail.update) =
      .ok ⟨onboarding.member.record⟩
  /-- What is to be verified can be decoded. -/
  verifies : decode trail.verify.body = .ok trail.verified
  /-- What became of it is what was answered. -/
  answered : Session.read EidasResponse
    (session.gateway
      (session.calls ++ [trail.resolve, trail.create, trail.agent, trail.update]) trail.verify) =
      .ok onboarding.response

end Trail

/-- The alias that an operation adds, by its hash and realm. -/
def addedAlias? : MemberOperation → Option AliasChange
  | .addAlias change => some change
  | _ => none

/-- First operations add the alias that is there, and no other. -/
theorem filterMap_addedAlias?_firstOperations (keys : List Key) (agentId : String)
    (x : Option Alias) :
    (firstOperations keys agentId (x.map (·.normalize))).filterMap addedAlias? =
      x.toList.map fun x => ⟨x.hash, x.normalize.realmId⟩ := by
  have others : (keys.map MemberOperation.ofKey).filterMap addedAlias? = [] := by
    rw [List.filterMap_map]
    exact List.filterMap_eq_nil_iff.2 fun _ _ => rfl
  rw [firstOperations, map_ofAlias_toList, List.filterMap_append, List.filterMap_append, others]
  cases x <;> rfl

/-! ## Onboardings that succeed -/

/-- A gateway answers all that an onboarding asks for: it knows the bank, gives a new member an id,
knows an agent, tells the record of the new member, and answers the verification. -/
structure Welcomes (gateway : Gateway) (bank : Party) (memberId agentId : String)
    (response : EidasResponse) : Prop where
  /-- The bank is known. -/
  knows_bank : ∀ earlier call, call.method = .resolveAlias →
    Session.read ResolveAliasResponse (gateway earlier call) = .ok ⟨some bank⟩
  /-- It has an id. -/
  bank_id_ne : bank.id ≠ ""
  /-- The new member gets an id. -/
  gives_id : ∀ earlier call, call.method = .createMember →
    Session.read CreateMemberResponse (gateway earlier call) = .ok ⟨memberId⟩
  /-- The agent is known. -/
  knows_agent : ∀ earlier call, call.method = .getDefaultAgent →
    Session.read GetDefaultAgentResponse (gateway earlier call) = .ok ⟨agentId⟩
  /-- The record is told. -/
  tells : gateway.TellsUpdated memberId
  /-- The verification is answered. -/
  verifies : ∀ earlier call, call.method = .verifyEidas →
    Session.read EidasResponse (gateway earlier call) = .ok response

section Welcomes

variable {bank : Party} {memberId agentId : String} {response : EidasResponse}
  {privileged standard low : SecretKey}

/-- Behind such a gateway the id of the bank is found. -/
theorem Welcomes.run_getMemberId (welcomes : Welcomes session.gateway bank memberId agentId response)
    (opened : session.channel.closed = false) (x : Alias) :
    (Anonymous.getMemberId x).run session = (.ok bank.id,
      session.answered (session.channel.plainCall .resolveAlias (ResolveAliasRequest.mk x))) := by
  have resolved := Anonymous.run_resolveAlias_of_open opened x
  have owner : ResolveAliasResponse.owner? ⟨some bank⟩ = some bank :=
    ResolveAliasResponse.owner?_eq_some_iff.2 ⟨rfl, welcomes.bank_id_ne⟩
  rw [welcomes.knows_bank _ _ rfl, Except.map, owner] at resolved
  exact Anonymous.run_getMemberId_of_ok resolved

/-- A new member gets its id, and no seed is spent for it. -/
theorem Welcomes.exists_run_createMemberId
    (welcomes : Welcomes session.gateway bank memberId agentId response)
    (opened : session.channel.closed = false) (kind : MemberKind) (realmId : Option String) :
    ∃ later, (Anonymous.createMemberId kind realmId).run session = (.ok memberId, later) ∧
      later.channel = session.channel ∧ later.gateway = session.gateway ∧
      later.seeds = session.seeds := by
  have drawn : Session.freshNonce.run session = (.ok (Uuid.ofOctets (session.entropy 0)),
    { session with entropy := fun n => session.entropy (n + 1) }) := rfl
  have openedLater : { session with
    entropy := fun n => session.entropy (n + 1) }.channel.closed = false := opened
  have asked := Anonymous.run_ask_of_open (β := CreateMemberResponse) openedLater .createMember
    (CreateMemberRequest.mk (Uuid.ofOctets (session.entropy 0)) kind (realmId.getD "") "")
  rw [welcomes.gives_id _ _ rfl] at asked
  rw [Anonymous.createMemberId, Flow.run_bind_of_ok drawn, Flow.run_bind_of_ok asked]
  exact ⟨_, rfl, rfl, rfl, rfl⟩

/-- It is set up, and its low key can be found afterwards. -/
theorem Welcomes.exists_run_setUp
    (welcomes : Welcomes session.gateway bank memberId agentId response)
    (opened : session.channel.closed = false)
    (made : SecretKey.ofSeeds [.privileged, .standard, .low] session.seeds =
      [privileged, standard, low])
    (distinct : ([privileged, standard, low].map (·.id)).Nodup) (x : Option Alias) :
    ∃ member later, (setUp x memberId).run session = (.ok member, later) ∧
      member.client = .new memberId ⟨memberId⟩ ∧ later.channel = session.channel ∧
      later.gateway = session.gateway ∧
      later.keys.byLevel later.now memberId .low = .ok low := by
  have asked := Anonymous.run_ask_of_open (β := GetDefaultAgentResponse) opened .getDefaultAgent
    ({} : Empty)
  rw [welcomes.knows_agent _ _ rfl] at asked
  generalize (⟨.getDefaultAgent, session.channel.headers, encode ({} : Empty)⟩ : Call) = agent at asked
  have knows : Anonymous.getDefaultAgent.run session = (.ok agentId, session.answered agent) := by
    rw [Anonymous.getDefaultAgent, Flow.run_bind_of_ok asked]
    rfl
  have openedLater : (session.answered agent).channel.closed = false := opened
  obtain ⟨_, _, member, later, ran, _, _, _, client⟩ :=
    exists_run_setUpUnder agentId x openedLater made distinct welcomes.tells
  have wholeRun : (setUp x memberId).run session = (.ok member, later) := by
    rw [setUp_eq, Flow.run_bind_of_ok knows, ran]
  obtain ⟨_, _, _, _, _, _, went, _⟩ := exists_of_run_setUp wholeRun
  have keys := makes_setUpUnder agentId x memberId (session.answered agent)
  rw [ran] at keys
  have found := KeyStore.byLevel_putAll_ofSeeds (made.symm ▸ distinct) (by decide)
    (made.symm ▸ (by simp : low ∈ [privileged, standard, low])) session.keys memberId later.now
  have isLow : low.level = .low := by
    have levels := (SecretKey.isPrefix_levels_ofSeeds [.privileged, .standard, .low] session.seeds)
    simp only [made, List.map_cons, List.map_nil, List.cons_prefix_cons] at levels
    exact levels.2.2.1
  rw [isLow, ← Session.answered_keys session agent] at found
  exact ⟨member, later, wholeRun, client, went.channel_eq, went.gateway_eq, keys ▸ found⟩

/-- Behind such a gateway a business is onboarded over an open channel, if keys can be made and the
key of the certificate signs. -/
theorem Welcomes.exists_run_onboard
    (welcomes : Welcomes session.gateway bank memberId agentId response)
    (opened : session.channel.closed = false)
    (made : SecretKey.ofSeeds [.privileged, .standard, .low] session.seeds =
      [privileged, standard, low])
    (distinct : ([privileged, standard, low].map (·.id)).Nodup) {signer : Signer}
    (signs : ∀ message, ∃ signature, signer.signOctets message = .ok signature)
    (authorizationNumber certificate bankId : String) :
    ∃ onboarding later, (onboard authorizationNumber certificate bankId signer).run session =
      (.ok onboarding, later) := by
  have found := welcomes.run_getMemberId opened (.bank bankId)
  generalize session.channel.plainCall .resolveAlias (ResolveAliasRequest.mk (.bank bankId)) = resolve
    at found
  have welcomesFirst : Welcomes (session.answered resolve).gateway bank memberId agentId response :=
    welcomes
  have openedFirst : (session.answered resolve).channel.closed = false := opened
  obtain ⟨reserved, reserves, channel, gateway, seeds⟩ :=
    welcomesFirst.exists_run_createMemberId openedFirst .business (some bank.id)
  rw [← gateway] at welcomesFirst
  rw [← channel] at openedFirst
  have madeLater : SecretKey.ofSeeds [.privileged, .standard, .low] reserved.seeds =
      [privileged, standard, low] := by
    rw [seeds]
    exact made
  obtain ⟨member, established, setsUp, client, channel, gateway, keys⟩ :=
    welcomesFirst.exists_run_setUp openedFirst madeLater distinct
      (some ((Alias.eidas authorizationNumber).inRealm bank.id).normalize)
  rw [← gateway] at welcomesFirst
  rw [← channel] at openedFirst
  have created : (create (some ((Alias.eidas authorizationNumber).inRealm bank.id).normalize) .business
      (some bank.id)).run (session.answered resolve) = (.ok member, established) := by
    rw [create, Flow.run_bind_of_ok reserves, setsUp]
  generalize isPayload : (⟨.rs256, ((Alias.eidas authorizationNumber).inRealm bank.id).normalize,
    certificate, member.id⟩ : EidasPayload) = payload
  obtain ⟨signature, signed⟩ := signs (canonicalOctets payload)
  have signedPayload : (Flow.ofCrypto (signer.sign payload)).run established =
      (.ok signature, established) := by
    rw [Signer.sign, signed]
    rfl
  have lowFound : established.keys.byLevel established.now member.client.engine.memberId .low =
      .ok low := by
    rw [client]
    exact keys
  obtain ⟨verify, isVerify, _, verified⟩ :=
    Client.exists_run_ask (β := EidasResponse) openedFirst lowFound
    .verifyEidas (VerifyEidasRequest.mk payload signature)
  rw [welcomesFirst.verifies _ _ isVerify] at verified
  refine ⟨⟨member, response⟩,
    (established.answered verify).log (.eidasSubmitted member.id response.status), ?_⟩
  simp only [onboard]
  rw [Flow.run_bind_of_ok found, Flow.run_bind_of_ok created, isPayload,
    Flow.run_bind_of_ok signedPayload, Client.verifyEidas, Flow.run_bind_of_ok verified]
  rfl

end Welcomes

/-- The answers of a gateway that knows a bank, whose id is written with blanks around it. -/
def welcoming (call : Call) : List UInt8 :=
  match call.method with
  | .resolveAlias => encode (ResolveAliasResponse.mk (some { id := " m:bank " }))
  | .createMember => encode (CreateMemberResponse.mk "m:tpp")
  | .getDefaultAgent => encode (GetDefaultAgentResponse.mk "m:agent")
  | .updateMember => encode (MemberResponse.mk { id := "m:tpp" })
  | _ => encode ({ status := .pending } : EidasResponse)

/-- Such a gateway answers all that an onboarding asks for. -/
theorem welcomes_welcoming (keys : KeyStore) (seeds : List String) :
    Welcomes (Session.steady {} welcoming keys seeds).gateway { id := " m:bank " } "m:tpp" "m:agent"
      { status := .pending } := by
  have answers (earlier : List Call) (call : Call) :
      (Session.steady {} welcoming keys seeds).gateway earlier call = ⟨.ok (welcoming call), 0⟩ := rfl
  constructor
  · intro earlier call asked
    rw [answers, welcoming, asked]
    exact Session.read_encode _ 0
  · decide
  · intro earlier call asked
    rw [answers, welcoming, asked]
    exact Session.read_encode _ 0
  · intro earlier call asked
    rw [answers, welcoming, asked]
    exact Session.read_encode _ 0
  · intro earlier call request asked _ _
    rw [answers, welcoming, asked]
    exact ⟨_, Session.read_encode _ 0, rfl⟩
  · intro earlier call asked
    rw [answers, welcoming, asked]
    exact Session.read_encode _ 0

/-! ## What an onboarding speaks of -/

/-- Onboarding speaks of one alias, one realm and one member throughout. Whatever number,
certificate, bank and signer there are and whatever the gateway answers, if the onboarding succeeds
then the id of the bank that was found is the realm in which the member was created. The payload
that was sent to be verified holds the normal spelling of the number in this realm, which is its own
normal spelling, and the metadata of the update, which the new member signed, hold the same alias;
the one alias that the update adds has its hash and its realm. The payload names the member that is
returned, and the signature beside it is that of the signer over the canonical octets of the payload
that was decoded. -/
theorem onboard_speaks_of_one_alias (authorizationNumber certificate bankId : String) (signer : Signer)
    (session later : Session) (onboarding : Onboarding)
    (onboarded : (onboard authorizationNumber certificate bankId signer).run session =
      (.ok onboarding, later)) :
    ∃ trail : Trail, trail.Of bankId session later onboarding ∧
      trail.created.realmId = trail.bank.id ∧
      trail.verified.payload = ⟨.rs256,
        ((Alias.eidas authorizationNumber).inRealm trail.bank.id).normalize, certificate,
        onboarding.member.id⟩ ∧
      trail.verified.payload.knownAs.normalize = trail.verified.payload.knownAs ∧
      trail.updated.metadata =
        [.addAlias ⟨trail.verified.payload.knownAs.hash, trail.verified.payload.knownAs⟩] ∧
      trail.updated.update.operations.filterMap addedAlias? =
        [⟨trail.verified.payload.knownAs.hash, trail.verified.payload.knownAs.realmId⟩] ∧
      (∃ own : Signer, trail.update.CarriesOwn trail.updated.update trail.updated.metadata own
        trail.updated) ∧
      signer.signOctets (canonicalOctets trail.verified.payload) = .ok trail.verified.signature := by
  obtain ⟨realmId, resolved, found, onboarded⟩ := Flow.exists_of_run_bind_ok onboarded
  obtain ⟨resolve, bank, wentResolve, isResolve, resolves, toldBank, rfl⟩ :=
    Anonymous.exists_of_run_getMemberId found
  obtain ⟨member, established, created, onboarded⟩ := Flow.exists_of_run_bind_ok onboarded
  obtain ⟨memberId, reserved, reservedId, setUp⟩ := Flow.exists_of_run_bind_ok created
  obtain ⟨create, nonce, wentCreate, isCreate, creates, toldId⟩ :=
    Anonymous.exists_of_run_createMemberId reservedId
  obtain ⟨agent, update, request, agentId, keys, own, wentSetUp, isAgent, carries, toldRecord⟩ :=
    exists_of_run_setUp setUp
  obtain ⟨signature, signed, signs, onboarded⟩ := Flow.exists_of_run_bind_ok onboarded
  obtain ⟨isSignature, rfl⟩ := Flow.of_run_ofCrypto_ok signs
  obtain ⟨response, verified, verifies, logged⟩ := Flow.exists_of_run_bind_ok onboarded
  cases logged
  obtain ⟨verify, wentVerify, ⟨isVerify, decoded⟩, answered⟩ :=
    (member.client.performs_verifyEidas (P := fun _ call => call.method = .verifyEidas ∧
      decode call.body = .ok (VerifyEidasRequest.mk _ signature)) _ signature fun _ _ _ =>
        ⟨rfl, Identity.decode_signedCall _ _ _ _ _ _⟩).exists_of_run_ok verifies
  -- All is said of the normal spelling, which is its own.
  have normal := ((Alias.eidas authorizationNumber).inRealm bank.id).normalize_normalize
  generalize isAlias : ((Alias.eidas authorizationNumber).inRealm bank.id).normalize = x at *
  have before := wentResolve.trans (wentCreate.trans wentSetUp)
  have went := before.trans wentVerify
  have told := carries.metadata_eq
  have added := filterMap_addedAlias?_firstOperations keys agentId (some x)
  have updated := carries.update_eq
  rw [Option.map_some, normal] at told added updated
  rw [wentResolve.gateway_eq, wentResolve.calls_eq] at toldId
  rw [wentCreate.gateway_eq, wentCreate.calls_eq, wentResolve.gateway_eq, wentResolve.calls_eq,
    List.append_assoc, List.append_assoc] at toldRecord
  rw [before.gateway_eq, before.calls_eq] at answered
  refine ⟨⟨resolve, bank, create, ⟨nonce, .business, bank.id, ""⟩, agent, update, request, verify,
    ⟨⟨.rs256, x, certificate, member.id⟩, signature⟩⟩, ?_, rfl, ?_, normal, ?_, ?_, ?_, isSignature⟩
  · exact
      { calls_eq := went.calls_eq
        methods_eq := by simp [Trail.calls, isResolve, isCreate, isAgent, carries.method_eq, isVerify]
        resolves
        resolved := toldBank
        creates
        reserved := by rw [updated]; exact toldId
        updates := carries.decoded
        recorded := toldRecord
        verifies := decoded
        answered }
  · rw [isAlias]
  · rw [told]
    exact congrArg (fun entry => [entry]) ((OperationMetadata.ofAlias_eq x).trans (by rw [normal]))
  · rw [updated, added, Option.toList_some, List.map_singleton, normal]
  · exact ⟨own, carries.self⟩

/-- A business whose number is written with blanks is onboarded with keys of twos, threes and fours
and a certificate of the key of ones: its member is created in the realm as the bank was told, and
the alias is the number without blanks in the realm without blanks. -/
theorem onboard_speaks_of_one_alias_blanks :
    ∃ ones onboarding later, SecretKey.ofSeed KeyText.seedOfOnes .privileged = .ok ones ∧
      (onboard " PSDGB-FCA-123 " "Y2VydA==" "iron" (.ofSecret ones)).run
        (.steady {} welcoming .empty
          [KeyText.seedOfTwos, KeyText.seedOfThrees, KeyText.seedOfFours]) = (.ok onboarding, later) ∧
      ∃ trail : Trail, trail.created.realmId = " m:bank " ∧
        trail.verified.payload =
          ⟨.rs256, ⟨.eidas, "PSDGB-FCA-123", "m:bank"⟩, "Y2VydA==", onboarding.member.id⟩ ∧
        trail.updated.metadata =
          [.addAlias ⟨(Alias.mk .eidas "PSDGB-FCA-123" "m:bank").hash,
            ⟨.eidas, "PSDGB-FCA-123", "m:bank"⟩⟩] ∧
        (Signer.ofSecret ones).signOctets (canonicalOctets trail.verified.payload) =
          .ok trail.verified.signature := by
  obtain ⟨_, found⟩ := KeyText.exists_ofSeed_ones
  obtain ⟨ones, madeOnes, _⟩ := SecretKey.exists_ofSeed found .privileged
  obtain ⟨twos, threes, fours, made, distinct⟩ := Anonymous.exists_ofSeeds_twos_threes_fours
  generalize start : Session.steady {} welcoming .empty
    [KeyText.seedOfTwos, KeyText.seedOfThrees, KeyText.seedOfFours] = session
  have welcomes : Welcomes session.gateway { id := " m:bank " } "m:tpp" "m:agent"
      { status := .pending } := by
    rw [← start]
    exact welcomes_welcoming _ _
  have opened : session.channel.closed = false := by
    rw [← start]
    rfl
  have seeds : SecretKey.ofSeeds [.privileged, .standard, .low] session.seeds =
      [twos, threes, fours] := by
    rw [← start]
    exact made
  have signs (message : List UInt8) :
      ∃ signature, (Signer.ofSecret ones).signOctets message = .ok signature := ⟨_, rfl⟩
  obtain ⟨onboarding, later, onboarded⟩ := welcomes.exists_run_onboard opened seeds distinct signs
    " PSDGB-FCA-123 " "Y2VydA==" "iron"
  obtain ⟨trail, isTrail, realm, payload, _, metadata, _, _, signature⟩ :=
    onboard_speaks_of_one_alias _ _ _ _ _ _ _ onboarded
  have bank : trail.bank = { id := " m:bank " } := by
    have isResolve : trail.resolve.method = .resolveAlias := by
      simpa [Trail.calls] using congrArg List.head? isTrail.methods_eq
    have told := isTrail.resolved
    rw [welcomes.knows_bank _ _ isResolve] at told
    exact (Option.some.inj (ResolveAliasResponse.mk.inj (Except.ok.inj told))).symm
  have normal : ((Alias.eidas " PSDGB-FCA-123 ").inRealm " m:bank ").normalize =
      ⟨.eidas, "PSDGB-FCA-123", "m:bank"⟩ := by
    decide
  rw [bank] at realm payload
  rw [normal] at payload
  rw [payload] at metadata
  exact ⟨ones, onboarding, later, madeOnes, onboarded, trail, realm, payload, metadata, signature⟩

end Membership

end OpenBanking
