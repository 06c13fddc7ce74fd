import OpenBanking.Membership
import OpenBanking.Proofs.Alias.Agreement
import OpenBanking.Proofs.Recovery.Failure

/-!
# Members that were set up

Setting up a member makes a key of each level, keeps them among whatever keys are there, registers
them in one update that the privileged one signs, and has the member act with the keys that are
kept. The keys that are found there afterwards are those that the update registered: they are the
newest of their levels, and no key that was there before can come in front of them.
-/

namespace OpenBanking

open Json

/-! ## First updates -/

/-- The gateway answers each update of a member with a record of the member. -/
def Gateway.TellsUpdated (gateway : Gateway) (memberId : String) : Prop :=
  ∀ earlier call request, call.method = .updateMember →
    (decode call.body : Except ReadError UpdateMemberRequest) = .ok request →
    request.update.memberId = memberId →
    ∃ record, Session.read MemberResponse (gateway earlier call) = .ok ⟨record⟩ ∧
      record.id = memberId

namespace Anonymous

variable {session : Session}

/-- The first update of a member gives the record of the member that the gateway tells. -/
theorem run_createMember_of_told (opened : session.channel.closed = false) {memberId : String}
    (told : session.gateway.TellsUpdated memberId) (operations : List MemberOperation)
    (metadata : List OperationMetadata) {signer : Signer} {signature : String}
    (signed : signer.signOctets (canonicalOctets (⟨memberId, "", operations⟩ : MemberUpdate)) =
      .ok signature) :
    ∃ call request record, call.CarriesOwn ⟨memberId, "", operations⟩ metadata signer request ∧
      record.id = memberId ∧
      (createMember memberId operations metadata signer).run session =
        (.ok record, (session.answered call).log (.memberCreated record.id)) := by
  have update : (MemberUpdate.forMember memberId "").append operations =
      ⟨memberId, "", operations⟩ := by
    simp [MemberUpdate.forMember, MemberUpdate.append]
  obtain ⟨call, request, carries, ran⟩ := run_applyUpdate_of_ok opened metadata signed
  obtain ⟨record, answer, own⟩ := told session.calls call request carries.method_eq carries.decoded
    (by rw [carries.update_eq])
  refine ⟨call, request, record, carries, own, ?_⟩
  rw [answer] at ran
  rw [createMember, update, Flow.run_bind_of_ok ran]
  rfl

/-- An agent that is told was asked for over an open channel, in one call. -/
theorem exists_of_run_getDefaultAgent {agentId : String} {asked : Session}
    (gave : getDefaultAgent.run session = (.ok agentId, asked)) :
    ∃ ask : Call, ask.method = .getDefaultAgent ∧
      Session.read GetDefaultAgentResponse (session.gateway session.calls ask) = .ok ⟨agentId⟩ ∧
      session.channel.closed = false ∧ asked = session.answered ask := by
  obtain ⟨response, middle, answered, gives⟩ := Flow.exists_of_run_bind_ok gave
  cases gives
  cases closed : session.channel.closed with
  | true =>
    have refused := Session.run_exchange_of_closed (β := GetDefaultAgentResponse) closed
      .getDefaultAgent [] ({} : Empty)
    rw [ask, refused] at answered
    cases answered
  | false =>
    rw [run_ask_of_open closed] at answered
    obtain ⟨read, rfl⟩ := Prod.mk.inj answered
    exact ⟨_, rfl, read, rfl, rfl⟩

end Anonymous

namespace Membership

/-! ## The parts of setting up -/

/-- What is left to do once the agent is known. -/
def setUpUnder (agentId : String) (x : Option Alias) (memberId : String) : Flow Session Member := do
  let (privileged, standard, low, signer) ← Anonymous.defaultRecoveryKeys ⟨memberId⟩
  let normal := x.map (·.normalize)
  let record ←
    Anonymous.createMember memberId (firstOperations [privileged, standard, low] agentId normal)
      (normal.toList.map .ofAlias) signer
  bind record ⟨record.id⟩

/-- Setting up, by its parts; its keys are made as those of a recovery by the default agent. -/
theorem setUp_eq (x : Option Alias) (memberId : String) :
    setUp x memberId = (do
      let agentId ← Anonymous.getDefaultAgent
      setUpUnder agentId x memberId) := by
  simp only [setUp, setUpUnder, Anonymous.defaultRecoveryKeys, Anonymous.recoveryKeys, bind_assoc,
    pure_bind]

/-- Once the agent is known a key of each level is made. -/
theorem makes_setUpUnder (agentId : String) (x : Option Alias) (memberId : String) :
    Engine.Makes ⟨memberId⟩ [.privileged, .standard, .low] (setUpUnder agentId x memberId) := by
  simp only [setUpUnder, Anonymous.defaultRecoveryKeys, Anonymous.recoveryKeys, bind_assoc,
    pure_bind]
  refine Engine.Makes.generate fun privileged => Engine.Makes.generate fun standard =>
    Engine.Makes.generate fun low => ?_
  refine Engine.makes_nil ((Engine.keeps_keys_signer _ .privileged).bind fun signer => ?_)
  have creates (operations : List MemberOperation) (metadata : List OperationMetadata) :
      (Anonymous.createMember memberId operations metadata signer).Keeps (·.keys) := by
    refine (Anonymous.keeps_keys_applyUpdate _ metadata signer).bind fun record => ?_
    exact (Session.keeps_keys_emit _).bind fun _ => Flow.keeps_pure _
  refine (creates _ _).bind fun record => ?_
  exact (Flow.keeps_read _).bind fun cluster => Flow.keeps_pure _

/-- The alias of a new member, if there is one, is added by its hash and realm. -/
theorem map_ofAlias_toList (x : Option Alias) :
    (x.map (·.normalize)).toList.map MemberOperation.ofAlias =
      x.toList.map fun x => .addAlias ⟨x.hash, x.normalize.realmId⟩ := by
  rw [Option.toList_map, Alias.map_ofAlias_normalize]

/-- The first operations: the keys, the agent, and the alias by its hash and realm. -/
theorem firstOperations_eq (privileged standard low : Key) (agentId : String) (x : Option Alias) :
    firstOperations [privileged, standard, low] agentId (x.map (·.normalize)) =
      [.ofKey privileged, .ofKey standard, .ofKey low, .ofAgent agentId] ++
        x.toList.map fun x => .addAlias ⟨x.hash, x.normalize.realmId⟩ := by
  rw [firstOperations, map_ofAlias_toList]
  rfl

/-- The keys that the first operations register are those that were made. -/
theorem mem_of_ofKey_mem_firstOperations {keys : List Key} {agentId : String} {x : Option Alias}
    {key : Key} (registered : MemberOperation.ofKey key ∈ firstOperations keys agentId x) :
    key ∈ keys := by
  rw [firstOperations, List.mem_append, List.mem_append] at registered
  rcases registered with (isKey | isAgent) | isAlias
  · obtain ⟨other, held, same⟩ := List.mem_map.1 isKey
    cases same
    exact held
  · cases List.mem_singleton.1 isAgent
  · obtain ⟨_, _, same⟩ := List.mem_map.1 isAlias
    cases same

/-! ## Acting afterwards -/

variable {memberId : String} {session : Session} {privileged standard low : SecretKey}

/-- Once the agent is known one update is sent, and the member acts with the keys it registers. -/
theorem exists_run_setUpUnder (agentId : String) (x : Option Alias)
    (opened : session.channel.closed = false)
    (made : SecretKey.ofSeeds [.privileged, .standard, .low] session.seeds =
      [privileged, standard, low])
    (distinct : ([privileged, standard, low].map (·.id)).Nodup)
    (told : session.gateway.TellsUpdated memberId) :
    ∃ call request member later,
      (setUpUnder agentId x memberId).run session = (.ok member, later) ∧
      later.calls = session.calls ++ [call] ∧
      call.CarriesOwn
        ⟨memberId, "", firstOperations [privileged.publicKey, standard.publicKey, low.publicKey]
          agentId (x.map (·.normalize))⟩
        (x.toList.map fun x => .addAlias ⟨x.hash, x.normalize⟩) (.ofSecret privileged) request ∧
      member.id = memberId ∧ member.client = .new memberId ⟨memberId⟩ := by
  obtain ⟨keyed, keys⟩ : ∃ keyed, (Anonymous.defaultRecoveryKeys ⟨memberId⟩).run session =
      (.ok (privileged.publicKey, standard.publicKey, low.publicKey, .ofSecret privileged), keyed) :=
    Anonymous.exists_run_defaultRecoveryKeys made distinct
  obtain ⟨way, signs⟩ := Anonymous.of_run_defaultRecoveryKeys keys
  have openedLater : keyed.channel.closed = false := by
    rw [way.channel_eq]
    exact opened
  have metadata : (x.map (·.normalize)).toList.map OperationMetadata.ofAlias =
      x.toList.map fun x => .addAlias ⟨x.hash, x.normalize⟩ := by
    rw [Option.toList_map, Alias.map_metadata_normalize]
  obtain ⟨signature, signed⟩ := signs (canonicalOctets (⟨memberId, "",
    firstOperations [privileged.publicKey, standard.publicKey, low.publicKey] agentId
      (x.map (·.normalize))⟩ : MemberUpdate))
  obtain ⟨call, request, record, carries, own, ran⟩ := Anonymous.run_createMember_of_told openedLater
    (way.gateway_eq ▸ told) _ ((x.map (·.normalize)).toList.map .ofAlias) signed
  rw [metadata] at carries
  refine ⟨call, request, ⟨record, .new record.id ⟨record.id⟩, keyed.cluster⟩,
    (keyed.answered call).log (.memberCreated record.id), ?_, ?_, carries, own, ?_⟩
  · rw [setUpUnder, Flow.run_bind_of_ok keys]
    exact (Flow.run_bind_of_ok ran _).trans rfl
  · exact congrArg (· ++ [call]) way.calls_eq
  · rw [own]

/-- Whoever was set up can act. Whatever keys the member had, if the three that are made have
different ids and the gateway answers updates with records of the member: without an agent setting
up fails as the question for it does; otherwise one update follows, which registers exactly a
privileged, a standard and a low key, the agent that was told, and the alias if there is one, with
metadata that describe it; the privileged key that it registers signs it; and the member acts under
its own id with a signer of each level that is the one key of this level that the update registered.
-/
theorem setUp_yields_acting (x : Option Alias)
    (made : SecretKey.ofSeeds [.privileged, .standard, .low] session.seeds =
      [privileged, standard, low])
    (distinct : ([privileged, standard, low].map (·.id)).Nodup)
    (told : session.gateway.TellsUpdated memberId) :
    (∀ error later, Anonymous.getDefaultAgent.run session = (.error error, later) →
      (setUp x memberId).run session = (.error error, later)) ∧
    ∀ agentId asked, Anonymous.getDefaultAgent.run session = (.ok agentId, asked) →
      ∃ ask call request member later,
        (setUp x memberId).run session = (.ok member, later) ∧
        later.calls = session.calls ++ [ask, call] ∧
        ask.method = .getDefaultAgent ∧
        Session.read GetDefaultAgentResponse (session.gateway session.calls ask) = .ok ⟨agentId⟩ ∧
        call.CarriesOwn
          ⟨memberId, "",
            [.ofKey privileged.publicKey, .ofKey standard.publicKey, .ofKey low.publicKey,
                .ofAgent agentId] ++
              x.toList.map fun x => .addAlias ⟨x.hash, x.normalize.realmId⟩⟩
          (x.toList.map fun x => .addAlias ⟨x.hash, x.normalize⟩) (.ofSecret privileged) request ∧
        [privileged, standard, low].map (·.level) = [.privileged, .standard, .low] ∧
        member.id = memberId ∧ member.client.memberId = memberId ∧
        ∀ level, ∃ key ∈ [privileged, standard, low], key.level = level ∧
          (∀ other, .ofKey other ∈ request.update.operations → other.level = level →
            other = key.publicKey) ∧
          ∀ now, member.client.engine.signerAt level now later = .ok (.ofSecret key) := by
  rw [setUp_eq]
  constructor
  · intro error later failed
    exact Flow.run_bind_of_error failed _
  · intro agentId asked gave
    obtain ⟨ask, isAsk, answer, opened, rfl⟩ := Anonymous.exists_of_run_getDefaultAgent gave
    -- Asking for the agent leaves the channel open and spends no seed.
    have still : (session.answered ask).channel.closed = false := opened
    obtain ⟨call, request, member, later, ran, calls, carries, own, client⟩ :=
      exists_run_setUpUnder agentId x still made distinct told
    have levels : [privileged, standard, low].map (·.level) = [.privileged, .standard, .low] := by
      have isPrefix := SecretKey.isPrefix_levels_ofSeeds [.privileged, .standard, .low] session.seeds
      rw [made] at isPrefix
      exact isPrefix.eq_of_length rfl
    have signs := (makes_setUpUnder agentId x memberId).signsBeside (by decide)
      (session.answered ask)
    rw [ran] at signs
    refine ⟨ask, call, request, member, later, ?_, ?_, isAsk, answer, ?_, levels, own, ?_, ?_⟩
    · rw [Flow.run_bind_of_ok gave, ran]
    · rw [calls, Session.answered_calls, List.append_assoc]
      rfl
    · rw [← firstOperations_eq]
      exact carries
    · rw [client]
      rfl
    intro level
    obtain ⟨key, held, rfl⟩ : ∃ key ∈ [privileged, standard, low], key.level = level := by
      have asked : level ∈ [privileged, standard, low].map (·.level) := by
        rw [levels]
        cases level <;> decide
      exact List.mem_map.1 asked
    refine ⟨key, held, rfl, ?_, ?_⟩
    · intro other registered same
      rw [carries.update_eq] at registered
      have isMade : other ∈ [privileged, standard, low].map (·.publicKey) :=
        mem_of_ofKey_mem_firstOperations registered
      obtain ⟨secret, heldToo, rfl⟩ := List.mem_map.1 isMade
      -- The three keys have different levels, so the level tells the key.
      have single : ([privileged, standard, low].map (·.level)).Nodup := by
        rw [levels]
        decide
      rw [eq_of_nodup_map single heldToo held same]
    · intro now
      rw [client]
      exact signs.signerAt_of_made now (made.symm ▸ distinct) (made.symm ▸ held)

/-- A member that holds an older privileged key is set up with an address. -/
theorem setUp_yields_acting_email :
    ∃ privileged, SecretKey.ofSeed KeyText.seedOfTwos .privileged = .ok privileged ∧
      ∃ older member later,
        (setUp (some (.email " Alice@Example.com ")) "m:1").run
          (.steady {} (fun call =>
              if call.method = .getDefaultAgent then encode (GetDefaultAgentResponse.mk "m:agent")
              else encode (MemberResponse.mk { id := "m:1" }))
            (KeyStore.empty.put "m:1" older)
            [KeyText.seedOfTwos, KeyText.seedOfThrees, KeyText.seedOfFours]) =
          (.ok member, later) ∧
        member.client.engine.signerAt .privileged 0 later = .ok (.ofSecret privileged) := by
  obtain ⟨_, found⟩ := KeyText.exists_ofSeed_ones
  obtain ⟨older, _⟩ := SecretKey.exists_ofSeed found .privileged
  obtain ⟨privileged, standard, low, made, distinct⟩ := Anonymous.exists_ofSeeds_twos_threes_fours
  generalize start : Session.steady {} (fun call =>
      if call.method = .getDefaultAgent then encode (GetDefaultAgentResponse.mk "m:agent")
      else encode (MemberResponse.mk { id := "m:1" }))
    (KeyStore.empty.put "m:1" older)
    [KeyText.seedOfTwos, KeyText.seedOfThrees, KeyText.seedOfFours] = session
  have told : session.gateway.TellsUpdated "m:1" := by
    intro earlier call request isUpdate _ _
    have answer : session.gateway earlier call =
        ⟨.ok (encode (MemberResponse.mk { id := "m:1" })), 0⟩ := by
      simp only [← start, Session.steady, isUpdate, reduceCtorEq, ↓reduceIte]
    rw [answer]
    exact ⟨_, Session.read_encode _ 0, rfl⟩
  have asked : Anonymous.getDefaultAgent.run session = (.ok "m:agent",
      session.answered ⟨.getDefaultAgent, session.channel.headers, encode ({} : Empty)⟩) := by
    have opened : session.channel.closed = false := by
      rw [← start]
      rfl
    have answer : session.gateway session.calls
        ⟨.getDefaultAgent, session.channel.headers, encode ({} : Empty)⟩ =
          ⟨.ok (encode (GetDefaultAgentResponse.mk "m:agent")), 0⟩ := by
      simp only [← start, Session.steady, ↓reduceIte]
    rw [Anonymous.getDefaultAgent, Flow.run_bind_pure, Anonymous.run_ask_of_open opened, answer,
      Session.read_encode]
    rfl
  have seeds : SecretKey.ofSeeds [.privileged, .standard, .low] session.seeds =
      [privileged, standard, low] := by
    rw [← start]
    exact made
  obtain ⟨_, _, _, member, later, ran, _, _, _, _, levels, _, _, signs⟩ :=
    (setUp_yields_acting (some (.email " Alice@Example.com ")) seeds distinct told).2 _ _ asked
  obtain ⟨_, _, ahead, madePrivileged, _⟩ := SecretKey.exists_of_ofSeeds_eq_cons made
  cases ahead
  refine ⟨privileged, madePrivileged, older, member, later, start ▸ ran, ?_⟩
  obtain ⟨key, held, isPrivileged, _, signer⟩ := signs .privileged
  have single : ([privileged, standard, low].map (·.level)).Nodup := by
    rw [levels]
    decide
  have same : key = privileged := eq_of_nodup_map single held List.mem_cons_self
    (isPrivileged.trans (SecretKey.of_ofSeed madePrivileged).2.1.symm)
  rw [signer, same]

end Membership

end OpenBanking
