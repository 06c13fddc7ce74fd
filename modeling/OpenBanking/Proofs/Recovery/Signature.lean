import OpenBanking.Proofs.Recovery.Failure
import OpenBanking.Proofs.Sending

/-!
# Who signs a recovery

The update of a recovery approves one privileged key, and the newest privileged key that the member
has signs it. A recovery by the default agent has just made its own, so this one signs; a recovery
by agents is given one, which signs only if no newer one is there.
-/

namespace OpenBanking

open Json

/-! ## What an update approves -/

/-- The privileged keys that an update approves. -/
def MemberUpdate.privilegedKeys (update : MemberUpdate) : List Key :=
  update.operations.filterMap fun
    | .addKey change => if change.key.level = .privileged then some change.key else none
    | _ => none

/-- A call holds an update that approves these privileged keys, signed by the key of an id. -/
def Call.Installs (call : Call) (keys : List Key) (keyId : String) : Prop :=
  ∃ request : UpdateMemberRequest, decode call.body = .ok request ∧
    request.update.privilegedKeys = keys ∧ request.signature.keyId = keyId

/-- The call of a written request holds its update. -/
theorem Call.installs_of_body_eq {call : Call} (update : MemberUpdate) (signature : Signature)
    (metadata : List OperationMetadata)
    (body : call.body = encode (UpdateMemberRequest.mk update signature metadata)) :
    call.Installs update.privilegedKeys signature.keyId := by
  refine ⟨⟨update, signature, metadata⟩, ?_, rfl, rfl⟩
  rw [body]
  exact decode_encode _

namespace Anonymous

/-- The update of a recovery approves the privileged ones of the keys that it was given. -/
theorem privilegedKeys_recoveryUpdate (record : MemberRecord) (entries : List RecoveryEntry)
    (keys : List Key) :
    (recoveryUpdate record entries keys).privilegedKeys = keys.filter (·.level = .privileged) := by
  rw [recoveryUpdate_eq, MemberUpdate.privilegedKeys, List.filterMap_append, List.filterMap_map,
    List.filterMap_map]
  have words : entries.filterMap (fun _ => (none : Option Key)) = [] :=
    List.filterMap_eq_nil_iff.2 fun _ _ => rfl
  have approved : keys.filterMap (fun key => if key.level = .privileged then some key else none) =
      keys.filter (·.level = .privileged) := by
    induction keys with
    | nil => rfl
    | cons key later ih =>
      by_cases fits : key.level = .privileged <;> simp [fits, ih]
  exact (congrArg (· ++ _) words).trans approved

/-- Handing in a code is no update. -/
theorem onlySends_getRecoveryAuthorization {P : Call → Prop} (verificationId code : String) (key : Key)
    (holds : ∀ call : Call, call.method ≠ .updateMember → P call) :
    Session.OnlySends P (getRecoveryAuthorization verificationId code key) := by
  rw [getRecoveryAuthorization]
  refine Session.OnlySends.bind (onlySends_ask fun headers => holds _ (by simp)) fun response => ?_
  by_cases accepted : response.status = .success
  · rw [if_pos accepted]
    exact (Session.silent_pure _).onlySends
  · rw [if_neg accepted]
    exact (Session.silent_fail _).onlySends

/-- What both recoveries end with sends no update but one that approves the privileged keys meant
and is signed by the signer. -/
theorem onlySends_recoverWith (memberId : String) {update : MemberRecord → MemberUpdate}
    {keys : List Key} (approves : ∀ record, (update record).privilegedKeys = keys) (signer : Signer)
    (event : String → Event) :
    Session.OnlySends (fun call => call.method = .updateMember → call.Installs keys signer.keyId)
      (recoverWith memberId update signer event) := by
  have asks : Session.OnlySends (fun call => call.method = .updateMember →
      call.Installs keys signer.keyId) (getMember memberId) := by
    rw [getMember]
    exact (onlySends_ask fun headers => by simp).map _
  refine asks.bind fun record => ?_
  refine (onlySends_applyUpdate _ _ _ fun signature headers _ => ?_).bind fun recovered => ?_
  · rw [← approves record]
    exact Call.installs_of_body_eq (update record) ⟨_, signer.keyId, signature⟩ [] (by dsimp only)
  · exact (Session.silent_emit _).onlySends.map fun _ => recovered

/-- The keys of a recovery are those of the next two seeds, and its signer is the one of the newest
privileged key beside them. -/
theorem exists_of_run_recoveryKeys {engine : Engine} {session keyed : Session} {standard low : Key}
    {signer : Signer}
    (gave : (recoveryKeys engine).run session = (.ok (standard, low, signer), keyed)) :
    ∃ first second newest, SecretKey.ofSeeds [.standard, .low] session.seeds = [first, second] ∧
      standard = first.publicKey ∧ low = second.publicKey ∧ signer = .ofSecret newest ∧
      (session.keys.putAll engine.memberId [first, second]).byLevel session.now engine.memberId
        .privileged = .ok newest := by
  obtain ⟨_, _, gaveFirst, later⟩ := Flow.exists_of_run_bind_ok gave
  obtain ⟨seed, seeds, first, ahead, madeFirst, rfl, rfl⟩ := Engine.of_run_generate_ok gaveFirst
  obtain ⟨_, _, gaveSecond, later⟩ := Flow.exists_of_run_bind_ok later
  obtain ⟨other, rest, second, next, madeSecond, rfl, rfl⟩ := Engine.of_run_generate_ok gaveSecond
  obtain ⟨_, _, signs, same⟩ := Flow.exists_of_run_bind_ok later
  obtain ⟨_, newest, found, rfl⟩ := Engine.byLevel_of_run_signer signs
  cases same
  refine ⟨first, second, newest, ?_, rfl, rfl, rfl, found⟩
  rw [ahead, show seeds = other :: rest from next, SecretKey.ofSeeds_cons_of_ok madeFirst,
    SecretKey.ofSeeds_cons_of_ok madeSecond, SecretKey.ofSeeds_nil]

/-- The keys of a recovery by the default agent are those of the next three seeds, and its signer is
the one of the newest privileged key among them and those that were there. -/
theorem exists_of_run_defaultRecoveryKeys {engine : Engine} {session keyed : Session}
    {privileged standard low : Key} {signer : Signer}
    (gave : (defaultRecoveryKeys engine).run session =
      (.ok (privileged, standard, low, signer), keyed)) :
    ∃ first second third newest,
      SecretKey.ofSeeds [.privileged, .standard, .low] session.seeds = [first, second, third] ∧
      privileged = first.publicKey ∧ standard = second.publicKey ∧ low = third.publicKey ∧
      signer = .ofSecret newest ∧
      (session.keys.putAll engine.memberId [first, second, third]).byLevel session.now
        engine.memberId .privileged = .ok newest := by
  obtain ⟨_, _, gaveFirst, later⟩ := Flow.exists_of_run_bind_ok gave
  obtain ⟨seed, seeds, first, ahead, madeFirst, rfl, rfl⟩ := Engine.of_run_generate_ok gaveFirst
  obtain ⟨⟨_, _, _⟩, _, keys, same⟩ := Flow.exists_of_run_bind_ok later
  cases same
  obtain ⟨second, third, newest, madeLater, rfl, rfl, rfl, found⟩ := exists_of_run_recoveryKeys keys
  refine ⟨first, second, third, newest, ?_, rfl, rfl, rfl, rfl, found⟩
  rw [ahead, SecretKey.ofSeeds_cons_of_ok madeFirst]
  exact congrArg _ madeLater

/-! ## What recoveries send -/

/-- Making the keys of a recovery by the default agent sends nothing. -/
theorem silent_defaultRecoveryKeys (engine : Engine) :
    Session.Silent (defaultRecoveryKeys engine) := by
  refine (engine.silent_generate .privileged).bind fun privileged => ?_
  exact (silent_recoveryKeys engine).bind fun _ => Session.silent_pure _

/-- Each update that a recovery by agents sends approves the privileged key that it was given, and
is signed by the newest one that was there and was not replaced. -/
theorem exists_sent_completeRecovery (memberId : String) (entries : List RecoveryEntry) (named : Key)
    (level : named.level = .privileged) (engine : Engine) (session : Session) :
    ∃ sent, ((completeRecovery memberId entries named engine).run session).2.calls =
        session.calls ++ sent ∧
      ∀ call ∈ sent, call.method = .updateMember → ∃ newest,
        session.keys.newest? session.now engine.memberId .privileged
          (SecretKey.ofSeeds [.standard, .low] session.seeds) = some newest ∧
        call.Installs [named] newest.id := by
  rw [completeRecovery_eq]
  refine (silent_recoveryKeys engine).exists_sent_of_run_bind fun ⟨_, _, _⟩ keyed gave => ?_
  obtain ⟨first, second, newest, made, rfl, rfl, rfl, found⟩ := exists_of_run_recoveryKeys gave
  -- The fresh keys are of other levels, so the signer is a key that was there before.
  have unmade : ∀ key ∈ SecretKey.ofSeeds [.standard, .low] session.seeds,
      key.level ≠ .privileged := by
    intro key mem
    have asked := SecretKey.level_mem_of_mem_ofSeeds mem
    intro isPrivileged
    simp [isPrivileged] at asked
  have isNewest := KeyStore.newest?_of_byLevel_putAll unmade (made.symm ▸ found)
  have approves (record : MemberRecord) : (recoveryUpdate record entries
      [named, first.publicKey, second.publicKey]).privilegedKeys = [named] := by
    have levels := SecretKey.isPrefix_levels_ofSeeds [.standard, .low] session.seeds
    simp only [made, List.map_cons, List.map_nil, List.cons_prefix_cons] at levels
    simp [privilegedKeys_recoveryUpdate, SecretKey.publicKey, level, levels]
  exact (onlySends_recoverWith memberId approves _ _).mono fun call installs isUpdate =>
    ⟨newest, isNewest, installs isUpdate⟩

/-- Each update that a recovery by the default agent sends approves the privileged key that it made,
and is signed by it, if the keys that it made have different ids. -/
theorem exists_sent_completeRecoveryByDefault (memberId verificationId code : String)
    (engine : Engine) {session : Session}
    (distinct : ((SecretKey.ofSeeds [.privileged, .standard, .low] session.seeds).map
      (·.id)).Nodup) :
    ∃ sent,
      ((completeRecoveryByDefault memberId verificationId code engine).run session).2.calls =
        session.calls ++ sent ∧
      ∀ call ∈ sent, call.method = .updateMember → ∃ key : SecretKey,
        call.Installs [key.publicKey] key.id := by
  rw [completeRecoveryByDefault_eq]
  refine (silent_defaultRecoveryKeys engine).exists_sent_of_run_bind fun ⟨_, _, _, _⟩ keyed gave => ?_
  obtain ⟨first, second, third, newest, made, rfl, rfl, rfl, rfl, found⟩ :=
    exists_of_run_defaultRecoveryKeys gave
  have levels := SecretKey.isPrefix_levels_ofSeeds [.privileged, .standard, .low] session.seeds
  simp only [made, List.map_cons, List.map_nil, List.cons_prefix_cons] at levels
  -- The fresh privileged key is the newest one, since no later fresh key has its id.
  have signs : newest = first := by
    have own := KeyStore.byLevel_putAll_ofSeeds distinct (by decide) (made ▸ List.mem_cons_self)
      session.keys engine.memberId session.now
    rw [levels.1, made, found] at own
    cases own
    rfl
  have approves (entry : RecoveryEntry) (record : MemberRecord) : (recoveryUpdate record [entry]
      [first.publicKey, second.publicKey, third.publicKey]).privilegedKeys = [first.publicKey] := by
    simp [privilegedKeys_recoveryUpdate, SecretKey.publicKey, levels]
  refine (onlySends_getRecoveryAuthorization _ _ _ fun call other isUpdate => absurd isUpdate other).bind
    fun entry => ?_
  rw [signs]
  exact (onlySends_recoverWith memberId (approves entry) _ _).mono fun call installs isUpdate =>
    ⟨first, installs isUpdate⟩

/-! ## Recoveries that come to an update -/

/-- A recovery that is told a record goes on to an update. -/
theorem Recovers.exists_update {gateway : Gateway} {earlier sent : List Call} {memberId : String}
    {update : MemberRecord → MemberUpdate} {signer : Signer}
    (recovers : Recovers gateway earlier memberId update signer sent) {record : MemberRecord}
    (told : ∀ call : Call, call.method = .getMember →
      Session.read MemberResponse (gateway earlier call) = .ok ⟨record⟩) :
    ∃ fetch call, sent = [fetch, call] ∧ call.method = .updateMember := by
  cases recovers with
  | untold isFetch _ answer =>
    rw [told _ isFetch] at answer
    cases answer
  | updated _ _ _ carries => exact ⟨_, _, rfl, carries.method_eq⟩

/-- A session with a gateway that accepts all codes and tells all records of a member. -/
def obliged (keys : KeyStore) (seeds : List String) : Session :=
  .steady {} (fun call =>
    if call.method = .completeRecovery then encode (CompleteRecoveryResponse.mk {} .success)
    else encode (MemberResponse.mk { id := "m:1" })) keys seeds

/-- Its gateway tells the record. -/
theorem read_record_obliged (keys : KeyStore) (seeds : List String) (earlier : List Call) (call : Call)
    (isFetch : call.method = .getMember) :
    Session.read MemberResponse ((obliged keys seeds).gateway earlier call) =
      .ok ⟨{ id := "m:1" }⟩ := by
  have answer : (obliged keys seeds).gateway earlier call =
      ⟨.ok (encode (MemberResponse.mk { id := "m:1" })), 0⟩ := by
    simp only [obliged, Session.steady, isFetch, reduceCtorEq, ↓reduceIte]
  rw [answer]
  exact Session.read_encode _ _

/-- Its gateway accepts the code. -/
theorem read_entry_obliged (keys : KeyStore) (seeds : List String) (earlier : List Call) (call : Call)
    (isCode : call.method = .completeRecovery) :
    Session.read CompleteRecoveryResponse ((obliged keys seeds).gateway earlier call) =
      .ok ⟨{}, .success⟩ := by
  have answer : (obliged keys seeds).gateway earlier call =
      ⟨.ok (encode (CompleteRecoveryResponse.mk {} .success)), 0⟩ := by
    simp only [obliged, Session.steady, isCode, ↓reduceIte]
  rw [answer]
  exact Session.read_encode _ _

/-- Where the privileged keys of ones and of twos were put in this order, the one of twos is the
newest, and recoveries with fresh keys of threes and fours come to an update. -/
theorem exists_update_ones_twos :
    ∃ ones twos, SecretKey.ofSeed KeyText.seedOfOnes .privileged = .ok ones ∧
      SecretKey.ofSeed KeyText.seedOfTwos .privileged = .ok twos ∧
      ((KeyStore.empty.put "m:1" ones).put "m:1" twos).newest? 0 "m:1" .privileged
        (SecretKey.ofSeeds [.standard, .low] [KeyText.seedOfThrees, KeyText.seedOfFours]) =
          some twos ∧
      ∀ named, ∃ fetch call, ((completeRecovery "m:1" [] named ⟨"m:1"⟩).run
          (obliged ((KeyStore.empty.put "m:1" ones).put "m:1" twos)
            [KeyText.seedOfThrees, KeyText.seedOfFours])).2.calls = [fetch, call] ∧
        call.method = .updateMember := by
  obtain ⟨ones, twos, threes, fours, madeOnes, madeTwos, madeThrees, madeFours, distinct⟩ :=
    SecretKey.exists_ones_twos_threes_fours .privileged .privileged .standard .low
  have fresh : SecretKey.ofSeeds [.standard, .low] [KeyText.seedOfThrees, KeyText.seedOfFours] =
      [threes, fours] := by
    rw [SecretKey.ofSeeds_cons_of_ok madeThrees, SecretKey.ofSeeds_cons_of_ok madeFours,
      SecretKey.ofSeeds_nil]
  have unmade : ∀ key ∈ [threes, fours], key.level ≠ .privileged := by
    simp [(SecretKey.of_ofSeed madeThrees).2.1, (SecretKey.of_ofSeed madeFours).2.1]
  have apart : ∀ old ∈ (KeyStore.empty.putAll "m:1" [ones, twos]).keysOf "m:1",
      old.level = .privileged → ∀ key ∈ [threes, fours], key.id ≠ old.id := by
    intro old held _ key mem same
    have isOld : old ∈ [ones, twos] := by
      rw [KeyStore.keysOf_putAll_self] at held
      exact KeyStore.mem_of_mem_unreplaced held
    have ids : (([ones, twos] ++ [threes, fours]).map (·.id)).Nodup := distinct
    rw [List.map_append, List.nodup_append] at ids
    exact ids.2.2 _ (List.mem_map_of_mem isOld) _ (List.mem_map_of_mem mem) same.symm
  have found := (KeyStore.byLevel_putAll_of_apart unmade apart 0).trans
    (KeyStore.byLevel_put_of_ofSeed madeTwos (KeyStore.empty.put "m:1" ones) "m:1" 0)
  refine ⟨ones, twos, madeOnes, madeTwos, ?_, fun named => ?_⟩
  · exact fresh ▸ KeyStore.newest?_of_byLevel_putAll unmade found
  · obtain ⟨keyed, keys⟩ : ∃ keyed, (recoveryKeys ⟨"m:1"⟩).run
        (obliged ((KeyStore.empty.put "m:1" ones).put "m:1" twos)
          [KeyText.seedOfThrees, KeyText.seedOfFours]) =
        (.ok (threes.publicKey, fours.publicKey, .ofSecret twos), keyed) :=
      exists_run_recoveryKeys rfl madeThrees madeFours found
    obtain ⟨sent, recovers, calls⟩ := exists_run_completeRecovery rfl "m:1" [] named keys
    obtain ⟨fetch, call, rfl, isUpdate⟩ :=
      recovers.exists_update (read_record_obliged _ _ _)
    exact ⟨fetch, call, calls, isUpdate⟩

/-- Recoveries by the default agent with fresh keys of twos, threes and fours come to an update. -/
theorem exists_update_twos_threes_fours (keys : KeyStore) :
    ∃ accept fetch call, ((completeRecoveryByDefault "m:1" "v:1" "123" ⟨"m:1"⟩).run
        (obliged keys [KeyText.seedOfTwos, KeyText.seedOfThrees, KeyText.seedOfFours])).2.calls =
      [accept, fetch, call] ∧ call.method = .updateMember := by
  obtain ⟨twos, threes, fours, fresh, distinct⟩ := exists_ofSeeds_twos_threes_fours
  obtain ⟨keyed, gave⟩ : ∃ keyed, (defaultRecoveryKeys ⟨"m:1"⟩).run
      (obliged keys [KeyText.seedOfTwos, KeyText.seedOfThrees, KeyText.seedOfFours]) =
      (.ok (twos.publicKey, threes.publicKey, fours.publicKey, .ofSecret twos), keyed) :=
    exists_run_defaultRecoveryKeys fresh distinct
  obtain ⟨accept, sent, calls, isCode, outcome⟩ :=
    exists_run_completeRecoveryByDefault rfl "m:1" "v:1" "123" gave
  refine ⟨accept, ?_⟩
  rcases outcome with ⟨_, refused⟩ | ⟨entry, _, recovers⟩
  · exact absurd rfl (refused _ (read_entry_obliged _ _ _ _ isCode))
  · obtain ⟨fetch, call, rfl, isUpdate⟩ := recovers.exists_update (read_record_obliged _ _ _)
    exact ⟨fetch, call, calls, isUpdate⟩

/-- Updates of recoveries approve one privileged key. In a recovery by agents this is the key that
the caller names, but the newest privileged key signs that the member has and that no fresh key
replaces: so the named key, which the member must have, signs exactly if it is this one. A recovery
by the default agent approves the privileged key that it made, and this key signs, if the fresh keys
have different ids. -/
theorem recoveryUpdates_signed_by_newest (memberId : String) (engine : Engine) (session : Session) :
    (∀ (entries : List RecoveryEntry) (named : SecretKey), session.keys.Distinct →
      session.keys.CanSign session.now engine.memberId .privileged named →
      ∃ sent, ((completeRecovery memberId entries named.publicKey engine).run session).2.calls =
          session.calls ++ sent ∧
        ∀ call ∈ sent, call.method = .updateMember → ∃ request : UpdateMemberRequest, ∃ newest,
          decode call.body = .ok request ∧
          request.update.privilegedKeys = [named.publicKey] ∧
          session.keys.newest? session.now engine.memberId .privileged
            (SecretKey.ofSeeds [.standard, .low] session.seeds) = some newest ∧
          request.signature.keyId = newest.id ∧
          (request.signature.keyId = named.id ↔ newest = named)) ∧
    ∀ verificationId code : String,
      ((SecretKey.ofSeeds [.privileged, .standard, .low] session.seeds).map (·.id)).Nodup →
      ∃ sent,
        ((completeRecoveryByDefault memberId verificationId code engine).run session).2.calls =
          session.calls ++ sent ∧
        ∀ call ∈ sent, call.method = .updateMember → ∃ request : UpdateMemberRequest, ∃ key,
          decode call.body = .ok request ∧
          request.update.privilegedKeys = [key] ∧ request.signature.keyId = key.id := by
  constructor
  · intro entries named distinct able
    obtain ⟨sent, calls, installs⟩ :=
      exists_sent_completeRecovery memberId entries named.publicKey able.level_eq engine session
    refine ⟨sent, calls, fun call mem isUpdate => ?_⟩
    obtain ⟨newest, isNewest, request, decoded, approves, signed⟩ := installs call mem isUpdate
    refine ⟨request, newest, decoded, approves, isNewest, signed, ?_⟩
    rw [signed]
    constructor
    · intro same
      exact Json.eq_of_nodup_map (distinct engine.memberId)
        (KeyStore.canSign_of_newest? isNewest).held able.held same
    · intro same
      rw [same]
  · intro verificationId code distinct
    obtain ⟨sent, calls, installs⟩ :=
      exists_sent_completeRecoveryByDefault memberId verificationId code engine distinct
    refine ⟨sent, calls, fun call mem isUpdate => ?_⟩
    obtain ⟨key, request, decoded, approves, signed⟩ := installs call mem isUpdate
    exact ⟨request, key.publicKey, decoded, approves, signed⟩

/-- A member that has the privileged keys of ones and then of twos is recovered with the one of
twos, and this key signs. A member that has the one of ones is recovered by a code, and the fresh
privileged key signs. -/
theorem recoveryUpdates_signed_by_newest_twos :
    ∃ ones twos, SecretKey.ofSeed KeyText.seedOfOnes .privileged = .ok ones ∧
      SecretKey.ofSeed KeyText.seedOfTwos .privileged = .ok twos ∧
      (∃ fetch call, ∃ request : UpdateMemberRequest,
        ((completeRecovery "m:1" [] twos.publicKey ⟨"m:1"⟩).run
          (obliged ((KeyStore.empty.put "m:1" ones).put "m:1" twos)
            [KeyText.seedOfThrees, KeyText.seedOfFours])).2.calls = [fetch, call] ∧
        decode call.body = .ok request ∧ request.update.privilegedKeys = [twos.publicKey] ∧
        request.signature.keyId = twos.id) ∧
      ∃ accept fetch call, ∃ request : UpdateMemberRequest, ∃ key,
        ((completeRecoveryByDefault "m:1" "v:1" "123" ⟨"m:1"⟩).run
          (obliged (KeyStore.empty.put "m:1" ones)
            [KeyText.seedOfTwos, KeyText.seedOfThrees, KeyText.seedOfFours])).2.calls =
          [accept, fetch, call] ∧
        decode call.body = .ok request ∧ request.update.privilegedKeys = [key] ∧
        request.signature.keyId = key.id := by
  obtain ⟨ones, twos, madeOnes, madeTwos, isNewest, updates⟩ := exists_update_ones_twos
  refine ⟨ones, twos, madeOnes, madeTwos, ?_, ?_⟩
  · obtain ⟨fetch, call, calls, isUpdate⟩ := updates twos.publicKey
    obtain ⟨_, level, lasting⟩ := SecretKey.of_ofSeed madeTwos
    obtain ⟨sent, same, signed⟩ := (recoveryUpdates_signed_by_newest "m:1" ⟨"m:1"⟩
      (obliged ((KeyStore.empty.put "m:1" ones).put "m:1" twos)
        [KeyText.seedOfThrees, KeyText.seedOfFours])).1 [] twos
      ((KeyStore.distinct_empty.put "m:1" ones).put "m:1" twos)
      ⟨KeyStore.mem_keysOf_put _ _ _, level, SecretKey.isExpired_of_eq_none lasting 0⟩
    rw [calls] at same
    obtain rfl : [fetch, call] = sent := same
    obtain ⟨request, newest, decoded, approves, found, _, signs⟩ :=
      signed call (by simp) isUpdate
    have isTwos : newest = twos := Option.some.inj (found.symm.trans isNewest)
    exact ⟨fetch, call, request, calls, decoded, approves, signs.2 isTwos⟩
  · obtain ⟨accept, fetch, call, calls, isUpdate⟩ :=
      exists_update_twos_threes_fours (KeyStore.empty.put "m:1" ones)
    obtain ⟨_, _, _, fresh, distinct⟩ := exists_ofSeeds_twos_threes_fours
    rw [← fresh] at distinct
    obtain ⟨sent, same, signed⟩ := (recoveryUpdates_signed_by_newest "m:1" ⟨"m:1"⟩
      (obliged (KeyStore.empty.put "m:1" ones)
        [KeyText.seedOfTwos, KeyText.seedOfThrees, KeyText.seedOfFours])).2 "v:1" "123" distinct
    rw [calls] at same
    obtain rfl : [accept, fetch, call] = sent := same
    obtain ⟨request, key, decoded, approves, signs⟩ := signed call (by simp) isUpdate
    exact ⟨accept, fetch, call, request, key, calls, decoded, approves, signs⟩

/-- The same member is recovered with the key of ones, which it has as well: the update approves
this key, but the one of twos signs. -/
theorem keyId_ne_of_newer :
    ∃ ones twos, SecretKey.ofSeed KeyText.seedOfOnes .privileged = .ok ones ∧
      SecretKey.ofSeed KeyText.seedOfTwos .privileged = .ok twos ∧
      ((KeyStore.empty.put "m:1" ones).put "m:1" twos).CanSign 0 "m:1" .privileged ones ∧
      ∃ fetch call, ∃ request : UpdateMemberRequest,
        ((completeRecovery "m:1" [] ones.publicKey ⟨"m:1"⟩).run
          (obliged ((KeyStore.empty.put "m:1" ones).put "m:1" twos)
            [KeyText.seedOfThrees, KeyText.seedOfFours])).2.calls = [fetch, call] ∧
        call.method = .updateMember ∧ decode call.body = .ok request ∧
        request.update.privilegedKeys = [ones.publicKey] ∧
        request.signature.keyId = twos.id ∧ request.signature.keyId ≠ ones.id := by
  obtain ⟨ones, twos, madeOnes, madeTwos, isNewest, updates⟩ := exists_update_ones_twos
  obtain ⟨fetch, call, calls, isUpdate⟩ := updates ones.publicKey
  obtain ⟨_, level, lasting⟩ := SecretKey.of_ofSeed madeOnes
  have apart := SecretKey.id_ne_id_of_ones_of_twos madeOnes madeTwos
  have held : ones ∈ ((KeyStore.empty.put "m:1" ones).put "m:1" twos).keysOf "m:1" :=
    KeyStore.mem_keysOf_put_of_ne (KeyStore.mem_keysOf_put .empty "m:1" ones) apart
  obtain ⟨sent, same, installs⟩ := exists_sent_completeRecovery "m:1" [] ones.publicKey level ⟨"m:1"⟩
    (obliged ((KeyStore.empty.put "m:1" ones).put "m:1" twos)
      [KeyText.seedOfThrees, KeyText.seedOfFours])
  rw [calls] at same
  obtain rfl : [fetch, call] = sent := same
  obtain ⟨newest, found, request, decoded, approves, signs⟩ := installs call (by simp) isUpdate
  have isTwos : newest = twos := Option.some.inj (found.symm.trans isNewest)
  rw [isTwos] at signs
  refine ⟨ones, twos, madeOnes, madeTwos, ⟨held, level, SecretKey.isExpired_of_eq_none lasting 0⟩,
    fetch, call, request, calls, isUpdate, decoded, approves, signs, ?_⟩
  rw [signs]
  exact apart.symm

end Anonymous

end OpenBanking
