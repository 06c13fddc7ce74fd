import OpenBanking.Proofs.Keys.Fresh
import OpenBanking.Proofs.Member.Update

/-!
# What a failed recovery leaves

A recovery makes its keys and keeps them before it asks the gateway for anything. Whatever fails
then, they stay and sign at their levels in place of the keys that the member had registered; the
levels of which it made no key keep their signers.
-/

namespace OpenBanking

open Json

namespace Anonymous

/-! ## Keys that are made -/

/-- Asking for the record of a member leaves the keys. -/
theorem keeps_keys_getMember (memberId : String) : (getMember memberId).Keeps (·.keys) := by
  refine (Session.keeps_keys_exchange _ _ _).bind fun response => ?_
  exact Flow.keeps_pure _

/-- Handing in a code leaves the keys. -/
theorem keeps_keys_getRecoveryAuthorization (verificationId code : String) (key : Key) :
    (getRecoveryAuthorization verificationId code key).Keeps (·.keys) := by
  refine (Session.keeps_keys_exchange _ _ _).bind fun response => ?_
  by_cases accepted : response.status = .success
  · rw [if_pos accepted]
    exact Flow.keeps_pure _
  · rw [if_neg accepted]
    exact Flow.keeps_fail _

/-- Sending an update leaves the keys. -/
theorem keeps_keys_applyUpdate (update : MemberUpdate) (metadata : List OperationMetadata)
    (signer : Signer) : (applyUpdate update metadata signer).Keeps (·.keys) := by
  refine (Flow.keeps_ofCrypto _).bind fun signature => ?_
  refine (Session.keeps_keys_exchange _ _ _).bind fun response => ?_
  exact Flow.keeps_pure _

/-- What both recoveries end with leaves the keys. -/
theorem keeps_keys_recoverWith (memberId : String) (update : MemberRecord → MemberUpdate)
    (signer : Signer) (event : String → Event) :
    (recoverWith memberId update signer event).Keeps (·.keys) := by
  refine (keeps_keys_getMember memberId).bind fun record => ?_
  refine (keeps_keys_applyUpdate _ _ _).bind fun recovered => ?_
  exact (Session.keeps_keys_emit _).bind fun _ => Flow.keeps_pure _

/-- A recovery by agents makes a standard and a low key. -/
theorem makes_completeRecovery (memberId : String) (entries : List RecoveryEntry) (privileged : Key)
    (engine : Engine) :
    engine.Makes [.standard, .low] (completeRecovery memberId entries privileged engine) := by
  refine Engine.Makes.generate fun standard => Engine.Makes.generate fun low => ?_
  refine Engine.makes_nil ((engine.keeps_keys_signer .privileged).bind fun signer => ?_)
  exact keeps_keys_recoverWith memberId _ signer .memberRecovered

/-- A recovery by the default agent makes a key of each level. -/
theorem makes_completeRecoveryByDefault (memberId verificationId code : String) (engine : Engine) :
    engine.Makes [.privileged, .standard, .low]
      (completeRecoveryByDefault memberId verificationId code engine) := by
  refine Engine.Makes.generate fun privileged => Engine.Makes.generate fun standard =>
    Engine.Makes.generate fun low => ?_
  refine Engine.makes_nil ((engine.keeps_keys_signer .privileged).bind fun signer => ?_)
  refine (keeps_keys_getRecoveryAuthorization verificationId code privileged).bind fun entry => ?_
  exact keeps_keys_recoverWith memberId _ signer .memberRecoveredByDefault

/-! ## Runs of recoveries -/

/-- A member that was given the first of three fresh keys makes the other two for a recovery, and
the first one signs, if they have different ids. -/
theorem exists_run_recoveryKeys_of_put {engine : Engine} {session : Session} {before : KeyStore}
    {first : String} {privileged standard low : SecretKey}
    (made : SecretKey.ofSeeds [.privileged, .standard, .low] (first :: session.seeds) =
      [privileged, standard, low])
    (distinct : ([privileged, standard, low].map (·.id)).Nodup)
    (held : session.keys = before.put engine.memberId privileged) :
    ∃ keyed, (recoveryKeys engine).run session =
      (.ok (standard.publicKey, low.publicKey, .ofSecret privileged), keyed) := by
  have found := KeyStore.byLevel_putAll_ofSeeds (made.symm ▸ distinct) (by decide)
    (made.symm ▸ List.mem_cons_self) before engine.memberId session.now
  rw [made] at found
  obtain ⟨_, _, ahead, madePrivileged, made⟩ := SecretKey.exists_of_ofSeeds_eq_cons made
  cases ahead
  obtain ⟨second, _, seeds, madeStandard, made⟩ := SecretKey.exists_of_ofSeeds_eq_cons made
  obtain ⟨third, later, rfl, madeLow, _⟩ := SecretKey.exists_of_ofSeeds_eq_cons made
  rw [(SecretKey.of_ofSeed madePrivileged).2.1, KeyStore.putAll_cons, ← held] at found
  exact exists_run_recoveryKeys seeds madeStandard madeLow found

/-- The keys of a recovery by the default agent are made of the seeds, and the privileged one signs,
if they have different ids. -/
theorem exists_run_defaultRecoveryKeys {engine : Engine} {session : Session}
    {privileged standard low : SecretKey}
    (made : SecretKey.ofSeeds [.privileged, .standard, .low] session.seeds =
      [privileged, standard, low])
    (distinct : ([privileged, standard, low].map (·.id)).Nodup) :
    ∃ keyed, (defaultRecoveryKeys engine).run session =
      (.ok (privileged.publicKey, standard.publicKey, low.publicKey, .ofSecret privileged), keyed) := by
  obtain ⟨first, seeds, ahead, madePrivileged, _⟩ := SecretKey.exists_of_ofSeeds_eq_cons made
  rw [ahead] at made
  have gave : (engine.generate .privileged).run session = (.ok privileged.publicKey,
      { session with seeds, keys := session.keys.put engine.memberId privileged }) :=
    Engine.run_generate_of_ofSeed ahead madePrivileged
  obtain ⟨keyed, keys⟩ : ∃ keyed, (recoveryKeys engine).run
      { session with seeds, keys := session.keys.put engine.memberId privileged } =
      (.ok (standard.publicKey, low.publicKey, .ofSecret privileged), keyed) :=
    exists_run_recoveryKeys_of_put made distinct rfl
  rw [defaultRecoveryKeys, Flow.run_bind_of_ok gave, Flow.run_bind_of_ok keys]
  exact ⟨keyed, rfl⟩

/-- Over a closed channel a recovery ends when it asks for the record. -/
theorem run_recoverWith_of_closed {session : Session} (closed : session.channel.closed = true)
    (memberId : String) (update : MemberRecord → MemberUpdate) (signer : Signer)
    (event : String → Event) :
    (recoverWith memberId update signer event).run session = (.error .channelClosed, session) := by
  have refused : (getMember memberId).run session = (.error .channelClosed, session) :=
    Flow.run_bind_of_error (Session.run_exchange_of_closed closed _ _ _) _
  exact Flow.run_bind_of_error refused _

/-- A code that is not accepted fails under the name of what became of it. -/
theorem run_getRecoveryAuthorization_of_rejected {session : Session}
    (opened : session.channel.closed = false) (verificationId code : String) (key : Key)
    {entry : RecoveryEntry} {status : VerificationStatus}
    (answer : ∀ call, Session.read CompleteRecoveryResponse (session.gateway session.calls call) =
      .ok ⟨entry, status⟩)
    (rejected : status ≠ .success) :
    ∃ later, (getRecoveryAuthorization verificationId code key).run session =
      (.error (.verification (nameOf status)), later) := by
  have ran := run_getRecoveryAuthorization opened verificationId code key
  rw [answer, Except.bind, accepted, if_neg rejected] at ran
  exact ⟨_, ran⟩

/-- The seeds of twos, threes and fours have keys for a recovery by the default agent. -/
theorem exists_ofSeeds_twos_threes_fours :
    ∃ twos threes fours, SecretKey.ofSeeds [.privileged, .standard, .low]
        [KeyText.seedOfTwos, KeyText.seedOfThrees, KeyText.seedOfFours] = [twos, threes, fours] ∧
      ([twos, threes, fours].map (·.id)).Nodup := by
  obtain ⟨_, twos, threes, fours, _, madeTwos, madeThrees, madeFours, distinct⟩ :=
    SecretKey.exists_ones_twos_threes_fours .low .privileged .standard .low
  refine ⟨twos, threes, fours, ?_, (List.nodup_cons.1 distinct).2⟩
  rw [SecretKey.ofSeeds_cons_of_ok madeTwos, SecretKey.ofSeeds_cons_of_ok madeThrees,
    SecretKey.ofSeeds_cons_of_ok madeFours, SecretKey.ofSeeds_nil]

/-! ## Failures -/

/-- A recovery that fails leaves the keys that it made: each signs at its level from then on, and
the signers of all other levels and of all other members are what they were. A recovery by agents
has made no privileged key, and nothing of this depends on what failed. -/
theorem failed_recoveries_signBeside :
    (∀ (memberId : String) (entries : List RecoveryEntry) (privileged : Key) (engine : Engine)
        (session later : Session) (error : ClientError),
      (completeRecovery memberId entries privileged engine).run session = (.error error, later) →
      engine.SignsBeside [.standard, .low] session later) ∧
    ∀ (memberId verificationId code : String) (engine : Engine) (session later : Session)
        (error : ClientError),
      (completeRecoveryByDefault memberId verificationId code engine).run session =
        (.error error, later) →
      engine.SignsBeside [.privileged, .standard, .low] session later := by
  constructor
  · intro memberId entries privileged engine session later error failed
    have signs := (makes_completeRecovery memberId entries privileged engine).signsBeside
      (by decide) session
    rw [failed] at signs
    exact signs
  · intro memberId verificationId code engine session later error failed
    have signs := (makes_completeRecoveryByDefault memberId verificationId code engine).signsBeside
      (by decide) session
    rw [failed] at signs
    exact signs

/-- A member holds the privileged key of ones, and a recovery with fresh keys of twos and threes
meets a closed channel: the key of ones still signs at the privileged level, the one of threes at
the low level. -/
theorem failed_recoveries_signBeside_closed :
    ∃ ones threes, SecretKey.ofSeed KeyText.seedOfOnes .privileged = .ok ones ∧
      SecretKey.ofSeed KeyText.seedOfThrees .low = .ok threes ∧
      ∃ later, (completeRecovery "m:1" [] ones.publicKey ⟨"m:1"⟩).run
          (.steady { closed := true } (fun _ => []) (KeyStore.empty.put "m:1" ones)
            [KeyText.seedOfTwos, KeyText.seedOfThrees]) = (.error .channelClosed, later) ∧
        Engine.signerAt ⟨"m:1"⟩ .privileged 0 later = .ok (.ofSecret ones) ∧
        Engine.signerAt ⟨"m:1"⟩ .low 0 later = .ok (.ofSecret threes) := by
  obtain ⟨ones, twos, threes, _, madeOnes, madeTwos, madeThrees, _, distinct⟩ :=
    SecretKey.exists_ones_twos_threes_fours .privileged .standard .low .low
  obtain ⟨onesApart, distinct⟩ := List.nodup_cons.1 distinct
  have fresh : SecretKey.ofSeeds [.standard, .low] [KeyText.seedOfTwos, KeyText.seedOfThrees] =
      [twos, threes] := by
    rw [SecretKey.ofSeeds_cons_of_ok madeTwos, SecretKey.ofSeeds_cons_of_ok madeThrees,
      SecretKey.ofSeeds_nil]
  have unmade : ∀ key ∈ [twos, threes], key.level ≠ .privileged := by
    simp [(SecretKey.of_ofSeed madeTwos).2.1, (SecretKey.of_ofSeed madeThrees).2.1]
  -- The member has only the key of ones, whose id none of the fresh keys has.
  have apart : ∀ old ∈ (KeyStore.empty.put "m:1" ones).keysOf "m:1", old.level = .privileged →
      ∀ key ∈ [twos, threes], key.id ≠ old.id := by
    intro old held _ key mem same
    have isOnes : old = ones := List.mem_singleton.1 held
    rw [isOnes] at same
    exact onesApart (List.mem_map.2 ⟨key, List.mem_append_left [_] mem, same⟩)
  have registered := KeyStore.byLevel_put_of_ofSeed madeOnes .empty "m:1" 0
  obtain ⟨keyed, keys⟩ : ∃ keyed, (recoveryKeys ⟨"m:1"⟩).run
      (.steady { closed := true } (fun _ => []) (KeyStore.empty.put "m:1" ones)
        [KeyText.seedOfTwos, KeyText.seedOfThrees]) =
      (.ok (twos.publicKey, threes.publicKey, .ofSecret ones), keyed) :=
    exists_run_recoveryKeys rfl madeTwos madeThrees
      ((KeyStore.byLevel_putAll_of_apart unmade apart 0).trans registered)
  have closed : keyed.channel.closed = true := by
    rw [(of_run_recoveryKeys keys).1.channel_eq]
    rfl
  have failed : (completeRecovery "m:1" [] ones.publicKey ⟨"m:1"⟩).run
      (.steady { closed := true } (fun _ => []) (KeyStore.empty.put "m:1" ones)
        [KeyText.seedOfTwos, KeyText.seedOfThrees]) = (.error .channelClosed, keyed) := by
    rw [completeRecovery_eq, Flow.run_bind_of_ok keys]
    exact run_recoverWith_of_closed closed _ _ _ _
  have signs := failed_recoveries_signBeside.1 _ _ _ _ _ _ _ failed
  refine ⟨ones, threes, madeOnes, madeThrees, keyed, failed, ?_, ?_⟩
  · rw [signs.signerAt_of_unmade .privileged 0 (fresh ▸ unmade) (fresh ▸ apart), Engine.signerAt_eq]
    exact registered ▸ rfl
  · have made : threes ∈ SecretKey.ofSeeds [.standard, .low]
        [KeyText.seedOfTwos, KeyText.seedOfThrees] := by
      rw [fresh]
      exact List.mem_cons_of_mem _ List.mem_cons_self
    have ids : ((SecretKey.ofSeeds [.standard, .low]
        [KeyText.seedOfTwos, KeyText.seedOfThrees]).map (·.id)).Nodup := by
      rw [fresh]
      exact distinct.sublist (by simp)
    have signer := signs.signerAt_of_made 0 ids made
    rwa [(SecretKey.of_ofSeed madeThrees).2.1] at signer

/-- A member holds the privileged key of ones, and a recovery by the default agent hands in a code
that is refused as expired: the fresh key of twos signs at the privileged level from then on. -/
theorem signerAt_ne_of_expiredCode :
    ∃ ones twos, SecretKey.ofSeed KeyText.seedOfOnes .privileged = .ok ones ∧
      SecretKey.ofSeed KeyText.seedOfTwos .privileged = .ok twos ∧ ones.id ≠ twos.id ∧
      ∃ session later, session = Session.steady {}
          (fun _ => encode (CompleteRecoveryResponse.mk {} .expiredCode))
          (KeyStore.empty.put "m:1" ones)
          [KeyText.seedOfTwos, KeyText.seedOfThrees, KeyText.seedOfFours] ∧
        (completeRecoveryByDefault "m:1" "v:1" "123" ⟨"m:1"⟩).run session =
          (.error (.verification "EXPIRED_CODE"), later) ∧
        Engine.signerAt ⟨"m:1"⟩ .privileged 0 session = .ok (.ofSecret ones) ∧
        Engine.signerAt ⟨"m:1"⟩ .privileged 0 later = .ok (.ofSecret twos) := by
  obtain ⟨_, found⟩ := KeyText.exists_ofSeed_ones
  obtain ⟨ones, madeOnes, _⟩ := SecretKey.exists_ofSeed found .privileged
  obtain ⟨twos, threes, fours, fresh, distinct⟩ := exists_ofSeeds_twos_threes_fours
  obtain ⟨_, _, first, madeTwos, _⟩ := SecretKey.exists_of_ofSeeds_eq_cons fresh
  cases first
  refine ⟨ones, twos, madeOnes, madeTwos, SecretKey.id_ne_id_of_ones_of_twos madeOnes madeTwos, ?_⟩
  generalize start : Session.steady {} (fun _ => encode (CompleteRecoveryResponse.mk {} .expiredCode))
    (KeyStore.empty.put "m:1" ones)
    [KeyText.seedOfTwos, KeyText.seedOfThrees, KeyText.seedOfFours] = session
  have seeds : session.seeds = [KeyText.seedOfTwos, KeyText.seedOfThrees, KeyText.seedOfFours] := by
    rw [← start]
    rfl
  rw [← seeds] at fresh
  obtain ⟨keyed, keys⟩ : ∃ keyed, (defaultRecoveryKeys ⟨"m:1"⟩).run session =
      (.ok (twos.publicKey, threes.publicKey, fours.publicKey, .ofSecret twos), keyed) :=
    exists_run_defaultRecoveryKeys fresh distinct
  obtain ⟨way, _⟩ := of_run_defaultRecoveryKeys keys
  have opened : keyed.channel.closed = false := by
    rw [way.channel_eq, ← start]
    rfl
  have answer (call : Call) : Session.read CompleteRecoveryResponse (keyed.gateway keyed.calls call) =
      .ok ⟨{}, .expiredCode⟩ := by
    rw [way.gateway_eq, ← start]
    exact Session.read_encode _ _
  obtain ⟨later, refused⟩ :=
    run_getRecoveryAuthorization_of_rejected opened "v:1" "123" twos.publicKey answer nofun
  have failed : (completeRecoveryByDefault "m:1" "v:1" "123" ⟨"m:1"⟩).run session =
      (.error (.verification "EXPIRED_CODE"), later) := by
    rw [completeRecoveryByDefault_eq, Flow.run_bind_of_ok keys]
    exact Flow.run_bind_of_error refused _
  refine ⟨session, later, rfl, failed, ?_, ?_⟩
  · rw [Engine.signerAt_eq, ← start]
    exact KeyStore.byLevel_put_of_ofSeed madeOnes .empty "m:1" 0 ▸ rfl
  · have signs := (makes_completeRecoveryByDefault "m:1" "v:1" "123" ⟨"m:1"⟩).signsBeside (by decide)
      session
    rw [failed] at signs
    have signer := signs.signerAt_of_made 0 (fresh ▸ distinct) (fresh ▸ List.mem_cons_self)
    rwa [(SecretKey.of_ofSeed madeTwos).2.1] at signer

end Anonymous

end OpenBanking
