import OpenBanking.Proofs.Recovery.Signature

/-!
# Both recoveries send the same update

A recovery by agents chains the words of the agents and the keys; a recovery by the default agent
adds its word and the keys one after the other. For one word, the same record and the same keys, the
updates that they send are equal. The word of the default agent is had only for a code that was
accepted: for any other answer neither a record is fetched nor an update sent.
-/

namespace OpenBanking

open Json

/-- A run sends calls of methods and then an update: the body of its last call decodes to a request
of the update. -/
def Session.SendsUpdate (session later : Session) (methods : List Method) (update : MemberUpdate) :
    Prop :=
  ∃ before call, ∃ request : UpdateMemberRequest,
    later.calls = session.calls ++ before ++ [call] ∧ before.map (·.method) = methods ∧
      call.method = .updateMember ∧ decode call.body = .ok request ∧ request.update = update

/-- A call that carries an update is an update that is sent. -/
theorem Call.CarriesOwn.sendsUpdate {call : Call} {update : MemberUpdate}
    {metadata : List OperationMetadata} {signer : Signer} {request : UpdateMemberRequest}
    (carries : call.CarriesOwn update metadata signer request) {session later : Session}
    (before : List Call) (calls : later.calls = session.calls ++ (before ++ [call])) :
    session.SendsUpdate later (before.map (·.method)) update := by
  refine ⟨before, call, request, ?_, rfl, carries.method_eq, carries.decoded, carries.update_eq⟩
  rw [calls, List.append_assoc]

/-- An answer to a code does not accept it, for a reason: it tells another status than success, or
it cannot be read. -/
inductive Refused (answer : Except ClientError CompleteRecoveryResponse) : ClientError → Prop where
  /-- The status is another one, whatever the word of the agent is. -/
  | status {entry : RecoveryEntry} {status : VerificationStatus} (told : answer = .ok ⟨entry, status⟩)
    (other : status ≠ .success) : Refused answer (.verification (nameOf status))
  /-- The call failed, or its answer is not one to a code. -/
  | unread {error : ClientError} (failed : answer = .error error) : Refused answer error

namespace Anonymous

/-- Nothing is had of an answer exactly if it does not accept the code. -/
theorem bind_accepted_eq_error_iff {answer : Except ClientError CompleteRecoveryResponse}
    {error : ClientError} : answer.bind accepted = .error error ↔ Refused answer error := by
  constructor
  · intro failed
    cases answer with
    | error _ =>
      cases failed
      exact .unread rfl
    | ok response =>
      obtain ⟨entry, status⟩ := response
      by_cases success : status = .success
      · rw [Except.bind, accepted, if_pos success] at failed
        cases failed
      · rw [Except.bind, accepted, if_neg success] at failed
        cases failed
        exact .status rfl success
  · intro refused
    cases refused with
    | status told other => rw [told, Except.bind, accepted, if_neg other]
    | unread failed => rw [failed, Except.bind]

/-! ## The updates -/

/-- A recovery by agents that has its keys and is told the record sends one update of it: the words
of the agents in order, then the three keys. -/
theorem sendsUpdate_completeRecovery {session keyed : Session}
    (opened : session.channel.closed = false) {memberId : String} {record : MemberRecord}
    (told : session.Answers session.calls .getMember (GetMemberRequest.mk memberId)
      (MemberResponse.mk record))
    (entries : List RecoveryEntry) (privileged : Key) {standard low : Key} {engine : Engine}
    {signer : Signer}
    (gave : (recoveryKeys engine).run session = (.ok (standard, low, signer), keyed)) :
    session.SendsUpdate ((completeRecovery memberId entries privileged engine).run session).2
      [.getMember] ⟨record.id, record.lastHash,
        entries.map .recover ++ [.ofKey privileged, .ofKey standard, .ofKey low]⟩ := by
  obtain ⟨way, signs⟩ := of_run_recoveryKeys gave
  have openedLater : keyed.channel.closed = false := by
    rw [way.channel_eq]
    exact opened
  have toldLater : keyed.Answers keyed.calls .getMember (GetMemberRequest.mk memberId)
      (MemberResponse.mk record) := by
    rw [Session.Answers, way.gateway_eq, way.calls_eq, way.channel_eq]
    exact told
  obtain ⟨call, request, carries, calls⟩ := exists_run_recoverWith_of_answers openedLater toldLater
    (recoveryUpdate · entries [privileged, standard, low]) signs .memberRecovered
  rw [recoveryUpdate_eq] at carries
  rw [completeRecovery_eq, Flow.run_bind_of_ok gave]
  rw [way.calls_eq] at calls
  exact carries.sendsUpdate [_] calls

/-- A recovery by the default agent that has its keys, whose code is accepted and that is told the
record sends one update of it: the word of the agent, then the three keys. -/
theorem sendsUpdate_completeRecoveryByDefault {session keyed : Session}
    (opened : session.channel.closed = false) {memberId verificationId code : String}
    {record : MemberRecord} {entry : RecoveryEntry} {privileged standard low : Key}
    (success : session.Answers session.calls .completeRecovery
      (CompleteRecoveryRequest.mk verificationId code privileged)
      (CompleteRecoveryResponse.mk entry .success))
    (told : session.Answers (session.calls ++ [session.channel.plainCall .completeRecovery
        (CompleteRecoveryRequest.mk verificationId code privileged)])
      .getMember (GetMemberRequest.mk memberId) (MemberResponse.mk record))
    {engine : Engine} {signer : Signer}
    (gave : (defaultRecoveryKeys engine).run session =
      (.ok (privileged, standard, low, signer), keyed)) :
    session.SendsUpdate
      ((completeRecoveryByDefault memberId verificationId code engine).run session).2
      [.completeRecovery, .getMember] ⟨record.id, record.lastHash,
        [.recover entry, .ofKey privileged, .ofKey standard, .ofKey low]⟩ := by
  obtain ⟨way, signs⟩ := of_run_defaultRecoveryKeys gave
  have openedLater : keyed.channel.closed = false := by
    rw [way.channel_eq]
    exact opened
  have handed : (getRecoveryAuthorization verificationId code privileged).run keyed =
      (.ok entry, keyed.answered (session.channel.plainCall .completeRecovery
        (CompleteRecoveryRequest.mk verificationId code privileged))) := by
    rw [run_getRecoveryAuthorization openedLater, way.gateway_eq, way.calls_eq, way.channel_eq, success]
    rfl
  have isAccept : (session.channel.plainCall .completeRecovery
      (CompleteRecoveryRequest.mk verificationId code privileged)).method = .completeRecovery := rfl
  generalize session.channel.plainCall .completeRecovery
    (CompleteRecoveryRequest.mk verificationId code privileged) = accept at told handed isAccept
  have once : (keyed.answered accept).calls = session.calls ++ [accept] := by
    rw [Session.answered_calls, way.calls_eq]
  have stillOpened : (keyed.answered accept).channel.closed = false := openedLater
  have toldLater : (keyed.answered accept).Answers (keyed.answered accept).calls .getMember
      (GetMemberRequest.mk memberId) (MemberResponse.mk record) := by
    rw [Session.Answers, once, Session.answered_gateway, Session.answered_channel, way.gateway_eq,
      way.channel_eq]
    exact told
  obtain ⟨call, request, carries, calls⟩ := exists_run_recoverWith_of_answers stillOpened toldLater
    (recoveryUpdate · [entry] [privileged, standard, low]) signs .memberRecoveredByDefault
  rw [recoveryUpdate_eq] at carries
  rw [completeRecoveryByDefault_eq, Flow.run_bind_of_ok gave, Flow.run_bind_of_ok handed]
  rw [once, List.append_assoc] at calls
  have sends := carries.sendsUpdate [accept, _] calls
  rwa [List.map_cons, isAccept] at sends

/-! ## The gate -/

/-- A recovery by the default agent whose code is refused ends there, after this one call. -/
theorem run_completeRecoveryByDefault_of_refused {session keyed : Session}
    (opened : session.channel.closed = false) {memberId verificationId code : String}
    {privileged standard low : Key} {engine : Engine} {signer : Signer}
    (gave : (defaultRecoveryKeys engine).run session =
      (.ok (privileged, standard, low, signer), keyed))
    {error : ClientError}
    (refused : Refused (Session.read CompleteRecoveryResponse (session.gateway session.calls
      (session.channel.plainCall .completeRecovery
        (CompleteRecoveryRequest.mk verificationId code privileged)))) error) :
    (completeRecoveryByDefault memberId verificationId code engine).run session =
      (.error error, keyed.answered (session.channel.plainCall .completeRecovery
        (CompleteRecoveryRequest.mk verificationId code privileged))) := by
  obtain ⟨way, _⟩ := of_run_defaultRecoveryKeys gave
  have openedLater : keyed.channel.closed = false := by
    rw [way.channel_eq]
    exact opened
  have handed := run_getRecoveryAuthorization openedLater verificationId code privileged
  rw [way.gateway_eq, way.calls_eq, way.channel_eq, bind_accepted_eq_error_iff.2 refused] at handed
  rw [completeRecoveryByDefault_eq, Flow.run_bind_of_ok gave]
  exact Flow.run_bind_of_error handed _

/-- Both recoveries send the same update, and a code that is not accepted stops them.

A recovery by agents that has its keys and is told the record sends one update on top of the last
hash of the record: the words of the agents in order, then the privileged, the standard and the low
key. For one word this is the update of a recovery by the default agent that has these keys and is
told the same word and record, whatever the sessions and engines are. If the answer to the code
tells a status other than success, whatever word it holds, or if it cannot be read, then handing in
the code and the recovery by the default agent fail alike, and the recovery has sent nothing but the
code. -/
theorem recoveries_agree_on_accepted_codes (memberId verificationId code : String) :
    (∀ (entries : List RecoveryEntry) (privileged standard low : Key) (engine : Engine)
        (signer : Signer) (session keyed : Session) (record : MemberRecord),
      session.channel.closed = false →
      (recoveryKeys engine).run session = (.ok (standard, low, signer), keyed) →
      session.Answers session.calls .getMember (GetMemberRequest.mk memberId)
        (MemberResponse.mk record) →
      session.SendsUpdate ((completeRecovery memberId entries privileged engine).run session).2
        [.getMember] ⟨record.id, record.lastHash,
          entries.map .recover ++ [.ofKey privileged, .ofKey standard, .ofKey low]⟩) ∧
    (∀ (entry : RecoveryEntry) (privileged standard low : Key) (engine defaultEngine : Engine)
        (signer defaultSigner : Signer) (session keyed other otherKeyed : Session)
        (record : MemberRecord),
      session.channel.closed = false → other.channel.closed = false →
      (recoveryKeys engine).run session = (.ok (standard, low, signer), keyed) →
      (defaultRecoveryKeys defaultEngine).run other =
        (.ok (privileged, standard, low, defaultSigner), otherKeyed) →
      session.Answers session.calls .getMember (GetMemberRequest.mk memberId)
        (MemberResponse.mk record) →
      other.Answers other.calls .completeRecovery
        (CompleteRecoveryRequest.mk verificationId code privileged)
        (CompleteRecoveryResponse.mk entry .success) →
      other.Answers (other.calls ++ [other.channel.plainCall .completeRecovery
          (CompleteRecoveryRequest.mk verificationId code privileged)])
        .getMember (GetMemberRequest.mk memberId) (MemberResponse.mk record) →
      ∃ update : MemberUpdate,
        update = ⟨record.id, record.lastHash,
          [.recover entry, .ofKey privileged, .ofKey standard, .ofKey low]⟩ ∧
        session.SendsUpdate ((completeRecovery memberId [entry] privileged engine).run session).2
          [.getMember] update ∧
        other.SendsUpdate
          ((completeRecoveryByDefault memberId verificationId code defaultEngine).run other).2
          [.completeRecovery, .getMember] update) ∧
    ∀ (privileged : Key) (session : Session) (error : ClientError), session.channel.closed = false →
      Refused (Session.read CompleteRecoveryResponse (session.gateway session.calls
        (session.channel.plainCall .completeRecovery
          (CompleteRecoveryRequest.mk verificationId code privileged)))) error →
      ((getRecoveryAuthorization verificationId code privileged).run session).1 = .error error ∧
        ((getRecoveryAuthorization verificationId code privileged).run session).2.calls =
          session.calls ++ [session.channel.plainCall .completeRecovery
            (CompleteRecoveryRequest.mk verificationId code privileged)] ∧
        ∀ (standard low : Key) (engine : Engine) (signer : Signer) (keyed : Session),
          (defaultRecoveryKeys engine).run session =
            (.ok (privileged, standard, low, signer), keyed) →
          ((completeRecoveryByDefault memberId verificationId code engine).run session).1 =
              .error error ∧
            ((completeRecoveryByDefault memberId verificationId code engine).run session).2.calls =
              session.calls ++ [session.channel.plainCall .completeRecovery
                (CompleteRecoveryRequest.mk verificationId code privileged)] := by
  refine ⟨?_, ?_, ?_⟩
  · intro entries privileged standard low engine signer session keyed record opened gave told
    exact sendsUpdate_completeRecovery opened told entries privileged gave
  · intro entry privileged standard low engine defaultEngine signer defaultSigner session keyed other
      otherKeyed record opened otherOpened gave otherGave told success otherTold
    have agents := sendsUpdate_completeRecovery opened told [entry] privileged gave
    have default := sendsUpdate_completeRecoveryByDefault otherOpened success otherTold otherGave
    exact ⟨_, rfl, agents, default⟩
  · intro privileged session error opened refused
    have handed := run_getRecoveryAuthorization opened verificationId code privileged
    rw [bind_accepted_eq_error_iff.2 refused] at handed
    refine ⟨?_, ?_, ?_⟩
    · rw [handed]
    · rw [handed]
      exact session.answered_calls _
    · intro standard low engine signer keyed gave
      rw [run_completeRecoveryByDefault_of_refused opened gave refused, Session.answered_calls,
        (of_run_defaultRecoveryKeys gave).1.calls_eq]
      exact ⟨rfl, rfl⟩

/-- A member is recovered with the keys of twos, threes and fours, by the words of two agents, by
one word, and by a code; where the code has expired, nothing but the code is sent. -/
theorem recoveries_agree_on_accepted_codes_twos_threes_fours :
    ∃ twos threes fours, SecretKey.ofSeeds [.privileged, .standard, .low]
        [KeyText.seedOfTwos, KeyText.seedOfThrees, KeyText.seedOfFours] = [twos, threes, fours] ∧
      Session.SendsUpdate (obliged (KeyStore.empty.put "m:1" twos)
          [KeyText.seedOfThrees, KeyText.seedOfFours])
        ((completeRecovery "m:1" [{}, {}] twos.publicKey ⟨"m:1"⟩).run
          (obliged (KeyStore.empty.put "m:1" twos) [KeyText.seedOfThrees, KeyText.seedOfFours])).2
        [.getMember] ⟨"m:1", "", [.recover {}, .recover {}, .ofKey twos.publicKey,
          .ofKey threes.publicKey, .ofKey fours.publicKey]⟩ ∧
      (∃ update, Session.SendsUpdate (obliged (KeyStore.empty.put "m:1" twos)
            [KeyText.seedOfThrees, KeyText.seedOfFours])
          ((completeRecovery "m:1" [{}] twos.publicKey ⟨"m:1"⟩).run
            (obliged (KeyStore.empty.put "m:1" twos) [KeyText.seedOfThrees, KeyText.seedOfFours])).2
          [.getMember] update ∧
        Session.SendsUpdate
          (obliged .empty [KeyText.seedOfTwos, KeyText.seedOfThrees, KeyText.seedOfFours])
          ((completeRecoveryByDefault "m:1" "v:1" "123" ⟨"m:1"⟩).run
            (obliged .empty [KeyText.seedOfTwos, KeyText.seedOfThrees, KeyText.seedOfFours])).2
          [.completeRecovery, .getMember] update) ∧
      ∃ call, call.method = .completeRecovery ∧
        ((completeRecoveryByDefault "m:1" "v:1" "123" ⟨"m:1"⟩).run (.steady {}
          (fun _ => encode (CompleteRecoveryResponse.mk {} .expiredCode)) .empty
          [KeyText.seedOfTwos, KeyText.seedOfThrees, KeyText.seedOfFours])).1 =
            .error (.verification "EXPIRED_CODE") ∧
        ((completeRecoveryByDefault "m:1" "v:1" "123" ⟨"m:1"⟩).run (.steady {}
          (fun _ => encode (CompleteRecoveryResponse.mk {} .expiredCode)) .empty
          [KeyText.seedOfTwos, KeyText.seedOfThrees, KeyText.seedOfFours])).2.calls = [call] := by
  obtain ⟨twos, threes, fours, made, distinct⟩ := exists_ofSeeds_twos_threes_fours
  obtain ⟨keyed, gave⟩ : ∃ keyed, (recoveryKeys ⟨"m:1"⟩).run
      (obliged (KeyStore.empty.put "m:1" twos) [KeyText.seedOfThrees, KeyText.seedOfFours]) =
      (.ok (threes.publicKey, fours.publicKey, .ofSecret twos), keyed) :=
    exists_run_recoveryKeys_of_put made distinct rfl
  obtain ⟨otherKeyed, otherGave⟩ : ∃ keyed, (defaultRecoveryKeys ⟨"m:1"⟩).run
      (obliged .empty [KeyText.seedOfTwos, KeyText.seedOfThrees, KeyText.seedOfFours]) =
      (.ok (twos.publicKey, threes.publicKey, fours.publicKey, .ofSecret twos), keyed) :=
    exists_run_defaultRecoveryKeys made distinct
  obtain ⟨steadyKeyed, steadyGave⟩ : ∃ keyed, (defaultRecoveryKeys ⟨"m:1"⟩).run
      (.steady {} (fun _ => encode (CompleteRecoveryResponse.mk {} .expiredCode)) .empty
        [KeyText.seedOfTwos, KeyText.seedOfThrees, KeyText.seedOfFours]) =
      (.ok (twos.publicKey, threes.publicKey, fours.publicKey, .ofSecret twos), keyed) :=
    exists_run_defaultRecoveryKeys made distinct
  obtain ⟨agents, both, gate⟩ := recoveries_agree_on_accepted_codes "m:1" "v:1" "123"
  refine ⟨twos, threes, fours, made, ?_, ?_, ?_⟩
  · exact agents [{}, {}] _ _ _ _ _ _ _ _ rfl gave (read_record_obliged _ _ _ _ rfl)
  · obtain ⟨update, _, sends, sendsByDefault⟩ := both {} _ _ _ _ _ _ _ _ _ _ _ _ rfl rfl gave otherGave
      (read_record_obliged _ _ _ _ rfl) (read_entry_obliged _ _ _ _ rfl)
      (read_record_obliged _ _ _ _ rfl)
    exact ⟨update, sends, sendsByDefault⟩
  · obtain ⟨_, _, stops⟩ := gate twos.publicKey (.steady {}
        (fun _ => encode (CompleteRecoveryResponse.mk {} .expiredCode)) .empty
        [KeyText.seedOfTwos, KeyText.seedOfThrees, KeyText.seedOfFours])
      (.verification "EXPIRED_CODE") rfl (.status (Session.read_encode _ _) nofun)
    obtain ⟨failed, calls⟩ := stops _ _ _ _ _ steadyGave
    exact ⟨_, rfl, failed, calls⟩

end Anonymous

end OpenBanking
