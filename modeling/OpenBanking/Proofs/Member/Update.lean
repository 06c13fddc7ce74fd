import OpenBanking.Proofs.Asking
import OpenBanking.Proofs.Lossless.Message

/-!
# What is signed is what is sent

An update travels as a member of a request, its members in the order of their declaration, and is
signed over its canonical text. Since the request loses nothing, whoever gets it can rebuild the
octets that were signed from the update that it decodes. Four flows send updates: that of a client,
the creation of a member, and two recoveries, which fetch the record of the member before.
-/

namespace OpenBanking

open Json

/-- A call carries an update with metadata, signed by a signer: its body decodes to a request of
just these, and the signature that stands in the request is the one of the signer over the canonical
octets of the update that was decoded. -/
structure Call.Carries (call : Call) (update : MemberUpdate) (metadata : List OperationMetadata)
    (signer : Signer) (request : UpdateMemberRequest) : Prop where
  /-- It is the call for updates. -/
  method_eq : call.method = .updateMember
  /-- The body holds the request. -/
  decoded : decode call.body = .ok request
  /-- The update is the one meant. -/
  update_eq : request.update = update
  /-- The metadata are the ones meant. -/
  metadata_eq : request.metadata = metadata
  /-- The key that signed is named. -/
  keyId_eq : request.signature.keyId = signer.keyId
  /-- What was decoded is what was signed. -/
  signature_eq :
    signer.signOctets (canonicalOctets request.update) = .ok request.signature.signature

/-- A call carries an update in the name of the member that it is about. -/
structure Call.CarriesOwn (call : Call) (update : MemberUpdate) (metadata : List OperationMetadata)
    (signer : Signer) (request : UpdateMemberRequest) : Prop extends
    Call.Carries call update metadata signer request where
  /-- The signature names the member of the update. -/
  memberId_eq : request.signature.memberId = request.update.memberId

/-- What is carried is what the request holds. -/
theorem Call.CarriesOwn.self {call : Call} {update : MemberUpdate}
    {metadata : List OperationMetadata} {signer : Signer} {request : UpdateMemberRequest}
    (carries : call.CarriesOwn update metadata signer request) :
    call.CarriesOwn request.update request.metadata signer request :=
  { carries with update_eq := rfl, metadata_eq := rfl }

/-- The call of a written request carries its update. -/
theorem Call.carries_of_body_eq {call : Call} (method : call.method = .updateMember)
    {update : MemberUpdate} (metadata : List OperationMetadata) {signer : Signer}
    {signature : String} (signed : signer.signOctets (canonicalOctets update) = .ok signature)
    (memberId : String)
    (body : call.body = encode
      (UpdateMemberRequest.mk update ⟨memberId, signer.keyId, signature⟩ metadata)) :
    call.Carries update metadata signer ⟨update, ⟨memberId, signer.keyId, signature⟩, metadata⟩ where
  method_eq := method
  decoded := by
    rw [body]
    exact decode_encode _
  update_eq := rfl
  metadata_eq := rfl
  keyId_eq := rfl
  signature_eq := signed

/-- The call that sends an update in the name of its own member carries it. -/
theorem Call.carriesOwn_of_signed (headers : Headers) {update : MemberUpdate}
    (metadata : List OperationMetadata) {signer : Signer} {signature : String}
    (signed : signer.signOctets (canonicalOctets update) = .ok signature) :
    Call.CarriesOwn ⟨.updateMember, headers, encode
        (UpdateMemberRequest.mk update ⟨update.memberId, signer.keyId, signature⟩ metadata)⟩
      update metadata signer ⟨update, ⟨update.memberId, signer.keyId, signature⟩, metadata⟩ where
  toCarries := Call.carries_of_body_eq rfl metadata signed update.memberId (by dsimp only)
  memberId_eq := rfl

namespace Anonymous

variable {session : Session}

/-- An update that is signed is sent in one call. -/
theorem run_applyUpdate_of_ok (opened : session.channel.closed = false) {update : MemberUpdate}
    (metadata : List OperationMetadata) {signer : Signer} {signature : String}
    (signed : signer.signOctets (canonicalOctets update) = .ok signature) :
    ∃ call request, call.CarriesOwn update metadata signer request ∧
      (applyUpdate update metadata signer).run session =
        ((Session.read MemberResponse (session.gateway session.calls call)).map (·.member),
          session.answered call) := by
  refine ⟨_, _, Call.carriesOwn_of_signed session.channel.headers metadata signed, ?_⟩
  have signs : (Flow.ofCrypto (signer.sign update)).run session = (.ok signature, session) := by
    rw [Signer.sign, signed]
    rfl
  rw [applyUpdate, Flow.run_bind_of_ok signs, Flow.run_bind_pure, run_ask_of_open opened]

/-- An update that cannot be signed is not sent. -/
theorem run_applyUpdate_of_error {update : MemberUpdate} (metadata : List OperationMetadata)
    {signer : Signer} {error : CryptoError}
    (unsigned : signer.signOctets (canonicalOctets update) = .error error) :
    (applyUpdate update metadata signer).run session = (.error (.crypto error), session) := by
  have fails : (Flow.ofCrypto (signer.sign update)).run session =
      (.error (.crypto error), session) := by
    rw [Signer.sign, unsigned]
    rfl
  rw [applyUpdate, Flow.run_bind_of_error fails]

/-- The first update of a member that is signed is sent in one call. -/
theorem exists_run_createMember (opened : session.channel.closed = false) (memberId : String)
    (operations : List MemberOperation) (metadata : List OperationMetadata) {signer : Signer}
    {signature : String}
    (signed : signer.signOctets (canonicalOctets (⟨memberId, "", operations⟩ : MemberUpdate)) =
      .ok signature) :
    ∃ call request, call.CarriesOwn ⟨memberId, "", operations⟩ metadata signer request ∧
      ((createMember memberId operations metadata signer).run session).2.calls =
        session.calls ++ [call] := by
  have update : (MemberUpdate.forMember memberId "").append operations =
      ⟨memberId, "", operations⟩ := by
    simp [MemberUpdate.forMember, MemberUpdate.append]
  obtain ⟨call, request, carries, ran⟩ := run_applyUpdate_of_ok opened metadata signed
  refine ⟨call, request, carries, ?_⟩
  rw [createMember, update, Flow.run_bind, ran]
  cases (Session.read MemberResponse (session.gateway session.calls call)).map (·.member) with
  | ok record => exact session.answered_calls call
  | error error => exact session.answered_calls call

/-- A first update that cannot be signed is not sent. -/
theorem run_createMember_of_error {memberId : String} {operations : List MemberOperation}
    (metadata : List OperationMetadata) {signer : Signer} {error : CryptoError}
    (unsigned : signer.signOctets (canonicalOctets (⟨memberId, "", operations⟩ : MemberUpdate)) =
      .error error) :
    (createMember memberId operations metadata signer).run session =
      (.error (.crypto error), session) := by
  have update : (MemberUpdate.forMember memberId "").append operations =
      ⟨memberId, "", operations⟩ := by
    simp [MemberUpdate.forMember, MemberUpdate.append]
  rw [createMember, update, Flow.run_bind_of_error (run_applyUpdate_of_error metadata unsigned)]

/-! ## Recoveries -/

/-- What both recoveries end with: the record of the member is fetched, an update of it is sent, and
the recovery is logged. -/
def recoverWith (memberId : String) (update : MemberRecord → MemberUpdate) (signer : Signer)
    (event : String → Event) : Flow Session MemberRecord := do
  let record ← getMember memberId
  let recovered ← applyUpdate (update record) [] signer
  Session.emit (event recovered.id)
  return recovered

/-- The keys and the signer with which a recovery by agents begins. -/
def recoveryKeys (engine : Engine) : Flow Session (Key × Key × Signer) := do
  let standard ← engine.generate .standard
  let low ← engine.generate .low
  let signer ← engine.signer .privileged
  return (standard, low, signer)

/-- The keys and the signer with which a recovery by the default agent begins. -/
def defaultRecoveryKeys (engine : Engine) : Flow Session (Key × Key × Key × Signer) := do
  let privileged ← engine.generate .privileged
  let (standard, low, signer) ← recoveryKeys engine
  return (privileged, standard, low, signer)

/-- A recovery by agents, by its parts. -/
theorem completeRecovery_eq (memberId : String) (entries : List RecoveryEntry) (privileged : Key)
    (engine : Engine) :
    completeRecovery memberId entries privileged engine = (do
      let (standard, low, signer) ← recoveryKeys engine
      recoverWith memberId (recoveryUpdate · entries [privileged, standard, low]) signer
        .memberRecovered) := by
  simp only [completeRecovery, recoveryKeys, recoverWith, bind_assoc, pure_bind]

/-- Added step by step, the word of one agent and the keys make the update of a recovery by agents.
-/
theorem defaultRecoveryUpdate_eq (record : MemberRecord) (entry : RecoveryEntry)
    (privileged standard low : Key) :
    defaultRecoveryUpdate record entry privileged standard low =
      recoveryUpdate record [entry] [privileged, standard, low] := by
  simp [defaultRecoveryUpdate, recoveryUpdate, MemberUpdate.add, MemberUpdate.push,
    MemberUpdate.append]

/-- A recovery by the default agent, by its parts. -/
theorem completeRecoveryByDefault_eq (memberId verificationId code : String) (engine : Engine) :
    completeRecoveryByDefault memberId verificationId code engine = (do
      let (privileged, standard, low, signer) ← defaultRecoveryKeys engine
      let entry ← getRecoveryAuthorization verificationId code privileged
      recoverWith memberId (recoveryUpdate · [entry] [privileged, standard, low]) signer
        .memberRecoveredByDefault) := by
  simp only [completeRecoveryByDefault, defaultRecoveryUpdate_eq, defaultRecoveryKeys, recoveryKeys,
    recoverWith, bind_assoc, pure_bind]

/-- What a recovery hands over once it has keys and a signer, after `earlier` calls: it asks for the
record of the member, and if the answer tells one, it sends one update of this record. -/
inductive Recovers (gateway : Gateway) (earlier : List Call) (memberId : String)
    (update : MemberRecord → MemberUpdate) (signer : Signer) : List Call → Prop where
  /-- No record is told, and no update is sent. -/
  | untold {fetch : Call} {error : ClientError} (method_eq : fetch.method = .getMember)
    (asked : decode fetch.body = .ok (GetMemberRequest.mk memberId))
    (answer : Session.read MemberResponse (gateway earlier fetch) = .error error) :
    Recovers gateway earlier memberId update signer [fetch]
  /-- A record is told, and its update is sent. -/
  | updated {fetch call : Call} {record : MemberRecord} {request : UpdateMemberRequest}
    (method_eq : fetch.method = .getMember)
    (asked : decode fetch.body = .ok (GetMemberRequest.mk memberId))
    (answer : Session.read MemberResponse (gateway earlier fetch) = .ok ⟨record⟩)
    (carries : call.CarriesOwn (update record) [] signer request) :
    Recovers gateway earlier memberId update signer [fetch, call]

/-- A recovery that has a signer which signs everything and that is told the record sends the update
of this record. -/
theorem exists_run_recoverWith_of_answers (opened : session.channel.closed = false)
    {memberId : String} {record : MemberRecord}
    (told : session.Answers session.calls .getMember (GetMemberRequest.mk memberId)
      (MemberResponse.mk record))
    (update : MemberRecord → MemberUpdate) {signer : Signer}
    (signs : ∀ message, ∃ signature, signer.signOctets message = .ok signature)
    (event : String → Event) :
    ∃ call request, call.CarriesOwn (update record) [] signer request ∧
      ((recoverWith memberId update signer event).run session).2.calls = session.calls ++
        [session.channel.plainCall .getMember (GetMemberRequest.mk memberId), call] := by
  have fetched := run_ask_of_open (β := MemberResponse) opened .getMember (GetMemberRequest.mk memberId)
  rw [← Channel.plainCall, told] at fetched
  generalize session.channel.plainCall .getMember (GetMemberRequest.mk memberId) = fetch at fetched ⊢
  have gave : (getMember memberId).run session = (.ok record, session.answered fetch) := by
    rw [getMember, Flow.run_bind_of_ok fetched]
    rfl
  obtain ⟨signature, signed⟩ := signs (canonicalOctets (update record))
  have openedLater : (session.answered fetch).channel.closed = false := opened
  obtain ⟨call, request, carries, ran⟩ := run_applyUpdate_of_ok openedLater [] signed
  refine ⟨call, request, carries, ?_⟩
  rw [recoverWith, Flow.run_bind_of_ok gave, Flow.run_bind, ran]
  have calls : ((session.answered fetch).answered call).calls = session.calls ++ [fetch, call] := by
    simp
  cases (Session.read MemberResponse ((session.answered fetch).gateway
      (session.answered fetch).calls call)).map (·.member) with
  | ok record => exact calls
  | error error => exact calls

/-- A recovery that has a signer which signs everything asks for the record and goes on with it. -/
theorem exists_run_recoverWith (opened : session.channel.closed = false) (memberId : String)
    (update : MemberRecord → MemberUpdate) {signer : Signer}
    (signs : ∀ message, ∃ signature, signer.signOctets message = .ok signature)
    (event : String → Event) :
    ∃ sent, Recovers session.gateway session.calls memberId update signer sent ∧
      ((recoverWith memberId update signer event).run session).2.calls = session.calls ++ sent := by
  have asked : decode (session.channel.plainCall .getMember (GetMemberRequest.mk memberId)).body =
      .ok (GetMemberRequest.mk memberId) := by
    rw [Channel.plainCall]
    dsimp only
    exact decode_encode _
  cases answer : Session.read MemberResponse (session.gateway session.calls
      (session.channel.plainCall .getMember (GetMemberRequest.mk memberId))) with
  | error error =>
    have fetched :=
      run_ask_of_open (β := MemberResponse) opened .getMember (GetMemberRequest.mk memberId)
    rw [← Channel.plainCall, answer] at fetched
    refine ⟨[_], .untold rfl asked answer, ?_⟩
    rw [recoverWith, getMember, Flow.run_bind_of_error (Flow.run_bind_of_error fetched _)]
    exact session.answered_calls _
  | ok response =>
    obtain ⟨call, request, carries, calls⟩ :=
      exists_run_recoverWith_of_answers opened answer update signs event
    exact ⟨_, .updated rfl asked answer carries, calls⟩

/-- Making the keys of a recovery sends nothing. -/
theorem silent_recoveryKeys (engine : Engine) : Session.Silent (recoveryKeys engine) := by
  refine (engine.silent_generate .standard).bind fun standard => ?_
  refine (engine.silent_generate .low).bind fun low => ?_
  exact (engine.silent_signer .privileged).bind fun signer => Session.silent_pure _

/-- Two seeds that have keys are enough for the keys of a recovery, if the member has a privileged
key beside them. -/
theorem exists_run_recoveryKeys {engine : Engine} {first second : String} {later : List String}
    (seeds : session.seeds = first :: second :: later) {standard low key : SecretKey}
    (madeStandard : SecretKey.ofSeed first .standard = .ok standard)
    (madeLow : SecretKey.ofSeed second .low = .ok low)
    (found : ((session.keys.put engine.memberId standard).put engine.memberId low).byLevel
      session.now engine.memberId .privileged = .ok key) :
    ∃ keyed, (recoveryKeys engine).run session =
      (.ok (standard.publicKey, low.publicKey, .ofSecret key), keyed) := by
  rw [recoveryKeys, Flow.run_bind_of_ok (Engine.run_generate_of_ofSeed seeds madeStandard),
    Flow.run_bind_of_ok (Engine.run_generate_of_ofSeed rfl madeLow),
    Flow.run_bind_of_ok (Engine.run_signer_of_byLevel found)]
  exact ⟨_, rfl⟩

/-- The keys of a recovery are there without anything sent, and the signer signs everything. -/
theorem of_run_recoveryKeys {engine : Engine} {keyed : Session} {standard low : Key}
    {signer : Signer}
    (gave : (recoveryKeys engine).run session = (.ok (standard, low, signer), keyed)) :
    session.SameWay keyed ∧
      ∀ message, ∃ signature, signer.signOctets message = .ok signature := by
  have way := silent_recoveryKeys engine session
  rw [gave] at way
  refine ⟨way, ?_⟩
  obtain ⟨_, _, _, made⟩ := Flow.exists_of_run_bind_ok gave
  obtain ⟨_, _, _, made⟩ := Flow.exists_of_run_bind_ok made
  obtain ⟨found, _, signs, same⟩ := Flow.exists_of_run_bind_ok made
  obtain ⟨_, key, _, isKey⟩ := Engine.byLevel_of_run_signer signs
  cases same
  intro message
  rw [isKey]
  exact ⟨_, rfl⟩

/-- So are the keys of a recovery by the default agent. -/
theorem of_run_defaultRecoveryKeys {engine : Engine} {keyed : Session} {privileged standard low : Key}
    {signer : Signer}
    (gave : (defaultRecoveryKeys engine).run session =
      (.ok (privileged, standard, low, signer), keyed)) :
    session.SameWay keyed ∧
      ∀ message, ∃ signature, signer.signOctets message = .ok signature := by
  obtain ⟨_, middle, made, later⟩ := Flow.exists_of_run_bind_ok gave
  obtain ⟨⟨_, _, _⟩, _, keys, same⟩ := Flow.exists_of_run_bind_ok later
  cases same
  have first := engine.silent_generate .privileged session
  rw [made] at first
  obtain ⟨second, signs⟩ := of_run_recoveryKeys keys
  exact ⟨first.trans second, signs⟩

/-- What is had of the answer to a code: the word of the agent, if the code was accepted. -/
def accepted (response : CompleteRecoveryResponse) : Except ClientError RecoveryEntry :=
  if response.status = .success then .ok response.entry
  else .error (.verification (nameOf response.status))

/-- Handing in a code is one call, and what it gives is what is had of the answer. -/
theorem run_getRecoveryAuthorization (opened : session.channel.closed = false)
    (verificationId code : String) (key : Key) :
    (getRecoveryAuthorization verificationId code key).run session =
      ((Session.read CompleteRecoveryResponse (session.gateway session.calls
          (session.channel.plainCall .completeRecovery
            (CompleteRecoveryRequest.mk verificationId code key)))).bind accepted,
        session.answered (session.channel.plainCall .completeRecovery
          (CompleteRecoveryRequest.mk verificationId code key))) := by
  have asked := run_ask_of_open (β := CompleteRecoveryResponse) opened .completeRecovery
    (CompleteRecoveryRequest.mk verificationId code key)
  rw [← Channel.plainCall] at asked
  cases answer : Session.read CompleteRecoveryResponse (session.gateway session.calls
      (session.channel.plainCall .completeRecovery
        (CompleteRecoveryRequest.mk verificationId code key))) with
  | error error =>
    rw [answer] at asked
    exact Flow.run_bind_of_error asked _
  | ok response =>
    rw [answer] at asked
    rw [getRecoveryAuthorization, Flow.run_bind_of_ok asked]
    simp only [Except.bind, accepted]
    by_cases success : response.status = .success
    · rw [if_pos success, if_pos success]
      rfl
    · rw [if_neg success, if_neg success]
      rfl

/-- Handing in a code is one call. The word of the agent is had only if the code was accepted. -/
theorem exists_run_getRecoveryAuthorization (opened : session.channel.closed = false)
    (verificationId code : String) (key : Key) :
    ∃ accept : Call, accept.method = .completeRecovery ∧
      ((∃ error, (getRecoveryAuthorization verificationId code key).run session =
          (.error error, session.answered accept) ∧
          ∀ response,
            Session.read CompleteRecoveryResponse (session.gateway session.calls accept) =
              .ok response → response.status ≠ .success) ∨
        ∃ entry, (getRecoveryAuthorization verificationId code key).run session =
            (.ok entry, session.answered accept) ∧
          Session.read CompleteRecoveryResponse (session.gateway session.calls accept) =
            .ok ⟨entry, .success⟩) := by
  refine ⟨session.channel.plainCall .completeRecovery
    (CompleteRecoveryRequest.mk verificationId code key), rfl, ?_⟩
  rw [run_getRecoveryAuthorization opened]
  cases Session.read CompleteRecoveryResponse (session.gateway session.calls
      (session.channel.plainCall .completeRecovery
        (CompleteRecoveryRequest.mk verificationId code key))) with
  | error error => exact .inl ⟨error, rfl, fun _ => nofun⟩
  | ok response =>
    obtain ⟨entry, status⟩ := response
    by_cases success : status = .success
    · subst success
      exact .inr ⟨entry, rfl, rfl⟩
    · refine .inl ⟨.verification (nameOf status), ?_, ?_⟩
      · rw [Except.bind, accepted, if_neg success]
      · intro other same
        cases same
        exact success

end Anonymous

namespace Client

variable {client : Client} {session : Session}

/-- An update of operations, at least one of them, is one call, if keys are there that sign the
update and the call, and its answer tells the record. -/
theorem run_updateMember_of_byLevel (opened : session.channel.closed = false) (record : MemberRecord)
    {operations : List MemberOperation} (nonempty : operations ≠ [])
    (metadata : List OperationMetadata) {privileged low : SecretKey}
    (signs : session.keys.byLevel session.now client.engine.memberId .privileged = .ok privileged)
    (calls : session.keys.byLevel session.now client.engine.memberId .low = .ok low) :
    ∃ call request, call.Carries ⟨record.id, record.lastHash, operations⟩ metadata
        (.ofSecret privileged) request ∧
      (client.updateMember record operations metadata).run session =
        ((Session.read MemberResponse (session.gateway session.calls call)).map (·.member),
          session.answered call) := by
  have update : (MemberUpdate.ofRecord record).append operations =
      ⟨record.id, record.lastHash, operations⟩ := by
    simp [MemberUpdate.ofRecord, MemberUpdate.append]
  have some : operations.isEmpty = false := by
    simpa using nonempty
  obtain ⟨signature, signed⟩ : ∃ signature, (Signer.ofSecret privileged).signOctets
      (canonicalOctets (⟨record.id, record.lastHash, operations⟩ : MemberUpdate)) =
        .ok signature := ⟨_, rfl⟩
  have privilegedSigns := run_signPrivileged signs signed
  obtain ⟨call, method, body, sent⟩ := exists_run_ask (β := MemberResponse) opened calls .updateMember
    (UpdateMemberRequest.mk ⟨record.id, record.lastHash, operations⟩
      ⟨client.memberId, privileged.id, signature⟩ metadata)
  refine ⟨call, _, Call.carries_of_body_eq method metadata signed client.memberId body, ?_⟩
  simp only [updateMember, some, update, Bool.false_eq_true, ↓reduceIte]
  rw [Flow.run_bind_of_ok privilegedSigns, Flow.run_bind_pure, sent]

/-- So it is sent in one call. -/
theorem exists_run_updateMember (opened : session.channel.closed = false) (record : MemberRecord)
    {operations : List MemberOperation} (nonempty : operations ≠ [])
    (metadata : List OperationMetadata) {privileged low : SecretKey}
    (signs : session.keys.byLevel session.now client.engine.memberId .privileged = .ok privileged)
    (calls : session.keys.byLevel session.now client.engine.memberId .low = .ok low) :
    ∃ call request, call.Carries ⟨record.id, record.lastHash, operations⟩ metadata
        (.ofSecret privileged) request ∧
      ((client.updateMember record operations metadata).run session).2.calls =
        session.calls ++ [call] := by
  obtain ⟨call, request, carries, ran⟩ :=
    run_updateMember_of_byLevel opened record nonempty metadata signs calls
  refine ⟨call, request, carries, ?_⟩
  rw [ran]
  exact session.answered_calls call

end Client

namespace Anonymous

/-- The update of a recovery, by its parts. -/
theorem recoveryUpdate_eq (record : MemberRecord) (entries : List RecoveryEntry) (keys : List Key) :
    recoveryUpdate record entries keys =
      ⟨record.id, record.lastHash, entries.map .recover ++ keys.map .ofKey⟩ := by
  simp [recoveryUpdate, MemberUpdate.ofRecord, MemberUpdate.append]

/-- A recovery by agents that has its keys goes on as recoveries do. -/
theorem exists_run_completeRecovery {session keyed : Session}
    (opened : session.channel.closed = false) (memberId : String) (entries : List RecoveryEntry)
    (privileged : Key) {engine : Engine} {standard low : Key} {signer : Signer}
    (gave : (recoveryKeys engine).run session = (.ok (standard, low, signer), keyed)) :
    ∃ sent, Recovers session.gateway session.calls memberId (fun record =>
          ⟨record.id, record.lastHash,
            entries.map .recover ++ [privileged, standard, low].map .ofKey⟩) signer sent ∧
      ((completeRecovery memberId entries privileged engine).run session).2.calls =
        session.calls ++ sent := by
  obtain ⟨way, signs⟩ := of_run_recoveryKeys gave
  have openedLater : keyed.channel.closed = false := by
    rw [way.channel_eq]
    exact opened
  obtain ⟨sent, recovers, calls⟩ := exists_run_recoverWith openedLater memberId
    (recoveryUpdate · entries [privileged, standard, low]) signs .memberRecovered
  simp only [recoveryUpdate_eq, way.gateway_eq, way.calls_eq] at recovers
  refine ⟨sent, recovers, ?_⟩
  rw [completeRecovery_eq, Flow.run_bind_of_ok gave, calls, way.calls_eq]

/-- A recovery by the default agent that has its keys hands in the code first; if it is accepted,
the recovery goes on as recoveries do. -/
theorem exists_run_completeRecoveryByDefault {session keyed : Session}
    (opened : session.channel.closed = false) (memberId verificationId code : String)
    {engine : Engine} {privileged standard low : Key} {signer : Signer}
    (gave : (defaultRecoveryKeys engine).run session =
      (.ok (privileged, standard, low, signer), keyed)) :
    ∃ accept sent, ((completeRecoveryByDefault memberId verificationId code engine).run session).2.calls
        = session.calls ++ accept :: sent ∧
      accept.method = .completeRecovery ∧
      ((sent = [] ∧ ∀ response,
          Session.read CompleteRecoveryResponse (session.gateway session.calls accept) = .ok response →
          response.status ≠ .success) ∨
        ∃ entry,
          Session.read CompleteRecoveryResponse (session.gateway session.calls accept) =
            .ok ⟨entry, .success⟩ ∧
          Recovers session.gateway (session.calls ++ [accept]) memberId (fun record =>
            ⟨record.id, record.lastHash,
              [.recover entry] ++ [privileged, standard, low].map .ofKey⟩) signer sent) := by
  obtain ⟨way, signs⟩ := of_run_defaultRecoveryKeys gave
  have openedLater : keyed.channel.closed = false := by
    rw [way.channel_eq]
    exact opened
  obtain ⟨accept, method, outcome⟩ :=
    exists_run_getRecoveryAuthorization openedLater verificationId code privileged
  have once : (keyed.answered accept).calls = session.calls ++ [accept] := by
    rw [Session.answered_calls, way.calls_eq]
  rw [completeRecoveryByDefault_eq, Flow.run_bind_of_ok gave]
  simp only [way.gateway_eq, way.calls_eq] at outcome
  rcases outcome with ⟨error, failed, refused⟩ | ⟨entry, gaveEntry, accepted⟩
  · refine ⟨accept, [], ?_, method, .inl ⟨rfl, refused⟩⟩
    rw [Flow.run_bind_of_error failed, once]
  · have stillOpened : (keyed.answered accept).channel.closed = false := openedLater
    obtain ⟨sent, recovers, calls⟩ := exists_run_recoverWith stillOpened memberId
      (recoveryUpdate · [entry] [privileged, standard, low]) signs .memberRecoveredByDefault
    simp only [recoveryUpdate_eq, Session.answered_gateway, way.gateway_eq, once] at recovers
    refine ⟨accept, sent, ?_, method, .inr ⟨entry, accepted, recovers⟩⟩
    rw [Flow.run_bind_of_ok gaveEntry, calls, once, List.append_assoc]
    rfl

/-- A recovery without its keys ends there, and nothing is sent. -/
theorem run_recovery_of_error {α β : Type} {keys : Flow Session α} (silent : Session.Silent keys)
    {session later : Session} {error : ClientError}
    (failed : keys.run session = (.error error, later)) (rest : α → Flow Session β) :
    (keys >>= rest).run session = (.error error, later) ∧ later.calls = session.calls := by
  have way := silent session
  rw [failed] at way
  exact ⟨Flow.run_bind_of_error failed rest, way.calls_eq⟩

end Anonymous

open Anonymous in
/-- What is signed is what is sent, in each flow that sends an update: the receiver decodes the
update that was meant, and the octets that were signed are the canonical octets of what it decodes.

An update of a client is one call. So is the first update of a member, if the signer signs it. A
recovery by agents makes its keys, asks for the record of the member, and sends one update on top of
the last hash that the answer tells; a recovery by the default agent hands in a code before that,
and goes on only if it is accepted. Without keys, or without a record, no update is sent. -/
theorem updates_signed_as_sent :
    (∀ (client : Client) (record : MemberRecord) (operations : List MemberOperation)
        (metadata : List OperationMetadata) (session : Session),
      operations ≠ [] → session.channel.closed = false →
      (∃ key, session.keys.CanSign session.now client.engine.memberId .privileged key) →
      (∃ key, session.keys.CanSign session.now client.engine.memberId .low key) →
      ∃ call request signer,
        ((client.updateMember record operations metadata).run session).2.calls =
            session.calls ++ [call] ∧
          (client.engine.signer .privileged).run session = (.ok signer, session) ∧
          call.Carries ⟨record.id, record.lastHash, operations⟩ metadata signer request) ∧
    (∀ (memberId : String) (operations : List MemberOperation) (metadata : List OperationMetadata)
        (signer : Signer) (session : Session), session.channel.closed = false →
      (∀ signature,
        signer.signOctets (canonicalOctets (⟨memberId, "", operations⟩ : MemberUpdate)) =
          .ok signature →
        ∃ call request,
          ((createMember memberId operations metadata signer).run session).2.calls =
              session.calls ++ [call] ∧
            call.CarriesOwn ⟨memberId, "", operations⟩ metadata signer request) ∧
      ∀ error,
        signer.signOctets (canonicalOctets (⟨memberId, "", operations⟩ : MemberUpdate)) =
          .error error →
        (createMember memberId operations metadata signer).run session =
          (.error (.crypto error), session)) ∧
    (∀ (memberId : String) (entries : List RecoveryEntry) (privileged : Key) (engine : Engine)
        (session : Session), session.channel.closed = false →
      (∀ standard low signer keyed,
        (recoveryKeys engine).run session = (.ok (standard, low, signer), keyed) →
        ∃ sent, ((completeRecovery memberId entries privileged engine).run session).2.calls =
            session.calls ++ sent ∧
          Recovers session.gateway session.calls memberId (fun record =>
            ⟨record.id, record.lastHash,
              entries.map .recover ++ [privileged, standard, low].map .ofKey⟩) signer sent) ∧
      ∀ error later, (recoveryKeys engine).run session = (.error error, later) →
        (completeRecovery memberId entries privileged engine).run session =
          (.error error, later) ∧ later.calls = session.calls) ∧
    ∀ (memberId verificationId code : String) (engine : Engine) (session : Session),
      session.channel.closed = false →
      (∀ privileged standard low signer keyed,
        (defaultRecoveryKeys engine).run session =
          (.ok (privileged, standard, low, signer), keyed) →
        ∃ accept sent,
          ((completeRecoveryByDefault memberId verificationId code engine).run session).2.calls =
              session.calls ++ accept :: sent ∧
            accept.method = .completeRecovery ∧
            ((sent = [] ∧ ∀ response,
                Session.read CompleteRecoveryResponse (session.gateway session.calls accept) =
                  .ok response → response.status ≠ .success) ∨
              ∃ entry,
                Session.read CompleteRecoveryResponse (session.gateway session.calls accept) =
                  .ok ⟨entry, .success⟩ ∧
                Recovers session.gateway (session.calls ++ [accept]) memberId (fun record =>
                  ⟨record.id, record.lastHash,
                    [.recover entry] ++ [privileged, standard, low].map .ofKey⟩) signer sent)) ∧
      ∀ error later, (defaultRecoveryKeys engine).run session = (.error error, later) →
        (completeRecoveryByDefault memberId verificationId code engine).run session =
          (.error error, later) ∧ later.calls = session.calls := by
  refine ⟨?_, ?_, ?_, ?_⟩
  · intro client record operations metadata session nonempty opened canSign canCall
    obtain ⟨_, able⟩ := canSign
    obtain ⟨privileged, signs⟩ := KeyStore.exists_byLevel able
    obtain ⟨_, able⟩ := canCall
    obtain ⟨low, calls⟩ := KeyStore.exists_byLevel able
    obtain ⟨call, request, carries, sent⟩ :=
      client.exists_run_updateMember opened record nonempty metadata signs calls
    exact ⟨call, request, .ofSecret privileged, sent, Engine.run_signer_of_byLevel signs, carries⟩
  · intro memberId operations metadata signer session opened
    constructor
    · intro signature signed
      obtain ⟨call, request, carries, sent⟩ :=
        exists_run_createMember opened memberId operations metadata signed
      exact ⟨call, request, sent, carries⟩
    · intro error unsigned
      exact run_createMember_of_error metadata unsigned
  · intro memberId entries privileged engine session opened
    constructor
    · intro standard low signer keyed gave
      obtain ⟨sent, recovers, calls⟩ :=
        exists_run_completeRecovery opened memberId entries privileged gave
      exact ⟨sent, calls, recovers⟩
    · intro error later failed
      rw [completeRecovery_eq]
      exact run_recovery_of_error (silent_recoveryKeys engine) failed _
  · intro memberId verificationId code engine session opened
    constructor
    · intro privileged standard low signer keyed gave
      exact exists_run_completeRecoveryByDefault opened memberId verificationId code gave
    · intro error later failed
      rw [completeRecoveryByDefault_eq]
      refine run_recovery_of_error ((engine.silent_generate .privileged).bind fun privileged => ?_)
        failed _
      exact (silent_recoveryKeys engine).bind fun _ => Session.silent_pure _

open Anonymous in
/-- A member whose privileged key is the key of ones and whose low key is the one of twos withdraws
a key whose id holds a quote; and a member without keys is recovered with keys of these seeds. -/
theorem updates_signed_as_sent_ones_twos :
    ∃ privileged low, SecretKey.ofSeed KeyText.seedOfOnes .privileged = .ok privileged ∧
      SecretKey.ofSeed KeyText.seedOfTwos .low = .ok low ∧
      (∃ call request signer,
        (((Client.new "m:1" ⟨"m:1"⟩).updateMember { id := "m:1", lastHash := "h" }
            [.withoutKey "k\""] []).run
          (.steady {} (fun _ => []) ((KeyStore.empty.put "m:1" privileged).put "m:1" low) [])).2.calls
            = [call] ∧
          call.Carries ⟨"m:1", "h", [.withoutKey "k\""]⟩ [] signer request) ∧
      ∃ accept sent,
        ((completeRecoveryByDefault "m:1" "v:1" "123" ⟨"m:1"⟩).run
          (.steady {} (fun _ => []) .empty
            [KeyText.seedOfOnes, KeyText.seedOfTwos, KeyText.seedOfTwos])).2.calls =
          accept :: sent ∧ accept.method = .completeRecovery := by
  obtain ⟨_, ones⟩ := KeyText.exists_ofSeed_ones
  obtain ⟨_, twos⟩ := KeyText.exists_ofSeed_twos
  obtain ⟨privileged, madePrivileged, _, level, lasting⟩ := SecretKey.exists_ofSeed ones .privileged
  obtain ⟨standard, madeStandard, _⟩ := SecretKey.exists_ofSeed twos .standard
  obtain ⟨low, madeLow, _, lowLevel, lowLasting⟩ := SecretKey.exists_ofSeed twos .low
  have lowApart := SecretKey.id_ne_id_of_ones_of_twos madePrivileged madeLow
  have standardApart := SecretKey.id_ne_id_of_ones_of_twos madePrivileged madeStandard
  have held := KeyStore.mem_keysOf_put .empty "m:1" privileged
  have unexpired := SecretKey.isExpired_of_eq_none lasting 0
  refine ⟨privileged, low, madePrivileged, madeLow, ?_, ?_⟩
  · have canSign : ((KeyStore.empty.put "m:1" privileged).put "m:1" low).CanSign 0 "m:1" .privileged
        privileged :=
      ⟨KeyStore.mem_keysOf_put_of_ne held lowApart, level, unexpired⟩
    have canCall : ((KeyStore.empty.put "m:1" privileged).put "m:1" low).CanSign 0 "m:1" .low low :=
      ⟨KeyStore.mem_keysOf_put _ _ _, lowLevel, SecretKey.isExpired_of_eq_none lowLasting 0⟩
    obtain ⟨call, request, signer, sent, _, carries⟩ :=
      updates_signed_as_sent.1 (Client.new "m:1" ⟨"m:1"⟩) { id := "m:1", lastHash := "h" }
        [.withoutKey "k\""] [] (.steady {} (fun _ => []) _ []) (List.cons_ne_nil _ _) rfl
        ⟨privileged, canSign⟩ ⟨low, canCall⟩
    exact ⟨call, request, signer, sent, carries⟩
  · have canSign : (((KeyStore.empty.put "m:1" privileged).put "m:1" standard).put "m:1" low).CanSign
        0 "m:1" .privileged privileged :=
      ⟨KeyStore.mem_keysOf_put_of_ne (KeyStore.mem_keysOf_put_of_ne held standardApart) lowApart,
        level, unexpired⟩
    obtain ⟨key, found⟩ := KeyStore.exists_byLevel canSign
    have first : (Engine.generate ⟨"m:1"⟩ .privileged).run (.steady {} (fun _ => []) .empty
          [KeyText.seedOfOnes, KeyText.seedOfTwos, KeyText.seedOfTwos]) =
        (.ok privileged.publicKey, .steady {} (fun _ => []) (KeyStore.empty.put "m:1" privileged)
          [KeyText.seedOfTwos, KeyText.seedOfTwos]) :=
      Engine.run_generate_of_ofSeed rfl madePrivileged
    obtain ⟨keyed, keys⟩ : ∃ keyed, (recoveryKeys ⟨"m:1"⟩).run
        (.steady {} (fun _ => []) (KeyStore.empty.put "m:1" privileged)
          [KeyText.seedOfTwos, KeyText.seedOfTwos]) =
        (.ok (standard.publicKey, low.publicKey, .ofSecret key), keyed) :=
      exists_run_recoveryKeys rfl madeStandard madeLow found
    have all : (defaultRecoveryKeys ⟨"m:1"⟩).run (.steady {} (fun _ => []) .empty
          [KeyText.seedOfOnes, KeyText.seedOfTwos, KeyText.seedOfTwos]) =
        (.ok (privileged.publicKey, standard.publicKey, low.publicKey, .ofSecret key), keyed) := by
      rw [defaultRecoveryKeys, Flow.run_bind_of_ok first, Flow.run_bind_of_ok keys]
      rfl
    obtain ⟨accept, sent, calls, method, _⟩ :=
      (updates_signed_as_sent.2.2.2 "m:1" "v:1" "123" ⟨"m:1"⟩ _ rfl).1 _ _ _ _ _ all
    exact ⟨accept, sent, calls, method⟩

end OpenBanking
