import OpenBanking.Proofs.Keys.Fresh
import OpenBanking.Proofs.Keys.Text
import OpenBanking.Proofs.Text.Base64url

/-!
# Signers and verifiers match

Whatever engines have made of a store and whatever else was put into it, its keys have different
ids, each key has the public half of its own seed, and so the id of a signer leads to the verifier
that accepts what it signs.
-/

namespace OpenBanking

open Json

/-! ## Keys and their public halves -/

namespace Verifier

/-- The verifier of a public key that is read from its text. -/
theorem ofPublic_of_ok {text : String} {octets : List UInt8}
    (read : KeyText.ofPublic text = .ok octets) : ofPublic text = .ok ⟨octets⟩ := by
  rw [ofPublic, read]

/-- A signature is accepted if the octets that it writes are. -/
theorem verifyOctets_of_ok {verifier : Verifier} {message octets : List UInt8} {signature : String}
    (decoded : decodeBase64url signature = .ok octets)
    (accepted : KeyText.verify verifier.publicOctets message octets = .ok ()) :
    verifier.verifyOctets message signature = .ok () := by
  simp only [verifyOctets, decoded, accepted]

end Verifier

namespace SecretKey

/-- The public key of a key is read from its text. -/
theorem ofPublic_publicText (key : SecretKey) :
    Verifier.ofPublic key.publicText = .ok ⟨key.pair.publicOctets⟩ := by
  refine Verifier.ofPublic_of_ok ?_
  rw [key.publicText_of_pair]
  exact KeyText.ofPublic_publicText_of_ofSeed key.pair_of_seed

/-- What a key signs is accepted under its public key. -/
theorem exists_verify_sign (key : SecretKey) {α : Type} [Wire α] (x : α) :
    ∃ signature, (Signer.ofSecret key).sign x = .ok signature ∧
      (Verifier.mk key.pair.publicOctets).verify x signature = .ok () :=
  ⟨_, rfl, Verifier.verifyOctets_of_ok (decodeBase64url_encode _)
    (KeyText.verify_sign_of_ofSeed key.pair_of_seed _)⟩

end SecretKey

namespace KeyStore

variable {store : KeyStore} {now : Int64} {memberId : String}

/-- A key of an id is found exactly if it is listed. -/
theorem Distinct.byId_eq_ok_iff (distinct : store.Distinct) {id : String} {key : SecretKey} :
    store.byId now memberId id = .ok key ↔ key ∈ store.list now memberId ∧ key.id = id := by
  constructor
  · intro found
    unfold byId at found
    split at found
    · cases found
    next first first_eq =>
      split at found
      · cases found
      next unexpired =>
        cases found
        exact ⟨List.mem_filter.2 ⟨List.mem_of_find?_eq_some first_eq, by simpa using unexpired⟩,
          by simpa using List.find?_some first_eq⟩
  · rintro ⟨listed, rfl⟩
    obtain ⟨held, unexpired⟩ := List.mem_filter.1 listed
    exact byId_of_canSign distinct ⟨held, rfl, by simpa using unexpired⟩

/-- A key of a level is found exactly if it is the last one listed. -/
theorem byLevel_eq_ok_iff {level : KeyLevel} {key : SecretKey} :
    store.byLevel now memberId level = .ok key ↔
      ((store.list now memberId).filter (·.level = level)).getLast? = some key := by
  rw [byLevel_eq_getLast?]
  cases ((store.list now memberId).filter (·.level = level)).getLast? <;> simp

end KeyStore

/-! ## Answers of engines -/

namespace Engine

/-- An engine tells the public halves of the keys that are listed. -/
theorem run_publicKeys (engine : Engine) (session : Session) : engine.publicKeys.run session =
    (.ok ((session.keys.list session.now engine.memberId).map (·.publicKey)), session) := rfl

/-- A signer is had exactly if a key of the level is found. -/
theorem run_signer_eq_ok_iff {engine : Engine} {level : KeyLevel} {session : Session}
    {signer : Signer} : ((engine.signer level).run session).1 = .ok signer ↔
      ∃ key, session.keys.byLevel session.now engine.memberId level = .ok key ∧
        signer = .ofSecret key := by
  cases found : session.keys.byLevel session.now engine.memberId level with
  | ok key =>
    rw [run_signer_of_byLevel found]
    simp [eq_comm]
  | error error =>
    rw [run_signer_of_error found]
    simp

/-- The verifier of an id is the one of the key that is found. -/
theorem run_verifier_of_byId {engine : Engine} {id : String} {session : Session} {key : SecretKey}
    (found : session.keys.byId session.now engine.memberId id = .ok key) :
    (engine.verifier id).run session = (.ok ⟨key.pair.publicOctets⟩, session) := by
  refine (Flow.run_bind_of_ok (Flow.run_read _ session) _).trans ?_
  rw [found]
  refine (Flow.run_bind_of_ok (Flow.run_ofCrypto_ok key session) _).trans ?_
  rw [key.ofPublic_publicText]
  rfl

/-- Without a key there is no verifier. -/
theorem run_verifier_of_error {engine : Engine} {id : String} {session : Session}
    {error : CryptoError} (missing : session.keys.byId session.now engine.memberId id = .error error) :
    (engine.verifier id).run session = (.error (.crypto error), session) := by
  refine (Flow.run_bind_of_ok (Flow.run_read _ session) _).trans ?_
  rw [missing]
  rfl

/-- A verifier is had exactly if a key of the id is found. -/
theorem run_verifier_eq_ok_iff {engine : Engine} {id : String} {session : Session}
    {verifier : Verifier} : ((engine.verifier id).run session).1 = .ok verifier ↔
      ∃ key, session.keys.byId session.now engine.memberId id = .ok key ∧
        verifier = ⟨key.pair.publicOctets⟩ := by
  cases found : session.keys.byId session.now engine.memberId id with
  | ok key =>
    rw [run_verifier_of_byId found]
    simp [eq_comm]
  | error error =>
    rw [run_verifier_of_error found]
    simp

/-- The signers and verifiers of an engine match its public keys, and each other. -/
structure Matches (engine : Engine) (session : Session) (keys : List Key) : Prop where
  /-- These are its public keys. -/
  publicKeys_eq : engine.publicKeys.run session = (.ok keys, session)
  /-- A signer of a level is had exactly if one of them is of the level. -/
  signs_iff (level : KeyLevel) :
    (∃ signer, ((engine.signer level).run session).1 = .ok signer) ↔ ∃ key ∈ keys, key.level = level
  /-- It is the signer of the last one of the level. -/
  signer_eq (level : KeyLevel) (signer : Signer)
    (had : ((engine.signer level).run session).1 = .ok signer) :
    ∃ secret ∈ session.keys.keysOf engine.memberId, signer = .ofSecret secret ∧
      (keys.filter (·.level = level)).getLast? = some secret.publicKey
  /-- A verifier of an id is had exactly if one of them has the id. -/
  verifies_iff (id : String) :
    (∃ verifier, ((engine.verifier id).run session).1 = .ok verifier) ↔ ∃ key ∈ keys, key.id = id
  /-- The verifier of the id of a signer is had, and accepts whatever the signer signs. -/
  accepts (level : KeyLevel) (signer : Signer)
    (had : ((engine.signer level).run session).1 = .ok signer) :
    ∃ verifier, ((engine.verifier signer.keyId).run session).1 = .ok verifier ∧
      ∀ {α : Type} [Wire α] (x : α), ∃ signature, signer.sign x = .ok signature ∧
        verifier.verify x signature = .ok ()

/-- A level among listed keys is a level among their public halves, and the last key is the last. -/
theorem getLast?_publicKeys (keys : List SecretKey) (level : KeyLevel) :
    ((keys.map (·.publicKey)).filter (·.level = level)).getLast? =
      (keys.filter (·.level = level)).getLast?.map (·.publicKey) := by
  rw [List.filter_map, List.getLast?_map]
  rfl

/-- They match as long as no member has two keys of one id. -/
theorem matches_of_distinct {session : Session} (distinct : session.keys.Distinct)
    (engine : Engine) : engine.Matches session
      ((session.keys.list session.now engine.memberId).map (·.publicKey)) where
  publicKeys_eq := engine.run_publicKeys session
  signs_iff level := by
    constructor
    · rintro ⟨signer, had⟩
      obtain ⟨key, found, rfl⟩ := run_signer_eq_ok_iff.1 had
      obtain ⟨held, own, unexpired⟩ := KeyStore.canSign_of_byLevel found
      exact ⟨key.publicKey, List.mem_map_of_mem (List.mem_filter.2 ⟨held, by simp [unexpired]⟩), own⟩
    · rintro ⟨key, held, own⟩
      obtain ⟨secret, listed, rfl⟩ := List.mem_map.1 held
      obtain ⟨mem, unexpired⟩ := List.mem_filter.1 listed
      obtain ⟨found, byLevel⟩ := KeyStore.exists_byLevel ⟨mem, own, by simpa using unexpired⟩
      exact ⟨_, run_signer_eq_ok_iff.2 ⟨found, byLevel, rfl⟩⟩
  signer_eq level signer had := by
    obtain ⟨key, found, rfl⟩ := run_signer_eq_ok_iff.1 had
    refine ⟨key, (KeyStore.canSign_of_byLevel found).held, rfl, ?_⟩
    rw [getLast?_publicKeys, KeyStore.byLevel_eq_ok_iff.1 found, Option.map_some]
  verifies_iff id := by
    constructor
    · rintro ⟨verifier, had⟩
      obtain ⟨key, found, rfl⟩ := run_verifier_eq_ok_iff.1 had
      obtain ⟨listed, own⟩ := distinct.byId_eq_ok_iff.1 found
      exact ⟨key.publicKey, List.mem_map_of_mem listed, own⟩
    · rintro ⟨key, held, own⟩
      obtain ⟨secret, listed, rfl⟩ := List.mem_map.1 held
      exact ⟨_, run_verifier_eq_ok_iff.2 ⟨secret, distinct.byId_eq_ok_iff.2 ⟨listed, own⟩, rfl⟩⟩
  accepts level signer had := by
    obtain ⟨key, found, rfl⟩ := run_signer_eq_ok_iff.1 had
    have able := KeyStore.canSign_of_byLevel found
    exact ⟨⟨key.pair.publicOctets⟩,
      run_verifier_eq_ok_iff.2 ⟨key, KeyStore.byId_of_canSign distinct able, rfl⟩,
      fun x => key.exists_verify_sign x⟩

end Engine

/-! ## Histories -/

/-- What happens in a session, as far as its keys are concerned. -/
inductive KeyEvent where
  /-- An engine makes a key of a level. -/
  | generate (engine : Engine) (level : KeyLevel)
  /-- An engine makes a key of a level that expires. -/
  | generateExpiring (engine : Engine) (level : KeyLevel) (limit : Int64)
  /-- A key is put into the store for a member. -/
  | put (memberId : String) (key : SecretKey)
  /-- The keys of a member are forgotten. -/
  | forget (memberId : String)
  /-- Anything else happens: time passes, calls are made, seeds come. -/
  | elsewhere (change : Session → Session)

namespace KeyEvent

/-- The session after an event, whether a key could be made or not. -/
def apply (session : Session) : KeyEvent → Session
  | generate engine level => ((engine.generate level).run session).2
  | generateExpiring engine level limit => ((engine.generateExpiring level limit).run session).2
  | put memberId key => { session with keys := session.keys.put memberId key }
  | forget memberId => { session with keys := session.keys.delete memberId }
  | elsewhere change => { change session with keys := session.keys }

/-- The session after a history, from one without keys on. -/
def after (start : Session) (history : List KeyEvent) : Session :=
  history.foldl apply { start with keys := .empty }

/-- A fresh key leaves the keys. -/
theorem keeps_keys_freshKey (level : KeyLevel) : Flow.Keeps (·.keys) (Session.freshKey level) := by
  intro session
  cases ahead : session.seeds with
  | nil => simp only [Flow.run, Session.freshKey, ahead]
  | cons seed later =>
    simp only [Flow.run, Session.freshKey, ahead]
    exact Flow.keeps_ofCrypto (SecretKey.ofSeed seed level) { session with seeds := later }

/-- Keeping a fresh key keeps ids distinct, also if there is none. -/
theorem distinct_run_keep {session : Session} (distinct : session.keys.Distinct) (engine : Engine)
    (level : KeyLevel) (adjust : SecretKey → SecretKey) :
    ((Session.freshKey level >>= fun key => engine.keep (adjust key)).run session).2.keys.Distinct := by
  have kept : ((Session.freshKey level).run session).2.keys = session.keys :=
    keeps_keys_freshKey level session
  rw [Flow.run_bind]
  generalize (Session.freshKey level).run session = ran at kept ⊢
  obtain ⟨result, later⟩ := ran
  have distinctToo : later.keys.Distinct := kept.symm ▸ distinct
  cases result with
  | error error => exact distinctToo
  | ok key => exact distinctToo.put engine.memberId (adjust key)

/-- Whatever happens, no member has two keys of one id. -/
theorem distinct_apply {session : Session} (distinct : session.keys.Distinct) (event : KeyEvent) :
    (apply session event).keys.Distinct := by
  cases event with
  | generate engine level => exact distinct_run_keep distinct engine level id
  | generateExpiring engine level limit =>
    exact distinct_run_keep distinct engine level (·.expiring limit)
  | put memberId key => exact distinct.put memberId key
  | forget memberId => exact distinct.delete memberId
  | elsewhere change => exact distinct

/-- After any history no member has two keys of one id. -/
theorem distinct_after (start : Session) (history : List KeyEvent) :
    (after start history).keys.Distinct := by
  have each (session : Session) (distinct : session.keys.Distinct) :
      (history.foldl apply session).keys.Distinct := by
    induction history generalizing session with
    | nil => exact distinct
    | cons event history ih => exact ih _ (distinct_apply distinct event)
  exact each _ KeyStore.distinct_empty

end KeyEvent

/-- Signers and verifiers always match, after any history of keys that engines made for any members,
of keys that were put or forgotten, and of whatever else leaves the keys. Whatever the clock says,
an engine tells its public keys, and has a signer of a level exactly if one of them is of the level,
which signs with the last of them. It has a verifier of an id exactly if one of them has the id, and
the verifier of the id of a signer accepts what the signer signs, whatever the value. -/
theorem Engine.signers_match_verifiers (start : Session) (history : List KeyEvent) (engine : Engine)
    (now : Int64) : ∃ keys, engine.Matches { KeyEvent.after start history with now } keys :=
  have distinct := KeyEvent.distinct_after start history
  ⟨_, @Engine.matches_of_distinct { KeyEvent.after start history with now } distinct engine⟩

end OpenBanking
