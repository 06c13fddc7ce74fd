import OpenBanking.Proofs.Keys.History
import OpenBanking.Proofs.Keys.Secret

/-!
# Fresh keys

A flow that makes keys keeps each of them at once, so what it adds to a store is settled by the
levels it asks for and the seeds ahead, and stays whatever becomes of the flow. Fresh keys go behind
the keys that are there: they sign at their levels from then on, and leave the signers of all other
levels.
-/

namespace OpenBanking

/-! ## Keys put together -/

namespace KeyStore

/-- Puts keys of a member, the first key first. -/
def putAll (store : KeyStore) (memberId : String) (keys : List SecretKey) : KeyStore :=
  keys.foldl (fun store key => store.put memberId key) store

/-- No keys leave the store. -/
@[simp]
theorem putAll_nil (store : KeyStore) (memberId : String) : store.putAll memberId [] = store := rfl

/-- The first key is put before the later ones. -/
@[simp]
theorem putAll_cons (store : KeyStore) (memberId : String) (key : SecretKey)
    (later : List SecretKey) :
    store.putAll memberId (key :: later) = (store.put memberId key).putAll memberId later := rfl

/-- The last key is put after those in front of it. -/
theorem putAll_concat (store : KeyStore) (memberId : String) (keys : List SecretKey)
    (key : SecretKey) :
    store.putAll memberId (keys ++ [key]) = (store.putAll memberId keys).put memberId key := by
  simp [putAll]

/-- The keys of the member for whom keys are put: those whose ids none of these has, then these. -/
theorem keysOf_putAll_self (store : KeyStore) (memberId : String) (keys : List SecretKey) :
    (store.putAll memberId keys).keysOf memberId =
      (store.keysOf memberId).filter (fun key => !keys.any (·.id = key.id)) ++ unreplaced keys := by
  -- From the end, since each put filters the keys that were put before it.
  induction keys using List.reverseRecOn with
  | nil => exact ((List.append_nil _).trans (List.filter_eq_self.2 fun _ _ => rfl)).symm
  | append_singleton keys key ih =>
    rw [putAll_concat, keysOf_put_self, ih, unreplaced_concat, List.filter_append,
      List.filter_filter, List.append_assoc]
    congr 1
    refine List.filter_congr fun old _ => ?_
    simp [Bool.and_comm, eq_comm]

/-- Other members keep their keys. -/
theorem keysOf_putAll_of_ne (store : KeyStore) {memberId other : String} (apart : memberId ≠ other)
    (keys : List SecretKey) : (store.putAll memberId keys).keysOf other = store.keysOf other := by
  induction keys generalizing store with
  | nil => rfl
  | cons key later ih => rw [putAll_cons, ih, keysOf_put_of_ne store apart]

/-- Only keys that were put are left of them. -/
theorem mem_of_mem_unreplaced {keys : List SecretKey} {key : SecretKey}
    (left : key ∈ unreplaced keys) : key ∈ keys := by
  induction keys with
  | nil => exact left
  | cons first later ih =>
    rw [unreplaced] at left
    split at left
    · exact List.mem_cons_of_mem _ (ih left)
    · rcases List.mem_cons.1 left with rfl | left
      · exact List.mem_cons_self
      · exact List.mem_cons_of_mem _ (ih left)

/-- Keys of different ids replace none of each other. -/
theorem unreplaced_eq_self {keys : List SecretKey} (distinct : (keys.map (·.id)).Nodup) :
    unreplaced keys = keys := by
  induction keys with
  | nil => rfl
  | cons key later ih =>
    rw [List.map_cons, List.nodup_cons, List.mem_map] at distinct
    rw [unreplaced, if_neg (by simpa using distinct.1), ih distinct.2]

variable {store : KeyStore} {memberId : String} {level : KeyLevel} {keys : List SecretKey}

/-- The last key of a level that has not expired, of those whose ids none of some other keys has. -/
def newest? (store : KeyStore) (now : Int64) (memberId : String) (level : KeyLevel)
    (others : List SecretKey) : Option SecretKey :=
  (((store.keysOf memberId).filter fun key => !others.any (·.id = key.id)).filter fun key =>
    key.level = level && !key.isExpired now).getLast?

/-- A newest key can sign. -/
theorem canSign_of_newest? {now : Int64} {others : List SecretKey} {key : SecretKey}
    (found : store.newest? now memberId level others = some key) :
    store.CanSign now memberId level key := by
  obtain ⟨kept, fits⟩ := List.mem_filter.1 (List.mem_of_getLast? found)
  simp only [Bool.and_eq_true, decide_eq_true_eq, Bool.not_eq_true'] at fits
  exact ⟨(List.mem_filter.1 kept).1, fits.1, fits.2⟩

/-- A key is found at a level among the keys that were put, or else among those that were there. -/
theorem byLevel_putAll (store : KeyStore) (memberId : String) (keys : List SecretKey) (now : Int64)
    (level : KeyLevel) :
    (store.putAll memberId keys).byLevel now memberId level =
      (((unreplaced keys).filter fun key => key.level = level && !key.isExpired now).getLast?.or
        (store.newest? now memberId level keys)).elim (.error (.noKey level memberId)) .ok := by
  rw [byLevel_eq_getLast?, list, keysOf_putAll_self, List.filter_filter, List.filter_append,
    List.getLast?_append, newest?]

/-- Keys of other levels leave the newest key of a level whose id none of them has. -/
theorem byLevel_putAll_of_unmade (unmade : ∀ key ∈ keys, key.level ≠ level) (now : Int64) :
    (store.putAll memberId keys).byLevel now memberId level =
      (store.newest? now memberId level keys).elim (.error (.noKey level memberId)) .ok := by
  have none : (unreplaced keys).filter (fun key => key.level = level && !key.isExpired now) = [] := by
    rw [List.filter_eq_nil_iff]
    intro key left
    simp [unmade key (mem_of_mem_unreplaced left)]
  rw [byLevel_putAll, none, List.getLast?_nil, Option.none_or]

/-- So a key that is then found at the level is the newest one. -/
theorem newest?_of_byLevel_putAll (unmade : ∀ key ∈ keys, key.level ≠ level) {now : Int64}
    {key : SecretKey} (found : (store.putAll memberId keys).byLevel now memberId level = .ok key) :
    store.newest? now memberId level keys = some key := by
  rw [byLevel_putAll_of_unmade unmade] at found
  cases newest : store.newest? now memberId level keys with
  | none =>
    rw [newest] at found
    cases found
  | some other =>
    rw [newest] at found
    cases found
    rfl

/-- If none of them has the id of a key of the level, they leave the key that is found. -/
theorem byLevel_putAll_of_apart (unmade : ∀ key ∈ keys, key.level ≠ level)
    (apart : ∀ old ∈ store.keysOf memberId, old.level = level → ∀ key ∈ keys, key.id ≠ old.id)
    (now : Int64) :
    (store.putAll memberId keys).byLevel now memberId level = store.byLevel now memberId level := by
  rw [byLevel_putAll_of_unmade unmade, byLevel_eq_getLast?, list, newest?, List.filter_filter,
    List.filter_filter]
  congr 2
  refine List.filter_congr fun old held => ?_
  by_cases fits : old.level = level
  · have kept : keys.any (·.id = old.id) = false := by
      simpa using apart old held fits
    simp [kept]
  · simp [fits]

/-- Of keys with different ids, the only one of a level is found from then on. -/
theorem byLevel_putAll_of_mem (distinct : (keys.map (·.id)).Nodup)
    (single : (keys.map (·.level)).Nodup) {key : SecretKey} (made : key ∈ keys) {now : Int64}
    (unexpired : key.isExpired now = false) :
    (store.putAll memberId keys).byLevel now memberId key.level = .ok key := by
  have fits : key ∈ keys.filter fun other => other.level = key.level && !other.isExpired now :=
    List.mem_filter.2 ⟨made, by simp [unexpired]⟩
  -- The last key that fits is of the level of this key, and no other one is.
  obtain ⟨last, found⟩ := Option.isSome_iff_exists.1
    (List.getLast?_isSome.2 (List.ne_nil_of_mem fits))
  have same : last = key := by
    obtain ⟨mem, able⟩ := List.mem_filter.1 (List.mem_of_getLast? found)
    simp only [Bool.and_eq_true, decide_eq_true_eq] at able
    exact Json.eq_of_nodup_map single mem made able.1
  rw [byLevel_putAll, unreplaced_eq_self distinct, found, same]
  rfl

/-- A key of a seed is found at its level once it is put. -/
theorem byLevel_put_of_ofSeed {seed : String} {key : SecretKey}
    (made : SecretKey.ofSeed seed level = .ok key) (store : KeyStore) (memberId : String)
    (now : Int64) : (store.put memberId key).byLevel now memberId level = .ok key := by
  obtain ⟨_, level_eq, lasting⟩ := SecretKey.of_ofSeed made
  have found : (store.putAll memberId [key]).byLevel now memberId key.level = .ok key :=
    byLevel_putAll_of_mem (by simp) (by simp) (List.mem_singleton_self key)
      (SecretKey.isExpired_of_eq_none lasting now)
  rwa [level_eq] at found

end KeyStore

/-! ## Keys of seeds -/

namespace SecretKey

/-- The keys that seeds make at levels, up to the first seed that makes none. -/
def ofSeeds : List KeyLevel → List String → List SecretKey
  | level :: levels, seed :: seeds =>
    match ofSeed seed level with
    | .ok key => key :: ofSeeds levels seeds
    | .error _ => []
  | _, _ => []

/-- At no level no key is made. -/
@[simp]
theorem ofSeeds_nil (seeds : List String) : ofSeeds [] seeds = [] := rfl

/-- The key of the first seed comes before those of the later seeds. -/
theorem ofSeeds_cons_of_ok {seed : String} {level : KeyLevel} {key : SecretKey}
    (made : ofSeed seed level = .ok key) (levels : List KeyLevel) (seeds : List String) :
    ofSeeds (level :: levels) (seed :: seeds) = key :: ofSeeds levels seeds := by
  rw [ofSeeds, made]

/-- A first seed that makes no key ends what the seeds make. -/
theorem ofSeeds_cons_of_error {seed : String} {level : KeyLevel} {error : CryptoError}
    (failed : ofSeed seed level = .error error) (levels : List KeyLevel) (seeds : List String) :
    ofSeeds (level :: levels) (seed :: seeds) = [] := by
  rw [ofSeeds, failed]

/-- A first key of seeds is the one of the first seed. -/
theorem exists_of_ofSeeds_eq_cons {level : KeyLevel} {levels : List KeyLevel} {seeds : List String}
    {key : SecretKey} {later : List SecretKey}
    (made : ofSeeds (level :: levels) seeds = key :: later) :
    ∃ seed rest, seeds = seed :: rest ∧ ofSeed seed level = .ok key ∧
      ofSeeds levels rest = later := by
  cases seeds with
  | nil => cases made
  | cons seed rest =>
    cases first : ofSeed seed level with
    | error error =>
      rw [ofSeeds_cons_of_error first] at made
      cases made
    | ok other =>
      rw [ofSeeds_cons_of_ok first] at made
      cases made
      exact ⟨seed, rest, rfl, first, rfl⟩

/-- The levels of the keys of seeds are the first ones asked for. -/
theorem isPrefix_levels_ofSeeds (levels : List KeyLevel) (seeds : List String) :
    (ofSeeds levels seeds).map (·.level) <+: levels := by
  induction levels generalizing seeds with
  | nil => exact List.prefix_refl []
  | cons level levels ih =>
    cases seeds with
    | nil => exact List.nil_prefix
    | cons seed seeds =>
      cases made : ofSeed seed level with
      | ok key =>
        rw [ofSeeds_cons_of_ok made, List.map_cons, (of_ofSeed made).2.1]
        exact (List.prefix_cons_inj level).2 (ih seeds)
      | error error =>
        rw [ofSeeds_cons_of_error made]
        exact List.nil_prefix

/-- A key of seeds is of a level asked for. -/
theorem level_mem_of_mem_ofSeeds {levels : List KeyLevel} {seeds : List String} {key : SecretKey}
    (made : key ∈ ofSeeds levels seeds) : key.level ∈ levels :=
  (isPrefix_levels_ofSeeds levels seeds).subset (List.mem_map_of_mem made)

/-- Keys of seeds do not expire. -/
theorem isExpired_of_mem_ofSeeds {levels : List KeyLevel} {seeds : List String} {key : SecretKey}
    (made : key ∈ ofSeeds levels seeds) (now : Int64) : key.isExpired now = false := by
  fun_induction ofSeeds levels seeds with
  | case1 level levels seed seeds first first_eq ih =>
    rcases List.mem_cons.1 made with rfl | later
    · exact isExpired_of_eq_none (of_ofSeed first_eq).2.2 now
    · exact ih later
  | case2 | case3 => cases made

end SecretKey

/-- Of keys of seeds with different ids, at most one of each level, each is found at its level. -/
theorem KeyStore.byLevel_putAll_ofSeeds {levels : List KeyLevel} {seeds : List String}
    (distinct : ((SecretKey.ofSeeds levels seeds).map (·.id)).Nodup) (single : levels.Nodup)
    {key : SecretKey} (made : key ∈ SecretKey.ofSeeds levels seeds) (store : KeyStore)
    (memberId : String) (now : Int64) :
    (store.putAll memberId (SecretKey.ofSeeds levels seeds)).byLevel now memberId key.level =
      .ok key :=
  byLevel_putAll_of_mem distinct
    (single.sublist (SecretKey.isPrefix_levels_ofSeeds levels seeds).sublist) made
    (SecretKey.isExpired_of_mem_ofSeeds made now)

/-! ## Flows that make keys -/

namespace Session

/-- Asking leaves what answers leave. -/
theorem keeps_exchange {α β τ : Type} [Json.Wire α] [Json.Wire β] {part : Session → τ}
    (leaves : ∀ session call, part (answered session call) = part session) (method : Method)
    (headers : Headers) (x : α) : Flow.Keeps part (exchange method headers x : Flow Session β) := by
  intro session
  cases opened : session.channel.closed with
  | true => rw [run_exchange_of_closed opened]
  | false =>
    rw [run_exchange_of_open opened]
    exact leaves session _

/-- Asking leaves the keys. -/
theorem keeps_keys_exchange {α β : Type} [Json.Wire α] [Json.Wire β] (method : Method)
    (headers : Headers) (x : α) :
    Flow.Keeps (·.keys) (exchange method headers x : Flow Session β) :=
  keeps_exchange answered_keys method headers x

/-- Logging leaves the keys. -/
theorem keeps_keys_emit (event : Event) : Flow.Keeps (·.keys) (emit event) := fun _ => rfl

end Session

namespace Engine

variable {engine : Engine} {α β : Type}

/-- The next seed makes a key of a level, which is kept at once, or there is none and the keys stay.
-/
theorem run_generate_cases (engine : Engine) (level : KeyLevel) (session : Session) :
    (∃ seed seeds key, session.seeds = seed :: seeds ∧ SecretKey.ofSeed seed level = .ok key ∧
      (engine.generate level).run session = (.ok key.publicKey,
        { session with seeds, keys := session.keys.put engine.memberId key })) ∨
    ∃ error later, (engine.generate level).run session = (.error error, later) ∧
      later.keys = session.keys ∧ ∀ levels, SecretKey.ofSeeds (level :: levels) session.seeds = [] := by
  cases ahead : session.seeds with
  | nil =>
    have spent : (Session.freshKey level).run session = (.error (.crypto .seedsSpent), session) := by
      simp only [Flow.run, Session.freshKey, ahead]
    exact .inr ⟨_, session, Flow.run_bind_of_error spent _, rfl, fun _ => rfl⟩
  | cons seed seeds =>
    cases made : SecretKey.ofSeed seed level with
    | ok key => exact .inl ⟨seed, seeds, key, rfl, made, run_generate_of_ofSeed ahead made⟩
    | error error =>
      have none : (Session.freshKey level).run session =
          (.error (.crypto error), { session with seeds }) := by
        simp only [Flow.run, Session.freshKey, ahead, made]
        rfl
      exact .inr ⟨_, _, Flow.run_bind_of_error none _, rfl, fun levels =>
        SecretKey.ofSeeds_cons_of_error made levels seeds⟩

/-- A key that is had from an engine is the one of the next seed. -/
theorem of_run_generate_ok {level : KeyLevel} {session later : Session} {made : Key}
    (gave : (engine.generate level).run session = (.ok made, later)) :
    ∃ seed seeds key, session.seeds = seed :: seeds ∧ SecretKey.ofSeed seed level = .ok key ∧
      made = key.publicKey ∧
      later = { session with seeds, keys := session.keys.put engine.memberId key } := by
  rcases run_generate_cases engine level session with
    ⟨seed, seeds, key, ahead, ofSeed, ran⟩ | ⟨error, _, ran, _⟩
  · rw [ran] at gave
    cases gave
    exact ⟨seed, seeds, key, ahead, ofSeed, rfl, rfl⟩
  · rw [ran] at gave
    cases gave

/-- However a flow ends, it has put the keys that the seeds make at levels, and has left the keys
otherwise. -/
def Makes (engine : Engine) (levels : List KeyLevel) (flow : Flow Session α) : Prop :=
  ∀ session : Session, (flow.run session).2.keys =
    session.keys.putAll engine.memberId (SecretKey.ofSeeds levels session.seeds)

/-- What leaves the keys makes none. -/
theorem makes_nil {flow : Flow Session α} (keeps : flow.Keeps (·.keys)) : engine.Makes [] flow := by
  intro session
  rw [SecretKey.ofSeeds_nil, KeyStore.putAll_nil]
  exact keeps session

/-- A flow that first makes one more key asks for its level first. -/
theorem Makes.generate {level : KeyLevel} {levels : List KeyLevel} {next : Key → Flow Session β}
    (later : ∀ key, engine.Makes levels (next key)) :
    engine.Makes (level :: levels) (engine.generate level >>= next) := by
  intro session
  rcases run_generate_cases engine level session with
    ⟨seed, seeds, key, ahead, made, gave⟩ | ⟨error, failed, gave, same, none⟩
  · rw [Flow.run_bind_of_ok gave, later, ahead, SecretKey.ofSeeds_cons_of_ok made,
      KeyStore.putAll_cons]
  · rw [Flow.run_bind_of_error gave, same, none, KeyStore.putAll_nil]

/-! ## Signers afterwards -/

/-- The signer of a level, when the clock says a time. -/
def signerAt (engine : Engine) (level : KeyLevel) (now : Int64) (session : Session) :
    Except ClientError Signer :=
  ((engine.signer level).run { session with now }).1

/-- The signer is the one of the key that is found, or none for the same reason. -/
theorem signerAt_eq (engine : Engine) (level : KeyLevel) (now : Int64) (session : Session) :
    engine.signerAt level now session =
      match session.keys.byLevel now engine.memberId level with
      | .ok key => .ok (.ofSecret key)
      | .error error => .error (.crypto error) := by
  cases found : session.keys.byLevel now engine.memberId level with
  | ok key =>
    have ran : (engine.signer level).run { session with now } = (.ok (.ofSecret key), _) :=
      run_signer_of_byLevel found
    rw [signerAt, ran]
  | error error =>
    have ran : (engine.signer level).run { session with now } = (.error (.crypto error), _) :=
      run_signer_of_error found
    rw [signerAt, ran]

/-- Finding a signer leaves the keys. -/
theorem keeps_keys_signer (engine : Engine) (level : KeyLevel) :
    (engine.signer level).Keeps (·.keys) := by
  refine (Flow.keeps_read _).bind fun found => ?_
  exact (Flow.keeps_ofCrypto found).bind fun key => Flow.keeps_pure _

/-- After a flow that asked for keys of levels, the keys that the seeds made for it sign at their
levels, and all other signers are as they were. -/
structure SignsBeside (engine : Engine) (levels : List KeyLevel) (session later : Session) : Prop where
  /-- Keys were made of the first of the levels. -/
  isPrefix_levels : (SecretKey.ofSeeds levels session.seeds).map (·.level) <+: levels
  /-- They were put among the keys of the member, and nothing else was changed there. -/
  keys_eq : later.keys =
    session.keys.putAll engine.memberId (SecretKey.ofSeeds levels session.seeds)
  /-- A level of none of them has the signer that it had, or has none for the same reason, unless
  one of them replaced a key of the level. -/
  signerAt_of_unmade (level : KeyLevel) (now : Int64)
    (unmade : ∀ key ∈ SecretKey.ofSeeds levels session.seeds, key.level ≠ level)
    (apart : ∀ old ∈ session.keys.keysOf engine.memberId, old.level = level →
      ∀ key ∈ SecretKey.ofSeeds levels session.seeds, key.id ≠ old.id) :
    engine.signerAt level now later = engine.signerAt level now session
  /-- The level of one of them has this key as its signer, unless two of them have one id. -/
  signerAt_of_made (now : Int64)
    (distinct : ((SecretKey.ofSeeds levels session.seeds).map (·.id)).Nodup) {key : SecretKey}
    (made : key ∈ SecretKey.ofSeeds levels session.seeds) :
    engine.signerAt key.level now later = .ok (.ofSecret key)
  /-- Other members have the signers that they had. -/
  signerAt_of_ne (other : Engine) (apart : engine.memberId ≠ other.memberId) (level : KeyLevel)
    (now : Int64) : other.signerAt level now later = other.signerAt level now session

/-- However a flow ends that asks for at most one key of each level, these sign from then on. -/
theorem Makes.signsBeside {levels : List KeyLevel} {flow : Flow Session α}
    (makes : engine.Makes levels flow) (single : levels.Nodup) (session : Session) :
    engine.SignsBeside levels session (flow.run session).2 where
  isPrefix_levels := SecretKey.isPrefix_levels_ofSeeds levels session.seeds
  keys_eq := makes session
  signerAt_of_unmade level now unmade apart := by
    rw [signerAt_eq, signerAt_eq, makes, KeyStore.byLevel_putAll_of_apart unmade apart]
  signerAt_of_made now distinct key made := by
    rw [signerAt_eq, makes, KeyStore.byLevel_putAll_ofSeeds distinct single made]
  signerAt_of_ne other apart level now := by
    rw [signerAt_eq, signerAt_eq, makes, KeyStore.byLevel, KeyStore.byLevel,
      KeyStore.keysOf_putAll_of_ne _ apart]

end Engine

end OpenBanking
