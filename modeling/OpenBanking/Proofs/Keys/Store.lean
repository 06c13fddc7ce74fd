import OpenBanking.Keys.Engine
import OpenBanking.Proofs.Session

/-!
# Keys found

A store finds a key of a level exactly if the member has one that has not expired, and says so
otherwise. Within a store that was filled by puts no member has two keys of one id, so the id of a
key leads back to that key.
-/

namespace OpenBanking

namespace KeyStore

variable (store : KeyStore) (now : Int64) (memberId : String)

/-- A key that can sign for a member at a level now. -/
structure CanSign (level : KeyLevel) (key : SecretKey) : Prop where
  /-- It is a key of the member. -/
  held : key ∈ store.keysOf memberId
  /-- It is of the level. -/
  level_eq : key.level = level
  /-- It has not expired. -/
  unexpired : key.isExpired now = false

variable {store now memberId}

/-- The key that is found can sign. -/
theorem canSign_of_byLevel {level : KeyLevel} {key : SecretKey}
    (found : store.byLevel now memberId level = .ok key) :
    store.CanSign now memberId level key := by
  unfold byLevel at found
  split at found
  next first first_eq =>
    cases found
    have fits := List.find?_some first_eq
    simp only [Bool.and_eq_true, decide_eq_true_eq, Bool.not_eq_true'] at fits
    have held := List.mem_reverse.1 (List.mem_of_find?_eq_some first_eq)
    exact ⟨held, fits.1, fits.2⟩
  next => cases found

/-- A key is found if some key can sign. -/
theorem exists_byLevel {level : KeyLevel} {key : SecretKey}
    (able : store.CanSign now memberId level key) :
    ∃ found, store.byLevel now memberId level = .ok found := by
  unfold byLevel
  split
  next first _ => exact ⟨first, rfl⟩
  next missing =>
    have unfit := List.find?_eq_none.1 missing key (List.mem_reverse.2 able.held)
    simp [able.level_eq, able.unexpired] at unfit

/-- Where no key can sign the answer names the level and the member. -/
theorem byLevel_of_forall_not {level : KeyLevel}
    (unable : ∀ key, ¬store.CanSign now memberId level key) :
    store.byLevel now memberId level = .error (.noKey level memberId) := by
  cases found : store.byLevel now memberId level with
  | ok key => exact absurd (canSign_of_byLevel found) (unable key)
  | error error =>
    unfold byLevel at found
    split at found
    · cases found
    · cases found
      rfl

/-! ## Keys by id -/

/-- No member has two keys of one id. -/
def Distinct (store : KeyStore) : Prop :=
  ∀ memberId, ((store.keysOf memberId).map (·.id)).Nodup

/-- An empty store has no keys at all. -/
theorem distinct_empty : empty.Distinct := by
  intro memberId
  exact List.nodup_nil

/-- The keys of the member for whom a key is put: the others, then that key. -/
theorem keysOf_put_self (store : KeyStore) (memberId : String) (key : SecretKey) :
    (store.put memberId key).keysOf memberId =
      (store.keysOf memberId).filter (fun other => !decide (other.id = key.id)) ++ [key] := by
  simp only [keysOf, put, List.filter_append, List.map_append, List.filter_filter,
    List.filter_map, Function.comp_def]
  congr 2
  · refine List.filter_congr fun entry _ => ?_
    by_cases own : entry.1 = memberId <;> simp [own]
  · simp

/-- A key that was put is a key of its member. -/
theorem mem_keysOf_put (store : KeyStore) (memberId : String) (key : SecretKey) :
    key ∈ (store.put memberId key).keysOf memberId := by
  rw [keysOf_put_self]
  exact List.mem_append_right _ List.mem_cons_self

/-- A put leaves the keys of other ids. -/
theorem mem_keysOf_put_of_ne {store : KeyStore} {memberId : String} {key other : SecretKey}
    (held : other ∈ store.keysOf memberId) (apart : other.id ≠ key.id) :
    other ∈ (store.put memberId key).keysOf memberId := by
  rw [keysOf_put_self]
  exact List.mem_append_left _ (List.mem_filter.2 ⟨held, by simpa using apart⟩)

/-- A put changes the keys of no other member. -/
theorem keysOf_put_of_ne (store : KeyStore) {memberId other : String} (apart : memberId ≠ other)
    (key : SecretKey) : (store.put memberId key).keysOf other = store.keysOf other := by
  simp only [keysOf, put, List.filter_append, List.map_append, List.filter_filter]
  have foreign : [(memberId, key)].filter (fun entry => decide (entry.1 = other)) = [] := by
    simp [apart]
  rw [foreign, List.map_nil, List.append_nil]
  refine congrArg _ (List.filter_congr fun entry _ => ?_)
  by_cases own : entry.1 = other
  · simp [own, Ne.symm apart]
  · simp [own]

/-- A put keeps ids distinct, since it replaces a key of the same id. -/
theorem Distinct.put {store : KeyStore} (distinct : store.Distinct) (memberId : String)
    (key : SecretKey) : (store.put memberId key).Distinct := by
  intro other
  by_cases own : memberId = other
  · subst own
    rw [keysOf_put_self, List.map_append, List.nodup_append]
    refine ⟨(distinct memberId).sublist (List.filter_sublist.map _), by simp, ?_⟩
    intro id older _ newest same
    obtain ⟨kept, held, rfl⟩ := List.mem_map.1 older
    have replaced := (List.mem_filter.1 held).2
    simp only [List.map_cons, List.map_nil, List.mem_singleton] at newest
    simp [← newest, same] at replaced
  · rw [keysOf_put_of_ne store own]
    exact distinct other

/-- Forgetting keys keeps ids distinct. -/
theorem Distinct.delete {store : KeyStore} (distinct : store.Distinct) (memberId : String) :
    (store.delete memberId).Distinct := by
  intro other
  refine (distinct other).sublist (List.Sublist.map _ (List.Sublist.map _ ?_))
  exact List.filter_sublist.filter _

/-- Among distinct ids, the first key with the id of a key is this key. -/
theorem find?_id_eq_some (distinct : store.Distinct) {key : SecretKey}
    (held : key ∈ store.keysOf memberId) :
    (store.keysOf memberId).find? (·.id = key.id) = some key := by
  cases found : (store.keysOf memberId).find? (·.id = key.id) with
  | none =>
    have other := List.find?_eq_none.1 found key held
    simp at other
  | some first =>
    have sameId : first.id = key.id := by simpa using List.find?_some found
    have same := Json.eq_of_nodup_map (distinct memberId) (List.mem_of_find?_eq_some found) held
      sameId
    rw [same]

/-- Among distinct ids, the id of a key that can sign leads back to the key. -/
theorem byId_of_canSign (distinct : store.Distinct) {level : KeyLevel} {key : SecretKey}
    (able : store.CanSign now memberId level key) : store.byId now memberId key.id = .ok key := by
  simp [byId, find?_id_eq_some distinct able.held, able.unexpired]

end KeyStore

namespace Engine

/-- The signer of a level is the one of the key that is found. -/
theorem run_signer_of_byLevel {engine : Engine} {level : KeyLevel} {session : Session}
    {key : SecretKey}
    (found : session.keys.byLevel session.now engine.memberId level = .ok key) :
    (engine.signer level).run session = (.ok (.ofSecret key), session) := by
  refine (Flow.run_bind_of_ok (Flow.run_read _ session) _).trans ?_
  rw [found]
  rfl

/-- Without a key there is no signer. -/
theorem run_signer_of_error {engine : Engine} {level : KeyLevel} {session : Session}
    {error : CryptoError}
    (missing : session.keys.byLevel session.now engine.memberId level = .error error) :
    (engine.signer level).run session = (.error (.crypto error), session) := by
  refine (Flow.run_bind_of_ok (Flow.run_read _ session) _).trans ?_
  rw [missing]
  rfl

/-- A signer is the one of a key that is found, and finding it changes nothing. -/
theorem byLevel_of_run_signer {engine : Engine} {level : KeyLevel} {session later : Session}
    {signer : Signer} (gave : (engine.signer level).run session = (.ok signer, later)) :
    later = session ∧ ∃ key, session.keys.byLevel session.now engine.memberId level = .ok key ∧
      signer = .ofSecret key := by
  cases found : session.keys.byLevel session.now engine.memberId level with
  | error error =>
    rw [run_signer_of_error found] at gave
    cases gave
  | ok key =>
    rw [run_signer_of_byLevel found] at gave
    cases gave
    exact ⟨rfl, key, rfl, rfl⟩

/-- Finding a signer sends nothing. -/
theorem silent_signer (engine : Engine) (level : KeyLevel) :
    Session.Silent (engine.signer level) := by
  refine (Session.silent_read _).bind fun found => ?_
  exact (Session.silent_ofCrypto found).bind fun key => Session.silent_pure _

/-- A key is made of the first seed, and put among the keys of the member. -/
theorem run_generate_of_ofSeed {engine : Engine} {level : KeyLevel} {session : Session}
    {seed : String} {later : List String} (seeds : session.seeds = seed :: later) {key : SecretKey}
    (made : SecretKey.ofSeed seed level = .ok key) :
    (engine.generate level).run session =
      (.ok key.publicKey,
        { session with seeds := later, keys := session.keys.put engine.memberId key }) := by
  have fresh : (Session.freshKey level).run session = (.ok key, { session with seeds := later }) := by
    simp only [Flow.run, Session.freshKey, seeds, made]
    rfl
  rw [generate, Flow.run_bind_of_ok fresh]
  rfl

/-- Making a key sends nothing. -/
theorem silent_generate (engine : Engine) (level : KeyLevel) :
    Session.Silent (engine.generate level) := by
  refine (Session.silent_freshKey level).bind fun key => ?_
  exact Session.Silent.bind (fun _ => ⟨rfl, rfl, rfl⟩) fun _ => Session.silent_pure _

end Engine

end OpenBanking
