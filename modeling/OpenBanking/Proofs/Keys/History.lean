import Mathlib.Data.List.Induction
import OpenBanking.Proofs.Keys.Store

/-!
# What a store remembers

A store is what puts and deletions have made of an empty one. About each member it remembers the
keys that were put since its keys were last deleted, without those that a later key of the same id
has replaced, in the order in which they were put. All answers follow from these keys and the time
of the question, and what happens to one member concerns no other.
-/

namespace OpenBanking

/-- A key has expired once the time has reached its limit. -/
theorem SecretKey.isExpired_eq_any (key : SecretKey) (now : Int64) :
    key.isExpired now = key.expiresAt.any (· ≤ now) := by
  unfold isExpired
  cases key.expiresAt <;> rfl

namespace KeyStore

/-! ## Keys put one after another -/

/-- The keys that no later key of the same id replaces. -/
def unreplaced : List SecretKey → List SecretKey
  | [] => []
  | key :: later =>
    if ∃ other ∈ later, other.id = key.id then unreplaced later else key :: unreplaced later

/-- One more key takes the place of the key of its id. -/
theorem unreplaced_concat (keys : List SecretKey) (key : SecretKey) :
    unreplaced (keys ++ [key]) =
      (unreplaced keys).filter (fun other => !decide (other.id = key.id)) ++ [key] := by
  induction keys with
  | nil => rfl
  | cons first keys ih =>
    rw [List.cons_append, unreplaced, unreplaced, ih]
    by_cases again : ∃ other ∈ keys, other.id = first.id
    · have still : ∃ other ∈ keys ++ [key], other.id = first.id := by
        obtain ⟨other, later, same⟩ := again
        exact ⟨other, List.mem_append_left _ later, same⟩
      rw [if_pos again, if_pos still]
    · rw [if_neg again]
      by_cases own : first.id = key.id
      · have now : ∃ other ∈ keys ++ [key], other.id = first.id := ⟨key, by simp, own.symm⟩
        rw [if_pos now, List.filter_cons_of_neg (by simpa using own)]
      · have never : ¬∃ other ∈ keys ++ [key], other.id = first.id := by
          rintro ⟨other, later, same⟩
          rcases List.mem_append.1 later with earlier | last
          · exact again ⟨other, earlier, same⟩
          · rw [List.mem_singleton.1 last] at same
            exact own same.symm
        rw [if_neg never, List.filter_cons_of_pos (by simpa using own), List.cons_append]

/-! ## Histories -/

/-- What can be done to a store. -/
inductive Change where
  /-- A key is put for a member. -/
  | put (memberId : String) (key : SecretKey)
  /-- The keys of a member are deleted. -/
  | delete (memberId : String)

namespace Change

/-- Whom a change is about. -/
def memberId : Change → String
  | put memberId _ => memberId
  | delete memberId => memberId

/-- The change deletes the keys of a member. -/
def deletes (id : String) : Change → Bool
  | put _ _ => false
  | delete memberId => memberId = id

/-- The key that the change puts for a member. -/
def keyFor? (id : String) : Change → Option SecretKey
  | put memberId key => if memberId = id then some key else none
  | delete _ => none

/-- The store after a change. -/
def apply (store : KeyStore) : Change → KeyStore
  | put memberId key => store.put memberId key
  | delete memberId => store.delete memberId

/-- The keys of the member of a change after it. -/
def keysAfter (keys : List SecretKey) : Change → List SecretKey
  | put _ key => keys.filter (fun other => !decide (other.id = key.id)) ++ [key]
  | delete _ => []

end Change

/-- The store after changes of an empty one, the first change first. -/
def ofHistory (history : List Change) : KeyStore := history.foldl Change.apply empty

/-- The changes since the keys of a member were last deleted. -/
def sinceDeletion (memberId : String) (history : List Change) : List Change :=
  (history.reverse.takeWhile fun change => !change.deletes memberId).reverse

/-- What a store remembers of a member: the keys put since its keys were last deleted, each id once
with its last key, in the order of these puts. -/
def remembered (memberId : String) (history : List Change) : List SecretKey :=
  unreplaced ((sinceDeletion memberId history).filterMap (·.keyFor? memberId))

/-- What is remembered of a member follows each change of it. -/
theorem remembered_concat_self (history : List Change) (change : Change) :
    remembered change.memberId (history ++ [change]) =
      change.keysAfter (remembered change.memberId history) := by
  cases change with
  | put id key =>
    have later : sinceDeletion id (history ++ [.put id key]) =
        sinceDeletion id history ++ [.put id key] := by
      simp [sinceDeletion, Change.deletes]
    have last : [Change.put id key].filterMap (·.keyFor? id) = [key] := by
      simp [Change.keyFor?]
    rw [Change.memberId, remembered, later, List.filterMap_append, last, unreplaced_concat]
    rfl
  | delete id =>
    have nothing : sinceDeletion id (history ++ [.delete id]) = [] := by
      simp [sinceDeletion, Change.deletes]
    rw [Change.memberId, remembered, nothing]
    rfl

/-- It does not follow a change of another member. -/
theorem remembered_concat_of_ne {change : Change} {memberId : String}
    (other : change.memberId ≠ memberId) (history : List Change) :
    remembered memberId (history ++ [change]) = remembered memberId history := by
  have kept : change.deletes memberId = false := by
    cases change with
    | put _ _ => rfl
    | delete id => simpa [Change.deletes, Change.memberId] using other
  have foreign : change.keyFor? memberId = none := by
    cases change with
    | put id key => simpa [Change.keyFor?, Change.memberId] using other
    | delete _ => rfl
  have later : sinceDeletion memberId (history ++ [change]) =
      sinceDeletion memberId history ++ [change] := by
    simp [sinceDeletion, kept]
  simp [remembered, later, foreign]

/-- Nor does it depend on whether other members were changed before. -/
theorem remembered_filter (memberId : String) (history : List Change) :
    remembered memberId (history.filter (·.memberId = memberId)) = remembered memberId history := by
  induction history using List.reverseRecOn with
  | nil => rfl
  | append_singleton history change ih =>
    rw [List.filter_append]
    by_cases own : change.memberId = memberId
    · subst own
      rw [List.filter_cons_of_pos (by simp), List.filter_nil, remembered_concat_self, ih,
        remembered_concat_self]
    · rw [List.filter_cons_of_neg (by simpa using own), List.filter_nil, List.append_nil, ih,
        remembered_concat_of_ne own]

/-! ## The keys of a store -/

/-- A change makes of the keys of its member what it makes of any keys. -/
theorem keysOf_apply_self (store : KeyStore) (change : Change) :
    (change.apply store).keysOf change.memberId =
      change.keysAfter (store.keysOf change.memberId) := by
  cases change with
  | put id key => exact keysOf_put_self store id key
  | delete id =>
    have gone : (store.delete id).entries.filter (·.1 = id) = [] := by
      rw [List.filter_eq_nil_iff]
      intro entry held
      simpa using (List.mem_filter.1 held).2
    exact congrArg (List.map Prod.snd) gone

/-- It leaves the keys of other members. -/
theorem keysOf_apply_of_ne (store : KeyStore) {change : Change} {memberId : String}
    (other : change.memberId ≠ memberId) :
    (change.apply store).keysOf memberId = store.keysOf memberId := by
  cases change with
  | put _ key => exact store.keysOf_put_of_ne other key
  | delete id =>
    have apart : id ≠ memberId := other
    simp only [Change.apply, keysOf, delete, List.filter_filter]
    refine congrArg _ (List.filter_congr fun entry _ => ?_)
    by_cases own : entry.1 = memberId
    · simp [own, Ne.symm apart]
    · simp [own]

/-- After one more change the store is the changed one. -/
theorem ofHistory_concat (history : List Change) (change : Change) :
    ofHistory (history ++ [change]) = change.apply (ofHistory history) := by
  simp [ofHistory]

/-- The keys of a member are those that its history leaves. -/
theorem keysOf_ofHistory (memberId : String) (history : List Change) :
    (ofHistory history).keysOf memberId = remembered memberId history := by
  -- From the end: the last change is the one that both sides have just followed.
  induction history using List.reverseRecOn with
  | nil => rfl
  | append_singleton history change ih =>
    rw [ofHistory_concat]
    by_cases own : change.memberId = memberId
    · subst own
      rw [keysOf_apply_self, ih, remembered_concat_self]
    · rw [keysOf_apply_of_ne _ own, ih, remembered_concat_of_ne own]

/-- No history leaves a member two keys of one id. -/
theorem distinct_ofHistory (history : List Change) : (ofHistory history).Distinct := by
  induction history using List.reverseRecOn with
  | nil => exact distinct_empty
  | append_singleton history change ih =>
    rw [ofHistory_concat]
    cases change with
    | put id key => exact ih.put id key
    | delete id => exact ih.delete id

/-! ## Answers -/

/-- A store answers about a member as its keys in order demand. -/
structure AnswersBy (store : KeyStore) (memberId : String) (keys : List SecretKey) : Prop where
  /-- The keys are listed without those whose limit the time has reached. -/
  list_eq (now : Int64) :
    store.list now memberId = keys.filter fun key => !key.expiresAt.any (· ≤ now)
  /-- Of a level the last listed key is found, or else it is said that there is none. -/
  byLevel_eq (now : Int64) (level : KeyLevel) : store.byLevel now memberId level =
    ((store.list now memberId).filter (·.level = level)).getLast?.elim
      (.error (.noKey level memberId)) .ok
  /-- No two keys have one id. -/
  nodup : (keys.map (·.id)).Nodup
  /-- The key of an id is found while the time has not reached its limit, if it has one. -/
  byId_of_unexpired (now : Int64) {key : SecretKey} (held : key ∈ keys)
    (unexpired : ∀ limit, key.expiresAt = some limit → now < limit) :
    store.byId now memberId key.id = .ok key
  /-- Later it is said that the key has expired. -/
  byId_of_expired (now : Int64) {key : SecretKey} (held : key ∈ keys) {limit : Int64}
    (limited : key.expiresAt = some limit) (expired : limit ≤ now) :
    store.byId now memberId key.id = .error (.expiredKey key.id)
  /-- Of every other id it is said that it was not found. -/
  byId_of_unknown (now : Int64) {id : String} (unknown : ∀ key ∈ keys, key.id ≠ id) :
    store.byId now memberId id = .error (.unknownKey id memberId)

/-- The key that is found first from the end is the last one that fits. -/
theorem byLevel_eq_getLast? (store : KeyStore) (memberId : String) (now : Int64)
    (level : KeyLevel) : store.byLevel now memberId level =
      ((store.list now memberId).filter (·.level = level)).getLast?.elim
        (.error (.noKey level memberId)) .ok := by
  have found : ((store.list now memberId).filter (·.level = level)).getLast? =
      (store.keysOf memberId).reverse.find? fun key =>
        key.level = level && !key.isExpired now := by
    rw [list, List.filter_filter, List.getLast?_eq_head?_reverse, ← List.filter_reverse,
      List.head?_filter]
  rw [byLevel, found]
  cases (store.keysOf memberId).reverse.find? _ <;> rfl

/-- A store without two keys of one id answers by the keys of each member. -/
theorem Distinct.answersBy {store : KeyStore} (distinct : store.Distinct) (memberId : String) :
    store.AnswersBy memberId (store.keysOf memberId) where
  list_eq now := by
    simp only [list, SecretKey.isExpired_eq_any]
  byLevel_eq := byLevel_eq_getLast? store memberId
  nodup := distinct memberId
  byId_of_unexpired now key held unexpired := by
    have lasting : key.isExpired now = false := by
      rw [SecretKey.isExpired_eq_any, Option.any_eq_false]
      intro limit limited
      simpa using unexpired limit limited
    simp [byId, find?_id_eq_some distinct held, lasting]
  byId_of_expired now key held limit limited expired := by
    have late : key.isExpired now = true := by
      rw [SecretKey.isExpired_eq_any, limited]
      simpa using expired
    simp [byId, find?_id_eq_some distinct held, late]
  byId_of_unknown now id unknown := by
    have missing : (store.keysOf memberId).find? (·.id = id) = none := by
      rw [List.find?_eq_none]
      intro key held
      simpa using unknown key held
    simp [byId, missing]

/-- Two stores give the same answers about a member. -/
structure AgreesWith (store other : KeyStore) (memberId : String) : Prop where
  /-- The same keys are listed. -/
  list_eq (now : Int64) : store.list now memberId = other.list now memberId
  /-- The same key of a level is found, or the same is said. -/
  byLevel_eq (now : Int64) (level : KeyLevel) :
    store.byLevel now memberId level = other.byLevel now memberId level
  /-- The same key of an id is found, or the same is said. -/
  byId_eq (now : Int64) (id : String) : store.byId now memberId id = other.byId now memberId id

/-- Stores with the same keys of a member give the same answers about it. -/
theorem agreesWith_of_keysOf_eq {store other : KeyStore} {memberId : String}
    (same : store.keysOf memberId = other.keysOf memberId) : store.AgreesWith other memberId where
  list_eq now := by rw [list, list, same]
  byLevel_eq now level := by rw [byLevel, byLevel, same]
  byId_eq now id := by rw [byId, byId, same]

/-- A store refines its history. Whatever was put and deleted, for whichever members and in
whichever order, it answers about a member by the keys that are remembered of it: the last put of
each id since the last deletion, in the order of these puts. Its answers are the same as if nothing
had been done to any other member. The refusals say which level or which id they are about. -/
theorem ofHistory_answersBy_remembered (history : List Change) (memberId : String) :
    (ofHistory history).AnswersBy memberId (remembered memberId history) ∧
      (ofHistory history).AgreesWith (ofHistory (history.filter (·.memberId = memberId)))
        memberId ∧
      (∀ level, (CryptoError.noKey level memberId).message =
        "no " ++ Json.nameOf level ++ " key for member " ++ memberId) ∧
      ∀ id, (CryptoError.expiredKey id).message = "key " ++ id ++ " has expired" ∧
        (CryptoError.unknownKey id memberId).message =
          "key " ++ id ++ " not found for " ++ memberId := by
  refine ⟨?_, ?_, fun _ => rfl, fun _ => ⟨rfl, rfl⟩⟩
  · rw [← keysOf_ofHistory]
    exact (distinct_ofHistory history).answersBy memberId
  · apply agreesWith_of_keysOf_eq
    rw [keysOf_ofHistory, keysOf_ofHistory, remembered_filter]

end KeyStore

end OpenBanking
