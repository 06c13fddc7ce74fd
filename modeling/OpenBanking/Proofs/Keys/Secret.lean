import OpenBanking.Keys.Secret

/-!
# Keys of seeds

A seed that can be read has a key of every level. Reading the seed settles its role and its secret
octets; the public half follows from these.
-/

namespace OpenBanking

/-- A seed with a pair has a key of every level, which does not expire. -/
theorem SecretKey.exists_ofSeed {seed : String} {pair : KeyText.Pair}
    (found : KeyText.ofSeed seed = .ok pair) (level : KeyLevel) :
    ∃ key, SecretKey.ofSeed seed level = .ok key ∧ key.pair = pair ∧ key.level = level ∧
      key.expiresAt = none := by
  unfold SecretKey.ofSeed
  split
  next other same =>
    rw [found] at same
    cases same
    exact ⟨_, rfl, rfl, rfl, rfl⟩
  next error same =>
    rw [found] at same
    cases same

/-- A key that does not expire has not expired. -/
theorem SecretKey.isExpired_of_eq_none {key : SecretKey} (lasting : key.expiresAt = none)
    (now : Int64) : key.isExpired now = false := by
  rw [SecretKey.isExpired, lasting]

/-- The key of a seed is of the level asked for and does not expire. -/
theorem SecretKey.of_ofSeed {seed : String} {level : KeyLevel} {key : SecretKey}
    (made : SecretKey.ofSeed seed level = .ok key) :
    key.seed = seed ∧ key.level = level ∧ key.expiresAt = none := by
  unfold SecretKey.ofSeed at made
  split at made
  · cases made
    exact ⟨rfl, rfl, rfl⟩
  · cases made

namespace KeyText

/-- The seed of thirty-two ones, as the text of a user. -/
def seedOfOnes : String := "SUAACAIBAEAQCAIBAEAQCAIBAEAQCAIBAEAQCAIBAEAQCAIBAEAQCAN7EY"

/-- The seed of thirty-two twos, as the text of a user. -/
def seedOfTwos : String := "SUAAEAQCAIBAEAQCAIBAEAQCAIBAEAQCAIBAEAQCAIBAEAQCAIBAEAT6EE"

/-- The seed of thirty-two threes, as the text of a user. -/
def seedOfThrees : String := "SUAAGAYDAMBQGAYDAMBQGAYDAMBQGAYDAMBQGAYDAMBQGAYDAMBQGA6BEM"

/-- The seed of thirty-two fours, as the text of a user. -/
def seedOfFours : String := "SUAAIBAEAQCAIBAEAQCAIBAEAQCAIBAEAQCAIBAEAQCAIBAEAQCAIBH4FY"

/-- A seed that can be read has a pair. -/
theorem exists_ofSeed {seed : String} (readable : (ofSeed seed).toOption.isSome = true) :
    ∃ pair, ofSeed seed = .ok pair := by
  cases made : ofSeed seed with
  | ok pair => exact ⟨pair, rfl⟩
  | error error =>
    rw [made] at readable
    cases readable

/-- The seeds of ones, twos, threes and fours can be read. -/
theorem exists_ofSeed_of_mem {seed : String}
    (mem : seed ∈ [seedOfOnes, seedOfTwos, seedOfThrees, seedOfFours]) :
    ∃ pair, ofSeed seed = .ok pair := by
  have readable : ∀ seed ∈ [seedOfOnes, seedOfTwos, seedOfThrees, seedOfFours],
      (ofSeed seed).toOption.isSome = true := by
    decide +kernel
  exact exists_ofSeed (readable seed mem)

/-- The seed of ones can be read. -/
theorem exists_ofSeed_ones : ∃ pair, ofSeed seedOfOnes = .ok pair :=
  exists_ofSeed_of_mem (by simp)

/-- The seed of twos can be read. -/
theorem exists_ofSeed_twos : ∃ pair, ofSeed seedOfTwos = .ok pair :=
  exists_ofSeed_of_mem (by simp)

/-- The id of the keys of a seed. -/
def idOfSeed? (seed : String) : Option String :=
  (ofSeed seed).toOption.map fun pair => keyId pair.publicText

/-- These four seeds have keys of different ids. -/
theorem nodup_idOfSeed? :
    ([seedOfOnes, seedOfTwos, seedOfThrees, seedOfFours].map idOfSeed?).Nodup := by
  decide +kernel

end KeyText

namespace SecretKey

/-- A key has the id of its seed. -/
theorem idOfSeed?_of_ofSeed {seed : String} {level : KeyLevel} {key : SecretKey}
    (made : ofSeed seed level = .ok key) : KeyText.idOfSeed? seed = some key.id := by
  rw [KeyText.idOfSeed?, ← (of_ofSeed made).1, key.pair_of_seed, key.id_of_publicText,
    key.publicText_of_pair]
  rfl

/-- At any levels the seeds of ones, twos, threes and fours have keys of different ids. -/
theorem exists_ones_twos_threes_fours (first second third fourth : KeyLevel) :
    ∃ ones twos threes fours, ofSeed KeyText.seedOfOnes first = .ok ones ∧
      ofSeed KeyText.seedOfTwos second = .ok twos ∧
      ofSeed KeyText.seedOfThrees third = .ok threes ∧
      ofSeed KeyText.seedOfFours fourth = .ok fours ∧
      ([ones, twos, threes, fours].map (·.id)).Nodup := by
  have make : ∀ seed ∈ [KeyText.seedOfOnes, KeyText.seedOfTwos, KeyText.seedOfThrees,
      KeyText.seedOfFours], ∀ level, ∃ key, ofSeed seed level = .ok key := by
    intro seed mem level
    obtain ⟨_, found⟩ := KeyText.exists_ofSeed_of_mem mem
    obtain ⟨key, made, _⟩ := exists_ofSeed found level
    exact ⟨key, made⟩
  obtain ⟨ones, madeOnes⟩ := make KeyText.seedOfOnes (by simp) first
  obtain ⟨twos, madeTwos⟩ := make KeyText.seedOfTwos (by simp) second
  obtain ⟨threes, madeThrees⟩ := make KeyText.seedOfThrees (by simp) third
  obtain ⟨fours, madeFours⟩ := make KeyText.seedOfFours (by simp) fourth
  refine ⟨ones, twos, threes, fours, madeOnes, madeTwos, madeThrees, madeFours, ?_⟩
  simpa [idOfSeed?_of_ofSeed madeOnes, idOfSeed?_of_ofSeed madeTwos,
    idOfSeed?_of_ofSeed madeThrees, idOfSeed?_of_ofSeed madeFours] using KeyText.nodup_idOfSeed?

/-- The keys of the seeds of ones and of twos have different ids. -/
theorem id_ne_id_of_ones_of_twos {ones twos : SecretKey} {level other : KeyLevel}
    (madeOnes : ofSeed KeyText.seedOfOnes level = .ok ones)
    (madeTwos : ofSeed KeyText.seedOfTwos other = .ok twos) : ones.id ≠ twos.id := by
  have apart : KeyText.idOfSeed? KeyText.seedOfOnes ≠ KeyText.idOfSeed? KeyText.seedOfTwos := by
    have ids := KeyText.nodup_idOfSeed?
    rw [List.map_cons, List.nodup_cons, List.map_cons, List.mem_cons, not_or] at ids
    exact ids.1.1
  rw [idOfSeed?_of_ofSeed madeOnes, idOfSeed?_of_ofSeed madeTwos] at apart
  exact fun same => apart (congrArg some same)

end SecretKey

end OpenBanking
