import Mathlib.Logic.Relation
import OpenBanking.Keys.Signer
import OpenBanking.Proofs.Alias.Normal
import OpenBanking.Proofs.Lossless.Member

/-!
# Updates made step by step

Whoever makes an update hands operations over in steps of eight kinds: a key or an alias to add or
remove, a recovery rule, the word of an agent, an operation as it is, or many at once. The member
and the hash stay as they were at the beginning, and each step adds what it denotes at the end. So
two lists of steps make the same update exactly if they denote the same operations one after
another, in whatever groups they hand them over; and as canonical texts lose nothing, exactly then
the same octets are signed.
-/

namespace OpenBanking.MemberUpdate

open Json

/-! ## What steps denote -/

/-- The operations that a step denotes: a single one, or those that it lists. An alias is told by
its hash and by the realm of its normal spelling. -/
def Step.denoted : Step → List MemberOperation
  | .addKey key => [.addKey ⟨key⟩]
  | .removeKey keyId => [.removeKey ⟨keyId⟩]
  | .addAlias x => [.addAlias ⟨x.hash, x.normalize.realmId⟩]
  | .removeAlias x => [.removeAlias ⟨x.hash, x.normalize.realmId⟩]
  | .recoveryRule rule => [.recoveryRule ⟨rule⟩]
  | .recover entry => [.recover entry]
  | .operation x => [x]
  | .operations xs => xs

/-- A step hands over a single operation, which can be made without the step. -/
inductive Step.Makes : Step → MemberOperation → Prop where
  | addKey (key : Key) : Makes (.addKey key) (.ofKey key)
  | removeKey (keyId : String) : Makes (.removeKey keyId) (.withoutKey keyId)
  | addAlias (x : Alias) : Makes (.addAlias x) (.ofAlias x)
  | removeAlias (x : Alias) : Makes (.removeAlias x) (.withoutAlias x)
  | recoveryRule (rule : RecoveryRule) : Makes (.recoveryRule rule) (.ofRule rule)
  | recover (entry : RecoveryEntry) : Makes (.recover entry) (.recover entry)
  | operation (x : MemberOperation) : Makes (.operation x) x

/-- What a step makes is all that it denotes. -/
theorem Step.Makes.denoted_eq {step : Step} {operation : MemberOperation}
    (makes : step.Makes operation) : step.denoted = [operation] := by
  cases makes with
  | addAlias x => rw [denoted, MemberOperation.ofAlias_eq]
  | removeAlias x => rw [denoted, MemberOperation.withoutAlias_eq]
  | addKey | removeKey | recoveryRule | recover | operation => rfl

/-- Every step makes an operation, save the one that lists operations. -/
theorem Step.exists_makes (step : Step) :
    (∃ operation, step.Makes operation) ∨ ∃ operations, step = .operations operations := by
  cases step with
  | addKey key => exact .inl ⟨_, .addKey key⟩
  | removeKey keyId => exact .inl ⟨_, .removeKey keyId⟩
  | addAlias x => exact .inl ⟨_, .addAlias x⟩
  | removeAlias x => exact .inl ⟨_, .removeAlias x⟩
  | recoveryRule rule => exact .inl ⟨_, .recoveryRule rule⟩
  | recover entry => exact .inl ⟨_, .recover entry⟩
  | operation x => exact .inl ⟨_, .operation x⟩
  | operations xs => exact .inr ⟨xs, rfl⟩

/-! ## What steps add -/

variable (update : MemberUpdate)

/-- Operations are added to those that are there already. -/
theorem append_append (first later : List MemberOperation) :
    (update.append first).append later = update.append (first ++ later) := by
  rw [append, append, append, List.append_assoc]

/-- Different operations make different updates. -/
theorem append_inj {first later : List MemberOperation} :
    update.append first = update.append later ↔ first = later := by
  rw [append, append, mk.injEq]
  simp only [true_and, List.append_cancel_left_eq]

/-- A step that makes an operation adds it. -/
theorem Step.Makes.add_eq {step : Step} {operation : MemberOperation}
    (makes : step.Makes operation) : update.add step = update.push operation := by
  cases makes <;> rfl

/-- A step adds what it denotes. -/
theorem add_eq_append (step : Step) : update.add step = update.append step.denoted := by
  rcases step.exists_makes with ⟨operation, makes⟩ | ⟨operations, rfl⟩
  · calc update.add step = update.push operation := makes.add_eq update
      _ = update.append [operation] := rfl
      _ = update.append step.denoted := by rw [makes.denoted_eq]
  · rfl

/-- Steps add what they denote one after another. -/
theorem addAll_eq_append (steps : List Step) :
    update.addAll steps = update.append (steps.flatMap Step.denoted) := by
  induction steps generalizing update with
  | nil => simp [addAll, append]
  | cons step steps ih =>
    calc update.addAll (step :: steps) = (update.add step).addAll steps := rfl
      _ = (update.append step.denoted).append (steps.flatMap Step.denoted) := by
        rw [ih, add_eq_append]
      _ = update.append ((step :: steps).flatMap Step.denoted) := by
        rw [append_append, List.flatMap_cons]

/-! ## Groups of steps -/

/-- One list of steps comes from another if, at one place, an operation stands for the step that
makes it, or the operations of a run of steps stand at once for the run. -/
inductive Regroups : List Step → List Step → Prop where
  | single {step : Step} {operation : MemberOperation} (makes : step.Makes operation)
    (before after : List Step) :
    Regroups (before ++ step :: after) (before ++ .operation operation :: after)
  | run (before run after : List Step) :
    Regroups (before ++ (run ++ after)) (before ++ .operations (run.flatMap Step.denoted) :: after)

/-- Each list of steps comes from the other by such changes, forth and back. -/
def Regrouped : List Step → List Step → Prop := Relation.EqvGen Regroups

/-- A change of groups leaves what is denoted. -/
theorem Regroups.flatMap_denoted_eq {steps others : List Step} (regroups : Regroups steps others) :
    steps.flatMap Step.denoted = others.flatMap Step.denoted := by
  cases regroups with
  | single makes before after =>
    rw [List.flatMap_append, List.flatMap_append, List.flatMap_cons, List.flatMap_cons,
      makes.denoted_eq]
    rfl
  | run before run after =>
    rw [List.flatMap_append, List.flatMap_append, List.flatMap_append, List.flatMap_cons]
    rfl

/-- Groups of steps can be changed into others exactly if these denote the same operations in the
same order: all groups can be changed into a single one. -/
theorem regrouped_iff {steps others : List Step} :
    Regrouped steps others ↔ steps.flatMap Step.denoted = others.flatMap Step.denoted := by
  constructor
  · intro regrouped
    induction regrouped with
    | rel _ _ regroups => exact regroups.flatMap_denoted_eq
    | refl => rfl
    | symm _ _ _ ih => exact ih.symm
    | trans _ _ _ _ _ ih later => exact ih.trans later
  · intro same
    have atOnce (steps : List Step) :
        Regrouped steps [.operations (steps.flatMap Step.denoted)] := by
      have regroups := Regroups.run [] steps []
      rw [List.append_nil] at regroups
      exact .rel _ _ regroups
    have other := atOnce others
    rw [← same] at other
    exact (atOnce steps).trans _ _ _ (other.symm _ _)

/-- Steps make the same update exactly if they differ in their groups alone. -/
theorem addAll_eq_addAll_iff {steps others : List Step} :
    update.addAll steps = update.addAll others ↔ Regrouped steps others := by
  rw [addAll_eq_append, addAll_eq_append, append_inj, regrouped_iff]

/-- The canonical texts of different updates are different. -/
theorem canonicalOctets_injective : Function.Injective (canonicalOctets (α := MemberUpdate)) :=
  (Codec.losesNothing Lossless.readsBack).distinct

/-- Updates are made without loss. Steps of any number and kind, upon a record or upon the state
that a hash names, keep the member and the hash, and the operations are those that the steps denote,
one after another. Two lists of steps differ in their groups alone exactly if they make the same
update, whatever it began with, and exactly if the updates have the same canonical octets; then
every signer makes the same signature for both. -/
theorem addAll_accumulates (record : MemberRecord) (memberId prevHash : String) (steps : List Step) :
    (ofRecord record).addAll steps =
        ⟨record.id, record.lastHash, steps.flatMap Step.denoted⟩ ∧
      (forMember memberId prevHash).addAll steps =
        ⟨memberId, prevHash, steps.flatMap Step.denoted⟩ ∧
      ∀ (begun : MemberUpdate) (others : List Step),
        (Regrouped steps others ↔ begun.addAll steps = begun.addAll others) ∧
        (Regrouped steps others ↔
          canonicalOctets (begun.addAll steps) = canonicalOctets (begun.addAll others)) ∧
        (Regrouped steps others → ∀ signer : Signer,
          signer.sign (begun.addAll steps) = signer.sign (begun.addAll others)) := by
  refine ⟨addAll_eq_append _ steps, addAll_eq_append _ steps, fun begun others => ?_⟩
  have same : begun.addAll steps = begun.addAll others ↔ Regrouped steps others :=
    begun.addAll_eq_addAll_iff
  refine ⟨same.symm, ?_, fun regrouped signer => ?_⟩
  · rw [canonicalOctets_injective.eq_iff, same]
  · rw [same.2 regrouped]

/-- A key, an alias with blanks and capitals, and a key to remove: the first as an operation, the
others at once. -/
theorem addAll_accumulates_of_groups :
    Regrouped [.addKey default, .addAlias (.email " Alice@Example.com "), .removeKey "k1"]
        [.operation (.ofKey default),
          .operations [.ofAlias (.email " Alice@Example.com "), .withoutKey "k1"]] ∧
      ∀ signer : Signer,
        signer.sign ((forMember "m:1" "h").addAll
            [.addKey default, .addAlias (.email " Alice@Example.com "), .removeKey "k1"]) =
          signer.sign ((forMember "m:1" "h").addAll [.operation (.ofKey default),
            .operations [.ofAlias (.email " Alice@Example.com "), .withoutKey "k1"]]) := by
  have regrouped : Regrouped
      [.addKey default, .addAlias (.email " Alice@Example.com "), .removeKey "k1"]
      [.operation (.ofKey default),
        .operations [.ofAlias (.email " Alice@Example.com "), .withoutKey "k1"]] := by
    rw [regrouped_iff, MemberOperation.ofAlias_eq]
    rfl
  exact ⟨regrouped, ((addAll_accumulates default "m:1" "h" _).2.2 _ _).2.2 regrouped⟩

end OpenBanking.MemberUpdate
