import OpenBanking.Member.Operation
import OpenBanking.Proofs.Text.Lowercase

/-!
# Normal spellings

Normalizing an alias twice is normalizing it once. The hash of an alias and what an operation
changes are made of its normal spelling, so aliases of one normal spelling are interchangeable
there.
-/

namespace OpenBanking

namespace Alias

/-- A normal spelling is its own normal spelling. -/
@[simp]
theorem normalize_normalize (x : Alias) : x.normalize.normalize = x.normalize := by
  have realm := Text.trim_trim x.realmId
  obtain ⟨kind, value, realmId⟩ := x
  cases kind with
  | email | domain =>
    simp only [normalize, mk.injEq, true_and]
    exact ⟨Text.lowercase_trim_lowercase_trim value, realm⟩
  | unknown | phone | bank | eidas | custom | username =>
    simp only [normalize, mk.injEq, true_and]
    exact ⟨Text.trim_trim value, realm⟩

section Same

variable {x y : Alias} (same : x.normalize = y.normalize)

include same

/-- Aliases of one normal spelling have one hash. -/
theorem hash_eq_of_normalize_eq : x.hash = y.hash := by
  rw [hash, hash, preimage, preimage, same]

/-- Aliases of one normal spelling are changed by one change. -/
theorem aliasChange_eq_of_normalize_eq :
    MemberOperation.aliasChange x = MemberOperation.aliasChange y := by
  rw [MemberOperation.aliasChange, MemberOperation.aliasChange, same]

/-- Aliases of one normal spelling are removed by one operation. -/
theorem withoutAlias_eq_of_normalize_eq :
    MemberOperation.withoutAlias x = MemberOperation.withoutAlias y := by
  rw [MemberOperation.withoutAlias, MemberOperation.withoutAlias,
    aliasChange_eq_of_normalize_eq same]

end Same

/-- An alias has the hash of its normal spelling. -/
@[simp]
theorem hash_normalize (x : Alias) : x.normalize.hash = x.hash :=
  hash_eq_of_normalize_eq (normalize_normalize x)

end Alias

/-- The operation that adds an alias holds its hash and the realm of its normal spelling. -/
theorem MemberOperation.ofAlias_eq (x : Alias) :
    ofAlias x = .addAlias ⟨x.hash, x.normalize.realmId⟩ := by
  rw [ofAlias, aliasChange, Alias.hash_normalize]

/-- So does the operation that removes it. -/
theorem MemberOperation.withoutAlias_eq (x : Alias) :
    withoutAlias x = .removeAlias ⟨x.hash, x.normalize.realmId⟩ := by
  rw [withoutAlias, aliasChange, Alias.hash_normalize]

end OpenBanking
