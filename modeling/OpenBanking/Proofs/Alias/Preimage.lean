import OpenBanking.Proofs.Json.Same
import OpenBanking.Proofs.Lossless.Member

/-!
# What the hash of an alias is made of

The object that is hashed for an alias is put together by hand: its members stand in the order of
their names, and the kind stands in it as it is shown. Still its text is the canonical text of the
normal spelling, in which kinds have their wire names. As canonical texts lose nothing, aliases
share what is hashed only if they share their normal spelling.
-/

namespace OpenBanking

open Json

/-- Kinds are shown by their wire names. -/
@[simp]
theorem AliasKind.toString_eq_nameOf (kind : AliasKind) : toString kind = nameOf kind := by
  cases kind <;> rfl

namespace Alias

/-- The canonical object of an alias has its members in the order of their names. -/
theorem canonical_toValue (x : Alias) :
    (toValue x).canonical = .object [("realm_id", .string x.realmId), ("type", .string (nameOf x.kind)),
      ("value", .string x.value)] := by
  have given : toValue x = .object [("type", .string (nameOf x.kind)), ("value", .string x.value),
      ("realm_id", .string x.realmId)] := rfl
  rw [given, canonical_object]
  simp only [mapValues, List.map_cons, List.map_nil, Value.canonical, sortMembers, List.foldl_cons,
    List.foldl_nil, insertMember, String.reduceLT, String.reduceEq, ↓reduceIte]

/-- What is hashed is the canonical text of the normal spelling. -/
theorem preimage_eq_canonicalOctets (x : Alias) : x.preimage = canonicalOctets x.normalize := by
  calc x.preimage = (toValue x.normalize).canonical.canonicalOctets := by
        rw [canonical_toValue, ← AliasKind.toString_eq_nameOf]
        rfl
    _ = (toValue x.normalize).canonical.octets := congrArg Value.octets (canonical_canonical _)
    _ = canonicalOctets x.normalize := rfl

/-- The canonical texts of different aliases are different. -/
theorem canonicalOctets_injective : Function.Injective (canonicalOctets (α := Alias)) :=
  (Codec.losesNothing Lossless.readsBack).distinct

/-- The hash of an alias is that of the canonical text of its normal spelling, and two aliases share
the octets that are hashed exactly if they share the normal spelling: its kind, its value and its
realm. -/
theorem hash_canonical (x y : Alias) :
    x.hash = Digest.sha256Text (canonicalOctets x.normalize) ∧
      x.preimage = canonicalOctets x.normalize ∧
      (x.preimage = y.preimage ↔ x.normalize = y.normalize) := by
  refine ⟨?_, x.preimage_eq_canonicalOctets, ?_⟩
  · rw [hash, preimage_eq_canonicalOctets]
  · rw [preimage_eq_canonicalOctets, preimage_eq_canonicalOctets]
    exact canonicalOctets_injective.eq_iff

end Alias

end OpenBanking
