import OpenBanking.Proofs.Ed25519.Encoding

/-!
# Signatures verify

What a seed signs is accepted under its public key, whatever the message: the verifier computes the
commitment again, since scalars count modulo the order of the base point.
-/

namespace OpenBanking.Ed25519

open Digest.Block (littleEndian littleOctets length_littleOctets littleEndian_littleOctets)

/-- A point is written in thirty-two octets. -/
theorem length_encodePoint (p : Point) : (encodePoint p).length = 32 := length_littleOctets 32 _

/-- A public key has thirty-two octets. -/
theorem length_publicKey (seed : List UInt8) : (publicKey seed).length = 32 :=
  length_encodePoint _

/-- A signature has sixty-four octets. -/
theorem length_sign (seed publicOctets message : List UInt8) :
    (sign seed publicOctets message).length = 64 := by
  simp only [sign, List.length_append, length_encodePoint, length_littleOctets]

/-- A public key is read as the multiple of the base point by the secret scalar of its seed. -/
theorem exists_decodePoint?_publicKey (seed : List UInt8) :
    ∃ key scalar, decodePoint? (publicKey seed) = some key ∧ secretScalar seed = scalar ∧
      Denotes key (scalar • baseAffine) := by
  obtain ⟨scalar, own⟩ : ∃ scalar, secretScalar seed = scalar := ⟨_, rfl⟩
  obtain ⟨key, read, point⟩ := (scalar • baseAffine).exists_decodePoint?
  refine ⟨key, scalar, ?_, own, point⟩
  rw [publicKey, own, (denotes_base.multiple scalar).encodePoint_eq, read]

/-- The verifier as a function of the key that is read. -/
theorem verify_eq : verify = fun publicOctets message signature =>
    (decodePoint? publicOctets).elim false fun key =>
      littleEndian (signature.drop 32) < order &&
        encodePoint (add (multiple (littleEndian (signature.drop 32)) base)
          (multiple (scalarOf (signature.take 32 ++ publicOctets ++ message)) (negate key))) =
            signature.take 32 := by
  -- As functions, since otherwise the point would be computed from octets that are not known.
  delta verify
  funext publicOctets message signature
  generalize decodePoint? publicOctets = found
  cases found <;> rfl

/-- The verifier computes the commitment again. -/
theorem encodePoint_recovered {key : Point} {a : Nat} (point : Denotes key (a • baseAffine))
    (r k : Nat) :
    encodePoint (add (multiple ((r + k * a) % order) base) (multiple k (negate key))) =
      encodePoint (multiple r base) := by
  have recovered : ((r + k * a) % order) • baseAffine + k • -(a • baseAffine) = r • baseAffine := by
    rw [mod_order_nsmul_baseAffine, add_nsmul, mul_nsmul', smul_neg, add_neg_cancel_right]
  have computed := (denotes_base.multiple ((r + k * a) % order)).add (point.negate.multiple k)
  rw [recovered] at computed
  rw [computed.encodePoint_eq, (denotes_base.multiple r).encodePoint_eq]

/-- A signature of a reduced scalar is accepted if its first half is computed again. -/
theorem verify_append {publicOctets : List UInt8} {key : Point}
    (read : decodePoint? publicOctets = some key) {commitment : List UInt8}
    (length : commitment.length = 32) {s : Nat} (reduced : s < order) (message : List UInt8) :
    verify publicOctets message (commitment ++ littleOctets 32 s) =
      decide (encodePoint (add (multiple s base)
        (multiple (scalarOf (commitment ++ publicOctets ++ message)) (negate key))) = commitment) := by
  have enough : s < Nat.pow 256 32 := Nat.lt_of_lt_of_le reduced (by decide +kernel)
  have front : (commitment ++ littleOctets 32 s).take 32 = commitment := List.take_left' length
  have back : (commitment ++ littleOctets 32 s).drop 32 = littleOctets 32 s := List.drop_left' length
  simp only [verify_eq, read, Option.elim_some, front, back, littleEndian_littleOctets enough, reduced,
    decide_true, Bool.true_and]

/-- Whatever a seed signs is accepted under its public key. -/
theorem verify_sign (seed message : List UInt8) :
    verify (publicKey seed) message (sign seed (publicKey seed) message) = true := by
  obtain ⟨key, scalar, read, own, point⟩ := exists_decodePoint?_publicKey seed
  have positive : 0 < order := by decide +kernel
  rw [sign, own, verify_append read (length_encodePoint _) (Nat.mod_lt _ positive),
    encodePoint_recovered point, decide_eq_true_eq]

end OpenBanking.Ed25519
