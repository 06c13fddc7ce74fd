import OpenBanking.Proofs.Ed25519.Point

/-!
# Octets of points

What is written of a point depends on the point of the curve alone, and it is read back: the
equation of the curve gives the square of the abscissa, a power gives a root of it, and the bit on
top tells the root from its opposite.
-/

namespace OpenBanking.Ed25519

open Digest.Block (littleEndian littleOctets)

/-! ## Writing -/

/-- The octets of a point of the curve: its ordinate, and the lowest bit of its abscissa on top. -/
def Affine.octets (a : Affine) : List UInt8 :=
  littleOctets 32 (a.y.val + a.x.val % 2 * Nat.pow 2 255)

/-- A reduced number is the value of a coordinate if it stands for it. -/
theorem eq_val_of_cast_eq {n : Nat} {c : Coordinate} (reduced : n < modulus)
    (same : (n : Coordinate) = c) : n = c.val :=
  eq_of_cast_eq reduced (ZMod.val_lt c) (by rw [same, ZMod.natCast_zmod_val])

/-- The scale is taken off by a power of it. -/
theorem mul_powerMod_eq_val {n scale : Nat} {c : Coordinate} (nonzero : (scale : Coordinate) ≠ 0)
    (scaled : (n : Coordinate) = c * scale) :
    mul n (powerMod scale (modulus - 2) modulus) = c.val := by
  refine eq_val_of_cast_eq (mul_lt _ _) ?_
  have exponent : modulus - 2 + 1 = modulus - 1 := by decide +kernel
  have unit : (scale : Coordinate) * scale ^ (modulus - 2) = 1 := by
    rw [← pow_succ', exponent, ZMod.pow_card_sub_one_eq_one nonzero]
  rw [cast_mul, cast_powerMod, scaled, mul_assoc, unit, mul_one]

/-- The octets of computed coordinates are those of the point that they denote. -/
theorem Denotes.encodePoint_eq {p : Point} {a : Affine} (point : Denotes p a) :
    encodePoint p = a.octets := by
  simp only [encodePoint, mul_powerMod_eq_val point.Z_ne_zero point.X_eq,
    mul_powerMod_eq_val point.Z_ne_zero point.Y_eq, Affine.octets]

/-- The octets of a point denote its number. -/
theorem Affine.littleEndian_octets (a : Affine) :
    littleEndian a.octets = a.y.val + a.x.val % 2 * Nat.pow 2 255 := by
  refine Digest.Block.littleEndian_littleOctets ?_
  have below : modulus < Nat.pow 2 255 := by decide +kernel
  have enough : 2 * Nat.pow 2 255 ≤ Nat.pow 256 32 := by decide +kernel
  have ordinate := ZMod.val_lt a.y
  have bit := Nat.mod_lt a.x.val Nat.two_pos
  generalize Nat.pow 2 255 = top at *
  generalize Nat.pow 256 32 = bound at *
  have weight : a.x.val % 2 * top ≤ 1 * top := Nat.mul_le_mul_right top (by omega)
  omega

/-! ## Square roots -/

/-- The root that is tried is one of the quotient or of its opposite. -/
theorem candidate_sq {u v x : Coordinate} (nonzero : v ≠ 0) (quotient : u = v * x ^ 2) :
    v * (u * v ^ 3 * (u * v ^ 7) ^ ((modulus - 5) / 8)) ^ 2 = u ∨
      v * (u * v ^ 3 * (u * v ^ 7) ^ ((modulus - 5) / 8)) ^ 2 = -u := by
  have half : 2 * (2 * ((modulus - 5) / 8) + 1) = modulus / 2 := by decide +kernel
  generalize (modulus - 5) / 8 = e at half ⊢
  have product : v * (u * v ^ 3 * (u * v ^ 7) ^ e) ^ 2 = u * (x * v ^ 4) ^ (modulus / 2) := by
    have square : u * v ^ 7 = (x * v ^ 4) ^ 2 := by
      rw [quotient]
      ring
    rw [← half, pow_mul, ← square]
    ring
  rw [product]
  by_cases zero : x = 0
  · left
    rw [quotient, zero]
    ring
  · have unit : x * v ^ 4 ≠ 0 := mul_ne_zero zero (pow_ne_zero 4 nonzero)
    rcases ZMod.pow_div_two_eq_neg_one_or_one modulus unit with one | minusOne
    · left
      rw [one, mul_one]
    · right
      rw [minusOne, mul_neg_one]

/-- The opposite of a reduced number that is not zero. -/
theorem sub_zero_eq {x : Nat} (positive : 0 < x) (reduced : x < modulus) :
    sub 0 x = modulus - x := by
  rw [sub, Nat.zero_add, Nat.mod_eq_of_lt (by omega)]

/-- Of a number and its opposite one is even. -/
theorem exists_even {root : Nat} (reduced : root < modulus) :
    ∃ even, (if root % 2 = 0 then root else sub 0 root) = even ∧ even < modulus ∧ even % 2 = 0 ∧
      (even : Coordinate) ^ 2 = root ^ 2 := by
  refine ⟨_, rfl, ?_⟩
  have odd : modulus % 2 = 1 := by decide +kernel
  split
  next even => exact ⟨reduced, even, rfl⟩
  next =>
    refine ⟨sub_lt _ _, ?_, ?_⟩
    · rw [sub_zero_eq (by omega) reduced]
      omega
    · rw [cast_sub 0 reduced.le, Nat.cast_zero, zero_sub, neg_sq]

/-- What is tried is the root, or is turned into it by a root of minus one. -/
theorem exists_settled {u v r : Nat} (reduced : u < modulus) (bounded : r < modulus)
    (tried : (v : Coordinate) * r ^ 2 = u ∨ (v : Coordinate) * r ^ 2 = -u) :
    ∃ root, (if mul v (mul r r) = u then some r
        else if mul v (mul r r) = sub 0 u then some (mul r rootOfMinusOne) else none) = some root ∧
      root < modulus ∧ (v : Coordinate) * root ^ 2 = u := by
  have check : (mul v (mul r r) : Coordinate) = v * r ^ 2 := by
    rw [cast_mul, cast_mul, sq]
  by_cases same : mul v (mul r r) = u
  · exact ⟨r, if_pos same, bounded, by rw [← check, same]⟩
  · have opposite : (v : Coordinate) * r ^ 2 = -u := by
      refine tried.resolve_left fun equal => same (eq_of_cast_eq (mul_lt _ _) reduced ?_)
      rw [check, equal]
    have turned : mul v (mul r r) = sub 0 u := by
      refine eq_of_cast_eq (mul_lt _ _) (sub_lt _ _) ?_
      rw [check, opposite, cast_sub 0 reduced.le, Nat.cast_zero, zero_sub]
    refine ⟨mul r rootOfMinusOne, by rw [if_neg same, if_pos turned], mul_lt _ _, ?_⟩
    rw [cast_mul, mul_pow, rootOfMinusOne_sq, ← mul_assoc, opposite, neg_mul_neg, mul_one]

/-- The root of a quotient that is a square is found, and is even. -/
theorem exists_rootOfQuotient? {u v : Nat} {x : Coordinate} (reduced : u < modulus)
    (nonzero : (v : Coordinate) ≠ 0) (quotient : (u : Coordinate) = v * x ^ 2) :
    ∃ root, rootOfQuotient? u v = some root ∧ root < modulus ∧ root % 2 = 0 ∧
      (root : Coordinate) ^ 2 = x ^ 2 := by
  have tried := candidate_sq nonzero quotient
  have written : (mul (mul u (mul (mul v v) v)) (powerMod
      (mul u (mul (mul (mul (mul v v) v) (mul (mul v v) v)) v)) ((modulus - 5) / 8) modulus) :
        Coordinate) = u * v ^ 3 * (u * v ^ 7) ^ ((modulus - 5) / 8) := by
    rw [cast_mul, cast_powerMod]
    simp only [cast_mul]
    ring
  rw [← written] at tried
  obtain ⟨root, found, bounded, square⟩ := exists_settled reduced (mul_lt _ _) tried
  obtain ⟨even, chosen, evenBounded, isEven, evenSquare⟩ := exists_even bounded
  refine ⟨even, ?_, evenBounded, isEven, ?_⟩
  · simp only [rootOfQuotient?, found, Option.map_some, chosen]
  · rw [evenSquare]
    exact mul_left_cancel₀ nonzero (square.trans quotient)

/-! ## Reading -/

/-- The bit on top tells a root from its opposite. -/
theorem cast_of_even {root : Nat} {x : Coordinate} (bounded : root < modulus) (even : root % 2 = 0)
    (square : (root : Coordinate) ^ 2 = x ^ 2) :
    ((if x.val % 2 = 0 then root else sub 0 root : Nat) : Coordinate) = x := by
  have odd : modulus % 2 = 1 := by decide +kernel
  by_cases same : (root : Coordinate) = x
  · have value := eq_val_of_cast_eq bounded same
    rw [← value, if_pos even, same]
  · have opposite : (root : Coordinate) = -x := (sq_eq_sq_iff_eq_or_eq_neg.1 square).resolve_left same
    have nonzero : x.val ≠ 0 := by
      intro zero
      rw [(ZMod.val_eq_zero x).1 zero, neg_zero] at opposite
      rw [(ZMod.val_eq_zero x).1 zero] at same
      exact same opposite
    have reduced := ZMod.val_lt x
    have value : root = modulus - x.val := by
      rw [← sub_zero_eq (Nat.pos_of_ne_zero nonzero) reduced]
      refine eq_of_cast_eq bounded (sub_lt _ _) ?_
      rw [opposite, cast_sub 0 reduced.le, Nat.cast_zero, zero_sub, ZMod.natCast_zmod_val]
    have isOdd : x.val % 2 ≠ 0 := by omega
    rw [if_neg isOdd, cast_sub 0 bounded.le, Nat.cast_zero, zero_sub, opposite, neg_neg]

/-- The equation of the curve tells the square of the abscissa from the ordinate. -/
theorem Affine.quotient (a : Affine) :
    (coefficientD * a.y ^ 2 + 1 : Coordinate) ≠ 0 ∧
      a.y ^ 2 - 1 = (coefficientD * a.y ^ 2 + 1) * a.x ^ 2 := by
  refine ⟨fun zero => not_isSquare_coefficientD ?_, ?_⟩
  · have nonzero : a.y ≠ 0 := by
      intro none
      simp [none] at zero
    refine ⟨rootOfMinusOne / a.y, ?_⟩
    rw [← sq, div_pow, rootOfMinusOne_sq, eq_div_iff (pow_ne_zero 2 nonzero)]
    linear_combination zero
  · have on := a.on
    unfold OnCurve at on
    linear_combination on

/-- The octets of a point are read as coordinates that denote it. -/
theorem Affine.exists_decodePoint? (a : Affine) :
    ∃ p, decodePoint? a.octets = some p ∧ Denotes p a := by
  have top : modulus < Nat.pow 2 255 := by decide +kernel
  have ordinate := ZMod.val_lt a.y
  have low : littleEndian a.octets % Nat.pow 2 255 % modulus = a.y.val := by
    rw [a.littleEndian_octets, Nat.add_mul_mod_self_right, Nat.mod_eq_of_lt (ordinate.trans top),
      Nat.mod_eq_of_lt ordinate]
  have high : littleEndian a.octets / Nat.pow 2 255 % 2 = a.x.val % 2 := by
    rw [a.littleEndian_octets, Nat.add_mul_div_right _ _ (Nat.pos_of_ne_zero (by decide +kernel)),
      Nat.div_eq_of_lt (ordinate.trans top), Nat.zero_add, Nat.mod_mod]
  obtain ⟨nonzero, quotient⟩ := a.quotient
  have u : (sub (mul a.y.val a.y.val) 1 : Coordinate) = a.y ^ 2 - 1 := by
    rw [cast_sub _ modulus_pos, cast_mul, ZMod.natCast_zmod_val, Nat.cast_one, sq]
  have v : ((mul coefficientD (mul a.y.val a.y.val) + 1) % modulus : Nat) =
      (coefficientD * a.y ^ 2 + 1 : Coordinate) := by
    rw [ZMod.natCast_mod, Nat.cast_add, cast_mul, cast_mul, ZMod.natCast_zmod_val, Nat.cast_one, sq]
  rw [← v] at nonzero quotient
  obtain ⟨root, found, bounded, even, square⟩ :=
    exists_rootOfQuotient? (sub_lt _ _) nonzero (u.trans quotient)
  refine ⟨affine (if a.x.val % 2 = 0 then root else sub 0 root) a.y.val, ?_, ?_⟩
  · simp only [decodePoint?, low, high, found, Option.map_some]
  · refine denotes_affine ?_ (cast_of_even bounded even square) (ZMod.natCast_zmod_val a.y)
    split
    · exact bounded.le
    · exact (sub_lt _ _).le

end OpenBanking.Ed25519
