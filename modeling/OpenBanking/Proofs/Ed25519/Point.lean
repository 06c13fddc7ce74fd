import OpenBanking.Proofs.Ed25519.Curve

/-!
# Computed points

A point in extended coordinates denotes a point of the curve. Addition, doubling and the opposite
are those of the curve, and so are multiples. The base point lies on the curve, and its order is
what it is taken for.
-/

namespace OpenBanking.Ed25519

/-- Extended coordinates denote a point of the curve. -/
structure Denotes (p : Point) (a : Affine) : Prop where
  /-- The scaled abscissa is not beyond the modulus. -/
  X_le : p.X ≤ modulus
  /-- The scaled product is not beyond the modulus. -/
  T_le : p.T ≤ modulus
  /-- The scale is not zero. -/
  Z_ne_zero : (p.Z : Coordinate) ≠ 0
  /-- The abscissa is scaled. -/
  X_eq : (p.X : Coordinate) = a.x * p.Z
  /-- The ordinate is scaled. -/
  Y_eq : (p.Y : Coordinate) = a.y * p.Z
  /-- Their product is scaled. -/
  T_eq : (p.T : Coordinate) = a.x * a.y * p.Z

/-- Small coordinates denote their point. -/
theorem denotes_affine {x y : Nat} {a : Affine} (reduced : x ≤ modulus)
    (abscissa : (x : Coordinate) = a.x) (ordinate : (y : Coordinate) = a.y) :
    Denotes (affine x y) a where
  X_le := reduced
  T_le := (mul_lt x y).le
  Z_ne_zero := by simp [affine]
  X_eq := by simp [affine, abscissa]
  Y_eq := by simp [affine, ordinate]
  T_eq := by simp [affine, abscissa, ordinate]

/-- The neutral point is neutral. -/
theorem denotes_neutral : Denotes neutral 0 where
  X_le := Nat.zero_le _
  T_le := Nat.zero_le _
  Z_ne_zero := by simp [neutral]
  X_eq := by simp [neutral]
  Y_eq := by simp [neutral]
  T_eq := by simp [neutral]

variable {p q : Point} {a b : Affine}

/-- Numerators and denominators of the addition law, up to a scale of each fraction, denote a sum:
the denominators together are the scale of the point. -/
theorem denotes_sum {e f g h : Nat} {left right : Coordinate} (left_ne : left ≠ 0)
    (right_ne : right ≠ 0) (e_eq : (e : Coordinate) = left * (a.x * b.y + a.y * b.x))
    (g_eq : (g : Coordinate) = left * (1 + coefficientD * a.x * b.x * a.y * b.y))
    (h_eq : (h : Coordinate) = right * (a.y * b.y + a.x * b.x))
    (f_eq : (f : Coordinate) = right * (1 - coefficientD * a.x * b.x * a.y * b.y)) :
    Denotes ⟨mul e f, mul g h, mul f g, mul e h⟩ (a + b) := by
  have plus := isComplete_coefficientD.one_add_ne_zero a.on b.on
  have minus := isComplete_coefficientD.one_sub_ne_zero a.on b.on
  have abscissa : (e : Coordinate) = (a + b).x * g := by
    rw [Affine.add_x, sumX, eq_comm, div_mul_eq_mul_div, div_eq_iff plus, e_eq, g_eq]
    ring
  have ordinate : (h : Coordinate) = (a + b).y * f := by
    rw [Affine.add_y, sumY, eq_comm, div_mul_eq_mul_div, div_eq_iff minus, h_eq, f_eq]
    ring
  refine ⟨(mul_lt e f).le, (mul_lt e h).le, ?_, ?_, ?_, ?_⟩
  · rw [cast_mul, f_eq, g_eq]
    exact mul_ne_zero (mul_ne_zero right_ne minus) (mul_ne_zero left_ne plus)
  · rw [cast_mul, cast_mul, abscissa]
    ring
  · rw [cast_mul, cast_mul, ordinate]
    ring
  · rw [cast_mul, cast_mul, abscissa, ordinate]
    ring

/-- Sums are those of the curve. -/
theorem Denotes.add (left : Denotes p a) (right : Denotes q b) : Denotes (add p q) (a + b) := by
  have scale : 2 * (p.Z : Coordinate) * q.Z ≠ 0 :=
    mul_ne_zero (mul_ne_zero isComplete_coefficientD.two_ne_zero left.Z_ne_zero) right.Z_ne_zero
  refine denotes_sum scale scale ?_ ?_ ?_ ?_ <;>
    simp only [cast_mul, cast_sub _ left.X_le, cast_sub _ right.X_le, cast_sub _ (mul_lt _ _).le,
      Nat.cast_add, Nat.cast_mul, Nat.cast_ofNat, left.X_eq, left.Y_eq, left.T_eq, right.X_eq,
      right.Y_eq, right.T_eq] <;>
    ring

/-- Doubles are those of the curve. -/
theorem Denotes.double (point : Denotes p a) : Denotes (double p) (a + a) := by
  have scale : (p.Z : Coordinate) ^ 2 ≠ 0 := pow_ne_zero 2 point.Z_ne_zero
  have on : a.y ^ 2 - a.x ^ 2 = 1 + coefficientD * a.x ^ 2 * a.y ^ 2 := a.on
  refine denotes_sum (neg_ne_zero.2 scale) scale ?_ ?_ ?_ ?_ <;>
    simp only [cast_mul, cast_sub _ (mul_lt _ _).le, ZMod.natCast_mod, Nat.cast_add, Nat.cast_mul,
      Nat.cast_ofNat, point.X_eq, point.Y_eq]
  · ring
  · linear_combination -p.Z ^ 2 * on
  · ring
  · linear_combination -p.Z ^ 2 * on

/-- Opposites are those of the curve. -/
theorem Denotes.negate (point : Denotes p a) : Denotes (negate p) (-a) where
  X_le := (sub_lt _ _).le
  T_le := (sub_lt _ _).le
  Z_ne_zero := point.Z_ne_zero
  X_eq := by simp [Ed25519.negate, cast_sub _ point.X_le, point.X_eq]
  Y_eq := by simpa [Ed25519.negate] using point.Y_eq
  T_eq := by simp [Ed25519.negate, cast_sub _ point.T_le, point.T_eq]

/-- Multiples by enough bits are those of the curve. -/
theorem Denotes.multipleBits (point : Denotes p a) {bits factor : Nat}
    (enough : factor < 2 ^ bits) : Denotes (multipleBits p bits factor) (factor • a) := by
  induction bits generalizing factor with
  | zero =>
    obtain rfl : factor = 0 := by simpa using enough
    rw [zero_nsmul]
    exact denotes_neutral
  | succ bits ih =>
    have half : factor / 2 < 2 ^ bits := by
      rw [pow_succ] at enough
      omega
    have doubled := (ih half).double
    rw [← two_nsmul, ← mul_nsmul'] at doubled
    rw [Ed25519.multipleBits]
    by_cases even : factor % 2 = 0
    · rw [Nat.mul_div_cancel' (Nat.dvd_of_mod_eq_zero even)] at doubled
      simpa only [even, ↓reduceIte] using doubled
    · have odd : 2 * (factor / 2) + 1 = factor := by omega
      have sum := doubled.add point
      rw [← succ_nsmul, odd] at sum
      simpa only [even, ↓reduceIte] using sum

/-- Multiples are those of the curve. -/
theorem Denotes.multiple (point : Denotes p a) (factor : Nat) :
    Denotes (multiple factor p) (factor • a) :=
  point.multipleBits Nat.lt_log2_self

/-! ## The base point -/

/-- The base point of the curve. -/
def baseAffine : Affine where
  x := base.X
  y := base.Y
  on := by
    have computed : sub (mul base.Y base.Y) (mul base.X base.X) =
        (1 + mul coefficientD (mul (mul base.X base.X) (mul base.Y base.Y))) % modulus := by
      decide +kernel
    have on := congrArg (Nat.cast : Nat → Coordinate) computed
    simp only [cast_sub _ (mul_lt _ _).le, cast_mul, ZMod.natCast_mod, Nat.cast_add, Nat.cast_one]
      at on
    unfold OnCurve
    linear_combination on

/-- The base point is that of the curve. -/
theorem denotes_base : Denotes base baseAffine :=
  denotes_affine (by decide +kernel) rfl rfl

/-- The multiple of the base point by its order is neutral. -/
theorem order_nsmul_baseAffine : order • baseAffine = 0 := by
  have point := denotes_base.multiple order
  have computed : (multiple order base).X = 0 ∧
      (multiple order base).Y = (multiple order base).Z := by
    decide +kernel
  have nonzero := point.Z_ne_zero
  ext
  · have abscissa := point.X_eq
    rw [computed.1, Nat.cast_zero, eq_comm, mul_eq_zero] at abscissa
    exact abscissa.resolve_right nonzero
  · have ordinate := point.Y_eq
    rw [computed.2] at ordinate
    exact (mul_eq_right₀ nonzero).1 ordinate.symm

/-- Multiples of the base point depend on the factor modulo the order only. -/
theorem mod_order_nsmul_baseAffine (factor : Nat) :
    (factor % order) • baseAffine = factor • baseAffine :=
  (nsmul_eq_mod_nsmul factor order_nsmul_baseAffine).symm

end OpenBanking.Ed25519
