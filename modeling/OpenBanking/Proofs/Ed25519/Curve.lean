import Mathlib.Tactic.FieldSimp
import Mathlib.Tactic.LinearCombination
import OpenBanking.Proofs.Ed25519.Field

/-!
# The group of the curve

The points of `-x² + y² = 1 + d·x²·y²` are a commutative group. The addition law has no exceptions,
because minus one is a square and `d` is none: a vanishing denominator would make `d` a square.
Closure and associativity are identities between polynomials that hold on the curve; the cofactors
of the equations of the points are written out.
-/

namespace OpenBanking.Ed25519

/-! ## The addition law -/

section Law

variable {F : Type} [Field F]

/-- The equation of the curve with a coefficient. -/
def OnCurve (d x y : F) : Prop := y ^ 2 - x ^ 2 = 1 + d * x ^ 2 * y ^ 2

/-- The abscissa of a sum. -/
def sumX (d x₁ y₁ x₂ y₂ : F) : F := (x₁ * y₂ + y₁ * x₂) / (1 + d * x₁ * x₂ * y₁ * y₂)

/-- The ordinate of a sum. -/
def sumY (d x₁ y₁ x₂ y₂ : F) : F := (y₁ * y₂ + x₁ * x₂) / (1 - d * x₁ * x₂ * y₁ * y₂)

variable {d x₁ y₁ x₂ y₂ x₃ y₃ : F}

/-- The abscissa of a sum does not depend on which summand comes first. -/
theorem sumX_comm : sumX d x₁ y₁ x₂ y₂ = sumX d x₂ y₂ x₁ y₁ := by
  unfold sumX
  ring_nf

/-- Nor does the ordinate. -/
theorem sumY_comm : sumY d x₁ y₁ x₂ y₂ = sumY d x₂ y₂ x₁ y₁ := by
  unfold sumY
  ring_nf

/-- If a denominator of the addition law vanishes, the coefficient is a square, unless the second
point lies on a diagonal. -/
theorem isSquare_of_product {i sign : F} (root : i ^ 2 = -1) (unit : sign ^ 2 = 1)
    (on₁ : OnCurve d x₁ y₁) (on₂ : OnCurve d x₂ y₂) (product : d * x₁ * x₂ * y₁ * y₂ = sign)
    (apart : i * x₂ + y₂ ≠ 0) : IsSquare d := by
  have sign_ne_zero : sign ≠ 0 := by
    rintro rfl
    simp at unit
  have nonzero : x₁ * y₁ ≠ 0 := by
    intro zero
    refine sign_ne_zero ?_
    linear_combination d * x₂ * y₂ * zero - product
  have squares : (i * x₁ + sign * y₁) ^ 2 = d * (x₁ * y₁) ^ 2 * (i * x₂ + y₂) ^ 2 := by
    unfold OnCurve at on₁ on₂
    linear_combination (x₁ ^ 2 - d * x₁ ^ 2 * y₁ ^ 2 * x₂ ^ 2) * root + on₁ + (y₁ ^ 2 - 1) * unit
      - d * x₁ ^ 2 * y₁ ^ 2 * on₂
      - (2 * i * x₁ * y₁ + d * x₁ * x₂ * y₁ * y₂ + sign) * product
  refine ⟨(i * x₁ + sign * y₁) / (x₁ * y₁ * (i * x₂ + y₂)), ?_⟩
  rw [← sq, div_pow, eq_div_iff (pow_ne_zero 2 (mul_ne_zero nonzero apart))]
  linear_combination -squares

/-- A coefficient with which the addition law has no exceptions. -/
structure IsComplete (d : F) : Prop where
  /-- It is no square. -/
  not_isSquare : ¬IsSquare d
  /-- Minus one is a square. -/
  exists_root : ∃ i : F, i ^ 2 = -1
  /-- The characteristic is not two. -/
  two_ne_zero : (2 : F) ≠ 0

/-- With such a coefficient no product of coordinates is a unit of the denominators. -/
theorem IsComplete.product_ne (complete : IsComplete d) (on₁ : OnCurve d x₁ y₁)
    (on₂ : OnCurve d x₂ y₂) {sign : F} (unit : sign ^ 2 = 1) :
    d * x₁ * x₂ * y₁ * y₂ ≠ sign := by
  intro product
  obtain ⟨i, root⟩ := complete.exists_root
  have opposite : (-i) ^ 2 = -1 := by rw [neg_sq, root]
  -- A point on both diagonals has the ordinate zero.
  by_cases first : i * x₂ + y₂ = 0
  · by_cases second : -i * x₂ + y₂ = 0
    · have twice : 2 * y₂ = 0 := by linear_combination first + second
      have zero : y₂ = 0 := (mul_eq_zero.1 twice).resolve_left complete.two_ne_zero
      rw [zero, mul_zero] at product
      rw [← product] at unit
      simp at unit
    · exact complete.not_isSquare (isSquare_of_product opposite unit on₁ on₂ product second)
  · exact complete.not_isSquare (isSquare_of_product root unit on₁ on₂ product first)

/-- The denominator of the abscissa of a sum. -/
theorem IsComplete.one_add_ne_zero (complete : IsComplete d) (on₁ : OnCurve d x₁ y₁)
    (on₂ : OnCurve d x₂ y₂) : 1 + d * x₁ * x₂ * y₁ * y₂ ≠ 0 := by
  intro zero
  refine complete.product_ne on₁ on₂ (neg_one_sq) ?_
  linear_combination zero

/-- The denominator of the ordinate of a sum. -/
theorem IsComplete.one_sub_ne_zero (complete : IsComplete d) (on₁ : OnCurve d x₁ y₁)
    (on₂ : OnCurve d x₂ y₂) : 1 - d * x₁ * x₂ * y₁ * y₂ ≠ 0 := by
  intro zero
  refine complete.product_ne on₁ on₂ (one_pow 2) ?_
  linear_combination -zero

/-! ## Fractions on the curve -/

variable {n m p q : F}

/-- Fractions lie on the curve if the equation holds without denominators. -/
theorem onCurve_div (left : p ≠ 0) (right : q ≠ 0)
    (cleared : m ^ 2 * p ^ 2 - n ^ 2 * q ^ 2 = p ^ 2 * q ^ 2 + d * n ^ 2 * m ^ 2) :
    OnCurve d (n / p) (m / q) := by
  unfold OnCurve
  field_simp
  linear_combination cleared

/-- The sum of two points of the curve lies on it. -/
theorem IsComplete.onCurve_sum (complete : IsComplete d) (on₁ : OnCurve d x₁ y₁)
    (on₂ : OnCurve d x₂ y₂) : OnCurve d (sumX d x₁ y₁ x₂ y₂) (sumY d x₁ y₁ x₂ y₂) := by
  refine onCurve_div (complete.one_add_ne_zero on₁ on₂) (complete.one_sub_ne_zero on₁ on₂) ?_
  unfold OnCurve at on₁ on₂
  linear_combination
    (d ^ 3 * x₁ ^ 2 * y₁ ^ 2 * x₂ ^ 4 * y₂ ^ 4 + d * x₁ ^ 2 * x₂ ^ 2 * y₂ ^ 4
      - d * y₁ ^ 2 * x₂ ^ 2 * y₂ ^ 4 - d * x₁ ^ 2 * x₂ ^ 4 * y₂ ^ 2 + d * y₁ ^ 2 * x₂ ^ 4 * y₂ ^ 2
      + 2 * d * x₂ ^ 4 * y₂ ^ 2 - 2 * d * x₂ ^ 2 * y₂ ^ 4 - d ^ 2 * x₁ ^ 2 * x₂ ^ 4 * y₂ ^ 4
      + d ^ 2 * y₁ ^ 2 * x₂ ^ 4 * y₂ ^ 4 + d ^ 2 * x₂ ^ 4 * y₂ ^ 4 + 2 * d * x₂ ^ 4 * y₂ ^ 4
      + 2 * x₂ ^ 4 * y₂ ^ 2 + x₂ ^ 4 - 2 * x₂ ^ 2 * y₂ ^ 4 + y₂ ^ 4) * on₁
    + (-2 * d ^ 2 * x₁ ^ 2 * y₁ ^ 2 * x₂ ^ 2 * y₂ ^ 2 - 4 * d * x₁ ^ 2 * y₁ ^ 2 * x₂ ^ 2 * y₂ ^ 2
      - d * x₂ ^ 2 * y₂ ^ 2 - 2 * x₁ ^ 2 * x₂ ^ 2 * y₂ ^ 2 + 2 * y₁ ^ 2 * x₂ ^ 2 * y₂ ^ 2
      - 2 * x₂ ^ 2 * y₂ ^ 2 + d * x₁ ^ 4 * x₂ ^ 2 * y₂ ^ 2 + d * y₁ ^ 4 * x₂ ^ 2 * y₂ ^ 2
      - x₁ ^ 2 * x₂ ^ 2 + x₁ ^ 2 * y₂ ^ 2 + y₁ ^ 2 * x₂ ^ 2 - y₁ ^ 2 * y₂ ^ 2 - x₂ ^ 2 + y₂ ^ 2
      + 1) * on₂

/-- The abscissa of a sum with fractions, as one fraction. -/
theorem sumX_div (left : p ≠ 0) (right : q ≠ 0) (x y : F) :
    sumX d (n / p) (m / q) x y = (n * q * y + m * p * x) / (p * q + d * n * m * x * y) := by
  rw [sumX, ← mul_div_mul_left _ _ (mul_ne_zero left right)]
  congr 1 <;> field_simp

/-- The ordinate of a sum with fractions, as one fraction. -/
theorem sumY_div (left : p ≠ 0) (right : q ≠ 0) (x y : F) :
    sumY d (n / p) (m / q) x y = (m * p * y + n * q * x) / (p * q - d * n * m * x * y) := by
  rw [sumY, ← mul_div_mul_left _ _ (mul_ne_zero left right)]
  congr 1 <;> field_simp

/-- The denominator of the abscissa of a sum with fractions. -/
theorem IsComplete.add_ne_zero (complete : IsComplete d) (left : p ≠ 0) (right : q ≠ 0)
    (on₁ : OnCurve d (n / p) (m / q)) (on₂ : OnCurve d x₂ y₂) :
    p * q + d * n * m * x₂ * y₂ ≠ 0 := by
  have nonzero := mul_ne_zero (mul_ne_zero left right) (complete.one_add_ne_zero on₁ on₂)
  convert nonzero using 1
  field_simp

/-- The denominator of the ordinate of a sum with fractions. -/
theorem IsComplete.sub_ne_zero (complete : IsComplete d) (left : p ≠ 0) (right : q ≠ 0)
    (on₁ : OnCurve d (n / p) (m / q)) (on₂ : OnCurve d x₂ y₂) :
    p * q - d * n * m * x₂ * y₂ ≠ 0 := by
  have nonzero := mul_ne_zero (mul_ne_zero left right) (complete.one_sub_ne_zero on₁ on₂)
  convert nonzero using 1
  field_simp

/-- Either way of adding three points has the same abscissa. -/
theorem IsComplete.sumX_assoc (complete : IsComplete d) (on₁ : OnCurve d x₁ y₁)
    (on₂ : OnCurve d x₂ y₂) (on₃ : OnCurve d x₃ y₃) :
    sumX d (sumX d x₁ y₁ x₂ y₂) (sumY d x₁ y₁ x₂ y₂) x₃ y₃ =
      sumX d x₁ y₁ (sumX d x₂ y₂ x₃ y₃) (sumY d x₂ y₂ x₃ y₃) := by
  have plus := complete.one_add_ne_zero on₁ on₂
  have minus := complete.one_sub_ne_zero on₁ on₂
  have plusToo := complete.one_add_ne_zero on₂ on₃
  have minusToo := complete.one_sub_ne_zero on₂ on₃
  have nonzero := complete.add_ne_zero plus minus (complete.onCurve_sum on₁ on₂) on₃
  have nonzeroToo := complete.add_ne_zero plusToo minusToo (complete.onCurve_sum on₂ on₃) on₁
  rw [@sumX_comm _ _ d x₁ y₁ (sumX d x₂ y₂ x₃ y₃)]
  unfold OnCurve at on₁ on₂ on₃
  refine (sumX_div plus minus x₃ y₃).trans (Eq.trans ?_ (sumX_div plusToo minusToo x₁ y₁).symm)
  rw [div_eq_div_iff nonzero nonzeroToo]
  linear_combination
    ((d * x₂ * x₃ * y₂ * y₃) ^ 2 * ((x₁ * y₂ + y₁ * x₂) * y₃ + (y₁ * y₂ + x₁ * x₂) * x₃)
      - (d * x₂ * x₃ * y₂ * y₃) * ((x₂ * y₃ + y₂ * x₃) * y₁ - (y₂ * y₃ + x₂ * x₃) * x₁)) * on₁
    + d ^ 2 * x₁ * y₁ * x₂ * y₂ * x₃ * y₃
      * (x₁ * y₁ * ((x₂ * y₃ + y₂ * x₃) * y₁ - (y₂ * y₃ + x₂ * x₃) * x₁)
        - x₃ * y₃ * ((x₁ * y₂ + y₁ * x₂) * y₃ - (y₁ * y₂ + x₁ * x₂) * x₃)) * on₂
    + ((d * x₁ * x₂ * y₁ * y₂) * ((x₁ * y₂ + y₁ * x₂) * y₃ - (y₁ * y₂ + x₁ * x₂) * x₃)
      - (d * x₁ * x₂ * y₁ * y₂) ^ 2 * ((x₁ * y₂ + y₁ * x₂) * y₃ + (y₁ * y₂ + x₁ * x₂) * x₃)) * on₃

/-- Either way of adding three points has the same ordinate. -/
theorem IsComplete.sumY_assoc (complete : IsComplete d) (on₁ : OnCurve d x₁ y₁)
    (on₂ : OnCurve d x₂ y₂) (on₃ : OnCurve d x₃ y₃) :
    sumY d (sumX d x₁ y₁ x₂ y₂) (sumY d x₁ y₁ x₂ y₂) x₃ y₃ =
      sumY d x₁ y₁ (sumX d x₂ y₂ x₃ y₃) (sumY d x₂ y₂ x₃ y₃) := by
  have plus := complete.one_add_ne_zero on₁ on₂
  have minus := complete.one_sub_ne_zero on₁ on₂
  have plusToo := complete.one_add_ne_zero on₂ on₃
  have minusToo := complete.one_sub_ne_zero on₂ on₃
  have nonzero := complete.sub_ne_zero plus minus (complete.onCurve_sum on₁ on₂) on₃
  have nonzeroToo := complete.sub_ne_zero plusToo minusToo (complete.onCurve_sum on₂ on₃) on₁
  rw [@sumY_comm _ _ d x₁ y₁ (sumX d x₂ y₂ x₃ y₃)]
  unfold OnCurve at on₁ on₂ on₃
  refine (sumY_div plus minus x₃ y₃).trans (Eq.trans ?_ (sumY_div plusToo minusToo x₁ y₁).symm)
  rw [div_eq_div_iff nonzero nonzeroToo]
  linear_combination
    ((d * x₂ * x₃ * y₂ * y₃) ^ 2 * ((y₁ * y₂ + x₁ * x₂) * y₃ + (x₁ * y₂ + y₁ * x₂) * x₃)
      + (d * x₂ * x₃ * y₂ * y₃) * ((y₂ * y₃ + x₂ * x₃) * y₁ - (x₂ * y₃ + y₂ * x₃) * x₁)) * on₁
    + d ^ 2 * (x₁ ^ 3 * y₁ ^ 2 * x₂ ^ 2 * y₂ * x₃ * y₃ ^ 2
        + x₁ ^ 3 * y₁ ^ 2 * x₂ * y₂ ^ 2 * x₃ ^ 2 * y₃ - x₁ ^ 2 * y₁ ^ 3 * x₂ ^ 2 * y₂ * x₃ ^ 2 * y₃
        - x₁ ^ 2 * y₁ ^ 3 * x₂ * y₂ ^ 2 * x₃ * y₃ ^ 2 + x₁ ^ 2 * y₁ * x₂ ^ 2 * y₂ * x₃ ^ 2 * y₃ ^ 3
        - x₁ ^ 2 * y₁ * x₂ * y₂ ^ 2 * x₃ ^ 3 * y₃ ^ 2 - x₁ * y₁ ^ 2 * x₂ ^ 2 * y₂ * x₃ ^ 3 * y₃ ^ 2
        + x₁ * y₁ ^ 2 * x₂ * y₂ ^ 2 * x₃ ^ 2 * y₃ ^ 3) * on₂
    - ((d * x₁ * x₂ * y₁ * y₂) * ((y₁ * y₂ + x₁ * x₂) * y₃ - (x₁ * y₂ + y₁ * x₂) * x₃)
      + (d * x₁ * x₂ * y₁ * y₂) ^ 2 * ((y₁ * y₂ + x₁ * x₂) * y₃ + (x₁ * y₂ + y₁ * x₂) * x₃)) * on₃

end Law

/-! ## The group -/

/-- The coefficient of the curve admits the addition law without exceptions. -/
theorem isComplete_coefficientD : IsComplete (coefficientD : Coordinate) where
  not_isSquare := not_isSquare_coefficientD
  exists_root := ⟨rootOfMinusOne, rootOfMinusOne_sq⟩
  two_ne_zero := Ring.two_ne_zero ringChar_ne_two

/-- A point of the curve. -/
@[ext]
structure Affine where
  /-- The abscissa. -/
  x : Coordinate
  /-- The ordinate. -/
  y : Coordinate
  /-- The point lies on the curve. -/
  on : OnCurve (coefficientD : Coordinate) x y

namespace Affine

instance : Add Affine where
  add p q := ⟨_, _, isComplete_coefficientD.onCurve_sum p.on q.on⟩

instance : Zero Affine where
  zero := ⟨0, 1, by simp [OnCurve]⟩

instance : Neg Affine where
  neg p := ⟨-p.x, p.y, by simpa [OnCurve] using p.on⟩

variable (p q : Affine)

/-- The abscissa of a sum is that of the addition law. -/
theorem add_x : (p + q).x = sumX (coefficientD : Coordinate) p.x p.y q.x q.y := rfl

/-- The ordinate of a sum is that of the addition law. -/
theorem add_y : (p + q).y = sumY (coefficientD : Coordinate) p.x p.y q.x q.y := rfl

/-- The neutral point has no abscissa. -/
@[simp]
theorem zero_x : (0 : Affine).x = 0 := rfl

/-- The neutral point stands one above the origin. -/
@[simp]
theorem zero_y : (0 : Affine).y = 1 := rfl

/-- The opposite point lies on the other side of the axis. -/
@[simp]
theorem neg_x : (-p).x = -p.x := rfl

/-- The opposite point has the same ordinate. -/
@[simp]
theorem neg_y : (-p).y = p.y := rfl

/-- Points are added commutatively. -/
protected theorem add_comm : p + q = q + p := Affine.ext sumX_comm sumY_comm

/-- The neutral point lies on the axis of the ordinates. -/
protected theorem zero_add : 0 + p = p := by
  ext <;> simp [add_x, add_y, sumX, sumY]

/-- The opposite point cancels a point. -/
protected theorem neg_add_cancel : -p + p = 0 := by
  have on := p.on
  have nonzero := isComplete_coefficientD.one_sub_ne_zero (-p).on p.on
  ext
  · simp [add_x, sumX, mul_comm]
  · rw [add_y, sumY, zero_y, div_eq_one_iff_eq nonzero]
    unfold OnCurve at on
    simp only [neg_x, neg_y]
    linear_combination on

instance : AddCommGroup Affine where
  add_assoc p q r := Affine.ext (isComplete_coefficientD.sumX_assoc p.on q.on r.on)
    (isComplete_coefficientD.sumY_assoc p.on q.on r.on)
  zero_add := Affine.zero_add
  add_zero p := (Affine.add_comm p 0).trans (Affine.zero_add p)
  neg_add_cancel := Affine.neg_add_cancel
  add_comm := Affine.add_comm
  nsmul := nsmulRec
  zsmul := zsmulRec

end Affine

end OpenBanking.Ed25519
