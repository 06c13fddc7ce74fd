import Mathlib.NumberTheory.LegendreSymbol.Basic
import Mathlib.Tactic.NormNum.Prime
import OpenBanking.Ed25519
import OpenBanking.Proofs.Power

/-!
# The field of the coordinates

The modulus is prime, so the coordinates are a field. In it minus one is a square and the
coefficient of the curve is none, which powers tell that are computed. What is computed with
coordinates below the modulus is what the field says.
-/

namespace OpenBanking.Ed25519

/-! ## The modulus is prime -/

/-- The prime that is the largest factor but one of the order of the field. -/
theorem prime_of_thirty_five_digits : Nat.Prime 75445702479781427272750846543864801 := by
  have middle : Nat.Prime 2773320623 :=
    prime_of_generates 5 [2, 2437, 569003] (by norm_num) (by norm_num) (by norm_num)
      (by decide +kernel)
  have large : Nat.Prime 72106336199 := by
    refine prime_of_generates 7 [2, 13, 2773320623] (by norm_num) ?_ (by norm_num)
      (by decide +kernel)
    simp only [List.forall_mem_cons]
    exact ⟨by norm_num, by norm_num, middle, nofun⟩
  have larger : Nat.Prime 1919519569386763 :=
    prime_of_generates 2 [2, 3, 7, 19, 47, 47, 127, 8574133] (by norm_num) (by norm_num)
      (by norm_num) (by decide +kernel)
  refine prime_of_generates 7 [2, 2, 2, 2, 2, 3, 3, 5, 5, 75707, 72106336199, 1919519569386763]
    (by norm_num) ?_ (by norm_num) (by decide +kernel)
  have small : ∀ factor ∈ [2, 2, 2, 2, 2, 3, 3, 5, 5, 75707], Nat.Prime factor := by norm_num
  simp only [List.forall_mem_cons] at small ⊢
  simpa [large, larger] using small

/-- The modulus is prime: two generates its units, as the prime factors of its predecessor show. -/
theorem prime_modulus : modulus.Prime := by
  have large : Nat.Prime 31757755568855353 :=
    prime_of_generates 10 [2, 2, 2, 3, 31, 107, 223, 4153, 430751] (by norm_num) (by norm_num)
      (by norm_num) (by decide +kernel)
  have larger : Nat.Prime
      74058212732561358302231226437062788676166966415465897661863160754340907 := by
    refine prime_of_generates 2
      [2, 3, 353, 57467, 132049, 1923133, 31757755568855353, 75445702479781427272750846543864801]
      (by norm_num) ?_ (by norm_num) (by decide +kernel)
    have small : ∀ factor ∈ [2, 3, 353, 57467, 132049, 1923133], Nat.Prime factor := by norm_num
    simp only [List.forall_mem_cons] at small ⊢
    simpa [large, prime_of_thirty_five_digits] using small
  refine prime_of_generates 2
    [2, 2, 3, 65147, 74058212732561358302231226437062788676166966415465897661863160754340907]
    (by decide +kernel) ?_ (by decide +kernel) (by decide +kernel)
  have small : ∀ factor ∈ [2, 2, 3, 65147], Nat.Prime factor := by norm_num
  simp only [List.forall_mem_cons] at small ⊢
  simpa [larger] using small

instance : Fact modulus.Prime := ⟨prime_modulus⟩

/-- The modulus is positive. -/
theorem modulus_pos : 0 < modulus := prime_modulus.pos

/-! ## Computed coordinates -/

/-- The field of the coordinates. -/
abbrev Coordinate : Type := ZMod modulus

/-- Computed products are reduced. -/
theorem mul_lt (x y : Nat) : mul x y < modulus := Nat.mod_lt _ modulus_pos

/-- Computed differences are reduced. -/
theorem sub_lt (x y : Nat) : sub x y < modulus := Nat.mod_lt _ modulus_pos

/-- A computed product is one in the field. -/
@[simp]
theorem cast_mul (x y : Nat) : (mul x y : Coordinate) = x * y := by
  rw [mul, ZMod.natCast_mod, Nat.cast_mul]

/-- A difference is one if the subtrahend is not beyond the modulus. -/
theorem cast_sub (x : Nat) {y : Nat} (reduced : y ≤ modulus) :
    (sub x y : Coordinate) = x - y := by
  rw [sub, ZMod.natCast_mod, Nat.cast_sub (by omega), Nat.cast_add, ZMod.natCast_self, add_zero]

/-- Reduced numbers are equal if the field takes them for equal. -/
theorem eq_of_cast_eq {x y : Nat} (left : x < modulus) (right : y < modulus)
    (same : (x : Coordinate) = y) : x = y := by
  rwa [ZMod.natCast_eq_natCast_iff', Nat.mod_eq_of_lt left, Nat.mod_eq_of_lt right] at same

/-- Minus one has a square root. -/
theorem rootOfMinusOne_sq : (rootOfMinusOne : Coordinate) ^ 2 = -1 := by
  have computed : mul rootOfMinusOne rootOfMinusOne = sub 0 1 := by decide +kernel
  rw [sq, ← cast_mul, computed, cast_sub 0 modulus_pos, Nat.cast_zero, Nat.cast_one, zero_sub]

/-- The characteristic is not two. -/
theorem ringChar_ne_two : ringChar Coordinate ≠ 2 := by
  have two : modulus ≠ 2 := by decide +kernel
  rwa [ZMod.ringChar_zmod_n]

/-- The coefficient of the curve has none. -/
theorem not_isSquare_coefficientD : ¬IsSquare (coefficientD : Coordinate) := by
  have computed : powerMod coefficientD (modulus / 2) modulus = sub 0 1 := by decide +kernel
  have power : (coefficientD : Coordinate) ^ (modulus / 2) = -1 := by
    rw [← cast_powerMod, computed, cast_sub 0 modulus_pos, Nat.cast_zero, Nat.cast_one, zero_sub]
  have nonzero : (coefficientD : Coordinate) ≠ 0 := by
    intro zero
    rw [zero, zero_pow (by decide +kernel)] at power
    exact absurd power (by simp)
  rw [ZMod.euler_criterion modulus nonzero, power]
  exact Ring.neg_one_ne_one_of_char_ne_two ringChar_ne_two

end OpenBanking.Ed25519
