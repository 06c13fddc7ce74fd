import Mathlib.NumberTheory.LucasPrimality
import OpenBanking.Power

/-!
# Powers modulo a number are powers

Squaring takes an exponent apart bit by bit, and what it gives is the power. So the residues that
Lucas asks for can be computed: a number is prime if some residue has exactly the order that only a
prime allows, which one power for each prime factor of its predecessor shows.
-/

namespace OpenBanking

/-- Squaring through enough bits gives the power. -/
theorem powerBits_eq (modulus : Nat) {bits exponent : Nat} (enough : exponent < 2 ^ bits)
    (base : Nat) : powerBits modulus bits base exponent = base ^ exponent % modulus := by
  induction bits generalizing base exponent with
  | zero =>
    obtain rfl : exponent = 0 := by simpa using enough
    rw [powerBits, pow_zero]
  | succ bits ih =>
    have half : exponent / 2 < 2 ^ bits := by
      rw [pow_succ] at enough
      omega
    have squares : (base * base % modulus) ^ (exponent / 2) % modulus =
        base ^ (2 * (exponent / 2)) % modulus := by
      rw [← Nat.pow_mod, pow_mul, sq]
    rw [powerBits, ih half, squares]
    by_cases even : exponent % 2 = 0
    · rw [if_pos even, Nat.mul_div_cancel' (Nat.dvd_of_mod_eq_zero even)]
    · have odd : 2 * (exponent / 2) + 1 = exponent := by omega
      rw [if_neg even, Nat.mul_mod_mod, ← pow_succ', odd]

/-- What is computed as a power is the power. -/
theorem powerMod_eq (base exponent modulus : Nat) :
    powerMod base exponent modulus = base ^ exponent % modulus := by
  rw [powerMod, powerBits_eq modulus Nat.lt_log2_self, ← Nat.pow_mod]

/-- As residues, what is computed is the power. -/
theorem cast_powerMod (base exponent modulus : Nat) :
    (powerMod base exponent modulus : ZMod modulus) = (base : ZMod modulus) ^ exponent := by
  rw [powerMod_eq, ZMod.natCast_mod, Nat.cast_pow]

/-- A residue has the order of all residues but zero: its power by the predecessor of the number is
one, and no power by a part of the predecessor is. -/
def generates (modulus base : Nat) (factors : List Nat) : Bool :=
  powerMod base (modulus - 1) modulus = 1 &&
    factors.all fun factor => powerMod base ((modulus - 1) / factor) modulus ≠ 1

/-- A number is prime if its predecessor is a product of primes that leave a residue its order. -/
theorem prime_of_generates {n : Nat} (base : Nat) (factors : List Nat) (above : 1 < n)
    (primes : ∀ factor ∈ factors, factor.Prime) (product : factors.prod = n - 1)
    (order : generates n base factors = true) : n.Prime := by
  have cast_eq_one (exponent : Nat) :
      (base : ZMod n) ^ exponent = 1 ↔ powerMod base exponent n = 1 := by
    rw [powerMod_eq, ← Nat.cast_pow, ← Nat.cast_one, ZMod.natCast_eq_natCast_iff',
      Nat.mod_eq_of_lt above]
  simp only [generates, Bool.and_eq_true, decide_eq_true_eq, List.all_eq_true, ne_eq] at order
  refine lucas_primality n (base : ZMod n) ((cast_eq_one _).2 order.1) fun q prime divides => ?_
  -- A prime that divides the predecessor is one of its factors.
  rw [← product] at divides
  obtain ⟨factor, listed, dividesFactor⟩ := (Prime.dvd_prod_iff prime.prime).1 divides
  obtain rfl := (Nat.prime_dvd_prime_iff_eq prime (primes factor listed)).1 dividesFactor
  exact mt (cast_eq_one _).1 (order.2 q listed)

end OpenBanking
