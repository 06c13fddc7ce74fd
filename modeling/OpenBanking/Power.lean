/-!
# Powers modulo a number

Raising to a power by squaring, and the inverse of a number.
-/

namespace OpenBanking

/-- `base ^ exponent` modulo `modulus`, by the lowest `bits` bits of the exponent. -/
def powerBits (modulus : Nat) : (bits : Nat) → (base exponent : Nat) → Nat
  | 0, _, _ => 1 % modulus
  | bits + 1, base, exponent =>
    let later := powerBits modulus bits (base * base % modulus) (exponent / 2)
    if exponent % 2 = 0 then later else base * later % modulus

/-- `base ^ exponent` modulo `modulus`. -/
def powerMod (base exponent modulus : Nat) : Nat :=
  powerBits modulus (Nat.log2 exponent + 1) (base % modulus) exponent

/-- The coefficient of `a` in a combination of `a` and `b` that gives their greatest common
divisor, which comes with it. At most `steps` divisions are made. -/
def coefficient : (steps : Nat) → (a b : Nat) → (x y : Int) → Nat × Int
  | 0, a, _, x, _ => (a, x)
  | steps + 1, a, b, x, y =>
    if b = 0 then (a, x) else coefficient steps b (a % b) y (x - (a / b : Nat) * y)

/-- The number whose product with `a` is one modulo `modulus`, if there is one. -/
def inverse? (a modulus : Nat) : Option Nat :=
  let (divisor, x) := coefficient (2 * Nat.log2 modulus + 4) (a % modulus) modulus 1 0
  if divisor = 1 then some (x.emod modulus).toNat else none

end OpenBanking
