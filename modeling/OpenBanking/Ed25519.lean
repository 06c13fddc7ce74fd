import OpenBanking.Digest.Sha512
import OpenBanking.Power

/-!
# Ed25519 signatures

Signatures over the twisted Edwards curve `-x² + y² = 1 + d·x²·y²` modulo `2 ^ 255 - 19`.
A signature is a point and a scalar; it is verified by computing the point again, and the
scalar has to be reduced. Points are read leniently: an ordinate beyond the modulus is
reduced, and the sign of a zero abscissa is ignored.
-/

namespace OpenBanking.Ed25519

open Digest.Block (littleEndian littleOctets)

/-- The modulus of the coordinates. -/
def modulus : Nat := Nat.pow 2 255 - 19

/-- The order of the base point. -/
def order : Nat := Nat.pow 2 252 + 27742317777372353535851937790883648493

/-- The coefficient of the curve. -/
def coefficientD : Nat :=
  37095705934669439343138083508754565189542113879843219016388785533085940283555

/-- A square root of minus one. -/
def rootOfMinusOne : Nat :=
  19681161376707505956807079304988542015446066515923890162744021073123829784752

/-- The difference of two coordinates. -/
def sub (x y : Nat) : Nat := (x + modulus - y) % modulus

/-- The product of two coordinates. -/
def mul (x y : Nat) : Nat := x * y % modulus

/-- A point in extended coordinates: `x = X / Z`, `y = Y / Z`, `x · y = T / Z`. -/
structure Point where
  /-- Scaled abscissa. -/
  X : Nat
  /-- Scaled ordinate. -/
  Y : Nat
  /-- The scale. -/
  Z : Nat
  /-- Scaled product of abscissa and ordinate. -/
  T : Nat
deriving DecidableEq

/-- The neutral point. -/
def neutral : Point := ⟨0, 1, 1, 0⟩

/-- The point of an abscissa and an ordinate. -/
def affine (x y : Nat) : Point := ⟨x, y, 1, mul x y⟩

/-- The base point. -/
def base : Point :=
  affine 15112221349535400772501151409588531511454012693041857206046113283949847762202
    46316835694926478169428394003475163141307993866256225615783033603165251855960

/-- The sum of two points. -/
def add (p q : Point) : Point :=
  let a := mul (sub p.Y p.X) (sub q.Y q.X)
  let b := mul (p.Y + p.X) (q.Y + q.X)
  let c := mul (mul (2 * p.T) q.T) coefficientD
  let d := mul (2 * p.Z) q.Z
  let e := sub b a
  let f := sub d c
  let g := d + c
  let h := b + a
  ⟨mul e f, mul g h, mul f g, mul e h⟩

/-- Twice a point. -/
def double (p : Point) : Point :=
  let a := mul p.X p.X
  let b := mul p.Y p.Y
  let c := mul (2 * p.Z) p.Z
  let h := (a + b) % modulus
  let e := sub h (mul (p.X + p.Y) (p.X + p.Y))
  let g := sub a b
  let f := (c + g) % modulus
  ⟨mul e f, mul g h, mul f g, mul e h⟩

/-- The point with the opposite abscissa. -/
def negate (p : Point) : Point := ⟨sub 0 p.X, p.Y, p.Z, sub 0 p.T⟩

/-- A multiple of a point, by the lowest `bits` bits of the factor. -/
def multipleBits (p : Point) : (bits : Nat) → (factor : Nat) → Point
  | 0, _ => neutral
  | bits + 1, factor =>
    let half := double (multipleBits p bits (factor / 2))
    if factor % 2 = 0 then half else add half p

/-- A multiple of a point. -/
def multiple (factor : Nat) (p : Point) : Point :=
  multipleBits p (Nat.log2 factor + 1) factor

/-- The thirty-two octets of a point: its ordinate, and the lowest bit of its abscissa on
top. -/
def encodePoint (p : Point) : List UInt8 :=
  let scale := powerMod p.Z (modulus - 2) modulus
  let x := mul p.X scale
  let y := mul p.Y scale
  littleOctets 32 (y + x % 2 * Nat.pow 2 255)

/-- The even square root of `u / v`, if there is one. -/
def rootOfQuotient? (u v : Nat) : Option Nat :=
  let v3 := mul (mul v v) v
  let v7 := mul (mul v3 v3) v
  let r := mul (mul u v3) (powerMod (mul u v7) ((modulus - 5) / 8) modulus)
  let check := mul v (mul r r)
  let root? :=
    if check = u then some r
    else if check = sub 0 u then some (mul r rootOfMinusOne)
    else none
  root?.map fun root => if root % 2 = 0 then root else sub 0 root

/-- The point that thirty-two octets denote. -/
def decodePoint? (octets : List UInt8) : Option Point :=
  let n := littleEndian octets
  let y := n % Nat.pow 2 255 % modulus
  let yy := mul y y
  (rootOfQuotient? (sub yy 1) ((mul coefficientD yy + 1) % modulus)).map fun x =>
    affine (if n / Nat.pow 2 255 % 2 = 0 then x else sub 0 x) y

/-- A digest as a scalar. -/
def scalarOf (octets : List UInt8) : Nat := littleEndian (Digest.Sha512.hash octets) % order

/-- The secret scalar of a seed: the first half of its digest, three low bits cleared and
the highest bit but one set. -/
def secretScalar (seed : List UInt8) : Nat :=
  let n := littleEndian ((Digest.Sha512.hash seed).take 32)
  n % Nat.pow 2 254 / 8 * 8 + Nat.pow 2 254

/-- The octets of the public key of a seed. -/
def publicKey (seed : List UInt8) : List UInt8 := encodePoint (multiple (secretScalar seed) base)

/-- The signature of a message by a seed whose public key is given. -/
def sign (seed publicOctets message : List UInt8) : List UInt8 :=
  let r := scalarOf ((Digest.Sha512.hash seed).drop 32 ++ message)
  let commitment := encodePoint (multiple r base)
  let k := scalarOf (commitment ++ publicOctets ++ message)
  commitment ++ littleOctets 32 ((r + k * secretScalar seed) % order)

/-- Whether a signature of sixty-four octets covers a message under a public key. -/
def verify (publicOctets message signature : List UInt8) : Bool :=
  match decodePoint? publicOctets with
  | none => false
  | some key =>
    let commitment := signature.take 32
    let s := littleEndian (signature.drop 32)
    let k := scalarOf (commitment ++ publicOctets ++ message)
    s < order &&
      encodePoint (add (multiple s base) (multiple k (negate key))) = commitment

end OpenBanking.Ed25519
