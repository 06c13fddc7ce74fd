/-!
# Blocks of octets

What the digests share: numbers as octets, most significant first, messages cut into
blocks, and the padding that marks the end and the length of a message.
-/

namespace OpenBanking.Digest.Block

/-- The number that octets denote, most significant first. -/
def bigEndian (octets : List UInt8) : Nat := octets.foldl (fun n octet => 256 * n + octet.toNat) 0

/-- The number that octets denote, least significant first. -/
def littleEndian (octets : List UInt8) : Nat :=
  octets.foldr (fun octet n => octet.toNat + 256 * n) 0

/-- The last `count` octets of a number, least significant first. -/
def littleOctets : (count : Nat) → (n : Nat) → List UInt8
  | 0, _ => []
  | count + 1, n => UInt8.ofNat n :: littleOctets count (n / 256)

/-- The last `count` octets of a number, most significant first. -/
def octets (count n : Nat) : List UInt8 := (littleOctets count n).reverse

/-- A list has as many octets as were asked for. -/
theorem length_littleOctets (count n : Nat) : (littleOctets count n).length = count := by
  induction count generalizing n with
  | zero => rfl
  | succ count ih => simp [littleOctets, ih]

/-- Enough octets of a number denote it. -/
theorem littleEndian_littleOctets {count n : Nat} (enough : n < Nat.pow 256 count) :
    littleEndian (littleOctets count n) = n := by
  induction count generalizing n with
  | zero =>
    obtain rfl : n = 0 := Nat.lt_one_iff.1 enough
    rfl
  | succ count ih =>
    have later : n / 256 < Nat.pow 256 count := Nat.div_lt_of_lt_mul (Nat.mul_comm _ 256 ▸ enough)
    have last : (UInt8.ofNat n).toNat = n % 256 := by simp
    change (UInt8.ofNat n).toNat + 256 * littleEndian (littleOctets count (n / 256)) = n
    rw [ih later, last]
    omega

/-- A list has as many octets as were asked for. -/
theorem length_octets (count n : Nat) : (octets count n).length = count := by
  simp [octets, length_littleOctets]

/-- Consecutive pieces of `size` octets, the last one shorter if need be. No list has more
pieces than octets, which `steps` counts. -/
def pieces (size : Nat) : (steps : Nat) → List UInt8 → List (List UInt8)
  | 0, _ => []
  | _ + 1, [] => []
  | steps + 1, x :: rest =>
    (x :: rest).take size :: pieces size steps ((x :: rest).drop size)

/-- Consecutive pieces of `size` octets. -/
def chunks (size : Nat) (s : List UInt8) : List (List UInt8) := pieces size s.length s

/-- The message, a mark, zeros up to a whole block, and at its end the length in bits. -/
def pad (blockSize lengthSize : Nat) (message : List UInt8) : List UInt8 :=
  let tail := (message.length + 1 + lengthSize) % blockSize
  let zeros := if tail = 0 then 0 else blockSize - tail
  message ++ 0x80 :: List.replicate zeros 0 ++ octets lengthSize (8 * message.length)

end OpenBanking.Digest.Block
