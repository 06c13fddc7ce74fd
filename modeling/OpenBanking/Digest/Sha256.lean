import OpenBanking.Digest.Block
import OpenBanking.Text.Base64url

/-!
# SHA-256

Sixty-four rounds over words of thirty-two bits; blocks of 64 octets, digests of 32.
-/

namespace OpenBanking.Digest.Sha256

/-- The eight words that blocks are compressed into. -/
structure State where
  /-- First word. -/
  a : UInt32
  /-- Second word. -/
  b : UInt32
  /-- Third word. -/
  c : UInt32
  /-- Fourth word. -/
  d : UInt32
  /-- Fifth word. -/
  e : UInt32
  /-- Sixth word. -/
  f : UInt32
  /-- Seventh word. -/
  g : UInt32
  /-- Eighth word. -/
  h : UInt32

/-- The words before the first block: fractions of the square roots of the first primes. -/
def initial : State :=
  ⟨0x6a09e667, 0xbb67ae85, 0x3c6ef372, 0xa54ff53a,
    0x510e527f, 0x9b05688c, 0x1f83d9ab, 0x5be0cd19⟩

/-- One constant a round: fractions of the cube roots of the first primes. -/
def constants : List UInt32 := [
  0x428a2f98, 0x71374491, 0xb5c0fbcf, 0xe9b5dba5, 0x3956c25b, 0x59f111f1, 0x923f82a4, 0xab1c5ed5,
  0xd807aa98, 0x12835b01, 0x243185be, 0x550c7dc3, 0x72be5d74, 0x80deb1fe, 0x9bdc06a7, 0xc19bf174,
  0xe49b69c1, 0xefbe4786, 0x0fc19dc6, 0x240ca1cc, 0x2de92c6f, 0x4a7484aa, 0x5cb0a9dc, 0x76f988da,
  0x983e5152, 0xa831c66d, 0xb00327c8, 0xbf597fc7, 0xc6e00bf3, 0xd5a79147, 0x06ca6351, 0x14292967,
  0x27b70a85, 0x2e1b2138, 0x4d2c6dfc, 0x53380d13, 0x650a7354, 0x766a0abb, 0x81c2c92e, 0x92722c85,
  0xa2bfe8a1, 0xa81a664b, 0xc24b8b70, 0xc76c51a3, 0xd192e819, 0xd6990624, 0xf40e3585, 0x106aa070,
  0x19a4c116, 0x1e376c08, 0x2748774c, 0x34b0bcb5, 0x391c0cb3, 0x4ed8aa4a, 0x5b9cca4f, 0x682e6ff3,
  0x748f82ee, 0x78a5636f, 0x84c87814, 0x8cc70208, 0x90befffa, 0xa4506ceb, 0xbef9a3f7, 0xc67178f2]

/-- Rotates a word to the right. -/
def rotate (x n : UInt32) : UInt32 := (x >>> n) ||| (x <<< (32 - n))

/-- Spreads an early word of the schedule. -/
def spread₀ (x : UInt32) : UInt32 := rotate x 7 ^^^ rotate x 18 ^^^ (x >>> 3)

/-- Spreads a late word of the schedule. -/
def spread₁ (x : UInt32) : UInt32 := rotate x 17 ^^^ rotate x 19 ^^^ (x >>> 10)

/-- Mixes the first word of the state. -/
def mix₀ (x : UInt32) : UInt32 := rotate x 2 ^^^ rotate x 13 ^^^ rotate x 22

/-- Mixes the fifth word of the state. -/
def mix₁ (x : UInt32) : UInt32 := rotate x 6 ^^^ rotate x 11 ^^^ rotate x 25

/-- Chooses bits of `y` where `x` is set, and of `z` elsewhere. -/
def choose (x y z : UInt32) : UInt32 := (x &&& y) ^^^ (~~~x &&& z)

/-- The bits set in at least two of three words. -/
def majority (x y z : UInt32) : UInt32 := (x &&& y) ^^^ (x &&& z) ^^^ (y &&& z)

/-- The word that follows a schedule, whose last word stands first. -/
def nextWord (words : List UInt32) : UInt32 :=
  spread₁ (words.getD 1 0) + words.getD 6 0 + spread₀ (words.getD 14 0) + words.getD 15 0

/-- A word for each round, from the sixteen words of a block. -/
def schedule (block : List UInt32) : List UInt32 :=
  (Nat.repeat (fun words => nextWord words :: words) 48 block.reverse).reverse

/-- One round with the sum of its constant and its word. -/
def round (s : State) (input : UInt32) : State :=
  let t := s.h + mix₁ s.e + choose s.e s.f s.g + input
  ⟨t + mix₀ s.a + majority s.a s.b s.c, s.a, s.b, s.c, s.d + t, s.e, s.f, s.g⟩

/-- Compresses a block into the state. -/
def compress (s : State) (block : List UInt8) : State :=
  let words := schedule ((Block.chunks 4 block).map fun octets =>
    UInt32.ofNat (Block.bigEndian octets))
  let r := ((constants.zip words).map fun (k, w) => k + w).foldl round s
  ⟨s.a + r.a, s.b + r.b, s.c + r.c, s.d + r.d, s.e + r.e, s.f + r.f, s.g + r.g, s.h + r.h⟩

/-- The digest of octets. -/
def hash (message : List UInt8) : List UInt8 :=
  let s := (Block.chunks 64 (Block.pad 64 8 message)).foldl compress initial
  [s.a, s.b, s.c, s.d, s.e, s.f, s.g, s.h].flatMap fun word => Block.octets 4 word.toNat

end OpenBanking.Digest.Sha256

/-- The digest of octets as base64url text. -/
def OpenBanking.Digest.sha256Text (message : List UInt8) : String :=
  Base64url.encode (Sha256.hash message)
