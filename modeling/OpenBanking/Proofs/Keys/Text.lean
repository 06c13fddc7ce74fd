import OpenBanking.Keys.Text
import OpenBanking.Proofs.Ed25519.Signature
import OpenBanking.Proofs.Text.Base32

/-!
# Public keys survive as text

A text of marked octets is read as these octets, since the check sum fits the two octets it is
given. So the public key of a seed is read back from its text, and accepts what the seed signs.
-/

namespace OpenBanking

/-! ## Check sums -/

namespace Crc

/-- A check sum stays one while a bit is taken in. -/
theorem shift_lt {sum : Nat} (bound : sum < 2 ^ 16) : shift sum < 2 ^ 16 := by
  unfold shift
  split
  · exact Nat.xor_lt_two_pow (Nat.mod_lt _ (by decide)) (by decide)
  · omega

/-- A check sum stays one while bits are taken in. -/
theorem repeat_shift_lt {sum : Nat} (bound : sum < 2 ^ 16) (count : Nat) :
    Nat.repeat shift count sum < 2 ^ 16 := by
  induction count with
  | zero => exact bound
  | succ count ih => exact shift_lt ih

/-- A check sum stays one while an octet is taken in. -/
theorem step_lt {sum : Nat} (bound : sum < 2 ^ 16) (octet : UInt8) : step sum octet < 2 ^ 16 := by
  have below := octet.toNat_lt
  have high : 256 * octet.toNat < 2 ^ 16 := by omega
  exact repeat_shift_lt (Nat.xor_lt_two_pow bound high) 8

/-- A check sum stays one while octets are taken in. -/
theorem foldl_step_lt {sum : Nat} (bound : sum < 2 ^ 16) (octets : List UInt8) :
    octets.foldl step sum < 2 ^ 16 := by
  induction octets generalizing sum with
  | nil => exact bound
  | cons octet octets ih =>
    rw [List.foldl_cons]
    exact ih (step_lt bound octet)

/-- A check sum is two octets. -/
theorem checksum_lt (octets : List UInt8) : checksum octets < Nat.pow 256 2 :=
  foldl_step_lt (Nat.two_pow_pos 16) octets

end Crc

namespace KeyText

open Digest.Block (littleOctets littleEndian_littleOctets length_littleOctets)

/-! ## Marked octets -/

/-- The octets of a text of marked octets. -/
theorem encode_write (marked : List UInt8) : Utf8.encode (write marked) =
    Utf8.octets (Base32.encodeChars (marked ++ littleOctets 2 (Crc.checksum marked))) :=
  Utf8.encode_ofList _

/-- Marked octets are read back. -/
theorem read_write (marked : List UInt8) : read (Utf8.encode (write marked)) = .ok marked := by
  have length : (marked ++ littleOctets 2 (Crc.checksum marked)).length - 2 = marked.length := by
    rw [List.length_append, length_littleOctets, Nat.add_sub_cancel]
  rw [encode_write, read, Base32.decode_encodeChars]
  simp only [length, List.take_left, List.drop_left,
    littleEndian_littleOctets (Crc.checksum_lt marked), ↓reduceIte]

/-- A role is told by its mark. -/
theorem ofMark?_mark (role : Role) : Role.ofMark? role.mark = some role := by
  cases role <;> decide

/-! ## Public keys -/

/-- A public key that is a point is read back from its text. -/
theorem ofPublic_publicText (role : Role) {octets : List UInt8} (length : octets.length = 32)
    (point : (Ed25519.decodePoint? octets).isSome = true) :
    ofPublic (publicText role octets) = .ok octets := by
  have written : (Utf8.encode (publicText role octets)).length = 56 := by
    rw [publicText, encode_write, Base32.length_octets_encodeChars, List.length_append,
      List.length_cons, length, length_littleOctets]
  have marked : read (Utf8.encode (publicText role octets)) = .ok (role.mark :: octets) :=
    read_write _
  have readable : (Ed25519.decodePoint? octets).isNone = false := by
    rw [Option.isNone_eq_false_iff, point]
  simp only [ofPublic, written, marked, ofMark?_mark, readable, ne_eq, not_true_eq_false, ↓reduceIte,
    bind, Except.bind, Option.isNone_some, Bool.false_eq_true]

/-- The public half of a pair that is read from a seed is the one of its secret half. -/
theorem publicOctets_of_ofSeed {text : String} {pair : Pair} (found : ofSeed text = .ok pair) :
    pair.publicOctets = Ed25519.publicKey pair.seed := by
  simp only [ofSeed] at found
  split at found
  · cases found
  · cases marked : read (Utf8.encode text) with
    | error error =>
      rw [marked] at found
      cases found
    | ok octets =>
      rw [marked] at found
      simp only [bind, Except.bind] at found
      split at found
      · split at found
        · cases found
        · cases found
          rfl
      · cases found

/-- A pair that is read from a seed has the public key of its text. -/
theorem ofPublic_publicText_of_ofSeed {text : String} {pair : Pair}
    (found : ofSeed text = .ok pair) : ofPublic pair.publicText = .ok pair.publicOctets := by
  obtain ⟨key, _, read, _⟩ := Ed25519.exists_decodePoint?_publicKey pair.seed
  rw [Pair.publicText, publicOctets_of_ofSeed found]
  exact ofPublic_publicText pair.role (Ed25519.length_publicKey pair.seed) (by rw [read]; rfl)

/-- What a pair that is read from a seed signs is accepted under its public key. -/
theorem verify_sign_of_ofSeed {text : String} {pair : Pair} (found : ofSeed text = .ok pair)
    (message : List UInt8) : verify pair.publicOctets message (pair.sign message) = .ok () := by
  rw [verify, Pair.sign, publicOctets_of_ofSeed found]
  simp only [Ed25519.length_sign, Ed25519.verify_sign, ne_eq, not_true_eq_false, ↓reduceIte]

end KeyText

end OpenBanking
