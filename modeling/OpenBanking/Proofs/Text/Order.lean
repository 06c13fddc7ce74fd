import Mathlib.Tactic.SplitIfs
import OpenBanking.Proofs.Text.Utf8

/-!
# The order of texts is the order of their octets

Texts compare character by character, and a greater character has octets that are greater where they
first differ. So the octets of texts compare as the texts do.
-/

namespace OpenBanking.Utf8

/-- Octets compare by their first difference. -/
theorem ofNat_cons_lt_iff {m n : Nat} (first : m < 256) (second : n < 256) (s t : List UInt8) :
    UInt8.ofNat m :: s < UInt8.ofNat n :: t ↔ m < n ∨ m = n ∧ s < t := by
  rw [List.cons_lt_cons_iff, UInt8.lt_iff_toNat_lt, ← UInt8.toNat_inj, UInt8.toNat_ofNat',
    UInt8.toNat_ofNat', Nat.mod_eq_of_lt first, Nat.mod_eq_of_lt second]

/-- Numbers compare by their first different digit to the base sixty-four. -/
theorem lt_digits {m n : Nat} (less : m < n) :
    m / 262144 < n / 262144 ∨ m / 262144 = n / 262144 ∧
      (m / 4096 % 64 < n / 4096 % 64 ∨ m / 4096 % 64 = n / 4096 % 64 ∧
        (m / 64 % 64 < n / 64 % 64 ∨ m / 64 % 64 = n / 64 % 64 ∧ m % 64 < n % 64)) := by
  by_cases first : m / 262144 = n / 262144
  · by_cases second : m / 4096 = n / 4096
    · by_cases third : m / 64 = n / 64 <;> omega
    · omega
  · omega

/-- A greater character has greater octets, whatever follows. -/
theorem utf8EncodeChar_append_lt {c d : Char} (less : c < d) (s t : List UInt8) :
    String.utf8EncodeChar c ++ s < String.utf8EncodeChar d ++ t := by
  have numbers : c.val.toNat < d.val.toNat := less
  have greatest : d.val.toNat < 1114112 := by
    rcases d.valid with small | large
    · exact Nat.lt_trans small (by decide)
    · exact large.2
  have digits := lt_digits numbers
  have firstDigit : c.val.toNat / 262144 % 8 = c.val.toNat / 262144 := by omega
  have secondDigit : d.val.toNat / 262144 % 8 = d.val.toNat / 262144 := by omega
  simp only [String.utf8EncodeChar]
  split_ifs <;>
    simp (disch := omega) only [List.cons_append, List.nil_append, ofNat_cons_lt_iff] <;> omega

/-- The octets of characters compare as the characters do. -/
theorem octets_lt {cs ds : List Char} (less : cs < ds) : octets cs < octets ds := by
  induction cs generalizing ds with
  | nil =>
    cases ds with
    | nil => exact absurd less (List.lt_irrefl [])
    | cons d ds =>
      have nonempty : octets (d :: ds) ≠ [] := by
        rw [octets_cons]
        exact List.append_ne_nil_of_left_ne_nil (String.utf8EncodeChar_ne_nil) _
      obtain ⟨b, later, written⟩ := List.exists_cons_of_ne_nil nonempty
      rw [written]
      exact List.nil_lt_cons b later
  | cons c cs ih =>
    cases ds with
    | nil => exact absurd less (List.not_lt_nil _)
    | cons d ds =>
      rw [octets_cons, octets_cons]
      rcases List.cons_lt_cons_iff.1 less with first | ⟨rfl, later⟩
      · exact utf8EncodeChar_append_lt first _ _
      · exact List.append_left_lt (ih later)

/-- The octets of texts compare as the texts do. -/
theorem encode_lt {text other : String} (less : text < other) : encode text < encode other := by
  rw [encode_eq_octets, encode_eq_octets]
  exact octets_lt less

end OpenBanking.Utf8
