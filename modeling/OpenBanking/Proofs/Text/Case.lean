import Mathlib.Data.List.Forall2

/-!
# The case of ASCII letters

Two texts are the same but for the case of ASCII letters if their characters are, one by one. They
are exactly if they have the same small letters, because only capitals are changed and each has a
small letter of its own.
-/

namespace OpenBanking.Text

/-- A capital ASCII letter. -/
def IsCapital (c : Char) : Prop := 'A' ≤ c ∧ c ≤ 'Z'

/-- The same character, but for the case of an ASCII letter. -/
def SameLetter (c d : Char) : Prop :=
  c = d ∨ (IsCapital c ∧ d.toNat = c.toNat + 32) ∨ (IsCapital d ∧ c.toNat = d.toNat + 32)

/-- The same characters, but for the case of ASCII letters. -/
def SameLetters (cs ds : List Char) : Prop := List.Forall₂ SameLetter cs ds

/-- The numbers of the capitals. -/
theorem isCapital_iff {c : Char} : IsCapital c ↔ 65 ≤ c.toNat ∧ c.toNat ≤ 90 := Iff.rfl

/-- A capital becomes its small letter. -/
theorem toNat_toLower {c : Char} (capital : IsCapital c) : c.toLower.toNat = c.toNat + 32 := by
  have bounds := isCapital_iff.1 capital
  have shift : c.toLower.val = c.val + 32 := congrArg Char.val (dif_pos capital)
  rw [← Char.toNat_val, shift, UInt32.toNat_add, Char.toNat_val]
  exact Nat.mod_eq_of_lt (by simp only [UInt32.toNat_ofNat]; omega)

/-- What is no capital stays. -/
theorem toLower_eq_self {c : Char} (other : ¬IsCapital c) : c.toLower = c :=
  dif_neg other

/-- Characters are the same but for their case if they have the same small letter. -/
theorem sameLetter_iff {c d : Char} : SameLetter c d ↔ c.toLower = d.toLower := by
  by_cases capital : IsCapital c <;> by_cases capitalToo : IsCapital d
  · have bounds := isCapital_iff.1 capital
    have boundsToo := isCapital_iff.1 capitalToo
    rw [SameLetter, ← Char.toNat_inj, ← Char.toNat_inj, toNat_toLower capital,
      toNat_toLower capitalToo]
    omega
  · have bounds := isCapital_iff.1 capital
    have boundsToo := isCapital_iff.not.1 capitalToo
    rw [SameLetter, ← Char.toNat_inj, ← Char.toNat_inj, toNat_toLower capital,
      toLower_eq_self capitalToo]
    simp only [capital, capitalToo, true_and, false_and, or_false]
    omega
  · have bounds := isCapital_iff.not.1 capital
    have boundsToo := isCapital_iff.1 capitalToo
    rw [SameLetter, ← Char.toNat_inj, ← Char.toNat_inj, toLower_eq_self capital,
      toNat_toLower capitalToo]
    simp only [capital, capitalToo, true_and, false_and, false_or]
    omega
  · rw [SameLetter, toLower_eq_self capital, toLower_eq_self capitalToo]
    simp only [capital, capitalToo, false_and, or_false]

/-- Texts are the same but for their case if they have the same small letters. -/
theorem sameLetters_iff {cs ds : List Char} :
    SameLetters cs ds ↔ cs.map Char.toLower = ds.map Char.toLower := by
  have letters : SameLetter = fun c d => c.toLower = d.toLower := by
    funext c d
    exact propext sameLetter_iff
  rw [SameLetters, letters, ← List.forall₂_eq_eq_eq, List.forall₂_map_left_iff,
    List.forall₂_map_right_iff]

end OpenBanking.Text
