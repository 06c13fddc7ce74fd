import OpenBanking.Double.Layout

/-!
# How a double begins

Whatever its magnitude, the text of a double begins with a minus sign or a digit.
-/

namespace OpenBanking.Double

/-- Characters that begin with a digit. -/
def BeginsWithDigit (cs : List Char) : Prop := ∃ c later, cs = c :: later ∧ c.isDigit = true

/-- What stands behind characters does not change how they begin. -/
theorem BeginsWithDigit.append {cs : List Char} (begins : BeginsWithDigit cs) (ds : List Char) :
    BeginsWithDigit (cs ++ ds) := by
  obtain ⟨c, later, rfl, digit⟩ := begins
  exact ⟨c, later ++ ds, rfl, digit⟩

/-- The digits of a number begin with a digit. -/
theorem beginsWithDigit_toDigits (n : Nat) : BeginsWithDigit (Nat.toDigits 10 n) := by
  cases written : Nat.toDigits 10 n with
  | nil => exact absurd written Nat.toDigits_ne_nil
  | cons c later =>
    have held : c ∈ Nat.toDigits 10 n := by simp [written]
    exact ⟨c, later, rfl, Nat.isDigit_of_mem_toDigits (by decide) (by decide) held⟩

/-- Positional notation begins with a digit. -/
theorem beginsWithDigit_positional (d : Decimal) : BeginsWithDigit d.positional := by
  have digits := beginsWithDigit_toDigits d.digits
  simp only [Decimal.positional]
  split
  · exact (digits.append _).append _
  · split
    next inside =>
      obtain ⟨c, later, written, digit⟩ := digits
      obtain ⟨n, taken⟩ := Nat.exists_eq_succ_of_ne_zero (Nat.sub_ne_zero_of_lt inside)
      rw [taken, written, List.take_succ_cons]
      exact ⟨c, _, rfl, digit⟩
    next => exact ⟨'0', _, rfl, rfl⟩

/-- Scientific notation begins with a digit. -/
theorem beginsWithDigit_scientific (d : Decimal) : BeginsWithDigit d.scientific := by
  obtain ⟨c, later, written, digit⟩ := beginsWithDigit_toDigits d.digits
  simp only [Decimal.scientific, written]
  refine BeginsWithDigit.append ?_ _
  cases later with
  | nil => exact ⟨c, _, rfl, digit⟩
  | cons second later => exact ⟨c, _, rfl, digit⟩

/-- The text of a double begins with a minus sign or a digit. -/
theorem exists_compactChars (x : Double) :
    ∃ c later, x.compactChars = c :: later ∧ (c = '-' ∨ c.isDigit = true) := by
  have signed {cs : List Char} (begins : BeginsWithDigit cs) :
      ∃ c later, x.signChars ++ cs = c :: later ∧ (c = '-' ∨ c.isDigit = true) := by
    obtain ⟨c, later, rfl, digit⟩ := begins
    unfold signChars
    split
    · exact ⟨'-', _, rfl, .inl rfl⟩
    · exact ⟨c, later, rfl, .inr digit⟩
  simp only [compactChars]
  split
  · exact signed ⟨'0', _, rfl, rfl⟩
  · refine signed ?_
    split
    · exact beginsWithDigit_positional _
    · exact beginsWithDigit_scientific _

end OpenBanking.Double
