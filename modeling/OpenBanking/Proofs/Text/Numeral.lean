import OpenBanking.Text.Numeral

/-!
# Decimal digits of a number

Every natural number is written by digits that denote it, with no zero in front of another digit;
so reading the written digits gives the number again.
-/

namespace OpenBanking.Text

/-- Digits that write a number in the decimal system. -/
structure IsDecimal (n : Nat) (digits : List Nat) : Prop where
  /-- Each is below ten. -/
  small : ∀ digit ∈ digits, digit < 10
  /-- They denote the number. -/
  denotes : ofDigits digits = n
  /-- There is a digit. -/
  ne_nil : digits ≠ []
  /-- A zero in front is the only digit. -/
  eq_zero_of_head : digits.head? = some 0 → digits = [0]

/-- Another digit behind digits is worth as much as it says, and they ten times as much. -/
theorem ofDigits_concat (digits : List Nat) (digit : Nat) :
    ofDigits (digits ++ [digit]) = 10 * ofDigits digits + digit := by
  simp [ofDigits]

/-- Digits in front of digits are worth a power of ten as much as they say. -/
theorem ofDigits_append (front later : List Nat) :
    ofDigits (front ++ later) = ofDigits front * Nat.pow 10 later.length + ofDigits later := by
  induction later generalizing front with
  | nil => simp [ofDigits]
  | cons digit later ih =>
    have first : ofDigits (digit :: later) = digit * Nat.pow 10 later.length + ofDigits later := by
      simpa [ofDigits] using ih [digit]
    have power : Nat.pow 10 (digit :: later).length = 10 * Nat.pow 10 later.length :=
      Nat.mul_comm _ _
    rw [List.append_cons, ih, ofDigits_concat, first, power, Nat.add_mul, Nat.add_assoc,
      Nat.mul_comm 10 (ofDigits front), Nat.mul_assoc]

/-- Zeros are worth nothing. -/
@[simp]
theorem ofDigits_replicate_zero (n : Nat) : ofDigits (List.replicate n 0) = 0 := by
  induction n with
  | zero => rfl
  | succ n ih => rw [List.replicate_succ', ofDigits_concat, ih]

/-- A number below ten is its own digit. -/
theorem isDecimal_singleton {n : Nat} (small : n < 10) : IsDecimal n [n] where
  small := by simpa using small
  denotes := by simp [ofDigits]
  ne_nil := by simp
  eq_zero_of_head := by simp

/-- The last digit goes behind the digits of the others. -/
theorem isDecimal_concat {n digit : Nat} {digits : List Nat} (front : IsDecimal n digits)
    (positive : n ≠ 0) (below : digit < 10) : IsDecimal (10 * n + digit) (digits ++ [digit]) where
  small := by
    intro other held
    rcases List.mem_append.1 held with earlier | last
    · exact front.small other earlier
    · obtain rfl := List.mem_singleton.1 last
      exact below
  denotes := by rw [ofDigits_concat, front.denotes]
  ne_nil := by simp
  eq_zero_of_head := by
    intro head
    have front_head : digits.head? = some 0 := by
      cases digits with
      | nil => exact absurd rfl front.ne_nil
      | cons first later => exact head
    rw [← front.denotes, front.eq_zero_of_head front_head] at positive
    exact absurd rfl positive

/-- The written digits of a number write it. -/
theorem exists_isDecimal (n : Nat) :
    ∃ digits, IsDecimal n digits ∧ natural n = digits.map Nat.digitChar := by
  by_cases small : n < 10
  · exact ⟨[n], isDecimal_singleton small, Nat.toDigits_of_lt_base small⟩
  · obtain ⟨digits, front, written⟩ := exists_isDecimal (n / 10)
    have whole := isDecimal_concat front (by omega) (Nat.mod_lt n (by decide : 10 > 0))
    rw [Nat.div_add_mod] at whole
    refine ⟨digits ++ [n % 10], whole, ?_⟩
    rw [natural, Nat.toDigits_of_base_le (by decide) (by omega), ← natural, written, List.map_append,
      List.map_singleton]
termination_by n
decreasing_by omega

/-- Only zero is the digit of zero. -/
theorem eq_zero_of_digitChar_eq : ∀ digit < 10, Nat.digitChar digit = '0' → digit = 0 := by
  decide

/-- Digits that write a number are the ones that are written for it. -/
theorem IsDecimal.natural_eq {n : Nat} {digits : List Nat} (decimal : IsDecimal n digits) :
    natural n = digits.map Nat.digitChar := by
  obtain ⟨front, last, parts⟩ : ∃ front last, digits = front ++ [last] :=
    ⟨_, _, (List.dropLast_concat_getLast decimal.ne_nil).symm⟩
  have below : last < 10 := decimal.small last (by simp [parts])
  have value : 10 * ofDigits front + last = n := by
    rw [← ofDigits_concat, ← parts, decimal.denotes]
  by_cases alone : front = []
  · obtain rfl : last = n := by simpa [alone, ofDigits] using value
    simpa [parts, alone, natural] using Nat.toDigits_of_lt_base below
  · have noZero : front.head? ≠ some 0 := by
      intro head
      have single := decimal.eq_zero_of_head (by rw [parts, List.head?_append, head]; rfl)
      rw [parts] at single
      rcases List.append_eq_singleton_iff.1 single with ⟨empty, _⟩ | ⟨_, missing⟩
      · exact alone empty
      · cases missing
    have inner : IsDecimal (ofDigits front) front :=
      ⟨fun digit held => decimal.small digit (by simp [parts, held]), rfl, alone,
        fun head => absurd head noZero⟩
    have written := inner.natural_eq
    have positive : ofDigits front ≠ 0 := by
      intro zero
      rw [zero] at written
      obtain ⟨digit, later, rfl⟩ := List.exists_cons_of_ne_nil alone
      have first : '0' = Nat.digitChar digit := (List.cons.inj written).1
      have small := inner.small digit List.mem_cons_self
      exact noZero (congrArg some (eq_zero_of_digitChar_eq digit small first.symm))
    rw [natural, Nat.toDigits_of_base_le (by decide) (by omega), ← natural,
      show n / 10 = ofDigits front by omega, show n % 10 = last by omega, written, parts,
      List.map_append, List.map_singleton]
termination_by digits.length
decreasing_by simp [parts]

/-! ## Reading digits -/

/-- The character of a digit has its value. -/
theorem digit?_digitChar : ∀ digit < 10, digit? digit.digitChar = some digit := by
  decide

/-- The characters of digits have their values. -/
theorem mapM_digit?_digitChar {digits : List Nat} (small : ∀ digit ∈ digits, digit < 10) :
    (digits.map Nat.digitChar).mapM digit? = some digits := by
  induction digits with
  | nil => rfl
  | cons digit digits ih =>
    obtain ⟨first, later⟩ := List.forall_mem_cons.1 small
    simp [digit?_digitChar digit first, ih later]

/-- Only the characters of digits have a value. -/
theorem digit?_eq_some_iff {c : Char} {digit : Nat} :
    digit? c = some digit ↔ digit < 10 ∧ c = digit.digitChar := by
  constructor
  · intro read
    have table : ∀ digit < 10, Char.ofNat (digit + 48) = digit.digitChar := by decide
    unfold digit? at read
    split at read
    case isTrue between =>
      obtain rfl := Option.some.inj read
      have zero : '0'.toNat = 48 := rfl
      have low : '0'.toNat ≤ c.toNat := between.1
      have high : c.toNat ≤ '9'.toNat := between.2
      have nine : '9'.toNat = 57 := rfl
      have below : c.toNat - '0'.toNat < 10 := by omega
      refine ⟨below, ?_⟩
      rw [← table _ below, show c.toNat - '0'.toNat + 48 = c.toNat by omega, Char.ofNat_toNat]
    case isFalse => cases read
  · rintro ⟨below, rfl⟩
    exact digit?_digitChar digit below

/-- Only characters that are all digits have values. -/
theorem mapM_digit?_eq_some_iff {cs : List Char} {digits : List Nat} :
    cs.mapM digit? = some digits ↔
      (∀ digit ∈ digits, digit < 10) ∧ cs = digits.map Nat.digitChar := by
  constructor
  · intro read
    induction cs generalizing digits with
    | nil =>
      obtain rfl := Option.some.inj read
      simp
    | cons c cs ih =>
      rw [List.mapM_cons, Option.bind_eq_bind, Option.bind_eq_some_iff] at read
      obtain ⟨digit, first, read⟩ := read
      rw [Option.bind_eq_bind, Option.bind_eq_some_iff] at read
      obtain ⟨later, rest, read⟩ := read
      obtain rfl := Option.some.inj read
      obtain ⟨below, rfl⟩ := digit?_eq_some_iff.1 first
      obtain ⟨small, rfl⟩ := ih rest
      exact ⟨List.forall_mem_cons.2 ⟨below, small⟩, rfl⟩
  · rintro ⟨small, rfl⟩
    exact mapM_digit?_digitChar small

/-- The written digits of a number are read as the number. -/
theorem naturalOf?_natural (n : Nat) : naturalOf? (natural n) = some n := by
  obtain ⟨digits, decimal, written⟩ := exists_isDecimal n
  have someDigit : (digits.map Nat.digitChar).isEmpty = false := by
    simpa using decimal.ne_nil
  rw [written, naturalOf?, mapM_digit?_digitChar decimal.small]
  simp [someDigit, decimal.denotes]

/-- Digits that denote a number, and nothing else, are read as it. -/
theorem naturalOf?_eq_some_iff {cs : List Char} {n : Nat} :
    naturalOf? cs = some n ↔ ∃ digits, digits ≠ [] ∧ (∀ digit ∈ digits, digit < 10) ∧
      cs = digits.map Nat.digitChar ∧ ofDigits digits = n := by
  unfold naturalOf?
  constructor
  · intro read
    split at read
    case isTrue => cases read
    case isFalse nonempty =>
      obtain ⟨digits, values, denotes⟩ := Option.map_eq_some_iff.1 read
      obtain ⟨small, rfl⟩ := mapM_digit?_eq_some_iff.1 values
      exact ⟨digits, by simpa using nonempty, small, rfl, denotes⟩
  · rintro ⟨digits, nonempty, small, rfl, rfl⟩
    rw [mapM_digit?_digitChar small]
    simp [nonempty]

/-- Characters that write a number in decimal digits, at least one of them, with a plus sign in
front or without. -/
def IsNumeral (cs : List Char) (n : Nat) : Prop :=
  ∃ digits, digits ≠ [] ∧ (∀ digit ∈ digits, digit < 10) ∧
    (cs = digits.map Nat.digitChar ∨ cs = '+' :: digits.map Nat.digitChar) ∧ ofDigits digits = n

/-- Characters are the unsigned part of digits, behind a plus sign or alone. -/
theorem unsigned_eq_map_iff {cs : List Char} {digits : List Nat} (nonempty : digits ≠ [])
    (small : ∀ digit ∈ digits, digit < 10) : unsigned cs = digits.map Nat.digitChar ↔
      cs = digits.map Nat.digitChar ∨ cs = '+' :: digits.map Nat.digitChar := by
  have noSign : ∀ digit < 10, Nat.digitChar digit ≠ '+' := by decide
  unfold unsigned
  split
  case h_1 rest =>
    -- Digits do not begin with the sign.
    obtain ⟨first, later, rfl⟩ := List.exists_cons_of_ne_nil nonempty
    simp [(noSign first (small first List.mem_cons_self)).symm]
  case h_2 unsigned =>
    exact ⟨.inl, fun either => either.elim id fun signed => (unsigned _ signed).elim⟩

/-- A bounded number is read from its numerals, and from nothing else. -/
theorem bounded?_eq_some_iff {limit n : Nat} {text : String} :
    bounded? limit text = some n ↔ IsNumeral text.toList n ∧ n < limit := by
  have numeral : naturalOf? (unsigned text.toList) = some n ↔ IsNumeral text.toList n := by
    rw [naturalOf?_eq_some_iff]
    exact exists_congr fun digits => and_congr_right fun nonempty => and_congr_right fun small =>
      and_congr_left' (unsigned_eq_map_iff nonempty small)
  rw [bounded?, ← numeral]
  cases naturalOf? (unsigned text.toList) with
  | none => simp
  | some m =>
    by_cases below : m < limit
    · simp only [below, if_true, Option.some.injEq]
      exact ⟨fun same => ⟨same, same ▸ below⟩, And.left⟩
    · simp only [below, if_false, Option.some.injEq]
      exact ⟨nofun, fun both => absurd (both.1 ▸ both.2) below⟩

/-- No digit is a minus sign. -/
theorem head?_natural_ne_minus (n : Nat) : (natural n).head? ≠ some '-' := by
  obtain ⟨digits, decimal, written⟩ := exists_isDecimal n
  have apart : ∀ digit < 10, Nat.digitChar digit ≠ '-' := by decide
  rw [written]
  intro head
  obtain ⟨digit, first, same⟩ := Option.map_eq_some_iff.1 (List.head?_map .. ▸ head)
  exact apart digit (decimal.small digit (List.mem_of_mem_head? first)) same

end OpenBanking.Text
