import OpenBanking.Proofs.Text.Utf8

/-!
# Lenient reading of octets

Any octets can be read as a text. Where a character stands, it is read. Where none stands, the
longest run that a character could begin with, or else a single octet, is replaced by U+FFFD. This
fixes the text, and it is the one that `lossy` gives; the octets of a text are read as the text.
-/

namespace OpenBanking.Utf8

/-! ## The relation -/

/-- A character begins with these octets. -/
def BeginsChar (run : List UInt8) : Prop := ∃ c : Char, run <+: String.utf8EncodeChar c

/-- A run of octets in front of others that is replaced. -/
structure IsBroken (run rest : List UInt8) : Prop where
  /-- No character stands here. -/
  incomplete : ∀ c : Char, ¬String.utf8EncodeChar c <+: run ++ rest
  /-- The run begins a character, or is a single octet. -/
  begins : run ≠ [] ∧ (BeginsChar run ∨ run.length = 1)
  /-- It is the longest one. -/
  longest : ∀ b ∈ rest.head?, ¬BeginsChar (run ++ [b])

/-- Octets are read as characters, broken runs as U+FFFD. -/
inductive ReadsLeniently : List UInt8 → List Char → Prop where
  | nil : ReadsLeniently [] []
  | char (c : Char) {rest : List UInt8} {cs : List Char} (later : ReadsLeniently rest cs) :
    ReadsLeniently (String.utf8EncodeChar c ++ rest) (c :: cs)
  | broken {run rest : List UInt8} {cs : List Char} (broken : IsBroken run rest)
    (later : ReadsLeniently rest cs) : ReadsLeniently (run ++ rest) (replacement :: cs)

/-! ## Octets of one character -/

/-- The octets of one character, by their ranges. -/
inductive IsChar : List UInt8 → Prop where
  | one {a : UInt8} (first : a < 0x80) : IsChar [a]
  | two {a b : UInt8} (first : 0xC2 ≤ a ∧ a ≤ 0xDF) (second : isTail b = true) : IsChar [a, b]
  | three {a b c : UInt8} (second : isSecondOfThree a b = true) (third : isTail c = true) :
    IsChar [a, b, c]
  | four {a b c d : UInt8} (second : isSecondOfFour a b = true) (third : isTail c = true)
    (fourth : isTail d = true) : IsChar [a, b, c, d]

/-- A continuing octet is from 0x80 to 0xBF. -/
theorem isTail_iff {b : UInt8} : isTail b = true ↔ 0x80 ≤ b.toNat ∧ b.toNat ≤ 0xBF := by
  simp [isTail, UInt8.le_iff_toNat_le]

/-- The first two octets of three: neither an overlong form nor a surrogate. -/
theorem isSecondOfThree_iff {a b : UInt8} :
    isSecondOfThree a b = true ↔ 0xE0 ≤ a.toNat ∧ a.toNat ≤ 0xEF ∧ 0x80 ≤ b.toNat ∧ b.toNat ≤ 0xBF ∧
      (a.toNat = 0xE0 → 0xA0 ≤ b.toNat) ∧ (a.toNat = 0xED → b.toNat ≤ 0x9F) := by
  simp only [isSecondOfThree, ← UInt8.toNat_inj, UInt8.le_iff_toNat_le, UInt8.reduceToNat]
  split
  next first =>
    simp only [Bool.and_eq_true, decide_eq_true_eq]
    omega
  next notFirst =>
    split
    next surrogate =>
      simp only [Bool.and_eq_true, decide_eq_true_eq]
      omega
    next notSurrogate =>
      simp only [Bool.and_eq_true, decide_eq_true_eq, isTail_iff]
      omega

/-- The first two octets of four: neither an overlong form nor beyond the last character. -/
theorem isSecondOfFour_iff {a b : UInt8} :
    isSecondOfFour a b = true ↔ 0xF0 ≤ a.toNat ∧ a.toNat ≤ 0xF4 ∧ 0x80 ≤ b.toNat ∧ b.toNat ≤ 0xBF ∧
      (a.toNat = 0xF0 → 0x90 ≤ b.toNat) ∧ (a.toNat = 0xF4 → b.toNat ≤ 0x8F) := by
  simp only [isSecondOfFour, ← UInt8.toNat_inj, UInt8.le_iff_toNat_le, UInt8.reduceToNat]
  split
  next first =>
    simp only [Bool.and_eq_true, decide_eq_true_eq]
    omega
  next notFirst =>
    split
    next last =>
      simp only [Bool.and_eq_true, decide_eq_true_eq]
      omega
    next notLast =>
      simp only [Bool.and_eq_true, decide_eq_true_eq, isTail_iff]
      omega

/-- An octet is given by its value. -/
theorem ofNat_eq_of_toNat {n : Nat} {b : UInt8} (same : b.toNat = n) : UInt8.ofNat n = b := by
  rw [← same, UInt8.ofNat_toNat]

/-- A character of two octets is their payload. -/
theorem utf8EncodeChar_two {a b : UInt8} (first : 0xC2 ≤ a.toNat ∧ a.toNat ≤ 0xDF)
    (second : isTail b = true) :
    String.utf8EncodeChar (Char.ofNat (a.toNat % 32 * 64 + tailBits b)) = [a, b] := by
  have tail := isTail_iff.1 second
  have value : (Char.ofNat (a.toNat % 32 * 64 + tailBits b)).val.toNat =
      a.toNat % 32 * 64 + tailBits b :=
    toNat_ofNat_of_valid (by simp only [tailBits]; omega)
  simp only [tailBits] at value
  simp only [String.utf8EncodeChar, tailBits, value]
  rw [if_neg (by omega), if_pos (by omega), ofNat_eq_of_toNat (b := a) (by omega),
    ofNat_eq_of_toNat (b := b) (by omega)]

/-- A character of three octets is their payload. -/
theorem utf8EncodeChar_three {a b c : UInt8} (second : isSecondOfThree a b = true)
    (third : isTail c = true) :
    String.utf8EncodeChar (Char.ofNat (a.toNat % 16 * 4096 + tailBits b * 64 + tailBits c)) =
      [a, b, c] := by
  have lead := isSecondOfThree_iff.1 second
  have tail := isTail_iff.1 third
  have value : (Char.ofNat (a.toNat % 16 * 4096 + tailBits b * 64 + tailBits c)).val.toNat =
      a.toNat % 16 * 4096 + tailBits b * 64 + tailBits c :=
    toNat_ofNat_of_valid (by simp only [tailBits]; omega)
  simp only [tailBits] at value
  simp only [String.utf8EncodeChar, tailBits, value]
  rw [if_neg (by omega), if_neg (by omega), if_pos (by omega), ofNat_eq_of_toNat (b := a) (by omega),
    ofNat_eq_of_toNat (b := b) (by omega), ofNat_eq_of_toNat (b := c) (by omega)]

/-- A character of four octets is their payload. -/
theorem utf8EncodeChar_four {a b c d : UInt8} (second : isSecondOfFour a b = true)
    (third : isTail c = true) (fourth : isTail d = true) :
    String.utf8EncodeChar
        (Char.ofNat (a.toNat % 8 * 262144 + tailBits b * 4096 + tailBits c * 64 + tailBits d)) =
      [a, b, c, d] := by
  have lead := isSecondOfFour_iff.1 second
  have tail := isTail_iff.1 third
  have last := isTail_iff.1 fourth
  have value : (Char.ofNat
      (a.toNat % 8 * 262144 + tailBits b * 4096 + tailBits c * 64 + tailBits d)).val.toNat =
      a.toNat % 8 * 262144 + tailBits b * 4096 + tailBits c * 64 + tailBits d :=
    toNat_ofNat_of_valid (by simp only [tailBits]; omega)
  simp only [tailBits] at value
  simp only [String.utf8EncodeChar, tailBits, value]
  rw [if_neg (by omega), if_neg (by omega), if_neg (by omega), ofNat_eq_of_toNat (b := a) (by omega),
    ofNat_eq_of_toNat (b := b) (by omega), ofNat_eq_of_toNat (b := c) (by omega),
    ofNat_eq_of_toNat (b := d) (by omega)]

/-- The octets of every character are in these ranges. -/
theorem isChar_utf8EncodeChar (c : Char) : IsChar (String.utf8EncodeChar c) := by
  have valid : c.val.toNat < 0xD800 ∨ 0xDFFF < c.val.toNat ∧ c.val.toNat < 0x110000 := c.valid
  have small (n : Nat) (low : n < 256) : (UInt8.ofNat n).toNat = n := by
    rw [UInt8.toNat_ofNat', Nat.mod_eq_of_lt low]
  simp only [String.utf8EncodeChar]
  split
  · refine .one ?_
    rw [UInt8.lt_iff_toNat_lt, small _ (by omega)]
    exact Nat.lt_succ_of_le ‹_›
  · split
    · refine .two ?_ ?_
      · rw [UInt8.le_iff_toNat_le, UInt8.le_iff_toNat_le, small _ (by omega)]
        have least : (0xC2 : UInt8).toNat = 0xC2 := rfl
        have greatest : (0xDF : UInt8).toNat = 0xDF := rfl
        omega
      · rw [isTail_iff, small _ (by omega)]
        omega
    · split
      · refine .three ?_ ?_
        · rw [isSecondOfThree_iff, small _ (by omega), small _ (by omega)]
          omega
        · rw [isTail_iff, small _ (by omega)]
          omega
      · refine .four ?_ ?_ ?_
        · rw [isSecondOfFour_iff, small _ (by omega), small _ (by omega)]
          omega
        · rw [isTail_iff, small _ (by omega)]
          omega
        · rw [isTail_iff, small _ (by omega)]
          omega

/-- Octets in these ranges are those of a character, and it is read from them. -/
theorem IsChar.exists_leading {a : UInt8} {tail : List UInt8} (isChar : IsChar (a :: tail)) :
    ∃ c, String.utf8EncodeChar c = a :: tail ∧
      ∀ rest, leading a (tail ++ rest) = (c, tail.length) := by
  cases isChar with
  | one first =>
    have low : a.toNat < 0x80 := UInt8.lt_iff_toNat_lt.1 first
    have value := toNat_ofNat_of_valid (n := a.toNat) (by omega)
    refine ⟨Char.ofNat a.toNat, ?_, fun rest => ?_⟩
    · rw [utf8EncodeChar_of_lt (by omega), value, UInt8.ofNat_toNat]
    · simp [leading, first]
  | @two _ b first second =>
    have lead : 0xC2 ≤ a.toNat ∧ a.toNat ≤ 0xDF := by
      simpa [UInt8.le_iff_toNat_le] using first
    have high : ¬a < 0x80 := by
      simp only [UInt8.lt_iff_toNat_lt, UInt8.reduceToNat]
      omega
    exact ⟨_, utf8EncodeChar_two lead second, fun rest => by simp [leading, high, first, second]⟩
  | @three _ b c second third =>
    have lead := isSecondOfThree_iff.1 second
    have high : ¬a < 0x80 ∧ ¬a ≤ 0xDF ∧ 0xE0 ≤ a ∧ a ≤ 0xEF := by
      simp only [UInt8.le_iff_toNat_le, UInt8.lt_iff_toNat_lt, UInt8.reduceToNat]
      omega
    exact ⟨_, utf8EncodeChar_three second third, fun rest => by simp [leading, high, second, third]⟩
  | @four _ b c d second third fourth =>
    have lead := isSecondOfFour_iff.1 second
    have high : ¬a < 0x80 ∧ ¬a ≤ 0xDF ∧ ¬a ≤ 0xEF ∧ 0xF0 ≤ a ∧ a ≤ 0xF4 := by
      simp only [UInt8.le_iff_toNat_le, UInt8.lt_iff_toNat_lt, UInt8.reduceToNat]
      omega
    exact ⟨_, utf8EncodeChar_four second third fourth, fun rest => by
      simp [leading, high, second, third, fourth]⟩

/-! ## Octets that a character begins with -/

/-- What a character begins with goes on to octets in the ranges. -/
theorem beginsChar_iff {run : List UInt8} : BeginsChar run ↔ ∃ more, IsChar (run ++ more) := by
  constructor
  · rintro ⟨c, more, written⟩
    exact ⟨more, written ▸ isChar_utf8EncodeChar c⟩
  · rintro ⟨more, isChar⟩
    generalize whole : run ++ more = s at isChar
    cases s with
    | nil => cases isChar
    | cons a tail =>
      obtain ⟨c, written, _⟩ := isChar.exists_leading
      exact ⟨c, more, whole.trans written.symm⟩

/-- The second octet of a character fits to the first. -/
theorem of_beginsChar_second {a b : UInt8} {more : List UInt8}
    (begins : BeginsChar (a :: b :: more)) :
    (0xC2 ≤ a ∧ a ≤ 0xDF) ∧ isTail b = true ∨ isSecondOfThree a b = true ∨
      isSecondOfFour a b = true := by
  obtain ⟨later, isChar⟩ := beginsChar_iff.1 begins
  simp only [List.cons_append] at isChar
  generalize more ++ later = rest at isChar
  cases isChar with
  | two first second => exact .inl ⟨first, second⟩
  | three second _ => exact .inr (.inl second)
  | four second _ _ => exact .inr (.inr second)

/-- The third octet of a character continues it. -/
theorem of_beginsChar_third {a b c : UInt8} {more : List UInt8}
    (begins : BeginsChar (a :: b :: c :: more)) : isTail c = true := by
  obtain ⟨later, isChar⟩ := beginsChar_iff.1 begins
  simp only [List.cons_append] at isChar
  generalize more ++ later = rest at isChar
  cases isChar with
  | three _ third => exact third
  | four _ third _ => exact third

/-- The fourth octet of a character continues it. -/
theorem of_beginsChar_fourth {a b c d : UInt8} {more : List UInt8}
    (begins : BeginsChar (a :: b :: c :: d :: more)) : isTail d = true := by
  obtain ⟨later, isChar⟩ := beginsChar_iff.1 begins
  simp only [List.cons_append] at isChar
  generalize more ++ later = rest at isChar
  cases isChar with
  | four _ _ fourth => exact fourth

/-- Two octets that fit begin a character. -/
theorem beginsChar_pair {a b : UInt8}
    (fits : isSecondOfThree a b = true ∨ isSecondOfFour a b = true) : BeginsChar [a, b] := by
  have least : isTail 0x80 = true := by decide
  refine beginsChar_iff.2 (fits.elim (fun second => ⟨[0x80], ?_⟩) fun second => ⟨[0x80, 0x80], ?_⟩)
  · exact .three second least
  · exact .four second least least

/-- Three octets of four that fit begin a character. -/
theorem beginsChar_triple {a b c : UInt8} (second : isSecondOfFour a b = true)
    (third : isTail c = true) : BeginsChar [a, b, c] :=
  beginsChar_iff.2 ⟨[0x80], .four second third (by decide)⟩

/-! ## Octets that are replaced -/

section Broken

variable {a : UInt8} {rest : List UInt8}

/-- No octets in the ranges stand where no character does. -/
theorem not_isChar_of_incomplete (incomplete : ∀ c : Char, ¬String.utf8EncodeChar c <+: a :: rest)
    {tail : List UInt8} (starts : tail <+: rest) : ¬IsChar (a :: tail) := by
  intro isChar
  obtain ⟨c, written, _⟩ := isChar.exists_leading
  exact incomplete c (written ▸ List.cons_prefix_cons.2 ⟨rfl, starts⟩)

/-- A run is replaced by the reader as it should be. -/
def Replaces (a : UInt8) (rest : List UInt8) : Prop :=
  ∃ run later, rest = run ++ later ∧ leading a rest = (replacement, run.length) ∧
    IsBroken (a :: run) later

variable (incomplete : ∀ c : Char, ¬String.utf8EncodeChar c <+: a :: rest)
include incomplete

/-- The first octet alone is replaced if the next one does not fit. -/
theorem replaces_one (stops : ∀ b ∈ rest.head?, ¬BeginsChar [a, b])
    (reads : leading a rest = (replacement, 0)) : Replaces a rest :=
  ⟨[], rest, rfl, reads, incomplete, ⟨List.cons_ne_nil _ _, .inr rfl⟩, stops⟩

/-- An octet that begins two is replaced unless the next one continues it. -/
theorem replaces_of_two (first : 0xC2 ≤ a ∧ a ≤ 0xDF) (high : ¬a < 0x80) : Replaces a rest := by
  have below : a.toNat ≤ 0xDF := UInt8.le_iff_toNat_le.1 first.2
  cases rest with
  | nil => exact replaces_one incomplete nofun (by simp [leading, high, first])
  | cons b rest =>
    have noTail : isTail b = false := Bool.eq_false_iff.2 fun second =>
      not_isChar_of_incomplete incomplete ⟨rest, rfl⟩ (.two first second)
    refine replaces_one incomplete ?_ (by simp [leading, high, first, noTail])
    intro other same begins
    cases same
    rcases of_beginsChar_second begins with ⟨_, tail⟩ | three | four
    · rw [noTail] at tail
      cases tail
    · have lead := isSecondOfThree_iff.1 three
      omega
    · have lead := isSecondOfFour_iff.1 four
      omega

/-- An octet that begins three is replaced with the second one, if that fits. -/
theorem replaces_of_three (first : 0xE0 ≤ a ∧ a ≤ 0xEF) (high : ¬a < 0x80) (noTwo : ¬a ≤ 0xDF) :
    Replaces a rest := by
  have below : a.toNat ≤ 0xEF := UInt8.le_iff_toNat_le.1 first.2
  cases rest with
  | nil => exact replaces_one incomplete nofun (by simp [leading, high, noTwo, first])
  | cons b rest =>
    cases fits : isSecondOfThree a b with
    | false =>
      refine replaces_one incomplete ?_ (by cases rest <;> simp [leading, high, noTwo, first, fits])
      intro other same begins
      cases same
      rcases of_beginsChar_second begins with ⟨two, _⟩ | three | four
      · exact noTwo two.2
      · rw [fits] at three
        cases three
      · have lead := isSecondOfFour_iff.1 four
        omega
    | true =>
      cases rest with
      | nil =>
        exact ⟨[b], [], rfl, by simp [leading, high, noTwo, first, fits], incomplete,
          ⟨List.cons_ne_nil _ _, .inl (beginsChar_pair (.inl fits))⟩, nofun⟩
      | cons c rest =>
        have noTail : isTail c = false := Bool.eq_false_iff.2 fun third =>
          not_isChar_of_incomplete incomplete ⟨rest, rfl⟩ (.three fits third)
        refine ⟨[b], c :: rest, rfl, by simp [leading, high, noTwo, first, fits, noTail], incomplete,
          ⟨List.cons_ne_nil _ _, .inl (beginsChar_pair (.inl fits))⟩, ?_⟩
        intro other same begins
        cases same
        rw [of_beginsChar_third begins] at noTail
        cases noTail

/-- An octet that begins four is replaced with the second and the third one, if these fit. -/
theorem replaces_of_four (first : 0xF0 ≤ a ∧ a ≤ 0xF4) (high : ¬a < 0x80) (noTwo : ¬a ≤ 0xDF)
    (noThree : ¬a ≤ 0xEF) : Replaces a rest := by
  have above : 0xF0 ≤ a.toNat := UInt8.le_iff_toNat_le.1 first.1
  cases rest with
  | nil => exact replaces_one incomplete nofun (by simp [leading, high, noTwo, noThree, first])
  | cons b rest =>
    cases fits : isSecondOfFour a b with
    | false =>
      refine replaces_one incomplete ?_ (by
        rcases rest with _ | ⟨c, _ | ⟨d, rest⟩⟩ <;>
          simp [leading, high, noTwo, noThree, first, fits])
      intro other same begins
      cases same
      rcases of_beginsChar_second begins with ⟨two, _⟩ | three | four
      · exact noTwo two.2
      · have lead := isSecondOfThree_iff.1 three
        omega
      · rw [fits] at four
        cases four
    | true =>
      have pair := beginsChar_pair (.inr fits)
      cases rest with
      | nil =>
        exact ⟨[b], [], rfl, by simp [leading, high, noTwo, noThree, first, fits], incomplete,
          ⟨List.cons_ne_nil _ _, .inl pair⟩, nofun⟩
      | cons c rest =>
        cases third : isTail c with
        | false =>
          refine ⟨[b], c :: rest, rfl, by
            cases rest <;> simp [leading, high, noTwo, noThree, first, fits, third], incomplete,
            ⟨List.cons_ne_nil _ _, .inl pair⟩, ?_⟩
          intro other same begins
          cases same
          rw [of_beginsChar_third begins] at third
          cases third
        | true =>
          have triple := beginsChar_triple fits third
          cases rest with
          | nil =>
            exact ⟨[b, c], [], rfl, by simp [leading, high, noTwo, noThree, first, fits, third],
              incomplete, ⟨List.cons_ne_nil _ _, .inl triple⟩, nofun⟩
          | cons d rest =>
            have noTail : isTail d = false := Bool.eq_false_iff.2 fun fourth =>
              not_isChar_of_incomplete incomplete ⟨rest, rfl⟩ (.four fits third fourth)
            refine ⟨[b, c], d :: rest, rfl, by
              simp [leading, high, noTwo, noThree, first, fits, third, noTail], incomplete,
              ⟨List.cons_ne_nil _ _, .inl triple⟩, ?_⟩
            intro other same begins
            cases same
            rw [of_beginsChar_fourth begins] at noTail
            cases noTail

/-- Where no character stands, a run is replaced. -/
theorem replaces_of_incomplete : Replaces a rest := by
  -- Along the ranges of the first octet.
  by_cases low : a < 0x80
  · exact absurd (.one low) (not_isChar_of_incomplete incomplete List.nil_prefix)
  by_cases two : 0xC2 ≤ a ∧ a ≤ 0xDF
  · exact replaces_of_two incomplete two low
  by_cases three : 0xE0 ≤ a ∧ a ≤ 0xEF
  · refine replaces_of_three incomplete three low fun le => ?_
    exact absurd (UInt8.le_trans three.1 le) (by decide)
  by_cases four : 0xF0 ≤ a ∧ a ≤ 0xF4
  · refine replaces_of_four incomplete four low (fun le => ?_) fun le => ?_
    · exact absurd (UInt8.le_trans four.1 le) (by decide)
    · exact absurd (UInt8.le_trans four.1 le) (by decide)
  -- No character begins with any other octet but itself.
  refine replaces_one incomplete (fun b _ begins => ?_) (by simp [leading, low, two, three, four])
  rcases of_beginsChar_second begins with ⟨first, _⟩ | second | second
  · exact two first
  · have lead := isSecondOfThree_iff.1 second
    exact three ⟨UInt8.le_iff_toNat_le.2 lead.1, UInt8.le_iff_toNat_le.2 lead.2.1⟩
  · have lead := isSecondOfFour_iff.1 second
    exact four ⟨UInt8.le_iff_toNat_le.2 lead.1, UInt8.le_iff_toNat_le.2 lead.2.1⟩

end Broken

/-! ## The text that is read -/

/-- What is in front of octets that a character begins with begins it too. -/
theorem BeginsChar.of_prefix {run shorter : List UInt8} (begins : BeginsChar run)
    (starts : shorter <+: run) : BeginsChar shorter := by
  obtain ⟨c, written⟩ := begins
  exact ⟨c, starts.trans written⟩

/-- Of the runs in front of the same octets that are replaced, none is longer than another. -/
theorem IsBroken.eq_of_prefix {run other rest later : List UInt8} (broken : IsBroken run rest)
    (otherBroken : IsBroken other later) (same : run ++ rest = other ++ later)
    (starts : run <+: other) : run = other := by
  obtain ⟨more, rfl⟩ := starts
  cases more with
  | nil => rw [List.append_nil]
  | cons b more =>
    -- The longer one begins a character, and so does the shorter one with the next octet.
    have next : b ∈ rest.head? := by
      rw [List.append_assoc, List.append_cancel_left_eq] at same
      rw [same]
      rfl
    obtain ⟨_, begins | single⟩ := otherBroken.begins
    · refine absurd (begins.of_prefix ?_) (broken.longest b next)
      exact (List.prefix_append_right_inj run).2 (List.cons_prefix_cons.2 ⟨rfl, List.nil_prefix⟩)
    · have some := List.length_pos_iff.2 broken.begins.1
      rw [List.length_append, List.length_cons] at single
      omega

/-- Only one run in front of the same octets is replaced. -/
theorem IsBroken.eq {run other rest later : List UInt8} (broken : IsBroken run rest)
    (otherBroken : IsBroken other later) (same : run ++ rest = other ++ later) : run = other := by
  rcases List.prefix_or_prefix_of_prefix (List.prefix_append run rest)
    (same ▸ List.prefix_append other later) with shorter | longer
  · exact broken.eq_of_prefix otherBroken same shorter
  · exact (otherBroken.eq_of_prefix broken same.symm longer).symm

/-- Octets that are passed over are left out. -/
theorem lossyChars_eq_drop (taken : Nat) (s : List UInt8) :
    lossyChars taken s = lossyChars 0 (s.drop taken) := by
  induction s generalizing taken with
  | nil => rw [List.drop_nil, lossyChars, lossyChars]
  | cons a rest ih =>
    cases taken with
    | zero => rfl
    | succ later => exact ih later

/-- Characters are read one by one. -/
theorem lossyChars_cons_append {a : UInt8} {run rest : List UInt8} {c : Char}
    (reads : leading a (run ++ rest) = (c, run.length)) :
    lossyChars 0 (a :: run ++ rest) = c :: lossyChars 0 rest := by
  rw [List.cons_append, lossyChars, reads, lossyChars_eq_drop, List.drop_left]

/-- Characters are given by their octets. -/
theorem utf8EncodeChar_injective {c d : Char}
    (same : String.utf8EncodeChar c = String.utf8EncodeChar d) : c = d := by
  have texts : encode (String.ofList [c]) = encode (String.ofList [d]) := by
    rw [encode_ofList, encode_ofList, octets_cons, octets_cons, same]
  have read := decode?_encode (String.ofList [c])
  rw [texts, decode?_encode, Option.some_inj, String.ofList_inj] at read
  exact (List.singleton_inj.1 read).symm

/-- A character is read where it stands. -/
theorem lossyChars_char (c : Char) (rest : List UInt8) :
    lossyChars 0 (String.utf8EncodeChar c ++ rest) = c :: lossyChars 0 rest := by
  have isChar := isChar_utf8EncodeChar c
  cases octets : String.utf8EncodeChar c with
  | nil =>
    rw [octets] at isChar
    cases isChar
  | cons a tail =>
    obtain ⟨d, written, reads⟩ := (octets ▸ isChar).exists_leading
    obtain rfl : d = c := utf8EncodeChar_injective (written.trans octets.symm)
    exact lossyChars_cons_append (reads rest)

/-- A broken run is replaced. -/
theorem lossyChars_broken {run rest : List UInt8} (broken : IsBroken run rest) :
    lossyChars 0 (run ++ rest) = replacement :: lossyChars 0 rest := by
  cases run with
  | nil => exact absurd rfl broken.begins.1
  | cons a tail =>
    obtain ⟨run, later, parts, reads, replaced⟩ := replaces_of_incomplete broken.incomplete
    have same : a :: tail ++ rest = a :: run ++ later := congrArg (a :: ·) parts
    obtain rfl : tail = run := List.cons.inj (broken.eq replaced same) |>.2
    exact lossyChars_cons_append reads

/-- Any octets can be read leniently. -/
theorem exists_readsLeniently (s : List UInt8) : ∃ cs, ReadsLeniently s cs := by
  -- On the length, as what is read or replaced is never empty.
  induction length : s.length using Nat.strongRecOn generalizing s with
  | ind n ih =>
    subst length
    cases s with
    | nil => exact ⟨[], .nil⟩
    | cons a rest =>
      by_cases stands : ∃ c : Char, String.utf8EncodeChar c <+: a :: rest
      · obtain ⟨c, later, written⟩ := stands
        have shorter : later.length < (a :: rest).length := by
          have some := Char.utf8Size_pos c
          rw [← written, List.length_append, String.length_utf8EncodeChar]
          omega
        obtain ⟨cs, reads⟩ := ih _ shorter later rfl
        exact ⟨c :: cs, written ▸ .char c reads⟩
      · obtain ⟨run, later, rfl, _, broken⟩ := replaces_of_incomplete (not_exists.1 stands)
        have shorter : later.length < (a :: (run ++ later)).length := by
          rw [List.length_cons, List.length_append]
          omega
        obtain ⟨cs, reads⟩ := ih _ shorter later rfl
        exact ⟨replacement :: cs, .broken broken reads⟩

/-- They can be read in no other way. -/
theorem ReadsLeniently.lossyChars_eq {s : List UInt8} {cs : List Char} (reads : ReadsLeniently s cs) :
    lossyChars 0 s = cs := by
  induction reads with
  | nil => rfl
  | char c _ ih => rw [lossyChars_char, ih]
  | broken broken _ ih => rw [lossyChars_broken broken, ih]

/-- A text is how octets are read leniently if it is the one that `lossy` gives, and only then. -/
theorem readsLeniently_iff {s : List UInt8} {text : String} :
    ReadsLeniently s text.toList ↔ lossy s = text := by
  constructor
  · intro reads
    rw [lossy, reads.lossyChars_eq, String.ofList_toList]
  · rintro rfl
    obtain ⟨cs, reads⟩ := exists_readsLeniently s
    rwa [lossy, reads.lossyChars_eq, String.toList_ofList]

/-- Two octets of three are replaced together, and what interrupts them is read. -/
example : lossy [0xE2, 0x82, 0x21] = "\uFFFD!" := by decide

/-- The octets of a text are read as it. -/
theorem lossy_encode (text : String) : lossy (encode text) = text := by
  rw [← readsLeniently_iff, encode_eq_octets]
  induction text.toList with
  | nil => exact .nil
  | cons c cs ih => exact .char c ih

end OpenBanking.Utf8
