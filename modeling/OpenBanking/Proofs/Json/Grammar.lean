import OpenBanking.Json.Reader
import OpenBanking.Proofs.Json.Octets
import Mathlib.Data.List.DropRight

/-!
# Well-formed values

The grammar of JSON text, with blanks between tokens and with every spelling of numbers and strings.
Whatever value is well-formed is passed over. In the grammar the blanks behind a value belong to the
value; the reader leaves them to whatever comes next, so where it stands is known up to blanks only.
-/

namespace OpenBanking.Json

/-! ## Numbers -/

/-- One decimal digit or several. -/
structure IsDigits (s : List UInt8) : Prop where
  /-- There is a digit. -/
  ne_nil : s ≠ []
  /-- There is nothing else. -/
  each : ∀ b ∈ s, (Octet.digit? b).isSome = true

/-- One digit is enough. -/
theorem isDigits_singleton {b : UInt8} (digit : (Octet.digit? b).isSome = true) : IsDigits [b] where
  ne_nil := List.cons_ne_nil b []
  each other mem := by rwa [List.mem_singleton.1 mem]

/-- Digits before the point: no zero stands in front of another digit. -/
inductive IsWhole : List UInt8 → Prop where
  | zero : IsWhole [0x30]
  | digits {b : UInt8} {s : List UInt8} (notZero : b ≠ 0x30) (written : IsDigits (b :: s)) :
    IsWhole (b :: s)

/-- A point with digits, or nothing. -/
inductive IsFraction : List UInt8 → Prop where
  | absent : IsFraction []
  | point {s : List UInt8} (written : IsDigits s) : IsFraction (Octet.point :: s)

/-- A power of ten with its mark, or nothing. -/
inductive IsExponent : List UInt8 → Prop where
  | absent : IsExponent []
  | power {mark : UInt8} {sign s : List UInt8} (marks : Octet.isExponentMark mark = true)
    (signed : sign ∈ [[], [Octet.minus], [Octet.plus]]) (written : IsDigits s) :
    IsExponent (mark :: (sign ++ s))

/-- The text of a number. -/
inductive IsNumber : List UInt8 → Prop where
  | parts {sign whole fraction exponent : List UInt8} (signed : sign ∈ [[], [Octet.minus]])
    (integral : IsWhole whole) (fractional : IsFraction fraction) (scaled : IsExponent exponent) :
    IsNumber (sign ++ (whole ++ (fraction ++ exponent)))

/-- Octets that digits do not go on with. -/
def EndsDigits (rest : List UInt8) : Prop := ∀ b ∈ rest.head?, Octet.digit? b = none

/-- The leading digits are taken, each with its value. -/
theorem spanDigits_digits {s : List UInt8} (each : ∀ b ∈ s, (Octet.digit? b).isSome = true)
    {rest : List UInt8} (ends : EndsDigits rest) :
    spanDigits (s ++ rest) = (s.filterMap Octet.digit?, rest) := by
  induction s with
  | nil =>
    cases rest with
    | nil => rfl
    | cons b rest =>
      have noDigit := ends b rfl
      simp [spanDigits, noDigit]
  | cons b s ih =>
    obtain ⟨first, later⟩ := List.forall_mem_cons.1 each
    obtain ⟨digit, value⟩ := Option.isSome_iff_exists.1 first
    simp [spanDigits, value, ih later]

/-- Digits that must stand somewhere are taken. -/
theorem someDigits_digits {s : List UInt8} (written : IsDigits s) {rest : List UInt8}
    (ends : EndsDigits rest) : someDigits (s ++ rest) = .ok (s.filterMap Octet.digit?, rest) := by
  obtain ⟨b, s, rfl⟩ := List.exists_cons_of_ne_nil written.ne_nil
  obtain ⟨digit, value⟩ := Option.isSome_iff_exists.1 (written.each b List.mem_cons_self)
  rw [someDigits, spanDigits_digits written.each ends, List.filterMap_cons_some value]

/-- What ends numbers ends digits. -/
theorem EndsNumber.endsDigits {rest : List UInt8} (ends : EndsNumber rest) : EndsDigits rest :=
  fun b held => (ends b held).1

/-- A blank ends a number. -/
theorem EndsNumber.blank {b : UInt8} (blank : Octet.isBlank b = true) (rest : List UInt8) :
    EndsNumber (b :: rest) := by
  simp only [EndsNumber, List.head?_cons, Option.mem_some_iff, forall_eq']
  simp only [Octet.isBlank, Bool.or_eq_true, decide_eq_true_eq] at blank
  rcases blank with ((rfl | rfl) | rfl) | rfl <;> decide

/-- A sign behind the mark of a power of ten leaves its digits. -/
theorem exponentSign_append {sign : List UInt8}
    (signed : sign ∈ [[], [Octet.minus], [Octet.plus]]) {s : List UInt8} (written : IsDigits s)
    (rest : List UInt8) : (exponentSign (sign ++ (s ++ rest))).2 = s ++ rest := by
  obtain ⟨b, s, rfl⟩ := List.exists_cons_of_ne_nil written.ne_nil
  have first := written.each b List.mem_cons_self
  have notMinus : b ≠ Octet.minus := by
    rintro rfl
    exact absurd first (by decide)
  have notPlus : b ≠ Octet.plus := by
    rintro rfl
    exact absurd first (by decide)
  simp only [List.mem_cons, List.not_mem_nil, or_false] at signed
  rcases signed with rfl | rfl | rfl
  · simp [exponentSign, notMinus, notPlus]
  · simp [exponentSign]
  · simp [exponentSign, show Octet.plus ≠ Octet.minus by decide]

/-- A power of ten is read, if there is one. -/
theorem exists_readExponent {s : List UInt8} (scaled : IsExponent s) {rest : List UInt8}
    (ends : EndsNumber rest) (negative : Bool) (whole fraction : List Nat) :
    ∃ literal, readExponent negative whole fraction (s ++ rest) = .ok (literal, rest) := by
  cases scaled with
  | absent =>
    cases rest with
    | nil => exact ⟨_, rfl⟩
    | cons b rest =>
      have noMark := (ends b rfl).2.2
      exact ⟨_, by simp [readExponent, noMark]; rfl⟩
  | @power mark sign s marks signed written =>
    have behind := exponentSign_append signed written rest
    have digits := someDigits_digits written ends.endsDigits
    rw [List.cons_append, List.append_assoc, readExponent, if_pos marks, behind, digits]
    exact ⟨_, rfl⟩

/-- What may stand behind the digits of a fraction ends them. -/
theorem IsExponent.endsDigits {s : List UInt8} (scaled : IsExponent s) {rest : List UInt8}
    (ends : EndsNumber rest) : EndsDigits (s ++ rest) := by
  cases scaled with
  | absent => exact ends.endsDigits
  | @power mark sign s marks =>
    intro b held
    obtain rfl : mark = b := by simpa using held
    simp only [Octet.isExponentMark, Bool.or_eq_true, decide_eq_true_eq] at marks
    rcases marks with rfl | rfl <;> rfl

/-- What may stand behind the digits of a whole number is no point, unless it is a fraction. -/
theorem IsExponent.ne_point {s : List UInt8} (scaled : IsExponent s) {rest : List UInt8}
    (ends : EndsNumber rest) : ∀ b ∈ (s ++ rest).head?, b ≠ Octet.point := by
  cases scaled with
  | absent => exact fun b held => (ends b held).2.1
  | @power mark sign s marks =>
    rintro b held rfl
    obtain rfl : mark = Octet.point := by simpa using held
    exact absurd marks (by decide)

/-- What may stand behind the whole digits of a number. -/
def readFraction (negative : Bool) (digits : List Nat) :
    List UInt8 → Except ReadError (Literal × List UInt8)
  | b :: later =>
    if b = Octet.point then do
      let (fraction, last) ← someDigits later
      readExponent negative digits fraction last
    else readExponent negative digits [] (b :: later)
  | [] => readExponent negative digits [] []

/-- Digits with no zero in front of another are the whole part of a number. -/
theorem readLiteral_of_digits {s rest : List UInt8} {digits : List Nat}
    (taken : someDigits s = .ok (digits, rest)) (noZero : ∀ n later, digits ≠ 0 :: n :: later)
    (negative : Bool) : readLiteral negative s = readFraction negative digits rest := by
  unfold readLiteral
  simp only [taken, bind, Except.bind]
  rcases digits with _ | ⟨digit, _ | ⟨n, later⟩⟩
  · cases rest <;> rfl
  · cases digit <;> cases rest <;> rfl
  · cases digit with
    | zero => exact absurd rfl (noZero n later)
    | succ digit => cases rest <;> rfl

/-- The digits of a whole number are taken, and no zero stands in front of another. -/
theorem IsWhole.exists_someDigits {s : List UInt8} (integral : IsWhole s) {rest : List UInt8}
    (ends : EndsDigits rest) :
    ∃ digits, someDigits (s ++ rest) = .ok (digits, rest) ∧
      ∀ n later, digits ≠ 0 :: n :: later := by
  cases integral with
  | zero =>
    refine ⟨[0], ?_, nofun⟩
    exact someDigits_digits (isDigits_singleton (by decide : (Octet.digit? 0x30).isSome = true)) ends
  | @digits b s notZero written =>
    refine ⟨_, someDigits_digits written ends, ?_⟩
    obtain ⟨digit, value⟩ := Option.isSome_iff_exists.1 (written.each b List.mem_cons_self)
    rw [List.filterMap_cons_some value]
    rintro n later same
    obtain rfl := (List.cons.inj same).1
    simp only [Octet.digit?] at value
    split at value
    next bounds =>
      have least : (0x30 : UInt8).toNat ≤ b.toNat := UInt8.le_iff_toNat_le.1 bounds.1
      have small := Option.some.inj value
      refine notZero (UInt8.toNat_inj.1 ?_)
      have code : (0x30 : UInt8).toNat = 0x30 := rfl
      omega
    next => cases value

/-- A number after its sign is read, whatever its parts. -/
theorem exists_readLiteral {whole fraction exponent : List UInt8} (integral : IsWhole whole)
    (fractional : IsFraction fraction) (scaled : IsExponent exponent) {rest : List UInt8}
    (ends : EndsNumber rest) (negative : Bool) :
    ∃ literal, readLiteral negative (whole ++ (fraction ++ (exponent ++ rest))) =
      .ok (literal, rest) := by
  cases fractional with
  | @point s written =>
    have behind : EndsDigits (Octet.point :: s ++ (exponent ++ rest)) := by
      intro b held
      obtain rfl : Octet.point = b := by simpa using held
      rfl
    obtain ⟨digits, taken, noZero⟩ := integral.exists_someDigits behind
    have fractionDigits := someDigits_digits written (scaled.endsDigits ends)
    obtain ⟨literal, read⟩ := exists_readExponent scaled ends negative digits _
    refine ⟨literal, ?_⟩
    rw [readLiteral_of_digits taken noZero]
    simpa only [List.cons_append, readFraction, ↓reduceIte, fractionDigits, bind, Except.bind]
      using read
  | absent =>
    obtain ⟨digits, taken, noZero⟩ := integral.exists_someDigits (scaled.endsDigits ends)
    obtain ⟨literal, read⟩ := exists_readExponent scaled ends negative digits []
    have noPoint := scaled.ne_point ends
    refine ⟨literal, ?_⟩
    rw [List.nil_append, readLiteral_of_digits taken noZero]
    generalize exponent ++ rest = later at noPoint read ⊢
    cases later with
    | nil => exact read
    | cons b later => rwa [readFraction, if_neg (noPoint b rfl)]

/-- The digits of a whole number begin numbers, and none is a minus sign. -/
theorem IsWhole.exists_cons {s : List UInt8} (integral : IsWhole s) :
    ∃ b later, s = b :: later ∧ beginsNumber b = true ∧ b ≠ Octet.minus := by
  cases integral with
  | zero => exact ⟨_, _, rfl, by decide, by decide⟩
  | @digits b s _ written =>
    have first := written.each b List.mem_cons_self
    refine ⟨b, s, rfl, by simp [beginsNumber, first], ?_⟩
    rintro rfl
    exact absurd first (by decide)

/-- A number begins as numbers do. -/
theorem IsNumber.exists_cons {s : List UInt8} (written : IsNumber s) :
    ∃ b later, s = b :: later ∧ beginsNumber b = true := by
  cases written with
  | @parts sign whole fraction exponent signed integral =>
    obtain ⟨b, later, rfl, begins, _⟩ := integral.exists_cons
    simp only [List.mem_cons, List.not_mem_nil, or_false] at signed
    rcases signed with rfl | rfl
    · exact ⟨b, _, rfl, begins⟩
    · exact ⟨Octet.minus, _, rfl, by decide⟩

/-- A number is passed over. -/
theorem skipNumber_append {s : List UInt8} (written : IsNumber s) {rest : List UInt8}
    (ends : EndsNumber rest) : skipNumber (s ++ rest) = .ok rest := by
  cases written with
  | @parts sign whole fraction exponent signed integral fractional scaled =>
    simp only [List.mem_cons, List.not_mem_nil, or_false] at signed
    rw [List.append_assoc, List.append_assoc, List.append_assoc]
    rcases signed with rfl | rfl
    · obtain ⟨literal, read⟩ := exists_readLiteral integral fractional scaled ends false
      obtain ⟨b, later, rfl, _, notMinus⟩ := integral.exists_cons
      simp only [List.nil_append, List.cons_append, skipNumber, notMinus, ↓reduceIte] at read ⊢
      rw [read]
    · obtain ⟨literal, read⟩ := exists_readLiteral integral fractional scaled ends true
      simp only [List.cons_append, List.nil_append, skipNumber, ↓reduceIte, read]

/-! ## Strings -/

/-- The text of a string after its opening quote. -/
inductive IsString : List UInt8 → Prop where
  | close : IsString [Octet.quote]
  | plain {b : UInt8} {s : List UInt8} (plain : IsPlain b) (later : IsString s) : IsString (b :: s)
  | letter {b : UInt8} {s : List UInt8} (denotes : (Octet.escape? b).isSome = true)
    (later : IsString s) : IsString (Octet.backslash :: b :: s)
  | codeUnit {a b c d : UInt8} {s : List UInt8} (denotes : (codeUnit? a b c d).isSome = true)
    (later : IsString s) : IsString (Octet.backslash :: Octet.letterU :: a :: b :: c :: d :: s)

/-- A string is passed over. -/
theorem skipString_append {s : List UInt8} (written : IsString s) (rest : List UInt8) :
    skipString (s ++ rest) = .ok rest := by
  have escape : Octet.backslash ≠ Octet.quote := by decide
  induction written with
  | close =>
    rw [List.singleton_append, skipString.eq_def]
    rfl
  | plain plain _ ih =>
    rw [List.cons_append, skipString.eq_def]
    simp only [plain.ne_quote, plain.ne_backslash, plain.not_control, ↓reduceIte, ih]
  | @letter b s denotes _ ih =>
    obtain ⟨octet, denoted⟩ := Option.isSome_iff_exists.1 denotes
    have noUnit : b ≠ Octet.letterU := by
      rintro rfl
      exact absurd denotes (by decide)
    rw [List.cons_append, List.cons_append, skipString.eq_def]
    simp only [escape, noUnit, ↓reduceIte, denoted, ih]
  | codeUnit denotes _ ih =>
    obtain ⟨n, denoted⟩ := Option.isSome_iff_exists.1 denotes
    simp only [List.cons_append]
    rw [skipString.eq_def]
    simp only [escape, ↓reduceIte, denoted, ih]

/-! ## Values -/

/-- Octets all of which are blanks. -/
def IsBlanks (s : List UInt8) : Prop := ∀ b ∈ s, Octet.isBlank b = true

/-- There may be no blank. -/
theorem isBlanks_nil : IsBlanks [] := List.forall_mem_nil _

/-- The text of a name up to its value. -/
inductive IsName : List UInt8 → Prop where
  | named {before s after : List UInt8} (leading : IsBlanks before) (written : IsString s)
    (trailing : IsBlanks after) :
    IsName (before ++ Octet.quote :: (s ++ (after ++ [Octet.colon])))

/-- The text of a value. -/
inductive IsJson : List UInt8 → Prop where
  | word {s : List UInt8} (known : s ∈ [0x6E :: ull, 0x74 :: rue, 0x66 :: alse]) : IsJson s
  | number {s : List UInt8} (written : IsNumber s) : IsJson s
  | string {s : List UInt8} (written : IsString s) : IsJson (Octet.quote :: s)
  | array {gap : List UInt8} {items : List (List UInt8)} (blanks : IsBlanks gap)
    (each : ∀ item ∈ items, IsJson item) :
    IsJson (Octet.openList :: (gap ++ (parted items ++ [Octet.closeList])))
  | object {gap : List UInt8} {members : List (List UInt8 × List UInt8)} (blanks : IsBlanks gap)
    (named : ∀ member ∈ members, IsName member.1) (each : ∀ member ∈ members, IsJson member.2) :
    IsJson (Octet.openObject ::
      (gap ++ (parted (members.map fun member => member.1 ++ member.2) ++ [Octet.closeObject])))
  | spaced {before s after : List UInt8} (leading : IsBlanks before) (written : IsJson s)
    (trailing : IsBlanks after) : IsJson (before ++ (s ++ after))

/-- Leading blanks are passed over. -/
theorem IsBlanks.skipBlanks_append {s : List UInt8} (blanks : IsBlanks s) (rest : List UInt8) :
    skipBlanks (s ++ rest) = skipBlanks rest := by
  induction s with
  | nil => rfl
  | cons b s ih =>
    obtain ⟨first, later⟩ := List.forall_mem_cons.1 blanks
    rw [List.cons_append, skipBlanks, List.dropWhile_cons_of_pos first]
    exact ih later

/-- What is no blank stays. -/
theorem skipBlanks_cons {b : UInt8} (notBlank : Octet.isBlank b = false) (s : List UInt8) :
    skipBlanks (b :: s) = b :: s :=
  List.dropWhile_cons_of_neg (by simp [notBlank])

/-- Blanks are passed over once. -/
@[simp]
theorem skipBlanks_skipBlanks (s : List UInt8) : skipBlanks (skipBlanks s) = skipBlanks s :=
  List.dropWhile_idempotent _ _

/-- Behind blanks a number ends as it does before what follows them. -/
theorem IsBlanks.endsNumber {s : List UInt8} (blanks : IsBlanks s) {rest : List UInt8}
    (ends : EndsNumber rest) : EndsNumber (s ++ rest) := by
  cases s with
  | nil => exact ends
  | cons b s => exact .blank (blanks b List.mem_cons_self) (s ++ rest)

/-- What ends an array or an object begins no value. -/
structure IsOpening (b : UInt8) : Prop where
  /-- It is no blank. -/
  not_blank : Octet.isBlank b = false
  /-- It does not end an array. -/
  ne_closeList : b ≠ Octet.closeList
  /-- It does not end an object. -/
  ne_closeObject : b ≠ Octet.closeObject

/-- Behind its leading blanks a name begins with its quote. -/
theorem IsName.exists_skipBlanks {s : List UInt8} (named : IsName s) (rest : List UInt8) :
    ∃ b later, skipBlanks (s ++ rest) = b :: later ∧ IsOpening b := by
  obtain @⟨before, text, after, leading, _, _⟩ := named
  rw [List.append_assoc, leading.skipBlanks_append, List.cons_append, skipBlanks_cons (by decide)]
  exact ⟨_, _, rfl, by decide, by decide, by decide⟩

/-- Behind its leading blanks a value begins with an octet that ends nothing. -/
theorem IsJson.exists_skipBlanks {s : List UInt8} (written : IsJson s) (rest : List UInt8) :
    ∃ b later, skipBlanks (s ++ rest) = b :: later ∧ IsOpening b := by
  induction written generalizing rest with
  | word known =>
    simp only [List.mem_cons, List.not_mem_nil, or_false] at known
    rcases known with rfl | rfl | rfl <;> exact ⟨_, _, rfl, by decide, by decide, by decide⟩
  | number written =>
    obtain ⟨b, later, rfl, begins⟩ := written.exists_cons
    have value := beginsValue_number begins (.whole 0)
    have notEnd : b ≠ Octet.closeObject := by
      rintro rfl
      exact absurd begins (by decide)
    exact ⟨b, _, skipBlanks_cons value.not_blank _, value.not_blank, value.ne_closeList, notEnd⟩
  | string written => exact ⟨_, _, rfl, by decide, by decide, by decide⟩
  | array => exact ⟨_, _, rfl, by decide, by decide, by decide⟩
  | object => exact ⟨_, _, rfl, by decide, by decide, by decide⟩
  | @spaced before s after leading _ _ ih =>
    obtain ⟨b, later, opened, opening⟩ := ih (after ++ rest)
    refine ⟨b, later, ?_, opening⟩
    rw [List.append_assoc, leading.skipBlanks_append, List.append_assoc, opened]

/-- No value is written as nothing. -/
theorem IsJson.length_pos {s : List UInt8} (written : IsJson s) : 0 < s.length := by
  obtain ⟨b, later, opened, _⟩ := written.exists_skipBlanks []
  rw [List.append_nil] at opened
  refine List.length_pos_iff.2 ?_
  rintro rfl
  cases opened

/-! ## Values passed over -/

/-- Leading blanks of a value are passed over with it. -/
theorem skipValue_skipBlanks (steps : Nat) (s : List UInt8) :
    skipValue steps (skipBlanks s) = skipValue steps s := by
  cases steps with
  | zero => rfl
  | succ steps => simp only [skipValue, skipBlanks_skipBlanks]

/-- Leading blanks of items are passed over with them. -/
theorem skipItems_skipBlanks (steps : Nat) (s : List UInt8) :
    skipItems steps (skipBlanks s) = skipItems steps s := by
  cases steps with
  | zero => rfl
  | succ steps => simp only [skipItems, skipValue_skipBlanks]

/-- Leading blanks of members are passed over with them. -/
theorem skipMembers_skipBlanks (steps : Nat) (s : List UInt8) :
    skipMembers steps (skipBlanks s) = skipMembers steps s := by
  cases steps with
  | zero => rfl
  | succ steps => simp only [skipMembers, skipBlanks_skipBlanks]

/-- With two steps for each octet a text is passed over as a value, up to the blanks that follow. -/
def Skips (s : List UInt8) : Prop :=
  ∀ steps rest, 2 * s.length ≤ steps → EndsNumber rest →
    ∃ left, skipValue steps (s ++ rest) = .ok left ∧ skipBlanks left = skipBlanks rest

/-- A text that is not empty leaves a step for its first octet. -/
theorem skips_of_succ {s : List UInt8} (long : 0 < s.length)
    (passes : ∀ steps rest, 2 * s.length ≤ steps + 1 → EndsNumber rest →
      ∃ left, skipValue (steps + 1) (s ++ rest) = .ok left ∧ skipBlanks left = skipBlanks rest) :
    Skips s := by
  intro steps rest enough ends
  cases steps with
  | zero => omega
  | succ steps => exact passes steps rest enough ends

/-- The first of several texts stands in front. -/
theorem parted_cons_append (first : List UInt8) (later : List (List UInt8)) (rest : List UInt8) :
    parted (first :: later) ++ rest = first ++ (later.flatMap (Octet.comma :: ·) ++ rest) := by
  simp [parted]

/-- Items that are passed over one by one are passed over with the end of their array. -/
theorem skipItems_parted {first : List UInt8} {items : List (List UInt8)}
    (skips : ∀ item ∈ first :: items, Skips item) {steps : Nat}
    (enough : 2 * (parted (first :: items)).length < steps) (rest : List UInt8) :
    skipItems steps (parted (first :: items) ++ Octet.closeList :: rest) = .ok rest := by
  induction items generalizing first steps with
  | nil =>
    obtain ⟨steps, rfl⟩ := Nat.exists_eq_add_one_of_ne_zero (Nat.ne_zero_of_lt enough)
    have own := skips first List.mem_cons_self
    simp only [parted, List.flatMap_nil, List.append_nil] at enough ⊢
    obtain ⟨left, passed, stands⟩ := own steps (Octet.closeList :: rest) (by omega) (.closeList rest)
    rw [skipBlanks_cons (by decide)] at stands
    simp only [skipItems, passed, bind, Except.bind, stands, ↓reduceIte]
  | cons second items ih =>
    obtain ⟨steps, rfl⟩ := Nat.exists_eq_add_one_of_ne_zero (Nat.ne_zero_of_lt enough)
    obtain ⟨own, others⟩ := List.forall_mem_cons.1 skips
    have split : parted (first :: second :: items) =
        first ++ Octet.comma :: parted (second :: items) := by simp [parted]
    rw [split, List.length_append, List.length_cons] at enough
    rw [split, List.append_assoc, List.cons_append]
    obtain ⟨left, passed, stands⟩ := own steps
      (Octet.comma :: (parted (second :: items) ++ Octet.closeList :: rest)) (by omega) (.comma _)
    have later := ih others (show _ < steps by omega)
    rw [skipBlanks_cons (by decide)] at stands
    simp only [skipItems, passed, bind, Except.bind, stands,
      show Octet.comma ≠ Octet.closeList by decide, ↓reduceIte, later]

/-- A name is passed over with the value behind it, and then a comma or the end must stand. -/
theorem skipMembers_named {name : List UInt8} (named : IsName name) {steps : Nat}
    {s left : List UInt8} (passed : skipValue steps s = .ok left) :
    skipMembers (steps + 1) (name ++ s) =
      match skipBlanks left with
      | [] => .error .endInObject
      | b :: rest =>
        if b = Octet.closeObject then .ok rest
        else if b = Octet.comma then skipMembers steps rest
        else .error .expectedObjectEnd := by
  obtain @⟨before, text, after, leading, written, trailing⟩ := named
  have opened : skipBlanks (before ++ (Octet.quote :: (text ++ (after ++ Octet.colon :: s)))) =
      Octet.quote :: (text ++ (after ++ Octet.colon :: s)) := by
    rw [leading.skipBlanks_append, skipBlanks_cons (by decide)]
  have closed := skipString_append written (after ++ Octet.colon :: s)
  have parts : readColon (after ++ Octet.colon :: s) = .ok s := by
    rw [readColon, trailing.skipBlanks_append, skipBlanks_cons (by decide)]
    rfl
  cases ended : skipBlanks left <;>
    simp only [List.append_assoc, List.cons_append, List.nil_append, skipMembers, opened, ↓reduceIte,
      closed, bind, Except.bind, parts, passed, ended]

/-- Members whose values are passed over one by one are passed over with the end of their object. -/
theorem skipMembers_parted {first : List UInt8 × List UInt8}
    {members : List (List UInt8 × List UInt8)}
    (named : ∀ member ∈ first :: members, IsName member.1)
    (skips : ∀ member ∈ first :: members, Skips member.2) {steps : Nat}
    (enough : 2 * (parted ((first :: members).map fun member => member.1 ++ member.2)).length < steps)
    (rest : List UInt8) :
    skipMembers steps (parted ((first :: members).map fun member => member.1 ++ member.2) ++
      Octet.closeObject :: rest) = .ok rest := by
  induction members generalizing first steps with
  | nil =>
    obtain ⟨steps, rfl⟩ := Nat.exists_eq_add_one_of_ne_zero (Nat.ne_zero_of_lt enough)
    have own := skips first List.mem_cons_self
    have name := named first List.mem_cons_self
    simp only [List.map_cons, List.map_nil, parted, List.flatMap_nil, List.append_nil,
      List.length_append] at enough
    obtain ⟨left, passed, stands⟩ :=
      own steps (Octet.closeObject :: rest) (by omega) (.closeObject rest)
    rw [skipBlanks_cons (by decide)] at stands
    simp only [List.map_cons, List.map_nil, parted, List.flatMap_nil, List.append_nil,
      List.append_assoc, skipMembers_named name passed, stands, ↓reduceIte]
  | cons second members ih =>
    obtain ⟨steps, rfl⟩ := Nat.exists_eq_add_one_of_ne_zero (Nat.ne_zero_of_lt enough)
    obtain ⟨own, others⟩ := List.forall_mem_cons.1 skips
    obtain ⟨name, otherNames⟩ := List.forall_mem_cons.1 named
    have split : parted ((first :: second :: members).map fun member => member.1 ++ member.2) =
        first.1 ++ (first.2 ++
          Octet.comma :: parted ((second :: members).map fun member => member.1 ++ member.2)) := by
      simp [parted]
    rw [split, List.length_append, List.length_append, List.length_cons] at enough
    rw [split, List.append_assoc, List.append_assoc, List.cons_append]
    obtain ⟨left, passed, stands⟩ := own steps
      (Octet.comma :: (parted ((second :: members).map fun member => member.1 ++ member.2) ++
        Octet.closeObject :: rest)) (by omega) (.comma _)
    have later := ih otherNames others (show _ < steps by omega)
    rw [skipBlanks_cons (by decide)] at stands
    simp only [skipMembers_named name passed, stands,
      show Octet.comma ≠ Octet.closeObject by decide, ↓reduceIte, later]

/-- The words are passed over. -/
theorem expectWord_append (word rest : List UInt8) : expectWord word (word ++ rest) = .ok rest := by
  induction word with
  | nil => rfl
  | cons w word ih => simpa [expectWord] using ih

section Begun

variable {steps : Nat} {s later : List UInt8} {b : UInt8}

/-- An array without items is passed over. -/
theorem skipValue_openList_of_close (closed : skipBlanks s = Octet.closeList :: later) :
    skipValue (steps + 1) (Octet.openList :: s) = .ok later := by
  have opened := skipBlanks_cons (show Octet.isBlank Octet.openList = false by decide) s
  simp only [skipValue, opened, closed]
  rfl

/-- An array with items is passed over by its items. -/
theorem skipValue_openList_of_opening (opening : IsOpening b) (begins : skipBlanks s = b :: later) :
    skipValue (steps + 1) (Octet.openList :: s) = skipItems steps (b :: later) := by
  have opened := skipBlanks_cons (show Octet.isBlank Octet.openList = false by decide) s
  simp only [skipValue, opened, begins, opening.ne_closeList, ↓reduceIte]
  rfl

/-- An object without members is passed over. -/
theorem skipValue_openObject_of_close (closed : skipBlanks s = Octet.closeObject :: later) :
    skipValue (steps + 1) (Octet.openObject :: s) = .ok later := by
  have opened := skipBlanks_cons (show Octet.isBlank Octet.openObject = false by decide) s
  simp only [skipValue, opened, closed]
  rfl

/-- An object with members is passed over by its members. -/
theorem skipValue_openObject_of_opening (opening : IsOpening b)
    (begins : skipBlanks s = b :: later) :
    skipValue (steps + 1) (Octet.openObject :: s) = skipMembers steps (b :: later) := by
  have opened := skipBlanks_cons (show Octet.isBlank Octet.openObject = false by decide) s
  simp only [skipValue, opened, begins, opening.ne_closeObject, ↓reduceIte]
  rfl

end Begun

/-- Whatever is well-formed is passed over. -/
theorem IsJson.skips {s : List UInt8} (written : IsJson s) : Skips s := by
  induction written with
  | @word s known =>
    have long := (IsJson.word known).length_pos
    refine skips_of_succ long fun steps rest _ _ => ⟨rest, ?_, rfl⟩
    simp only [List.mem_cons, List.not_mem_nil, or_false] at known
    rcases known with rfl | rfl | rfl
    · exact expectWord_append ull rest
    · exact expectWord_append rue rest
    · exact expectWord_append alse rest
  | @number s written =>
    have long := (IsJson.number written).length_pos
    refine skips_of_succ long fun steps rest _ ends => ⟨rest, ?_, rfl⟩
    have passed := skipNumber_append written ends
    obtain ⟨b, later, rfl, begins⟩ := written.exists_cons
    have value := beginsValue_number begins (.whole 0)
    have opened := skipBlanks_cons value.not_blank (later ++ rest)
    have noWord (c : UInt8) (other : beginsNumber c = false) : b ≠ c := by
      rintro rfl
      exact absurd begins (by simp [other])
    rw [List.cons_append] at passed ⊢
    simp only [skipValue, opened, noWord 0x6E rfl, noWord 0x74 rfl, noWord 0x66 rfl, begins,
      ↓reduceIte, passed]
  | @string s written =>
    refine skips_of_succ (Nat.succ_pos _) fun steps rest _ _ => ⟨rest, ?_, rfl⟩
    exact skipString_append written rest
  | @array gap items blanks each skips =>
    refine skips_of_succ (Nat.succ_pos _) fun steps rest enough _ => ⟨rest, ?_, rfl⟩
    rw [List.cons_append, List.append_assoc, List.append_assoc, List.singleton_append]
    cases items with
    | nil =>
      have closed := blanks.skipBlanks_append (Octet.closeList :: rest)
      rw [skipBlanks_cons (by decide)] at closed
      exact skipValue_openList_of_close closed
    | cons first items =>
      have enough : 2 * (parted (first :: items)).length < steps := by
        simp only [List.length_cons, List.length_append, List.length_nil] at enough
        omega
      have passed := skipItems_parted skips enough rest
      obtain ⟨b, later, opened, opening⟩ := (each first List.mem_cons_self).exists_skipBlanks
        (items.flatMap (Octet.comma :: ·) ++ Octet.closeList :: rest)
      rw [← parted_cons_append] at opened
      have start := (blanks.skipBlanks_append _).trans opened
      rw [skipValue_openList_of_opening opening start, ← opened, skipItems_skipBlanks]
      exact passed
  | @object gap members blanks named each skips =>
    refine skips_of_succ (Nat.succ_pos _) fun steps rest enough _ => ⟨rest, ?_, rfl⟩
    rw [List.cons_append, List.append_assoc, List.append_assoc, List.singleton_append]
    cases members with
    | nil =>
      have closed := blanks.skipBlanks_append (Octet.closeObject :: rest)
      rw [skipBlanks_cons (by decide)] at closed
      exact skipValue_openObject_of_close closed
    | cons first members =>
      have enough :
          2 * (parted ((first :: members).map fun member => member.1 ++ member.2)).length < steps := by
        simp only [List.length_cons, List.length_append, List.length_nil] at enough
        omega
      have passed := skipMembers_parted named skips enough rest
      obtain ⟨b, later, opened, opening⟩ := (named first List.mem_cons_self).exists_skipBlanks
        (first.2 ++ ((members.map fun member => member.1 ++ member.2).flatMap (Octet.comma :: ·) ++
          Octet.closeObject :: rest))
      rw [← List.append_assoc, ← parted_cons_append] at opened
      rw [List.map_cons] at passed ⊢
      have start := (blanks.skipBlanks_append _).trans opened
      rw [skipValue_openObject_of_opening opening start, ← opened, skipMembers_skipBlanks]
      exact passed
  | @spaced before s after leading _ trailing ih =>
    intro steps rest enough ends
    rw [List.length_append, List.length_append] at enough
    obtain ⟨left, passed, stands⟩ := ih steps (after ++ rest) (by omega) (trailing.endsNumber ends)
    refine ⟨left, ?_, stands.trans (trailing.skipBlanks_append rest)⟩
    rw [List.append_assoc, List.append_assoc, ← skipValue_skipBlanks, leading.skipBlanks_append,
      skipValue_skipBlanks, passed]

/-- A value is passed over whatever number of steps its text gives. -/
theorem IsJson.skipAny_append {s : List UInt8} (written : IsJson s) {rest : List UInt8}
    (ends : EndsNumber rest) :
    ∃ left, skipAny (s ++ rest) = .ok left ∧ skipBlanks left = skipBlanks rest := by
  refine written.skips _ rest ?_ ends
  rw [List.length_append]
  omega

end OpenBanking.Json
