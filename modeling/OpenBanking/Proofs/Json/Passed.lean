import OpenBanking.Proofs.Json.Exact

/-!
# What is passed over is well-formed

Passing over a value does not check what it denotes, but it does check its form: only the text of a
value is passed over, at whatever depth. Together with the passing of every well-formed text this
says which texts may stand behind a name that no field has.
-/

namespace OpenBanking.Json

/-- A text begins with a well-formed value. -/
def BeginsWell (s rest : List UInt8) : Prop := ∃ t, s = t ++ rest ∧ IsJson t

/-- Blanks in front of a well-formed value belong to it. -/
theorem beginsWell_of_skipBlanks {s rest : List UInt8} (begins : BeginsWell (skipBlanks s) rest) :
    BeginsWell s rest := by
  obtain ⟨t, parts, formed⟩ := begins
  obtain ⟨gap, blanks, written⟩ := exists_isBlanks s
  rw [parts] at written
  exact ⟨gap ++ (t ++ []), by simpa using written, .spaced blanks formed isBlanks_nil⟩

/-! ## Numbers -/

/-- Digits that must stand somewhere do. -/
theorem exists_isDigits {s rest : List UInt8} {digits : List Nat}
    (taken : someDigits s = .ok (digits, rest)) :
    ∃ t, s = t ++ rest ∧ IsDigits t ∧ t = digits.map digitOctet := by
  obtain ⟨written, small, nonempty⟩ := of_someDigits taken
  refine ⟨_, written, ⟨by simpa using nonempty, ?_⟩, rfl⟩
  intro b mem
  obtain ⟨digit, held, rfl⟩ := List.mem_map.1 mem
  rw [(digit?_digitOctet digit (small digit held)).1]
  rfl

/-- A sign in front of the digits of a power of ten is one of two, or there is none. -/
theorem exists_exponentSign (s : List UInt8) :
    ∃ sign ∈ [[], [Octet.minus], [Octet.plus]], s = sign ++ (exponentSign s).2 := by
  cases s with
  | nil => exact ⟨[], by simp, rfl⟩
  | cons b s =>
    rw [exponentSign]
    split
    next minus => exact ⟨[Octet.minus], by simp, by rw [minus]; rfl⟩
    next =>
      split
      next plus => exact ⟨[Octet.plus], by simp, by rw [plus]; rfl⟩
      next => exact ⟨[], by simp, rfl⟩

/-- Behind the digits of a number stands a power of ten or nothing that belongs to it. -/
theorem exists_isExponent {negative : Bool} {whole fraction : List Nat} {s rest : List UInt8}
    {literal : Literal} (read : readExponent negative whole fraction s = .ok (literal, rest)) :
    ∃ t, s = t ++ rest ∧ IsExponent t := by
  cases s with
  | nil =>
    cases read
    exact ⟨[], rfl, .absent⟩
  | cons b s =>
    rw [readExponent] at read
    split at read
    next marks =>
      obtain ⟨⟨digits, later⟩, taken, gave⟩ := exists_of_bind_eq_ok read
      cases gave
      obtain ⟨sign, signed, parts⟩ := exists_exponentSign s
      obtain ⟨t, behind, written, _⟩ := exists_isDigits taken
      rw [behind] at parts
      exact ⟨b :: (sign ++ t), by simp [parts], .power marks signed written⟩
    next =>
      cases read
      exact ⟨[], rfl, .absent⟩

/-- Behind the whole digits of a number stands a fraction and a power of ten, or less. -/
theorem exists_isFraction {negative : Bool} {digits : List Nat} {s rest : List UInt8}
    {literal : Literal} (read : readFraction negative digits s = .ok (literal, rest)) :
    ∃ fraction exponent, s = fraction ++ (exponent ++ rest) ∧ IsFraction fraction ∧
      IsExponent exponent := by
  cases s with
  | nil =>
    cases read
    exact ⟨[], [], rfl, .absent, .absent⟩
  | cons b s =>
    rw [readFraction] at read
    split at read
    next point =>
      obtain ⟨⟨fraction, later⟩, taken, gave⟩ := exists_of_bind_eq_ok read
      obtain ⟨t, rfl, written, _⟩ := exists_isDigits taken
      obtain ⟨exponent, rfl, scaled⟩ := exists_isExponent gave
      exact ⟨Octet.point :: t, exponent, by rw [point]; rfl, .point written, scaled⟩
    next =>
      obtain ⟨exponent, parts, scaled⟩ := exists_isExponent read
      exact ⟨[], exponent, parts, .absent, scaled⟩

/-- Digits with no zero in front of another are a whole part. -/
theorem isWhole_of_digits {digits : List Nat} (written : IsDigits (digits.map digitOctet))
    (small : ∀ digit ∈ digits, digit < 10) (noZero : ∀ n later, digits ≠ 0 :: n :: later) :
    IsWhole (digits.map digitOctet) := by
  rcases digits with _ | ⟨digit, later⟩
  · exact absurd rfl written.ne_nil
  cases digit with
  | zero =>
    cases later with
    | nil => exact .zero
    | cons n later => exact absurd rfl (noZero n later)
  | succ digit =>
    refine .digits ?_ written
    intro zero
    have value := (digit?_digitOctet (digit + 1) (small _ List.mem_cons_self)).1
    rw [zero] at value
    cases value

/-- What is read as a number after its sign has its parts. -/
theorem exists_parts_of_readLiteral {negative : Bool} {s rest : List UInt8} {literal : Literal}
    (read : readLiteral negative s = .ok (literal, rest)) :
    ∃ whole fraction exponent, s = whole ++ (fraction ++ (exponent ++ rest)) ∧ IsWhole whole ∧
      IsFraction fraction ∧ IsExponent exponent := by
  obtain ⟨⟨digits, behind⟩, taken, gave⟩ := exists_of_bind_eq_ok read
  have noZero (n : Nat) (later : List Nat) : digits ≠ 0 :: n :: later := by
    rintro rfl
    cases gave
  rw [readLiteral_of_digits taken noZero] at read
  obtain ⟨_, small, _⟩ := of_someDigits taken
  obtain ⟨_, rfl, written, rfl⟩ := exists_isDigits taken
  obtain ⟨fraction, exponent, rfl, fractional, scaled⟩ := exists_isFraction read
  exact ⟨_, fraction, exponent, rfl, isWhole_of_digits written small noZero, fractional, scaled⟩

/-- With a sign or without, what is read as a number is one. -/
theorem exists_isNumber_of_readLiteral (sign : List UInt8) {s rest : List UInt8} {literal : Literal}
    (signed : sign ∈ [[], [Octet.minus]]) {negative : Bool}
    (read : readLiteral negative s = .ok (literal, rest)) :
    ∃ t, sign ++ s = t ++ rest ∧ IsNumber t := by
  obtain ⟨whole, fraction, exponent, rfl, integral, fractional, scaled⟩ :=
    exists_parts_of_readLiteral read
  exact ⟨_, by simp, .parts signed integral fractional scaled⟩

/-- What is passed over as a number is one. -/
theorem exists_isNumber {s rest : List UInt8} (passed : skipNumber s = .ok rest) :
    ∃ t, s = t ++ rest ∧ IsNumber t := by
  cases s with
  | nil => cases passed
  | cons b later =>
    by_cases minus : b = Octet.minus
    · simp only [skipNumber, minus, ↓reduceIte] at passed
      split at passed
      next read =>
        cases passed
        rw [minus]
        exact exists_isNumber_of_readLiteral [Octet.minus] (by simp) read
      next => cases passed
    · simp only [skipNumber, minus, ↓reduceIte] at passed
      split at passed
      next read =>
        cases passed
        exact exists_isNumber_of_readLiteral [] (by simp) read
      next => cases passed

/-! ## Strings -/

/-- What is passed over as a string is one. -/
theorem exists_isString {s rest : List UInt8} (passed : skipString s = .ok rest) :
    ∃ t, s = t ++ rest ∧ IsString t := by
  -- Along the reader; all cases but these end in an error.
  fun_induction skipString s with
  | case2 later =>
    cases passed
    exact ⟨[Octet.quote], rfl, .close⟩
  | case5 a b c d later n denotes _ ih =>
    obtain ⟨t, rfl, written⟩ := ih passed
    exact ⟨_, rfl, .codeUnit (Option.isSome_of_mem denotes) written⟩
  | case7 b later _ octet denotes _ ih =>
    obtain ⟨t, rfl, written⟩ := ih passed
    exact ⟨_, rfl, .letter (Option.isSome_of_mem denotes) written⟩
  | case10 b later notQuote notBackslash notControl ih =>
    obtain ⟨t, rfl, written⟩ := ih passed
    exact ⟨_, rfl, .plain ⟨notQuote, notBackslash, notControl⟩ written⟩
  | _ => cases passed

/-! ## Values -/

/-- A text begins with well-formed items and the end of their array. -/
def BeginsItems (s rest : List UInt8) : Prop :=
  ∃ first items, (∀ item ∈ first :: items, IsJson item) ∧
    s = parted (first :: items) ++ Octet.closeList :: rest

/-- A text begins with well-formed members and the end of their object. -/
def BeginsMembers (s rest : List UInt8) : Prop :=
  ∃ (first : List UInt8 × List UInt8) (members : List (List UInt8 × List UInt8)),
    (∀ member ∈ first :: members, IsName member.1 ∧ IsJson member.2) ∧
      s = parted ((first :: members).map fun member => member.1 ++ member.2) ++
        Octet.closeObject :: rest

/-- The blanks behind a well-formed value belong to it. -/
theorem isJson_append_blanks {t gap : List UInt8} (formed : IsJson t) (blanks : IsBlanks gap) :
    IsJson (t ++ gap) :=
  @IsJson.spaced [] t gap isBlanks_nil formed blanks

/-- A word is passed over behind its first letter. -/
theorem beginsWell_word {b : UInt8} {word s rest : List UInt8}
    (known : b :: word ∈ [0x6E :: ull, 0x74 :: rue, 0x66 :: alse])
    (passed : expectWord word s = .ok rest) : BeginsWell (b :: s) rest :=
  ⟨b :: word, by rw [of_expectWord passed, List.cons_append], .word known⟩

section Steps

variable {steps : Nat} {s rest : List UInt8}
  (values : ∀ s rest, skipValue steps s = .ok rest → BeginsWell s rest)
  (items : ∀ s rest, skipItems steps s = .ok rest → BeginsItems s rest)
  (members : ∀ s rest, skipMembers steps s = .ok rest → BeginsMembers s rest)

include values items in
/-- Items are passed over value by value, with commas between them. -/
theorem beginsItems_of_skipItems (passed : skipItems (steps + 1) s = .ok rest) :
    BeginsItems s rest := by
  obtain ⟨left, one, others⟩ := exists_of_bind_eq_ok passed
  obtain ⟨t, rfl, formed⟩ := values _ _ one
  obtain ⟨gap, blanks, parts⟩ := exists_isBlanks left
  have own := isJson_append_blanks formed blanks
  cases begins : skipBlanks left with
  | nil =>
    rw [begins] at others
    cases others
  | cons b later =>
    simp only [begins] at others
    rw [begins] at parts
    split at others
    next close =>
      cases others
      exact ⟨t ++ gap, [], by simpa using own, by simp [parts, close, parted]⟩
    next =>
      split at others
      next comma =>
        obtain ⟨first, more, each, rfl⟩ := items _ _ others
        exact ⟨t ++ gap, first :: more, List.forall_mem_cons.2 ⟨own, each⟩,
          by simp [parts, comma, parted]⟩
      next => cases others

include values members in
/-- Members are passed over name by name and value by value, with commas between them. -/
theorem beginsMembers_of_skipMembers (passed : skipMembers (steps + 1) s = .ok rest) :
    BeginsMembers s rest := by
  obtain ⟨before, leading, start⟩ := exists_isBlanks s
  rw [skipMembers] at passed
  split at passed
  · cases passed
  next c behind opens =>
  split at passed
  next quote =>
    obtain ⟨named, closed, passed⟩ := exists_of_bind_eq_ok passed
    obtain ⟨valued, colon, passed⟩ := exists_of_bind_eq_ok passed
    obtain ⟨left, one, others⟩ := exists_of_bind_eq_ok passed
    obtain ⟨text, rfl, written⟩ := exists_isString closed
    obtain ⟨between, trailing, rfl⟩ := of_readColon colon
    obtain ⟨t, rfl, formed⟩ := values _ _ one
    obtain ⟨gap, blanks, parts⟩ := exists_isBlanks left
    have name := IsName.named leading written trailing
    have own := isJson_append_blanks formed blanks
    rw [opens, quote] at start
    cases begins : skipBlanks left with
    | nil =>
      rw [begins] at others
      cases others
    | cons b later =>
      simp only [begins] at others
      rw [begins] at parts
      split at others
      next close =>
        cases others
        exact ⟨(_, t ++ gap), [], by simpa using ⟨name, own⟩,
          by simp [start, parts, close, parted]⟩
      next =>
        split at others
        next comma =>
          obtain ⟨first, more, each, rfl⟩ := members _ _ others
          exact ⟨(_, t ++ gap), first :: more, List.forall_mem_cons.2 ⟨⟨name, own⟩, each⟩,
            by simp [start, parts, comma, parted]⟩
        next => cases others
  next => cases passed

include items in
/-- An array is passed over with its items. -/
theorem beginsWell_array
    (passed : (match skipBlanks s with
      | [] => Except.error ReadError.endInList
      | c :: later => if c = Octet.closeList then .ok later else skipItems steps (c :: later)) =
        .ok rest) : BeginsWell (Octet.openList :: s) rest := by
  obtain ⟨gap, blanks, parts⟩ := exists_isBlanks s
  split at passed
  · cases passed
  next c later begins =>
    rw [begins] at parts
    split at passed
    next close =>
      cases passed
      exact ⟨_, by simp [parts, close, parted], @IsJson.array _ [] blanks nofun⟩
    next =>
      obtain ⟨first, more, each, written⟩ := items _ _ passed
      exact ⟨_, by rw [parts, written]; simp, .array blanks each⟩

include members in
/-- An object is passed over with its members. -/
theorem beginsWell_object
    (passed : (match skipBlanks s with
      | [] => Except.error ReadError.endInObject
      | c :: later => if c = Octet.closeObject then .ok later else skipMembers steps (c :: later)) =
        .ok rest) : BeginsWell (Octet.openObject :: s) rest := by
  obtain ⟨gap, blanks, parts⟩ := exists_isBlanks s
  split at passed
  · cases passed
  next c later begins =>
    rw [begins] at parts
    split at passed
    next close =>
      cases passed
      exact ⟨_, by simp [parts, close, parted], @IsJson.object _ [] blanks nofun nofun⟩
    next =>
      obtain ⟨first, more, each, written⟩ := members _ _ passed
      exact ⟨_, by rw [parts, written]; simp,
        .object blanks (fun member held => (each member held).1) fun member held =>
          (each member held).2⟩

include items members in
/-- A value is passed over by what it begins with. -/
theorem beginsWell_of_skipValue (passed : skipValue (steps + 1) s = .ok rest) :
    BeginsWell s rest := by
  refine beginsWell_of_skipBlanks ?_
  -- Along the octets that a value can begin with.
  rw [skipValue] at passed
  split at passed
  · cases passed
  next b later begins =>
    rw [begins]
    split at passed
    next word => exact beginsWell_word (by simp [word]) passed
    next =>
    split at passed
    next word => exact beginsWell_word (by simp [word]) passed
    next =>
    split at passed
    next word => exact beginsWell_word (by simp [word]) passed
    next =>
    split at passed
    next =>
      obtain ⟨t, parts, written⟩ := exists_isNumber passed
      exact ⟨t, parts, .number written⟩
    next =>
    split at passed
    next quote =>
      obtain ⟨t, rfl, written⟩ := exists_isString passed
      exact ⟨_, by rw [quote]; rfl, .string written⟩
    next =>
    split at passed
    next openList => exact openList ▸ beginsWell_array items passed
    next =>
    split at passed
    next openObject => exact openObject ▸ beginsWell_object members passed
    next => cases passed

end Steps

/-- Whatever is passed over is well-formed, in whatever number of steps. -/
theorem of_skip (steps : Nat) :
    (∀ s rest, skipValue steps s = .ok rest → BeginsWell s rest) ∧
      (∀ s rest, skipItems steps s = .ok rest → BeginsItems s rest) ∧
      ∀ s rest, skipMembers steps s = .ok rest → BeginsMembers s rest := by
  induction steps with
  | zero => exact ⟨nofun, nofun, nofun⟩
  | succ steps ih =>
    obtain ⟨values, items, members⟩ := ih
    exact ⟨fun _ _ => beginsWell_of_skipValue items members,
      fun _ _ => beginsItems_of_skipItems values items,
      fun _ _ => beginsMembers_of_skipMembers values members⟩

/-- What is passed over at any depth is a well-formed value. -/
theorem beginsWell_of_skipAny {s rest : List UInt8} (passed : skipAny s = .ok rest) :
    BeginsWell s rest :=
  (of_skip _).1 s rest passed

/-- A text is passed over as a whole if it is a well-formed value, and only then. -/
theorem exists_skipAny_iff {s : List UInt8} :
    (∃ left, skipAny s = .ok left ∧ skipBlanks left = []) ↔ IsJson s := by
  constructor
  · rintro ⟨left, passed, ended⟩
    obtain ⟨t, rfl, formed⟩ := beginsWell_of_skipAny passed
    obtain ⟨gap, blanks, parts⟩ := exists_isBlanks left
    rw [ended, List.append_nil] at parts
    exact isJson_append_blanks formed (parts ▸ blanks)
  · intro formed
    have passed := formed.skipAny_append .nil
    rwa [List.append_nil] at passed

end OpenBanking.Json
