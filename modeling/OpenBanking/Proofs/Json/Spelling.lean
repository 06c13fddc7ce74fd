import OpenBanking.Proofs.Json.Token

/-!
# Spellings of values

What a text denotes is settled apart from its reader: blanks may stand around tokens, strings may be
escaped, and numbers are whole. The reader reads every spelling of a value as the value, as long as
arrays and objects do not nest too deep.
-/

namespace OpenBanking.Json

open Utf8 (octets)

/-! ## Spellings -/

/-- The text of a name up to its value. -/
inductive SpellsName : List UInt8 → String → Prop where
  | named {before s after : List UInt8} {name : String} (leading : IsBlanks before)
    (written : SpellsOctets s (Utf8.encode name)) (trailing : IsBlanks after) :
    SpellsName (before ++ Octet.quote :: (s ++ (after ++ [Octet.colon]))) name

/-- The text of a member that is given by the texts of its name and value. -/
abbrev memberText (member : (List UInt8 × String) × List UInt8 × Value) : List UInt8 :=
  member.1.1 ++ member.2.1

/-- The member that these texts denote. -/
abbrev memberDenoted (member : (List UInt8 × String) × List UInt8 × Value) : String × Value :=
  (member.1.2, member.2.2)

/-- A text denotes a value whose numbers are whole. -/
inductive Spells : List UInt8 → Value → Prop where
  | null : Spells (0x6E :: ull) .null
  | true : Spells (0x74 :: rue) (.bool true)
  | false : Spells (0x66 :: alse) (.bool false)
  | whole {k : Int} (fits : FitsWord k) : Spells (octets (Text.integer k)) (.number (.whole k))
  | string {s : List UInt8} {text : String} (written : SpellsOctets s (Utf8.encode text)) :
    Spells (Octet.quote :: s) (.string text)
  | array {gap : List UInt8} {items : List (List UInt8 × Value)} (blanks : IsBlanks gap)
    (each : ∀ item ∈ items, Spells item.1 item.2) :
    Spells (Octet.openList :: (gap ++ (parted (items.map (·.1)) ++ [Octet.closeList])))
      (.array (items.map (·.2)))
  | object {gap : List UInt8} {members : List ((List UInt8 × String) × List UInt8 × Value)}
    (blanks : IsBlanks gap) (named : ∀ member ∈ members, SpellsName member.1.1 member.1.2)
    (each : ∀ member ∈ members, Spells member.2.1 member.2.2) :
    Spells (Octet.openObject ::
        (gap ++ (parted (members.map memberText) ++ [Octet.closeObject])))
      (.object (members.map memberDenoted))
  | spaced {before s after : List UInt8} {value : Value} (leading : IsBlanks before)
    (written : Spells s value) (trailing : IsBlanks after) : Spells (before ++ (s ++ after)) value

/-- Blanks in front of a text may be counted to it. -/
theorem Spells.blanks_append {gap s : List UInt8} {value : Value} (blanks : IsBlanks gap)
    (written : Spells s value) : Spells (gap ++ s) value := by
  simpa using Spells.spaced blanks written isBlanks_nil

/-- Blanks behind a text may be counted to it. -/
theorem Spells.append_blanks {s gap : List UInt8} {value : Value} (written : Spells s value)
    (blanks : IsBlanks gap) : Spells (s ++ gap) value :=
  @Spells.spaced [] s gap value isBlanks_nil written blanks

/-- Arrays and objects nest at most so deep. -/
inductive NestsWithin : Nat → Value → Prop where
  | null (depth : Nat) : NestsWithin depth .null
  | bool (depth : Nat) (b : Bool) : NestsWithin depth (.bool b)
  | number (depth : Nat) (n : Number) : NestsWithin depth (.number n)
  | string (depth : Nat) (text : String) : NestsWithin depth (.string text)
  | array {depth : Nat} {items : List Value} (each : ∀ item ∈ items, NestsWithin depth item) :
    NestsWithin (depth + 1) (.array items)
  | object {depth : Nat} {members : List (String × Value)}
    (each : ∀ member ∈ members, NestsWithin depth member.2) :
    NestsWithin (depth + 1) (.object members)

/-! ## Spellings are well-formed -/

/-- The digits of a natural number are the whole part of a number. -/
theorem isWhole_natural (n : Nat) : IsWhole (octets (Text.natural n)) := by
  obtain ⟨digits, decimal, written⟩ := Text.exists_isDecimal n
  rw [written, octets_digitChar decimal.small]
  cases digits with
  | nil => exact absurd rfl decimal.ne_nil
  | cons digit digits =>
    cases digit with
    | zero =>
      have single := decimal.eq_zero_of_head rfl
      cases single
      exact .zero
    | succ digit =>
      refine .digits ?_ ⟨List.cons_ne_nil _ _, ?_⟩
      · intro zero
        have value := (digit?_digitOctet (digit + 1) (decimal.small _ List.mem_cons_self)).1
        rw [zero] at value
        cases value
      · intro b held
        rw [← List.map_cons] at held
        obtain ⟨digit, mem, rfl⟩ := List.mem_map.1 held
        rw [(digit?_digitOctet digit (decimal.small digit mem)).1]
        rfl

/-- A whole number is written as a number. -/
theorem isNumber_integer (k : Int) : IsNumber (octets (Text.integer k)) := by
  cases k with
  | ofNat n =>
    have number := @IsNumber.parts [] _ [] [] (by simp) (isWhole_natural n) .absent .absent
    rwa [List.append_nil, List.append_nil, List.nil_append] at number
  | negSucc n =>
    have number := @IsNumber.parts [Octet.minus] _ [] [] (by simp) (isWhole_natural (n + 1)) .absent
      .absent
    rwa [List.append_nil, List.append_nil] at number

/-- What denotes octets is a string. -/
theorem SpellsOctets.isString {s denoted : List UInt8} (spells : SpellsOctets s denoted) :
    IsString s := by
  induction spells with
  | close => exact .close
  | plain plain _ ih => exact .plain plain ih
  | letter denotes _ ih => exact .letter (Option.isSome_of_mem denotes) ih
  | codeUnit denotes _ _ ih => exact .codeUnit (Option.isSome_of_mem denotes) ih
  | pair denotes _ denotesToo _ _ ih =>
    exact .codeUnit (Option.isSome_of_mem denotes) (.codeUnit (Option.isSome_of_mem denotesToo) ih)

/-- What denotes a name is one. -/
theorem SpellsName.isName {s : List UInt8} {name : String} (named : SpellsName s name) : IsName s := by
  obtain ⟨leading, written, trailing⟩ := named
  exact .named leading written.isString trailing

/-- What denotes a value is well-formed. -/
theorem Spells.isJson {s : List UInt8} {value : Value} (spells : Spells s value) : IsJson s := by
  induction spells with
  | null | true | false => exact .word (by simp)
  | whole => exact .number (isNumber_integer _)
  | string written => exact .string written.isString
  | array blanks _ ih => exact .array blanks (List.forall_mem_map.2 ih)
  | @object gap members blanks named _ ih =>
    have object := @IsJson.object gap (members.map fun member => (member.1.1, member.2.1)) blanks
      (List.forall_mem_map.2 fun member held => (named member held).isName) (List.forall_mem_map.2 ih)
    simpa only [List.map_map, Function.comp_def, memberText] using object
  | spaced leading _ trailing ih => exact .spaced leading ih trailing

/-! ## Spellings are read -/

/-- Leading blanks of a value are passed over. -/
theorem readValue_skipBlanks (depth : Nat) (s : List UInt8) :
    readValue depth (skipBlanks s) = readValue depth s := by
  cases depth <;> simp only [readValue, valueWith, skipBlanks_skipBlanks]

/-- A name is read from its quote on, and the colon behind it. -/
theorem SpellsName.exists_read {s : List UInt8} {name : String} (named : SpellsName s name)
    (rest : List UInt8) : ∃ later behind, skipBlanks (s ++ rest) = Octet.quote :: later ∧
      readString later = .ok (name, behind) ∧ readColon behind = .ok rest := by
  obtain @⟨before, text, after, _, leading, written, trailing⟩ := named
  refine ⟨text ++ (after ++ Octet.colon :: rest), after ++ Octet.colon :: rest, ?_,
    readString_append written _, ?_⟩
  · rw [List.append_assoc, leading.skipBlanks_append, List.cons_append, skipBlanks_cons (by decide)]
    simp
  · rw [readColon, trailing.skipBlanks_append, skipBlanks_cons (by decide)]
    rfl

/-- No name is spelled by nothing. -/
theorem SpellsName.ne_nil {s : List UInt8} {name : String} (named : SpellsName s name) : s ≠ [] := by
  cases named
  simp

/-- The text of a name and the colon behind it denote the name. -/
theorem spellsName_octets (name : String) :
    SpellsName (octets (stringChars name) ++ [Octet.colon]) name := by
  have named := @SpellsName.named [] _ [] name isBlanks_nil (spellsOctets_encode name) isBlanks_nil
  simpa [octets_stringChars] using named

/-- Behind a comma another name follows. -/
theorem SpellsName.exists_nextName_comma {s : List UInt8} {name : String} (named : SpellsName s name)
    {left rest : List UInt8} (stands : skipBlanks left = Octet.comma :: (s ++ rest)) :
    ∃ later behind, nextName false left = .ok (true, later) ∧
      readString later = .ok (name, behind) ∧ readColon behind = .ok rest := by
  obtain ⟨later, behind, begins, read, parts⟩ := named.exists_read rest
  refine ⟨later, behind, ?_, read, parts⟩
  simp only [nextName, stands, begins, ↓reduceIte, Bool.false_eq_true,
    show Octet.comma ≠ Octet.closeObject by decide]

/-- At the front of an object that is not empty its first name follows. -/
theorem SpellsName.exists_nextName_first {s : List UInt8} {name : String} (named : SpellsName s name)
    {gap : List UInt8} (blanks : IsBlanks gap) (rest : List UInt8) :
    ∃ later behind, nextName true (gap ++ (s ++ rest)) = .ok (true, later) ∧
      readString later = .ok (name, behind) ∧ readColon behind = .ok rest := by
  obtain ⟨later, behind, begins, read, parts⟩ := named.exists_read rest
  refine ⟨later, behind, ?_, read, parts⟩
  simp only [nextName, blanks.skipBlanks_append, begins, ↓reduceIte,
    show Octet.quote ≠ Octet.closeObject by decide]

/-- Behind its leading blanks a spelling begins with an octet that the value can begin with, and
which ends no object. -/
theorem Spells.exists_begins {s : List UInt8} {value : Value} (spells : Spells s value)
    (rest : List UInt8) : ∃ b later, skipBlanks (s ++ rest) = b :: later ∧ BeginsValue value b ∧
      b ≠ Octet.closeObject := by
  induction spells generalizing rest with
  | null => exact ⟨_, _, rfl, ⟨by decide, by decide, fun _ => rfl⟩, by decide⟩
  | true | false | string | array | object =>
    exact ⟨_, _, rfl, ⟨by decide, by decide, fun letter => absurd letter (by decide)⟩, by decide⟩
  | whole =>
    obtain ⟨b, later, written, begins⟩ := exists_octets_integer ‹Int›
    have value := beginsValue_number begins (.whole ‹Int›)
    have notEnd : b ≠ Octet.closeObject := by
      rintro rfl
      exact absurd begins (by decide)
    rw [written, List.cons_append, skipBlanks_cons value.not_blank]
    exact ⟨b, _, rfl, value, notEnd⟩
  | @spaced before s after _ leading _ _ ih =>
    obtain ⟨b, later, opened, begins⟩ := ih (after ++ rest)
    refine ⟨b, later, ?_, begins⟩
    rw [List.append_assoc, leading.skipBlanks_append, List.append_assoc, opened]

/-- Behind its leading blanks a text begins with an octet that ends nothing. -/
def Opens (s : List UInt8) : Prop :=
  ∀ rest, ∃ b later, skipBlanks (s ++ rest) = b :: later ∧ IsOpening b

/-- No text that begins so is empty. -/
theorem Opens.ne_nil {s : List UInt8} (opens : Opens s) : s ≠ [] := by
  rintro rfl
  obtain ⟨b, later, begins, _⟩ := opens []
  cases begins

/-- So begins every spelling of a value. -/
theorem Spells.opens {s : List UInt8} {value : Value} (spells : Spells s value) : Opens s := by
  intro rest
  obtain ⟨b, later, begins, value, notEnd⟩ := spells.exists_begins rest
  exact ⟨b, later, begins, value.not_blank, value.ne_closeList, notEnd⟩

/-- What begins a number is read as a number. -/
theorem valueWith_number (nested : Option (Reader Value)) {b : UInt8} (begins : beginsNumber b = true)
    (s : List UInt8) :
    valueWith nested (b :: s) = readNumber (b :: s) >>= fun (n, s) => .ok (.number n, s) := by
  have value := beginsValue_number begins (.whole 0)
  have apart (c : UInt8) (other : beginsNumber c = false) : b ≠ c := by
    rintro rfl
    exact absurd begins (by simp [other])
  simp only [valueWith, skipBlanks_cons value.not_blank, apart 0x6E rfl, apart 0x74 rfl,
    apart 0x66 rfl, begins, ↓reduceIte]

/-- A quote begins a string. -/
theorem valueWith_quote (nested : Option (Reader Value)) (s : List UInt8) :
    valueWith nested (Octet.quote :: s) = readString s >>= fun (text, s) => .ok (.string text, s) :=
  rfl

/-- A bracket begins an array. -/
theorem valueWith_openList (read : Reader Value) (s : List UInt8) :
    valueWith (some read) (Octet.openList :: s) =
      readItems read (s.length + 1) true s >>= fun (items, s) => .ok (.array items, s) := rfl

/-- A brace begins an object. -/
theorem valueWith_openObject (read : Reader Value) (s : List UInt8) :
    valueWith (some read) (Octet.openObject :: s) =
      readMembers read (s.length + 1) true s >>= fun (members, s) => .ok (.object members, s) := rfl

/-- At every depth values are read with one reader or none for what is in them. -/
theorem exists_valueWith (depth : Nat) : ∃ nested, readValue depth = valueWith nested := by
  cases depth <;> exact ⟨_, rfl⟩

/-- A text is read as what it stands for, in front of whatever ends numbers. Blanks make no
difference: neither where the reader stands in front of the text nor where it stands behind it. -/
def IsRead {α : Type} (read : Reader α) (item : List UInt8 × α) : Prop :=
  ∀ rest, EndsNumber rest → ∀ s, skipBlanks s = skipBlanks (item.1 ++ rest) →
    ∃ left, read s = .ok (item.2, left) ∧ skipBlanks left = skipBlanks rest

section Read

variable {α : Type} {read : Reader α}

/-- A reader that passes over leading blanks reads a text wherever it reads it without them. -/
theorem isRead_of_blind (blind : ∀ s, read (skipBlanks s) = read s) {s : List UInt8} {x : α}
    (reads : ∀ rest, EndsNumber rest →
      ∃ left, read (s ++ rest) = .ok (x, left) ∧ skipBlanks left = skipBlanks rest) :
    IsRead read (s, x) := by
  intro rest ends t stands
  rw [← blind, stands, blind]
  exact reads rest ends

/-- Blanks around a text are passed over with it. -/
theorem IsRead.spaced {before s after : List UInt8} {x : α} (reads : IsRead read (s, x))
    (leading : IsBlanks before) (trailing : IsBlanks after) :
    IsRead read (before ++ (s ++ after), x) := by
  intro rest ends t stands
  have inside : skipBlanks t = skipBlanks (s ++ (after ++ rest)) := by
    rw [stands, List.append_assoc, leading.skipBlanks_append, List.append_assoc]
  obtain ⟨left, read, behind⟩ := reads (after ++ rest) (trailing.endsNumber ends) t inside
  exact ⟨left, read, behind.trans (trailing.skipBlanks_append rest)⟩

end Read

section Items

variable {α : Type} {read : Reader α}

/-- An item is read before the others. -/
theorem readItems_cons {steps : Nat} {first : Bool} {s behind left rest : List UInt8} {x : α}
    {xs : List α} (next : nextItem first s = .ok (true, behind))
    (one : read behind = .ok (x, left))
    (others : readItems read steps false left = .ok (xs, rest)) :
    readItems read (steps + 1) first s = .ok (x :: xs, rest) := by
  simp only [readItems, next, one, others, bind, Except.bind, ↓reduceIte]

/-- The end of an array is read. -/
theorem readItems_nil (steps : Nat) (first : Bool) {s rest : List UInt8}
    (stands : skipBlanks s = Octet.closeList :: rest) :
    readItems read (steps + 1) first s = .ok ([], rest) := by
  have next : nextItem first s = .ok (false, Octet.closeList :: rest) := by
    rw [nextItem, stands]
    rfl
  have close : closeItems (Octet.closeList :: rest) = .ok rest := by
    rw [closeItems, skipBlanks_cons (by decide)]
    rfl
  simp only [readItems, next, close, bind, Except.bind, Bool.false_eq_true, ↓reduceIte]

/-- Items behind commas are read one by one. -/
theorem readItems_behind {items : List (List UInt8 × α)} (opening : ∀ item ∈ items, Opens item.1)
    (each : ∀ item ∈ items, IsRead read item) {steps : Nat} (enough : items.length < steps)
    {left rest : List UInt8}
    (stands : skipBlanks left =
      skipBlanks ((items.map (·.1)).flatMap (Octet.comma :: ·) ++ Octet.closeList :: rest)) :
    readItems read steps false left = .ok (items.map (·.2), rest) := by
  obtain ⟨steps, rfl⟩ := Nat.exists_eq_add_one_of_ne_zero (Nat.ne_zero_of_lt enough)
  induction items generalizing steps left with
  | nil => exact readItems_nil steps false (stands.trans (skipBlanks_cons (by decide) rest))
  | cons item items ih =>
    obtain ⟨own, others⟩ := List.forall_mem_cons.1 each
    obtain ⟨opens, otherOpens⟩ := List.forall_mem_cons.1 opening
    rw [List.length_cons] at enough
    obtain ⟨steps, rfl⟩ := Nat.exists_eq_add_one_of_ne_zero (show steps ≠ 0 by omega)
    simp only [List.map_cons, List.flatMap_cons, List.cons_append, List.append_assoc] at stands
    rw [skipBlanks_cons (by decide)] at stands
    obtain ⟨b, later, begins, value⟩ := opens
      ((items.map (·.1)).flatMap (Octet.comma :: ·) ++ Octet.closeList :: rest)
    have next : nextItem false left = .ok (true, b :: later) := by
      simp only [nextItem, stands, begins, value.ne_closeList, ↓reduceIte,
        show Octet.comma ≠ Octet.closeList by decide, Bool.false_eq_true]
    obtain ⟨behind, one, after⟩ := own _ (endsNumber_items (items.map (·.1)) rest) (b :: later)
      (by rw [← begins, skipBlanks_skipBlanks])
    exact readItems_cons next one (ih otherOpens others after steps (by omega))

/-- The items of an array are read. -/
theorem readItems_spelled {gap : List UInt8} (blanks : IsBlanks gap)
    {items : List (List UInt8 × α)} (opening : ∀ item ∈ items, Opens item.1)
    (each : ∀ item ∈ items, IsRead read item) {steps : Nat} (enough : items.length < steps)
    (rest : List UInt8) :
    readItems read steps true (gap ++ (parted (items.map (·.1)) ++ Octet.closeList :: rest)) =
      .ok (items.map (·.2), rest) := by
  obtain ⟨steps, rfl⟩ := Nat.exists_eq_add_one_of_ne_zero (Nat.ne_zero_of_lt enough)
  cases items with
  | nil =>
    refine readItems_nil steps true ((blanks.skipBlanks_append _).trans ?_)
    exact skipBlanks_cons (by decide) rest
  | cons item items =>
    obtain ⟨own, others⟩ := List.forall_mem_cons.1 each
    obtain ⟨opens, otherOpens⟩ := List.forall_mem_cons.1 opening
    rw [List.length_cons] at enough
    rw [List.map_cons, parted_cons_append]
    obtain ⟨b, later, begins, value⟩ := opens
      ((items.map (·.1)).flatMap (Octet.comma :: ·) ++ Octet.closeList :: rest)
    have next : nextItem true
        (gap ++ (item.1 ++ ((items.map (·.1)).flatMap (Octet.comma :: ·) ++ Octet.closeList :: rest))) =
          .ok (true, b :: later) := by
      simp only [nextItem, blanks.skipBlanks_append, begins, value.ne_closeList, ↓reduceIte]
    obtain ⟨behind, one, after⟩ := own _ (endsNumber_items (items.map (·.1)) rest) (b :: later)
      (by rw [← begins, skipBlanks_skipBlanks])
    exact readItems_cons next one (readItems_behind otherOpens others (by omega) after)

end Items

section Members

variable {read : Reader Value}

/-- A member is read before the others. -/
theorem readMembers_cons {steps : Nat} {first : Bool} {s named behind value left rest : List UInt8}
    {name : String} {one : Value} {others : List (String × Value)}
    (next : nextName first s = .ok (true, named)) (own : readString named = .ok (name, behind))
    (parts : readColon behind = .ok value) (held : read value = .ok (one, left))
    (later : readMembers read steps false left = .ok (others, rest)) :
    readMembers read (steps + 1) first s = .ok ((name, one) :: others, rest) := by
  simp only [readMembers, next, own, parts, held, later, bind, Except.bind, ↓reduceIte]

/-- The end of an object is read. -/
theorem readMembers_nil (steps : Nat) (first : Bool) {s rest : List UInt8}
    (stands : skipBlanks s = Octet.closeObject :: rest) :
    readMembers read (steps + 1) first s = .ok ([], rest) := by
  have next : nextName first s = .ok (false, rest) := by
    rw [nextName, stands]
    rfl
  simp only [readMembers, next, bind, Except.bind, Bool.false_eq_true, ↓reduceIte]

/-- Members behind commas are read one by one. -/
theorem readMembers_behind {members : List ((List UInt8 × String) × List UInt8 × Value)}
    (named : ∀ member ∈ members, SpellsName member.1.1 member.1.2)
    (each : ∀ member ∈ members, IsRead read member.2) {steps : Nat}
    (enough : members.length < steps) {left rest : List UInt8}
    (stands : skipBlanks left = skipBlanks ((members.map memberText).flatMap (Octet.comma :: ·) ++
      Octet.closeObject :: rest)) :
    readMembers read steps false left = .ok (members.map memberDenoted, rest) := by
  obtain ⟨steps, rfl⟩ := Nat.exists_eq_add_one_of_ne_zero (Nat.ne_zero_of_lt enough)
  induction members generalizing steps left with
  | nil => exact readMembers_nil steps false (stands.trans (skipBlanks_cons (by decide) rest))
  | cons member members ih =>
    obtain ⟨own, others⟩ := List.forall_mem_cons.1 each
    obtain ⟨name, otherNames⟩ := List.forall_mem_cons.1 named
    rw [List.length_cons] at enough
    obtain ⟨steps, rfl⟩ := Nat.exists_eq_add_one_of_ne_zero (show steps ≠ 0 by omega)
    simp only [List.map_cons, List.flatMap_cons, List.cons_append, List.append_assoc] at stands
    rw [skipBlanks_cons (by decide)] at stands
    obtain ⟨later, behind, next, read, parts⟩ := name.exists_nextName_comma stands
    obtain ⟨left, one, after⟩ := own _ (endsNumber_members (members.map memberText) rest) _ rfl
    exact readMembers_cons next read parts one (ih otherNames others after steps (by omega))

/-- The members of an object are read. -/
theorem readMembers_spelled {gap : List UInt8} (blanks : IsBlanks gap)
    {members : List ((List UInt8 × String) × List UInt8 × Value)}
    (named : ∀ member ∈ members, SpellsName member.1.1 member.1.2)
    (each : ∀ member ∈ members, IsRead read member.2) {steps : Nat}
    (enough : members.length < steps) (rest : List UInt8) :
    readMembers read steps true
        (gap ++ (parted (members.map memberText) ++ Octet.closeObject :: rest)) =
      .ok (members.map memberDenoted, rest) := by
  obtain ⟨steps, rfl⟩ := Nat.exists_eq_add_one_of_ne_zero (Nat.ne_zero_of_lt enough)
  cases members with
  | nil =>
    refine readMembers_nil steps true ((blanks.skipBlanks_append _).trans ?_)
    exact skipBlanks_cons (by decide) rest
  | cons member members =>
    obtain ⟨own, others⟩ := List.forall_mem_cons.1 each
    obtain ⟨name, otherNames⟩ := List.forall_mem_cons.1 named
    rw [List.length_cons] at enough
    rw [List.map_cons, parted_cons_append, memberText, List.append_assoc]
    obtain ⟨later, behind, next, read, parts⟩ := name.exists_nextName_first blanks (member.2.1 ++
      ((members.map memberText).flatMap (Octet.comma :: ·) ++ Octet.closeObject :: rest))
    obtain ⟨left, one, after⟩ := own _ (endsNumber_members (members.map memberText) rest) _ rfl
    exact readMembers_cons next read parts one (readMembers_behind otherNames others (by omega) after)

end Members

/-- A spelling of a value is read as the value, if arrays and objects do not nest too deep. -/
theorem Spells.isRead {s : List UInt8} {value : Value} (spells : Spells s value) {depth : Nat}
    (nests : NestsWithin depth value) : IsRead (readValue depth) (s, value) := by
  have blind := readValue_skipBlanks depth
  induction spells generalizing depth with
  | null => exact isRead_of_blind blind fun rest _ => ⟨rest, by cases depth <;> rfl, rfl⟩
  | true => exact isRead_of_blind blind fun rest _ => ⟨rest, by cases depth <;> rfl, rfl⟩
  | false => exact isRead_of_blind blind fun rest _ => ⟨rest, by cases depth <;> rfl, rfl⟩
  | @whole k fits =>
    refine isRead_of_blind blind fun rest ends => ⟨rest, ?_, rfl⟩
    obtain ⟨nested, form⟩ := exists_valueWith depth
    obtain ⟨b, later, written, begins⟩ := exists_octets_integer k
    have number := readNumber_integer fits ends
    rw [written, List.cons_append] at number
    simp only [form, written, List.cons_append]
    rw [valueWith_number nested begins, number]
    rfl
  | @string s text written =>
    refine isRead_of_blind blind fun rest _ => ⟨rest, ?_, rfl⟩
    obtain ⟨nested, form⟩ := exists_valueWith depth
    have read := readString_append written rest
    rw [form, List.cons_append, valueWith_quote, read]
    rfl
  | @array gap items blanks each ih =>
    cases nests with
    | @array depth _ nested =>
      refine isRead_of_blind blind fun rest _ => ⟨rest, ?_, rfl⟩
      have enough := length_lt_parted gap (fun item held => (each item held).opens.ne_nil)
        Octet.closeList rest
      have read := readItems_spelled blanks (fun item held => (each item held).opens)
        (fun item held =>
          ih item held (nested _ (List.mem_map_of_mem held)) (readValue_skipBlanks depth))
        (Nat.lt_succ_of_lt enough) rest
      simp only [List.cons_append, List.append_assoc, List.nil_append]
      rw [readValue, valueWith_openList, read]
      rfl
  | @object gap members blanks named each ih =>
    cases nests with
    | @object depth _ nested =>
      refine isRead_of_blind blind fun rest _ => ⟨rest, ?_, rfl⟩
      have nonempty : ∀ member ∈ members, memberText member ≠ [] := fun member held =>
        List.append_ne_nil_of_right_ne_nil _ (each member held).opens.ne_nil
      have enough := length_lt_parted gap nonempty Octet.closeObject rest
      have read := readMembers_spelled blanks named
        (fun member held =>
          ih member held (nested _ (List.mem_map_of_mem held)) (readValue_skipBlanks depth))
        (Nat.lt_succ_of_lt enough) rest
      simp only [List.cons_append, List.append_assoc, List.nil_append]
      rw [readValue, valueWith_openObject, read]
      rfl
  | @spaced before s after value leading _ trailing ih =>
    exact (ih nests (readValue_skipBlanks depth)).spaced leading trailing

end OpenBanking.Json
