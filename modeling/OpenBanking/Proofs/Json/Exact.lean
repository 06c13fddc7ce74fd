import OpenBanking.Json.Codec
import OpenBanking.Proofs.Json.Spelling

/-!
# What is read is spelled

The reader takes nothing but spellings: what it reads as a value with whole numbers is a text that
denotes that value. Together with the reading of every spelling this says which texts are accepted,
and as what.
-/

namespace OpenBanking.Json

open Utf8 (octets)

/-- All numbers in a value are whole. -/
inductive WholeNumbers : Value → Prop where
  | null : WholeNumbers .null
  | bool (b : Bool) : WholeNumbers (.bool b)
  | whole (k : Int) : WholeNumbers (.number (.whole k))
  | string (text : String) : WholeNumbers (.string text)
  | array {items : List Value} (each : ∀ item ∈ items, WholeNumbers item) :
    WholeNumbers (.array items)
  | object {members : List (String × Value)} (each : ∀ member ∈ members, WholeNumbers member.2) :
    WholeNumbers (.object members)

/-- A text begins with a spelling of a value that does not nest too deep. -/
def BeginsWith (depth : Nat) (s : List UInt8) (value : Value) (rest : List UInt8) : Prop :=
  ∃ t, s = t ++ rest ∧ Spells t value ∧ NestsWithin depth value

/-- Whatever a reader takes spells what it gives, unless a number in it is not whole. -/
def IsExact (depth : Nat) (read : Reader Value) : Prop :=
  ∀ s value rest, read s = .ok (value, rest) → WholeNumbers value → BeginsWith depth s value rest

/-- What is passed over are blanks. -/
theorem exists_isBlanks (s : List UInt8) : ∃ gap, IsBlanks gap ∧ s = gap ++ skipBlanks s :=
  ⟨s.takeWhile Octet.isBlank, fun _ held => List.mem_takeWhile_imp held,
    (List.takeWhile_append_dropWhile).symm⟩

/-- Behind blanks and, unless it is the first, a comma stands an item, or else the end of the array.
-/
theorem of_nextItem {first more : Bool} {s behind : List UInt8}
    (next : nextItem first s = .ok (more, behind)) :
    ∃ gap, IsBlanks gap ∧
      if more then
        if first then s = gap ++ behind
        else ∃ blanks, IsBlanks blanks ∧ s = gap ++ Octet.comma :: (blanks ++ behind)
      else ∃ later, behind = Octet.closeList :: later ∧ s = gap ++ behind := by
  obtain ⟨gap, blanks, parts⟩ := exists_isBlanks s
  refine ⟨gap, blanks, ?_⟩
  cases begins : skipBlanks s with
  | nil =>
    rw [nextItem, begins] at next
    cases next
  | cons b rest =>
    rw [begins] at parts
    simp only [nextItem, begins] at next
    split at next
    next close =>
      cases next
      exact ⟨rest, by rw [close], parts⟩
    next =>
      split at next
      next leading =>
        cases next
        rw [leading]
        exact parts
      next notLeading =>
        split at next
        next comma =>
          obtain ⟨inner, innerBlanks, innerParts⟩ := exists_isBlanks rest
          split at next
          · cases next
          next c later innerBegins =>
            split at next
            · cases next
            · cases next
              rw [innerBegins] at innerParts
              simp only [notLeading, Bool.false_eq_true, ↓reduceIte]
              exact ⟨inner, innerBlanks, by rw [parts, comma, ← innerParts]⟩
        next => cases next

/-- Behind blanks and, unless it is the first, a comma stands a name, or else the end of the object.
-/
theorem of_nextName {first more : Bool} {s behind : List UInt8}
    (next : nextName first s = .ok (more, behind)) :
    ∃ gap, IsBlanks gap ∧
      if more then
        if first then s = gap ++ Octet.quote :: behind
        else ∃ blanks, IsBlanks blanks ∧ s = gap ++ Octet.comma :: (blanks ++ Octet.quote :: behind)
      else s = gap ++ Octet.closeObject :: behind := by
  obtain ⟨gap, blanks, parts⟩ := exists_isBlanks s
  refine ⟨gap, blanks, ?_⟩
  cases begins : skipBlanks s with
  | nil =>
    rw [nextName, begins] at next
    cases next
  | cons b rest =>
    rw [begins] at parts
    simp only [nextName, begins] at next
    split at next
    next close =>
      cases next
      rw [← close]
      exact parts
    next =>
      split at next
      next leading =>
        split at next
        next quote =>
          cases next
          rw [leading, ← quote]
          exact parts
        next => cases next
      next notLeading =>
        split at next
        next comma =>
          obtain ⟨inner, innerBlanks, innerParts⟩ := exists_isBlanks rest
          split at next
          · cases next
          next c later innerBegins =>
            split at next
            next quote =>
              cases next
              rw [innerBegins] at innerParts
              simp only [notLeading, Bool.false_eq_true, ↓reduceIte]
              exact ⟨inner, innerBlanks, by rw [parts, comma, ← quote, ← innerParts]⟩
            next => split at next <;> cases next
        next => cases next

/-- Behind blanks stands a colon. -/
theorem of_readColon {s rest : List UInt8} (parts : readColon s = .ok rest) :
    ∃ gap, IsBlanks gap ∧ s = gap ++ Octet.colon :: rest := by
  obtain ⟨gap, blanks, written⟩ := exists_isBlanks s
  refine ⟨gap, blanks, ?_⟩
  unfold readColon at parts
  split at parts
  · cases parts
  next b later begins =>
    split at parts
    next colon =>
      cases parts
      rwa [begins, colon] at written
    next => cases parts

/-- Behind blanks stands a string, whatever a message would call it. -/
theorem of_readText {expected : String} {s rest : List UInt8} {text : String}
    (read : readText expected s = .ok (text, rest)) :
    ∃ gap t, IsBlanks gap ∧ SpellsOctets t (Utf8.encode text) ∧
      s = gap ++ Octet.quote :: (t ++ rest) := by
  obtain ⟨gap, blanks, parts⟩ := exists_isBlanks s
  unfold readText at read
  split at read
  · cases read
  next b later begins =>
    split at read
    next quote =>
      obtain ⟨t, rfl, written⟩ := exists_spells_of_readString read
      rw [begins, quote] at parts
      exact ⟨gap, t, blanks, written, parts⟩
    next => cases read

section Exact

variable {depth : Nat} {read : Reader Value} (reads : IsExact depth read)

include reads in
/-- Items that are taken are spelled, with commas between them. -/
theorem of_readItems {steps : Nat} {first : Bool} {s rest : List UInt8} {values : List Value}
    (taken : readItems read steps first s = .ok (values, rest))
    (whole : ∀ value ∈ values, WholeNumbers value) :
    ∃ (gap : List UInt8) (items : List (List UInt8 × Value)), IsBlanks gap ∧
      values = items.map (·.2) ∧ (∀ item ∈ items, Spells item.1 item.2 ∧ NestsWithin depth item.2) ∧
      s = gap ++ ((if first then parted (items.map (·.1))
        else (items.map (·.1)).flatMap (Octet.comma :: ·)) ++ Octet.closeList :: rest) := by
  induction steps generalizing first s values with
  | zero => cases taken
  | succ steps ih =>
    obtain ⟨⟨more, behind⟩, next, gave⟩ := exists_of_bind_eq_ok taken
    obtain ⟨gap, blanks, parts⟩ := of_nextItem next
    cases more with
    | false =>
      obtain ⟨later, rfl, written⟩ := parts
      obtain ⟨after, close, same⟩ := exists_of_bind_eq_ok gave
      cases same
      have closed : closeItems (Octet.closeList :: later) = .ok later := rfl
      obtain rfl := Except.ok.inj (closed.symm.trans close)
      exact ⟨gap, [], blanks, rfl, nofun, by cases first <;> exact written⟩
    | true =>
      obtain ⟨⟨value, left⟩, one, others⟩ := exists_of_bind_eq_ok gave
      obtain ⟨⟨later, after⟩, tail, same⟩ := exists_of_bind_eq_ok others
      cases same
      obtain ⟨own, otherWhole⟩ := List.forall_mem_cons.1 whole
      obtain ⟨t, rfl, spells, nests⟩ := reads _ _ _ one own
      obtain ⟨inner, items, innerBlanks, rfl, each, rfl⟩ := ih tail otherWhole
      -- The blanks behind an item are part of its spelling, and so are those behind its comma.
      have spaced (before : List UInt8) (leading : IsBlanks before) :
          ∀ item ∈ (before ++ (t ++ inner), value) :: items,
            Spells item.1 item.2 ∧ NestsWithin depth item.2 :=
        List.forall_mem_cons.2 ⟨⟨.spaced leading spells innerBlanks, nests⟩, each⟩
      cases first with
      | true =>
        refine ⟨gap, _, blanks, rfl, spaced [] isBlanks_nil, ?_⟩
        simpa [parted] using parts
      | false =>
        obtain ⟨before, leading, written⟩ := parts
        refine ⟨gap, _, blanks, rfl, spaced before leading, ?_⟩
        simpa using written

include reads in
/-- Members that are taken are spelled, with commas between them. -/
theorem of_readMembers {steps : Nat} {first : Bool} {s rest : List UInt8}
    {values : List (String × Value)} (taken : readMembers read steps first s = .ok (values, rest))
    (whole : ∀ member ∈ values, WholeNumbers member.2) :
    ∃ (gap : List UInt8) (members : List ((List UInt8 × String) × List UInt8 × Value)),
      IsBlanks gap ∧ values = members.map memberDenoted ∧
      (∀ member ∈ members, SpellsName member.1.1 member.1.2 ∧ Spells member.2.1 member.2.2 ∧
        NestsWithin depth member.2.2) ∧
      s = gap ++ ((if first then parted (members.map memberText)
        else (members.map memberText).flatMap (Octet.comma :: ·)) ++ Octet.closeObject :: rest) := by
  induction steps generalizing first s values with
  | zero => cases taken
  | succ steps ih =>
    obtain ⟨⟨more, named⟩, next, gave⟩ := exists_of_bind_eq_ok taken
    obtain ⟨gap, blanks, parts⟩ := of_nextName next
    cases more with
    | false =>
      cases gave
      exact ⟨gap, [], blanks, rfl, nofun, by cases first <;> exact parts⟩
    | true =>
      obtain ⟨⟨name, behind⟩, own, valued⟩ := exists_of_bind_eq_ok gave
      obtain ⟨held, colon, more⟩ := exists_of_bind_eq_ok valued
      obtain ⟨⟨value, left⟩, one, others⟩ := exists_of_bind_eq_ok more
      obtain ⟨⟨later, after⟩, tail, same⟩ := exists_of_bind_eq_ok others
      cases same
      obtain ⟨ownWhole, otherWhole⟩ := List.forall_mem_cons.1 whole
      obtain ⟨text, rfl, written⟩ := exists_spells_of_readString own
      obtain ⟨between, trailing, rfl⟩ := of_readColon colon
      obtain ⟨t, rfl, spells, nests⟩ := reads _ _ _ one ownWhole
      obtain ⟨inner, members, innerBlanks, rfl, each, rfl⟩ := ih tail otherWhole
      have spaced (before : List UInt8) (leading : IsBlanks before) :
          ∀ member ∈ ((before ++ Octet.quote :: (text ++ (between ++ [Octet.colon])), name),
              (t ++ inner, value)) :: members,
            SpellsName member.1.1 member.1.2 ∧ Spells member.2.1 member.2.2 ∧
              NestsWithin depth member.2.2 :=
        List.forall_mem_cons.2
          ⟨⟨.named leading written trailing, .append_blanks spells innerBlanks, nests⟩, each⟩
      cases first with
      | true =>
        refine ⟨gap, _, blanks, rfl, spaced [] isBlanks_nil, ?_⟩
        simpa [parted] using parts
      | false =>
        obtain ⟨before, leading, written⟩ := parts
        refine ⟨gap, _, blanks, rfl, spaced before leading, ?_⟩
        simpa using written

end Exact

/-- What is taken as the rest of a word is the rest of that word. -/
theorem of_expectWord {word s rest : List UInt8} (taken : expectWord word s = .ok rest) :
    s = word ++ rest := by
  induction word generalizing s with
  | nil =>
    cases taken
    rfl
  | cons w word ih =>
    cases s with
    | nil => cases taken
    | cons b s =>
      rw [expectWord] at taken
      split at taken
      next same => rw [same, List.cons_append, ih taken]
      next => cases taken

/-- A word denotes its value. -/
theorem of_word {word s rest : List UInt8} {denoted value : Value}
    (read : (expectWord word s >>= fun s => .ok (denoted, s)) = .ok (value, rest)) :
    s = word ++ rest ∧ value = denoted := by
  obtain ⟨behind, taken, same⟩ := exists_of_bind_eq_ok read
  cases same
  exact ⟨of_expectWord taken, rfl⟩

section Values

variable {depth : Nat} {s rest : List UInt8} {value : Value} (whole : WholeNumbers value)

include whole in
/-- A number that is whole is spelled. -/
theorem beginsWith_number
    (read : (readNumber s >>= fun (n, s) => .ok (.number n, s)) = .ok (value, rest)) :
    BeginsWith depth s value rest := by
  obtain ⟨⟨number, behind⟩, taken, same⟩ := exists_of_bind_eq_ok read
  cases same
  cases whole with
  | whole k =>
    obtain ⟨written, fits⟩ := of_readNumber taken
    exact ⟨_, written, .whole fits, .number depth _⟩

/-- A string is spelled. -/
theorem beginsWith_string
    (read : (readString s >>= fun (text, s) => .ok (.string text, s)) = .ok (value, rest)) :
    BeginsWith depth (Octet.quote :: s) value rest := by
  obtain ⟨⟨text, behind⟩, taken, same⟩ := exists_of_bind_eq_ok read
  cases same
  obtain ⟨t, rfl, written⟩ := exists_spells_of_readString taken
  exact ⟨_, rfl, .string written, .string depth text⟩

variable {reader : Reader Value} (reads : IsExact depth reader) {steps : Nat}

include whole reads in
/-- An array is spelled if its items are read exactly. -/
theorem beginsWith_array
    (read : (readItems reader steps true s >>= fun (items, s) => .ok (.array items, s)) =
      .ok (value, rest)) : BeginsWith (depth + 1) (Octet.openList :: s) value rest := by
  obtain ⟨⟨values, behind⟩, taken, same⟩ := exists_of_bind_eq_ok read
  cases same
  cases whole with
  | array each =>
    obtain ⟨gap, items, blanks, rfl, spelled, rfl⟩ := of_readItems reads taken each
    refine ⟨_, ?_, .array blanks fun item held => (spelled item held).1,
      .array (List.forall_mem_map.2 fun item held => (spelled item held).2)⟩
    simp

include whole reads in
/-- An object is spelled if its values are read exactly. -/
theorem beginsWith_object
    (read : (readMembers reader steps true s >>= fun (members, s) => .ok (.object members, s)) =
      .ok (value, rest)) : BeginsWith (depth + 1) (Octet.openObject :: s) value rest := by
  obtain ⟨⟨values, behind⟩, taken, same⟩ := exists_of_bind_eq_ok read
  cases same
  cases whole with
  | object each =>
    obtain ⟨gap, members, blanks, rfl, spelled, rfl⟩ := of_readMembers reads taken each
    refine ⟨_, ?_, .object blanks (fun member held => (spelled member held).1)
      fun member held => (spelled member held).2.1,
      .object (List.forall_mem_map.2 fun member held => (spelled member held).2.2)⟩
    simp

end Values

/-- Behind its leading blanks a value is read exactly if those inside arrays and objects are. -/
theorem beginsWith_of_valueWith {depth : Nat} {nested : Option (Reader Value)}
    (inner : ∀ read ∈ nested, ∃ within, depth = within + 1 ∧ IsExact within read)
    {s rest : List UInt8} {value : Value} (read : valueWith nested s = .ok (value, rest))
    (whole : WholeNumbers value) : BeginsWith depth (skipBlanks s) value rest := by
  -- Along the octets that a value can begin with.
  cases begins : skipBlanks s with
  | nil =>
    rw [valueWith, begins] at read
    cases read
  | cons b later =>
    simp only [valueWith, begins] at read
    split at read
    next word =>
      obtain ⟨rfl, rfl⟩ := of_word read
      exact ⟨_, by rw [word]; rfl, .null, .null depth⟩
    next =>
    split at read
    next word =>
      obtain ⟨rfl, rfl⟩ := of_word read
      exact ⟨_, by rw [word]; rfl, .true, .bool depth true⟩
    next =>
    split at read
    next word =>
      obtain ⟨rfl, rfl⟩ := of_word read
      exact ⟨_, by rw [word]; rfl, .false, .bool depth false⟩
    next =>
    split at read
    next => exact beginsWith_number whole read
    next =>
    split at read
    next quote => exact quote ▸ beginsWith_string read
    next =>
    split at read
    next openList =>
      cases nested with
      | none => cases read
      | some reader =>
        obtain ⟨within, rfl, reads⟩ := inner reader rfl
        exact openList ▸ beginsWith_array whole reads read
    next =>
    split at read
    next openObject =>
      cases nested with
      | none => cases read
      | some reader =>
        obtain ⟨within, rfl, reads⟩ := inner reader rfl
        exact openObject ▸ beginsWith_object whole reads read
    next => cases read

/-- Values are read exactly if those inside arrays and objects are. -/
theorem isExact_valueWith {depth : Nat} {nested : Option (Reader Value)}
    (inner : ∀ read ∈ nested, ∃ within, depth = within + 1 ∧ IsExact within read) :
    IsExact depth (valueWith nested) := by
  intro s value rest read whole
  obtain ⟨gap, blanks, parts⟩ := exists_isBlanks s
  obtain ⟨t, begins, spells, nests⟩ := beginsWith_of_valueWith inner read whole
  rw [begins] at parts
  exact ⟨gap ++ t, by simpa using parts, spells.blanks_append blanks, nests⟩

/-- Values are read exactly, at every depth. -/
theorem isExact_readValue (depth : Nat) : IsExact depth (readValue depth) := by
  induction depth with
  | zero => exact isExact_valueWith nofun
  | succ depth ih => exact isExact_valueWith fun read same => ⟨depth, rfl, Option.some.inj same ▸ ih⟩

/-- A reader that takes nothing but the texts of a value, and all of them, takes a whole text if it
is one of them, and only then. -/
theorem Reader.whole_eq_ok_iff {α : Type} {read : Reader α} {x : α} {isText : List UInt8 → Prop}
    (taken : ∀ s rest, read s = .ok (x, rest) → ∃ t, s = t ++ rest ∧ isText t)
    (spaced : ∀ t gap, isText t → IsBlanks gap → isText (t ++ gap))
    (isRead : ∀ t, isText t → IsRead read (t, x)) {s : List UInt8} :
    read.whole s = .ok x ↔ isText s := by
  constructor
  · intro whole
    obtain ⟨⟨held, rest⟩, gave, ended⟩ := exists_of_bind_eq_ok whole
    simp only at ended
    split at ended
    next blank =>
      cases ended
      obtain ⟨t, rfl, written⟩ := taken s rest gave
      obtain ⟨gap, blanks, parts⟩ := exists_isBlanks rest
      rw [List.isEmpty_iff.1 blank, List.append_nil] at parts
      exact spaced t rest written (parts ▸ blanks)
    next => cases ended
  · intro written
    obtain ⟨left, gave, blank⟩ := isRead s written [] .nil s (by rw [List.append_nil])
    simp only [Reader.whole, gave, bind, Except.bind, blank]
    rfl

/-- A text is accepted as a value with whole numbers if it spells that value and does not nest too
deep, and only then. -/
theorem parse_eq_ok_iff {s : List UInt8} {value : Value} (whole : WholeNumbers value) :
    parse s = .ok value ↔ Spells s value ∧ NestsWithin depthLimit value := by
  refine Reader.whole_eq_ok_iff
    (fun s rest read => isExact_readValue depthLimit s value rest read whole) ?_
    fun t written => written.1.isRead written.2
  rintro t gap ⟨spells, nests⟩ blanks
  exact ⟨spells.append_blanks blanks, nests⟩

end OpenBanking.Json
