import OpenBanking.Json.Token

/-!
# Readers of JSON text

A reader takes a value from the front of the octets and gives the octets after it. What it
expects decides how text is read: a value that is asked for is checked as it is read, so
the first fault in the text is the one reported, whether of form or of kind. Arrays and
objects are read to a bounded depth, whatever they are read as; `readValue` reads any value,
`skipValue` passes over one of any depth without looking into it.
-/

namespace OpenBanking.Json

/-- Reads a value from the front of the octets. -/
abbrev Reader (α : Type) := List UInt8 → Except ReadError (α × List UInt8)

/-- Reads a whole text: one value, and nothing but blanks after it. -/
def Reader.whole {α : Type} (read : Reader α) (s : List UInt8) : Except ReadError α := do
  let (value, rest) ← read s
  if (skipBlanks rest).isEmpty then .ok value else .error .trailingCharacters

/-! ## Depth -/

/-- How deep arrays and objects may nest. -/
abbrev depthLimit : Nat := 127

/-- Reads on inside an array or object, which takes one of the levels that are left. -/
def inside {α : Type} (read : (depth : Nat) → Reader α) : (depth : Nat) → Reader α
  | 0 => fun _ => .error .tooDeep
  | depth + 1 => read depth

/-! ## Values of other kinds -/

/-- The refusal of a value of another kind. Its first octet is the first of the list;
words, numbers and strings are read to the end before they are refused. -/
def mismatch (expected : String) : List UInt8 → ReadError
  | [] => .expectedValue
  | b :: rest =>
    let refusal {α : Type} (found : Found) : Except ReadError α → ReadError
      | .ok _ => .invalidType found expected
      | .error refusal => refusal
    if b = 0x6E then refusal .null (expectWord ull rest)
    else if b = 0x74 then refusal (.bool true) (expectWord rue rest)
    else if b = 0x66 then refusal (.bool false) (expectWord alse rest)
    else if beginsNumber b then
      match readNumber (b :: rest) with
      | .ok (n, _) => .invalidType (.number n) expected
      | .error refusal => refusal
    else if b = Octet.quote then
      match readString rest with
      | .ok (text, _) => .invalidType (.string text) expected
      | .error refusal => refusal
    else if b = Octet.openList then .invalidType .sequence expected
    else if b = Octet.openObject then .invalidType .map expected
    else .expectedValue

/-! ## Places between items and members -/

/-- Whether another item follows, with the octets from it on, or else from the end of the
array on. -/
def nextItem (first : Bool) (s : List UInt8) : Except ReadError (Bool × List UInt8) :=
  match skipBlanks s with
  | [] => .error .endInList
  | b :: rest =>
    if b = Octet.closeList then .ok (false, b :: rest)
    else if first then .ok (true, b :: rest)
    else if b = Octet.comma then
      match skipBlanks rest with
      | [] => .error .endInValue
      | c :: later =>
        if c = Octet.closeList then .error .trailingComma else .ok (true, c :: later)
    else .error .expectedListEnd

/-- The end of an array of which every item has been taken. -/
def closeItems (s : List UInt8) : Except ReadError (List UInt8) :=
  match skipBlanks s with
  | [] => .error .endInList
  | b :: rest =>
    if b = Octet.closeList then .ok rest
    else if b = Octet.comma then
      match skipBlanks rest with
      | c :: _ => if c = Octet.closeList then .error .trailingComma else .error .trailingCharacters
      | [] => .error .trailingCharacters
    else .error .trailingCharacters

/-- Whether another member follows, with the octets after the opening quote of its name,
or else after the end of the object. -/
def nextName (first : Bool) (s : List UInt8) : Except ReadError (Bool × List UInt8) :=
  match skipBlanks s with
  | [] => .error .endInObject
  | b :: rest =>
    if b = Octet.closeObject then .ok (false, rest)
    else if first then
      if b = Octet.quote then .ok (true, rest) else .error .nameNotString
    else if b = Octet.comma then
      match skipBlanks rest with
      | [] => .error .endInValue
      | c :: later =>
        if c = Octet.quote then .ok (true, later)
        else if c = Octet.closeObject then .error .trailingComma
        else .error .nameNotString
    else .error .expectedObjectEnd

/-- The octets after the colon behind a name. -/
def readColon (s : List UInt8) : Except ReadError (List UInt8) :=
  match skipBlanks s with
  | [] => .error .endInObject
  | b :: rest => if b = Octet.colon then .ok rest else .error .expectedColon

/-! ## Arrays and objects -/

/-- The items of an array after its opening bracket. An array has fewer items than its text
has octets, which `steps` counts. -/
def readItems {α : Type} (read : Reader α) :
    (steps : Nat) → (first : Bool) → List UInt8 → Except ReadError (List α × List UInt8)
  | 0, _, _ => .error .endInList
  | steps + 1, first, s => do
    let (more, s) ← nextItem first s
    if more then
      let (item, s) ← read s
      let (items, s) ← readItems read steps false s
      .ok (item :: items, s)
    else
      let s ← closeItems s
      .ok ([], s)

/-- The members of an object after its opening brace. -/
def readMembers {α : Type} (read : Reader α) :
    (steps : Nat) → (first : Bool) → List UInt8 →
      Except ReadError (List (String × α) × List UInt8)
  | 0, _, _ => .error .endInObject
  | steps + 1, first, s => do
    let (more, s) ← nextName first s
    if more then
      let (name, s) ← readString s
      let s ← readColon s
      let (value, s) ← read s
      let (members, s) ← readMembers read steps false s
      .ok ((name, value) :: members, s)
    else .ok ([], s)

/-! ## Any value -/

/-- Reads any value, the values inside arrays and objects by `nested`; without it, arrays
and objects are too deep. -/
def valueWith (nested : Option (Reader Value)) : Reader Value := fun s =>
  match skipBlanks s with
  | [] => .error .endInValue
  | b :: rest =>
    if b = 0x6E then do
      let s ← expectWord ull rest
      .ok (.null, s)
    else if b = 0x74 then do
      let s ← expectWord rue rest
      .ok (.bool true, s)
    else if b = 0x66 then do
      let s ← expectWord alse rest
      .ok (.bool false, s)
    else if beginsNumber b then do
      let (n, s) ← readNumber (b :: rest)
      .ok (.number n, s)
    else if b = Octet.quote then do
      let (text, s) ← readString rest
      .ok (.string text, s)
    else if b = Octet.openList then
      match nested with
      | none => .error .tooDeep
      | some read => do
        let (items, s) ← readItems read (rest.length + 1) true rest
        .ok (.array items, s)
    else if b = Octet.openObject then
      match nested with
      | none => .error .tooDeep
      | some read => do
        let (members, s) ← readMembers read (rest.length + 1) true rest
        .ok (.object members, s)
    else .error .expectedValue

/-- Reads any value in which arrays and objects nest at most `depth` deep. -/
def readValue : (depth : Nat) → Reader Value
  | 0 => valueWith none
  | depth + 1 => valueWith (some (readValue depth))

/-- The value that a text holds. -/
def parse (s : List UInt8) : Except ReadError Value := (readValue depthLimit).whole s

/-! ## Values passed over -/

mutual

/-- Passes over a value. Each step takes an octet, or turns to the items or members that
begin with it, so twice as many steps as octets suffice. -/
def skipValue : (steps : Nat) → List UInt8 → Except ReadError (List UInt8)
  | 0, _ => .error .endInValue
  | steps + 1, s =>
    match skipBlanks s with
    | [] => .error .endInValue
    | b :: rest =>
      if b = 0x6E then expectWord ull rest
      else if b = 0x74 then expectWord rue rest
      else if b = 0x66 then expectWord alse rest
      else if beginsNumber b then skipNumber (b :: rest)
      else if b = Octet.quote then skipString rest
      else if b = Octet.openList then
        match skipBlanks rest with
        | [] => .error .endInList
        | c :: later => if c = Octet.closeList then .ok later else skipItems steps (c :: later)
      else if b = Octet.openObject then
        match skipBlanks rest with
        | [] => .error .endInObject
        | c :: later => if c = Octet.closeObject then .ok later else skipMembers steps (c :: later)
      else .error .expectedValue

/-- Passes over an item, those after it, and the end of the array. -/
def skipItems : (steps : Nat) → List UInt8 → Except ReadError (List UInt8)
  | 0, _ => .error .endInList
  | steps + 1, s => do
    let s ← skipValue steps s
    match skipBlanks s with
    | [] => .error .endInList
    | b :: rest =>
      if b = Octet.closeList then .ok rest
      else if b = Octet.comma then skipItems steps rest
      else .error .expectedListEnd

/-- Passes over a member, those after it, and the end of the object. -/
def skipMembers : (steps : Nat) → List UInt8 → Except ReadError (List UInt8)
  | 0, _ => .error .endInObject
  | steps + 1, s =>
    match skipBlanks s with
    | [] => .error .endInObject
    | b :: rest =>
      if b = Octet.quote then do
        let s ← skipString rest
        let s ← readColon s
        let s ← skipValue steps s
        match skipBlanks s with
        | [] => .error .endInObject
        | b :: rest =>
          if b = Octet.closeObject then .ok rest
          else if b = Octet.comma then skipMembers steps rest
          else .error .expectedObjectEnd
      else .error .nameNotString

end

/-- Passes over a value of any depth. -/
def skipAny (s : List UInt8) : Except ReadError (List UInt8) := skipValue (2 * s.length + 1) s

end OpenBanking.Json
