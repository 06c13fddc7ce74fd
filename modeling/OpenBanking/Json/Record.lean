import OpenBanking.Json.Codec

/-!
# Records

The fields of a record in order, each with its name, its codec and its value when absent.
One description writes the record as an object and reads it from an object whose members
stand in any order, unknown ones among them, or from an array of the fields in order. Either
takes a level of depth from its fields; unknown members may be of any depth.
-/

namespace OpenBanking.Json

/-- A field of a record. -/
structure Field (α : Type) where
  /-- Name of the member. -/
  name : String
  /-- Form of its values. -/
  codec : Codec α
  /-- Value of a field that is not given; nothing if it has to be given. -/
  absent : Option α
  /-- The values for which no member is written. -/
  omits : α → Bool
  /-- Only the value that is read back from an absent member is left out. -/
  absent_of_omits : ∀ x, omits x = true → absent = some x

/-- A field that has to be given. -/
def Field.required {α : Type} [Wire α] (name : String) : Field α :=
  ⟨name, Wire.codec, none, fun _ => false, by simp⟩

/-- A field that is written always and has a value when absent. -/
def Field.withDefault {α : Type} [Wire α] (name : String) (absent : α) : Field α :=
  ⟨name, Wire.codec, some absent, fun _ => false, by simp⟩

/-- A field that may be absent. -/
def Field.optional {α : Type} [Wire α] (name : String) : Field (Option α) :=
  ⟨name, Wire.codec, some none, Option.isNone, by simp +contextual⟩

/-- A list that is left out while it is empty. -/
def Field.unlessEmpty {α : Type} [Wire α] (name : String) : Field (List α) :=
  ⟨name, Wire.codec, some [], List.isEmpty, by simp +contextual⟩

/-- The fields of a record whose values are those of a product. -/
inductive Fields : Type → Type 1 where
  /-- No field. -/
  | nil : Fields Unit
  /-- A field before others. -/
  | cons {α ρ : Type} (field : Field α) (rest : Fields ρ) : Fields (α × ρ)

namespace Fields

/-- The number of fields. -/
def count : {ρ : Type} → Fields ρ → Nat
  | _, .nil => 0
  | _, .cons _ rest => rest.count + 1

/-- The members written for a record. -/
def members : {ρ : Type} → Fields ρ → ρ → List (String × Value)
  | _, .nil, _ => []
  | _, .cons field rest, (x, xs) =>
    if field.omits x then rest.members xs
    else (field.name, field.codec.toValue x) :: rest.members xs

/-- What has been read of each field. -/
def Slots : {ρ : Type} → Fields ρ → Type
  | _, .nil => Unit
  | _, .cons (α := α) _ rest => Option α × rest.Slots

/-- Nothing has been read. -/
def vacant : {ρ : Type} → (fields : Fields ρ) → fields.Slots
  | _, .nil => ()
  | _, .cons _ rest => (none, rest.vacant)

/-- The record of what has been read, absent fields at their values. -/
def finish : {ρ : Type} → (fields : Fields ρ) → fields.Slots → Except ReadError ρ
  | _, .nil, _ => .ok ()
  | _, .cons (α := α) field rest, slots => do
    let held : Option α × rest.Slots := slots
    let x ← match held.1, field.absent with
      | some x, _ => .ok x
      | none, some x => .ok x
      | none, none => .error (.missingField field.name)
    let xs ← rest.finish held.2
    .ok (x, xs)

/-- Reads the member of a name whose quote has been closed. A known name may come once; an
unknown one is passed over with its value. -/
def readMember (depth : Nat) : {ρ : Type} → (fields : Fields ρ) → (name : String) →
    fields.Slots → Reader fields.Slots
  | _, .nil, _, slots => fun s => do
    let s ← readColon s
    let s ← skipAny s
    .ok (slots, s)
  | _, .cons (α := α) field rest, name, slots => fun s =>
    let held : Option α × rest.Slots := slots
    if name = field.name then
      match held.1 with
      | some _ => .error (.duplicateField name)
      | none => do
        let s ← readColon s
        let (x, s) ← field.codec.read depth s
        .ok ((some x, held.2), s)
    else do
      let (later, s) ← rest.readMember depth name held.2 s
      .ok ((held.1, later), s)

/-- Reads the members after the opening brace into slots. -/
def readSlots {ρ : Type} (fields : Fields ρ) (depth : Nat) :
    (steps : Nat) → (first : Bool) → fields.Slots → Reader fields.Slots
  | 0, _, _ => fun _ => .error .endInObject
  | steps + 1, first, slots => fun s => do
    let (more, s) ← nextName first s
    if more then
      let (name, s) ← readString s
      let (slots, s) ← fields.readMember depth name slots s
      readSlots fields depth steps false slots s
    else .ok (slots, s)

/-- Reads an object after its opening brace. -/
def readObject {ρ : Type} (fields : Fields ρ) (depth : Nat) : Reader ρ := fun s => do
  let (slots, s) ← fields.readSlots depth (s.length + 1) true fields.vacant s
  let x ← fields.finish slots
  .ok (x, s)

/-- Reads the items from the field at `index` on. Fields beyond the end of the array are
absent. -/
def readSequence (expected : String) (depth : Nat) :
    {ρ : Type} → Fields ρ → (index : Nat) → (first : Bool) → Reader ρ
  | _, .nil, _, _ => fun s => do
    let s ← closeItems s
    .ok ((), s)
  | _, .cons field rest, index, first => fun s => do
    let (more, s) ← nextItem first s
    if more then
      let (x, s) ← field.codec.read depth s
      let (xs, s) ← rest.readSequence expected depth (index + 1) false s
      .ok ((x, xs), s)
    else
      match field.absent with
      | none => .error (.invalidLength index expected)
      | some x => do
        let (xs, s) ← rest.readSequence expected depth (index + 1) first s
        .ok ((x, xs), s)

/-- What an array of the fields is said to be. -/
def sequenceName {ρ : Type} (fields : Fields ρ) (expected : String) : String :=
  expected ++ " with " ++ String.ofList (Text.natural fields.count)
    ++ (if fields.count = 1 then " element" else " elements")

/-- Reads a record, which messages call `expected`. -/
def read {ρ : Type} (fields : Fields ρ) (expected : String) (depth : Nat) : Reader ρ := fun s =>
  match skipBlanks s with
  | [] => .error .endInValue
  | b :: rest =>
    if b = Octet.openList then
      inside (fields.readSequence (fields.sequenceName expected) · 0 true) depth rest
    else if b = Octet.openObject then inside fields.readObject depth rest
    else .error (mismatch expected (b :: rest))

end Fields

/-- A record of a name, by its fields and the passage to and from their product. -/
def Codec.record {α ρ : Type} (name : String) (fields : Fields ρ) (pack : ρ → α)
    (unpack : α → ρ) : Codec α where
  toValue x := .object (fields.members (unpack x))
  read depth s := do
    let (x, s) ← fields.read ("struct " ++ name) depth s
    .ok (pack x, s)

end OpenBanking.Json
