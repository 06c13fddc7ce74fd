import OpenBanking.Json.Record

/-!
# Choices

A choice is one of several named variants. A variant without content is its name alone; a
variant with content is an object of one member, whose name is the name of the variant. The
object takes a level of depth from the content.
-/

namespace OpenBanking.Json

/-- A type of finitely many names. -/
class Named (α : Type) where
  /-- Every value, in order. -/
  all : List α
  /-- The name of a value. -/
  name : α → String
  /-- No value is left out. -/
  mem_all : ∀ x, x ∈ all
  /-- No name stands twice. -/
  names_nodup : (all.map name).Nodup

/-- Two members of a list without a repeated image are equal if their images are. -/
theorem eq_of_nodup_map {α β : Type} {f : α → β} {xs : List α} (nodup : (xs.map f).Nodup)
    {x y : α} (hx : x ∈ xs) (hy : y ∈ xs) (same : f x = f y) : x = y := by
  induction xs with
  | nil => simp at hx
  | cons z zs ih =>
    obtain ⟨fresh, nodup⟩ := List.nodup_cons.1 nodup
    rcases List.mem_cons.1 hx with rfl | later <;> rcases List.mem_cons.1 hy with rfl | last
    · rfl
    · exact absurd (same ▸ List.mem_map_of_mem last) fresh
    · exact absurd (same ▸ List.mem_map_of_mem later) fresh
    · exact ih nodup later last

/-- No two values share a name. -/
theorem Named.name_injective {α : Type} [Named α] {x y : α} (same : Named.name x = Named.name y) :
    x = y :=
  eq_of_nodup_map Named.names_nodup (Named.mem_all x) (Named.mem_all y) same

/-- The name of a value. -/
def nameOf {α : Type} [Named α] (x : α) : String := Named.name x

/-- The value that has exactly this name. -/
def ofName? {α : Type} [Named α] (name : String) : Option α :=
  (Named.all : List α).find? (Named.name · = name)

/-- The value that is shown as exactly this text. -/
def ofShown? {α : Type} [Named α] [ToString α] (text : String) : Option α :=
  (Named.all : List α).find? (toString · = text)

/-- A variant of a choice. -/
structure Variant (α : Type) where
  /-- Its name. -/
  name : String
  /-- Reads what stands after the colon behind the name. -/
  content : (depth : Nat) → Reader α
  /-- What the name alone denotes. -/
  bare : Except ReadError α

/-- The variant of a name. -/
def findVariant {α : Type} (variants : List (Variant α)) (name : String) :
    Except ReadError (Variant α) :=
  match variants.find? (·.name = name) with
  | some variant => .ok variant
  | none => .error (.unknownVariant name (variants.map (·.name)))

/-- Reads a variant with content after its opening brace. -/
def readTagged {α : Type} (variants : List (Variant α)) (depth : Nat) : Reader α := fun s => do
  let (name, s) ← readText "variant identifier" s
  let variant ← findVariant variants name
  let s ← readColon s
  let (x, s) ← variant.content depth s
  match skipBlanks s with
  | [] => .error .endInObject
  | b :: rest => if b = Octet.closeObject then .ok (x, rest) else .error .expectedValue

/-- Reads one of the variants. -/
def readChoice {α : Type} (variants : List (Variant α)) (depth : Nat) : Reader α := fun s =>
  match skipBlanks s with
  | [] => .error .endInValue
  | b :: rest =>
    if b = Octet.openObject then inside (readTagged variants) depth rest
    else if b = Octet.quote then do
      let (name, s) ← readString rest
      let variant ← findVariant variants name
      let x ← variant.bare
      .ok (x, s)
    else .error .expectedValue

namespace Variant

/-- A variant without content. -/
def unit {α : Type} (name : String) (x : α) : Variant α where
  name
  content _ s := do
    let (_, s) ← readNull s
    .ok (x, s)
  bare := .ok x

/-- A variant with one value. -/
def newtype {α β : Type} [Wire β] (name : String) (inject : β → α) : Variant α where
  name
  content depth s := do
    let (x, s) ← (Wire.codec : Codec β).read depth s
    .ok (inject x, s)
  bare := .error (.invalidType .unitVariant "newtype variant")

/-- A variant with fields, which messages call `label`. -/
def record {α ρ : Type} (name label : String) (fields : Fields ρ) (inject : ρ → α) :
    Variant α where
  name
  content depth s := do
    let (x, s) ← fields.read ("struct variant " ++ label) depth s
    .ok (inject x, s)
  bare := .error (.invalidType .unitVariant "struct variant")

end Variant

/-- The value of a variant with content. -/
def tagged (name : String) (content : Value) : Value := .object [(name, content)]

/-- A choice by its variants and its writer. -/
def Codec.choice {α : Type} (variants : List (Variant α)) (toValue : α → Value) : Codec α :=
  ⟨toValue, readChoice variants⟩

/-- A choice among names. -/
def Codec.named (α : Type) [Named α] : Codec α :=
  .choice ((Named.all : List α).map fun x => .unit (nameOf x) x) fun x => .string (nameOf x)

end OpenBanking.Json
