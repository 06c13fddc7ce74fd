import Mathlib.Data.List.Pairwise
import OpenBanking.Json.Record
import OpenBanking.Proofs.Json.Lossless
import OpenBanking.Proofs.Json.Spelling

/-!
# Lossless records

The members of a record may stand in any order, with members of other names among them. Whatever
members have been read, the slots hold the fields of their names and no others; this goes on through
every member, and in the end it fills in what the writer left out, since a field is left out only at
its value when absent. A record takes one more level of depth than its fields.
-/

namespace OpenBanking.Json

open Utf8 (octets)

/-! ## Lossless fields -/

/-- A field of which every value that is written is read back where arrays and objects may nest so
deep. -/
class Field.Lossless {α : Type} (depth : Nat) (field : Field α) : Prop where
  /-- The reader takes what is written. -/
  readsBack : ∀ x, field.omits x = false → field.codec.ReadsBack depth x

instance {α : Type} (depth : Nat) [Wire α] [Lossless depth α] (name : String) :
    (Field.required name : Field α).Lossless depth where
  readsBack x _ := Lossless.readsBack x

instance {α : Type} (depth : Nat) [Wire α] [Lossless depth α] (name : String) (absent : α) :
    (Field.withDefault name absent).Lossless depth where
  readsBack x _ := Lossless.readsBack x

instance {α : Type} (depth : Nat) [Wire α] [Definite depth α] (name : String) :
    (Field.optional name : Field (Option α)).Lossless depth where
  readsBack x _ := Lossless.readsBack x

instance {α : Type} (depth : Nat) [Wire α] [Lossless depth α] (name : String) :
    (Field.unlessEmpty name : Field (List α)).Lossless (depth + 1) where
  readsBack x _ := Lossless.readsBack x

namespace Fields

/-- Fields each of which is lossless where arrays and objects may nest so deep. -/
class inductive Lossless (depth : Nat) : {ρ : Type} → Fields ρ → Prop where
  /-- There is no field. -/
  | nil : Lossless depth .nil
  /-- The first field and all later ones are lossless. -/
  | cons {α ρ : Type} {field : Field α} {rest : Fields ρ} (first : field.Lossless depth)
      (later : rest.Lossless depth) : Lossless depth (.cons field rest)

instance (depth : Nat) : Lossless depth .nil := .nil

instance {α ρ : Type} (depth : Nat) (field : Field α) (rest : Fields ρ)
    [first : field.Lossless depth] [later : rest.Lossless depth] :
    Lossless depth (.cons field rest) :=
  .cons first later

/-- The names of fields in order. -/
def names : {ρ : Type} → Fields ρ → List String
  | _, .nil => []
  | _, .cons field rest => field.name :: rest.names

/-- A member is written for a field only. -/
theorem mem_names_of_mem_members {ρ : Type} {fields : Fields ρ} {xs : ρ}
    {member : String × Value} (written : member ∈ fields.members xs) : member.1 ∈ fields.names := by
  induction fields with
  | nil => cases written
  | cons field rest ih =>
    obtain ⟨x, xs⟩ := xs
    by_cases omitted : field.omits x
    · simp only [members, omitted, ↓reduceIte] at written
      exact List.mem_cons_of_mem _ (ih written)
    · simp only [members, omitted, Bool.false_eq_true, ↓reduceIte] at written
      rcases List.mem_cons.1 written with rfl | later
      · exact List.mem_cons_self
      · exact List.mem_cons_of_mem _ (ih later)

/-- Fields of distinct names are written as members of distinct names. -/
theorem nodup_names_members {ρ : Type} {fields : Fields ρ} (nodup : fields.names.Nodup) (xs : ρ) :
    (Json.names (fields.members xs)).Nodup := by
  induction fields with
  | nil => exact List.nodup_nil
  | cons field rest ih =>
    obtain ⟨x, xs⟩ := xs
    obtain ⟨fresh, nodup⟩ := List.nodup_cons.1 nodup
    by_cases omitted : field.omits x
    · simp only [members, omitted, ↓reduceIte]
      exact ih nodup xs
    · simp only [members, omitted, Bool.false_eq_true, ↓reduceIte]
      refine List.nodup_cons.2 ⟨?_, ih nodup xs⟩
      intro again
      obtain ⟨member, written, same⟩ := List.mem_map.1 again
      have known := mem_names_of_mem_members written
      rw [show member.1 = field.name from same] at known
      exact fresh known

/-! ## Slots on the way -/

/-- The slots when the members of the names `seen` have been read. -/
def held : {ρ : Type} → (fields : Fields ρ) → ρ → (seen : List String) → fields.Slots
  | _, .nil, _, _ => ()
  | _, .cons field rest, (x, xs), seen =>
    (if field.name ∈ seen then some x else none, rest.held xs seen)

/-- At first nothing is held. -/
theorem held_nil {ρ : Type} (fields : Fields ρ) (xs : ρ) : fields.held xs [] = fields.vacant := by
  induction fields with
  | nil => rfl
  | cons field rest ih =>
    have later := ih xs.2
    simp only [held, vacant, later, List.not_mem_nil, ↓reduceIte]
    rfl

/-- A name of no field changes no slot. -/
theorem held_cons_of_notMem {ρ : Type} {fields : Fields ρ} {name : String}
    (unknown : name ∉ fields.names) (xs : ρ) (seen : List String) :
    fields.held xs (name :: seen) = fields.held xs seen := by
  induction fields with
  | nil => rfl
  | cons field rest ih =>
    obtain ⟨apart, unknown⟩ := not_or.1 (mt List.mem_cons.2 unknown)
    have same : (field.name ∈ name :: seen) = (field.name ∈ seen) := by
      simp [List.mem_cons, Ne.symm apart]
    have later := ih unknown xs.2
    simp only [held, same, later]
    rfl

/-- When every member has been read, the record is complete: a field without a member is one that
the writer left out, and has its value when absent. -/
theorem finish_held {ρ : Type} (fields : Fields ρ) (xs : ρ) {seen : List String}
    (complete : ∀ name ∈ Json.names (fields.members xs), name ∈ seen) :
    fields.finish (fields.held xs seen) = .ok xs := by
  induction fields with
  | nil => rfl
  | cons field rest ih =>
    obtain ⟨x, xs⟩ := xs
    by_cases omitted : field.omits x
    · have absent := field.absent_of_omits x omitted
      simp only [members, omitted, ↓reduceIte] at complete
      have later := ih xs complete
      by_cases given : field.name ∈ seen
      · simp [held, finish, given, later, bind, Except.bind]
      · simp [held, finish, given, absent, later, bind, Except.bind]
    · simp only [members, omitted, Bool.false_eq_true, ↓reduceIte] at complete
      obtain ⟨given, complete⟩ := List.forall_mem_cons.1 complete
      simp [held, finish, given, ih xs complete, bind, Except.bind]

/-! ## Members read one by one -/

/-- A text is read behind a name as the value of the field of that name, if there is one, unless the
field has been read before. The reader then stands behind the text, up to blanks. -/
def Fills {ρ : Type} (fields : Fields ρ) (depth : Nat) (xs : ρ) (member : String × List UInt8) :
    Prop :=
  ∀ seen, (member.1 ∈ fields.names → member.1 ∉ seen) → ∀ behind rest,
    readColon behind = .ok (member.2 ++ rest) → EndsNumber rest →
      ∃ left, fields.readMember depth member.1 (fields.held xs seen) behind =
          .ok (fields.held xs (member.1 :: seen), left) ∧
        skipBlanks left = skipBlanks rest

namespace Fills

variable {α ρ : Type} {field : Field α} {fields : Fields ρ} {depth : Nat} {x : α} {xs : ρ}
  {name : String} {text : List UInt8}

/-- The first field reads its value, and no other field has its name. -/
theorem first (unique : field.name ∉ fields.names)
    (reads : ∀ rest, EndsNumber rest →
      ∃ left, field.codec.read depth (text ++ rest) = .ok (x, left) ∧
        skipBlanks left = skipBlanks rest) :
    (cons field fields).Fills depth (x, xs) (field.name, text) := by
  intro seen fresh behind rest parts ends
  obtain ⟨left, taken, stands⟩ := reads rest ends
  have unread : field.name ∉ seen := fresh List.mem_cons_self
  refine ⟨left, ?_, stands⟩
  simp only [readMember, held, unread, ↓reduceIte, parts, taken, bind, Except.bind,
    List.mem_cons_self, held_cons_of_notMem unique]

/-- A member of another name is left to the later fields. -/
theorem later (apart : name ≠ field.name) (fills : fields.Fills depth xs (name, text)) :
    (cons field fields).Fills depth (x, xs) (name, text) := by
  intro seen fresh behind rest parts ends
  obtain ⟨left, taken, stands⟩ :=
    fills seen (fun known => fresh (List.mem_cons_of_mem _ known)) behind rest parts ends
  have same : (field.name ∈ name :: seen) = (field.name ∈ seen) := by
    simp [List.mem_cons, Ne.symm apart]
  refine ⟨left, ?_, stands⟩
  simp only [readMember, held, apart, ↓reduceIte, taken, bind, Except.bind, same]

/-- A member of no field is passed over with its value. -/
theorem unknown (other : name ∉ fields.names) (formed : IsJson text) :
    fields.Fills depth xs (name, text) := by
  induction fields with
  | nil =>
    intro seen _ behind rest parts ends
    obtain ⟨left, passed, stands⟩ := formed.skipAny_append ends
    refine ⟨left, ?_, stands⟩
    simp only [readMember, parts, passed, bind, Except.bind]
    rfl
  | cons field rest ih =>
    obtain ⟨apart, other⟩ := not_or.1 (mt List.mem_cons.2 other)
    exact .later apart (ih other)

end Fills

/-- Two members that may stand beside each other: no field is given twice. -/
def Apart {ρ : Type} (fields : Fields ρ) (member other : String × List UInt8) : Prop :=
  member.1 ∈ fields.names → member.1 ≠ other.1

/-- It does not matter which of two members stands first. -/
theorem Apart.symm {ρ : Type} {fields : Fields ρ} {member other : String × List UInt8}
    (apart : fields.Apart member other) : fields.Apart other member := by
  intro known same
  rw [same] at known
  exact apart known same.symm

instance {ρ : Type} (fields : Fields ρ) : Std.Symm fields.Apart := ⟨fun _ _ => Apart.symm⟩

/-- The text of a member, whose name is given by its text too. -/
abbrev entryText (entry : List UInt8 × String × List UInt8) : List UInt8 := entry.1 ++ entry.2.2

section Entries

variable {ρ : Type} {fields : Fields ρ} {depth : Nat} {xs : ρ}

/-- One step reads one member. -/
theorem readSlots_cons {member : String × List UInt8} (fills : fields.Fills depth xs member)
    {seen : List String} (fresh : member.1 ∈ fields.names → member.1 ∉ seen) {first : Bool}
    {s named behind rest : List UInt8} (next : nextName first s = .ok (true, named))
    (own : readString named = .ok (member.1, behind))
    (parts : readColon behind = .ok (member.2 ++ rest)) (ends : EndsNumber rest) (steps : Nat) :
    ∃ left, skipBlanks left = skipBlanks rest ∧
      fields.readSlots depth (steps + 1) first (fields.held xs seen) s =
        fields.readSlots depth steps false (fields.held xs (member.1 :: seen)) left := by
  obtain ⟨left, taken, stands⟩ := fills seen fresh behind rest parts ends
  refine ⟨left, stands, ?_⟩
  simp only [readSlots, next, ↓reduceIte, own, taken, bind, Except.bind]

/-- At the end of an object nothing more is read. -/
theorem readSlots_nil (slots : fields.Slots) (steps : Nat) (first : Bool) {s rest : List UInt8}
    (stands : skipBlanks s = Octet.closeObject :: rest) :
    fields.readSlots depth (steps + 1) first slots s = .ok (slots, rest) := by
  have next : nextName first s = .ok (false, rest) := by
    rw [nextName, stands]
    rfl
  simp only [readSlots, next, bind, Except.bind, Bool.false_eq_true, ↓reduceIte]

/-- Members behind commas are read into their slots, each in a step of its own. -/
theorem readSlots_behind {entries : List (List UInt8 × String × List UInt8)}
    (named : ∀ entry ∈ entries, SpellsName entry.1 entry.2.1)
    (fills : ∀ entry ∈ entries, fields.Fills depth xs entry.2)
    (distinct : entries.Pairwise fun entry other => fields.Apart entry.2 other.2)
    {seen : List String} (fresh : ∀ entry ∈ entries, entry.2.1 ∈ fields.names → entry.2.1 ∉ seen)
    {steps : Nat} (enough : entries.length < steps) {left rest : List UInt8}
    (stands : skipBlanks left = skipBlanks ((entries.map entryText).flatMap (Octet.comma :: ·) ++
      Octet.closeObject :: rest)) :
    fields.readSlots depth steps false (fields.held xs seen) left =
      .ok (fields.held xs ((entries.map (·.2.1)).reverse ++ seen), rest) := by
  obtain ⟨steps, rfl⟩ := Nat.exists_eq_add_one_of_ne_zero (Nat.ne_zero_of_lt enough)
  induction entries generalizing seen steps left with
  | nil => exact readSlots_nil _ steps false (stands.trans (skipBlanks_cons (by decide) rest))
  | cons entry entries ih =>
    obtain ⟨own, others⟩ := List.forall_mem_cons.1 fills
    obtain ⟨name, otherNames⟩ := List.forall_mem_cons.1 named
    obtain ⟨apart, distinct⟩ := List.pairwise_cons.1 distinct
    obtain ⟨unseen, unseenLater⟩ := List.forall_mem_cons.1 fresh
    rw [List.length_cons] at enough
    obtain ⟨steps, rfl⟩ := Nat.exists_eq_add_one_of_ne_zero (show steps ≠ 0 by omega)
    simp only [List.map_cons, List.flatMap_cons, List.cons_append, List.append_assoc] at stands
    rw [skipBlanks_cons (by decide)] at stands
    obtain ⟨later, behind, next, read, parts⟩ := name.exists_nextName_comma stands
    obtain ⟨left, after, step⟩ := readSlots_cons own unseen next read parts
      (endsNumber_members (entries.map entryText) rest) (steps + 1)
    have stillFresh : ∀ other ∈ entries,
        other.2.1 ∈ fields.names → other.2.1 ∉ entry.2.1 :: seen := by
      intro other behind known again
      rcases List.mem_cons.1 again with same | older
      · exact (apart other behind).symm known same
      · exact unseenLater other behind known older
    rw [step, ih otherNames others distinct stillFresh after steps (by omega)]
    simp

/-- An object of members each of which fills its slot is read as the record of the fields that are
given, in whatever order they stand. -/
theorem readObject_filled {gap : List UInt8} (blanks : IsBlanks gap)
    {entries : List (List UInt8 × String × List UInt8)}
    (named : ∀ entry ∈ entries, SpellsName entry.1 entry.2.1)
    (fills : ∀ entry ∈ entries, fields.Fills depth xs entry.2)
    (distinct : entries.Pairwise fun entry other => fields.Apart entry.2 other.2)
    (rest : List UInt8) :
    fields.readObject depth (gap ++ (parted (entries.map entryText) ++ Octet.closeObject :: rest)) =
      (fields.finish (fields.held xs (entries.map (·.2.1)).reverse)).map (·, rest) := by
  have slots : fields.readSlots depth
      ((gap ++ (parted (entries.map entryText) ++ Octet.closeObject :: rest)).length + 1) true
      (fields.held xs []) (gap ++ (parted (entries.map entryText) ++ Octet.closeObject :: rest)) =
        .ok (fields.held xs ((entries.map (·.2.1)).reverse ++ []), rest) := by
    cases entries with
    | nil =>
      refine readSlots_nil _ _ true ((blanks.skipBlanks_append _).trans ?_)
      exact skipBlanks_cons (by decide) rest
    | cons entry entries =>
      obtain ⟨own, others⟩ := List.forall_mem_cons.1 fills
      obtain ⟨name, otherNames⟩ := List.forall_mem_cons.1 named
      obtain ⟨apart, distinct⟩ := List.pairwise_cons.1 distinct
      have nonempty : ∀ piece ∈ entry :: entries, entryText piece ≠ [] := fun piece among =>
        List.append_ne_nil_of_left_ne_nil (named piece among).ne_nil _
      have enough := Nat.lt_of_succ_lt (length_lt_parted gap nonempty Octet.closeObject rest)
      generalize (gap ++ (parted ((entry :: entries).map entryText) ++
        Octet.closeObject :: rest)).length = steps at enough ⊢
      rw [List.map_cons, parted_cons_append, entryText, List.append_assoc]
      obtain ⟨later, behind, next, read, parts⟩ := name.exists_nextName_first blanks (entry.2.2 ++
        ((entries.map entryText).flatMap (Octet.comma :: ·) ++ Octet.closeObject :: rest))
      obtain ⟨left, after, step⟩ := readSlots_cons own (fun _ => List.not_mem_nil) next read parts
        (endsNumber_members (entries.map entryText) rest) steps
      have stillFresh : ∀ other ∈ entries, other.2.1 ∈ fields.names → other.2.1 ∉ [entry.2.1] := by
        intro other behind known again
        exact (apart other behind).symm known (List.mem_singleton.1 again)
      rw [step, readSlots_behind otherNames others distinct stillFresh enough after]
      simp
  rw [List.append_nil] at slots
  rw [readObject, ← held_nil fields xs, slots]
  simp only [bind, Except.bind]
  cases fields.finish (fields.held xs (entries.map (·.2.1)).reverse) <;> rfl

end Entries

/-! ## Records given by texts -/

/-- Each field is read from the text behind its name, or has its value when absent and no member has
its name. -/
def ReadFrom (depth : Nat) : {ρ : Type} → Fields ρ → List (String × List UInt8) → ρ → Prop
  | _, .nil, _, _ => True
  | _, .cons field rest, given, (x, xs) =>
    ((∃ text, (field.name, text) ∈ given ∧ IsRead (field.codec.read depth) (text, x)) ∨
      (∀ member ∈ given, member.1 ≠ field.name) ∧ field.absent = some x) ∧
        rest.ReadFrom depth given xs

section ReadFrom

variable {ρ : Type} {fields : Fields ρ} {depth : Nat} {xs : ρ} {given : List (String × List UInt8)}

/-- A member of such an object fills the slot of its field, if that is given once. -/
theorem ReadFrom.fills (readFrom : fields.ReadFrom depth given xs) (nodup : fields.names.Nodup)
    (once : given.Pairwise fields.Apart) {member : String × List UInt8} (held : member ∈ given)
    (formed : member.1 ∉ fields.names → IsJson member.2) : fields.Fills depth xs member := by
  obtain ⟨name, text⟩ := member
  induction fields with
  | nil => exact .unknown List.not_mem_nil (formed List.not_mem_nil)
  | cons field rest ih =>
    obtain ⟨x, xs⟩ := xs
    obtain ⟨unique, nodup⟩ := List.nodup_cons.1 nodup
    obtain ⟨first, later⟩ := readFrom
    by_cases own : name = field.name
    · subst own
      rcases first with ⟨other, another, reads⟩ | ⟨absent, _⟩
      · have same : text = other := by
          by_contra differ
          have apart := once.forall held another (by simpa using differ)
          exact apart List.mem_cons_self rfl
        exact .first unique fun rest ends => same ▸ reads rest ends _ rfl
      · exact absurd rfl (absent _ held)
    · refine .later own (ih later nodup ?_ fun other => formed ?_)
      · exact once.imp fun apart known => apart (List.mem_cons_of_mem _ known)
      · exact fun known => (List.mem_cons.1 known).elim own other

/-- When every member has been read, the record is complete. -/
theorem ReadFrom.finish_held (readFrom : fields.ReadFrom depth given xs) {seen : List String}
    (complete : ∀ member ∈ given, member.1 ∈ seen) :
    fields.finish (fields.held xs seen) = .ok xs := by
  induction fields with
  | nil => rfl
  | cons field rest ih =>
    obtain ⟨x, xs⟩ := xs
    obtain ⟨first, later⟩ := readFrom
    have others := ih later
    rcases first with ⟨text, held, _⟩ | ⟨_, absent⟩
    · have read : field.name ∈ seen := complete _ held
      simp [Fields.held, finish, read, others, bind, Except.bind]
    · by_cases read : field.name ∈ seen
      · simp [Fields.held, finish, read, others, bind, Except.bind]
      · simp [Fields.held, finish, read, absent, others, bind, Except.bind]

/-- The record is read from the object, in whatever order its members stand. -/
theorem ReadFrom.readObject {gap : List UInt8} (blanks : IsBlanks gap)
    {entries : List (List UInt8 × String × List UInt8)}
    (named : ∀ entry ∈ entries, SpellsName entry.1 entry.2.1)
    (readFrom : fields.ReadFrom depth (entries.map (·.2)) xs) (nodup : fields.names.Nodup)
    (once : entries.Pairwise fun entry other => fields.Apart entry.2 other.2)
    (formed : ∀ entry ∈ entries, entry.2.1 ∉ fields.names → IsJson entry.2.2)
    (rest : List UInt8) :
    fields.readObject depth (gap ++ (parted (entries.map entryText) ++ Octet.closeObject :: rest)) =
      .ok (xs, rest) := by
  have fills : ∀ entry ∈ entries, fields.Fills depth xs entry.2 := fun entry held =>
    readFrom.fills nodup (List.pairwise_map.2 once) (List.mem_map_of_mem held) (formed entry held)
  rw [readObject_filled blanks named fills once, readFrom.finish_held]
  · rfl
  · refine List.forall_mem_map.2 fun entry held => ?_
    exact List.mem_reverse.2 (List.mem_map_of_mem held)

end ReadFrom

/-! ## Members in any order, and others among them -/

/-- A member that an object may have: one that is written for the record, its value placed by a
layout, or one of no field with whatever value is well-formed. -/
inductive Admits {ρ : Type} (fields : Fields ρ) (xs : ρ) (layout : Layout) :
    String × List UInt8 → Prop where
  | written {name : String} {value : Value} (given : (name, value) ∈ fields.members xs) :
    Admits fields xs layout (name, (layout.apply value).octets)
  | unknown {name : String} {text : List UInt8} (other : name ∉ fields.names)
    (formed : IsJson text) : Admits fields xs layout (name, text)

/-- A member with the text that its name is written as. -/
def plainEntry (member : String × List UInt8) : List UInt8 × String × List UInt8 :=
  (octets (stringChars member.1) ++ [Octet.colon], member)

/-- A member with the text of its name is still the member. -/
@[simp]
theorem snd_plainEntry (member : String × List UInt8) : (plainEntry member).2 = member := rfl

/-- A member with the text of its name is written as the member is. -/
@[simp]
theorem entryText_plainEntry (member : String × List UInt8) :
    entryText (plainEntry member) = namedOctets member := by
  simp [plainEntry, entryText, namedOctets]

section Admitted

variable {ρ : Type} {fields : Fields ρ} {depth : Nat} [lossless : fields.Lossless depth]
  (nodup : fields.names.Nodup) {xs : ρ} {layout : Layout}
include nodup

/-- A member that is written for a record, its value placed by a layout, fills the slot of its
field: the reader of the field takes its value. -/
theorem fills_written {name : String} {value : Value}
    (written : (name, value) ∈ fields.members xs) :
    fields.Fills depth xs (name, (layout.apply value).octets) := by
  induction lossless with
  | nil => cases written
  | @cons α ρ field others first later ih =>
    obtain ⟨x, xs⟩ := xs
    obtain ⟨unique, nodup⟩ := List.nodup_cons.1 nodup
    by_cases own : name = field.name
    · subst own
      have written : field.omits x = false ∧ value = field.codec.toValue x := by
        by_cases omitted : field.omits x
        · simp only [members, omitted, ↓reduceIte] at written
          exact absurd (mem_names_of_mem_members written) unique
        · simp only [members, omitted, Bool.false_eq_true, ↓reduceIte] at written
          rcases List.mem_cons.1 written with same | again
          · cases same
            exact ⟨by simpa using omitted, rfl⟩
          · exact absurd (mem_names_of_mem_members again) unique
      obtain ⟨given, rfl⟩ := written
      exact .first unique fun rest ends => ⟨rest, first.readsBack x given layout rest ends, rfl⟩
    · have written : (name, value) ∈ others.members xs := by
        by_cases omitted : field.omits x
        · simpa only [members, omitted, ↓reduceIte] using written
        · simp only [members, omitted, Bool.false_eq_true, ↓reduceIte] at written
          rcases List.mem_cons.1 written with same | again
          · cases same
            exact absurd rfl own
          · exact again
      exact .later own (ih nodup written)

/-- An object of admitted members, in whatever order, is read as the record of the fields that are
given. -/
theorem readObject_admitted {placed : List (String × List UInt8)}
    (admitted : ∀ member ∈ placed, fields.Admits xs layout member)
    (distinct : placed.Pairwise fields.Apart) (rest : List UInt8) :
    fields.readObject depth (parted (placed.map namedOctets) ++ Octet.closeObject :: rest) =
      (fields.finish (fields.held xs (placed.map (·.1)).reverse)).map (·, rest) := by
  have filled : ∀ member ∈ placed, fields.Fills depth xs member := by
    intro member held
    cases admitted member held with
    | written given => exact fills_written nodup given
    | unknown other formed => exact .unknown other formed
  have named : ∀ entry ∈ placed.map plainEntry, SpellsName entry.1 entry.2.1 :=
    List.forall_mem_map.2 fun member _ => spellsName_octets member.1
  have object := readObject_filled isBlanks_nil named (List.forall_mem_map.2 filled)
    (List.pairwise_map.2 distinct) rest
  simpa only [List.map_map, Function.comp_def, entryText_plainEntry, snd_plainEntry,
    List.nil_append] using object

variable (depth xs layout)

/-- A record is read back in every layout, and takes one more level. -/
theorem reads_object (expected : String) :
    Reads (fields.read expected (depth + 1)) (layout.apply (.object (fields.members xs))) xs := by
  intro rest _
  obtain ⟨placed, applied, order⟩ := layout.object _ (nodup_names_members nodup xs)
  have admitted : ∀ member ∈ memberTexts placed, fields.Admits xs layout member := by
    intro member held
    obtain ⟨⟨name, value⟩, stands, rfl⟩ := List.mem_map.1 held
    obtain ⟨value, given, rfl⟩ := exists_of_mem_mapValues (order.mem_iff.1 stands)
    exact .written given
  have sameNames : (Json.names placed).Perm (Json.names (fields.members xs)) := by
    have mapped := order.map Prod.fst
    rwa [show (mapValues layout.apply (fields.members xs)).map Prod.fst =
      Json.names (fields.members xs) from names_mapValues _ _] at mapped
  have given : (memberTexts placed).map (·.1) = Json.names placed := by
    simp [memberTexts, Json.names]
  have distinct : (memberTexts placed).Pairwise fields.Apart := by
    have apart := sameNames.nodup_iff.2 (nodup_names_members nodup xs)
    rw [← given, List.Nodup, List.pairwise_map] at apart
    refine apart.imp ?_
    intro member another other _
    exact other
  have complete : fields.finish (fields.held xs (Json.names placed).reverse) = .ok xs := by
    refine finish_held fields xs ?_
    intro name known
    rw [List.mem_reverse]
    exact sameNames.mem_iff.2 known
  have object : fields.readObject depth _ = _ := readObject_admitted nodup admitted distinct rest
  rw [given, complete] at object
  rw [applied, octets_object_eq_objectOctets, objectOctets, List.cons_append, List.append_assoc]
  exact object

end Admitted

end Fields

/-- A record of lossless fields with distinct names is read back. -/
theorem Codec.record_readsBack {α ρ : Type} (name : String) {fields : Fields ρ} {depth : Nat}
    [fields.Lossless depth] (nodup : fields.names.Nodup) {pack : ρ → α} {unpack : α → ρ}
    (inverse : ∀ x, pack (unpack x) = x) (x : α) :
    (Codec.record name fields pack unpack).ReadsBack (depth + 1) x := by
  intro layout rest ends
  have taken := Fields.reads_object depth nodup (unpack x) layout ("struct " ++ name) rest ends
  simp only [Codec.record, taken, bind, Except.bind, inverse]

/-- A type written as a record of lossless fields with distinct names loses nothing. -/
theorem Definite.record {α ρ : Type} {name : String} {fields : Fields ρ} {pack : ρ → α}
    {unpack : α → ρ} {depth : Nat} (lossless : fields.Lossless depth)
    (nodup : fields.names.Nodup := by decide)
    (inverse : ∀ x, pack (unpack x) = x := by exact fun _ => rfl) :
    @Definite (depth + 1) α ⟨.record name fields pack unpack⟩ :=
  letI : Wire α := ⟨.record name fields pack unpack⟩
  { readsBack := Codec.record_readsBack name nodup inverse
    ne_null := fun _ => nofun }

end OpenBanking.Json
