import OpenBanking.Proofs.Json.Record

/-!
# Altered records

Whoever writes an object may be older than its reader, and leave out members that the reader knows,
or newer, and add members that the reader does not know. The reader passes over what it does not
know; a field whose member is missing gets its value when absent, or is refused if it has none.
-/

namespace OpenBanking.Json

namespace Fields

variable {ρ : Type}

/-- The record when the members of some names are missing. -/
def without (missing : List String) : {ρ : Type} → Fields ρ → ρ → Except ReadError ρ
  | _, .nil, _ => .ok ()
  | _, .cons field rest, (x, xs) => do
    let x ← if field.name ∈ missing then field.absent.elim (.error (.missingField field.name)) .ok
      else .ok x
    let xs ← rest.without missing xs
    .ok (x, xs)

/-- The record with the fields of some names as in `blank`. -/
def reset (names : List String) : {ρ : Type} → Fields ρ → (blank : ρ) → ρ → ρ
  | _, .nil, _, _ => ()
  | _, .cons field rest, (y, ys), (x, xs) =>
    (if field.name ∈ names then y else x, rest.reset names ys xs)

/-- Every field may be absent, and is then as in `blank`. -/
def Defaults : {ρ : Type} → Fields ρ → (blank : ρ) → Prop
  | _, .nil, _ => True
  | _, .cons field rest, (y, ys) => field.absent = some y ∧ rest.Defaults ys

/-- If every field may be absent, the missing ones are reset. -/
theorem without_of_defaults {fields : Fields ρ} {blank : ρ} (defaults : fields.Defaults blank)
    (missing : List String) (xs : ρ) :
    fields.without missing xs = .ok (fields.reset missing blank xs) := by
  induction fields with
  | nil => rfl
  | cons field rest ih =>
    obtain ⟨x, xs⟩ := xs
    obtain ⟨y, ys⟩ := blank
    obtain ⟨absent, defaults⟩ := defaults
    have later := ih defaults xs
    by_cases gone : field.name ∈ missing
    · simp [without, reset, gone, absent, later, bind, Except.bind]
    · simp [without, reset, gone, later, bind, Except.bind]

/-- If only the first field has to be given, its absence is what refuses the record. -/
theorem without_of_required {α : Type} {field : Field α} {rest : Fields ρ} {blank : ρ}
    (required : field.absent = none) (defaults : rest.Defaults blank) (missing : List String)
    (y x : α) (xs : ρ) :
    (Fields.cons field rest).without missing (x, xs) =
      if field.name ∈ missing then .error (.missingField field.name)
      else .ok ((Fields.cons field rest).reset missing (y, blank) (x, xs)) := by
  have later := without_of_defaults defaults missing xs
  by_cases gone : field.name ∈ missing
  · simp [without, gone, required, bind, Except.bind]
  · simp [without, reset, gone, later, bind, Except.bind]

/-- If every member is missing, every field is reset. -/
theorem reset_of_subset (fields : Fields ρ) (blank xs : ρ) {names : List String}
    (all : ∀ name ∈ fields.names, name ∈ names) : fields.reset names blank xs = blank := by
  induction fields with
  | nil => rfl
  | cons field rest ih =>
    obtain ⟨own, others⟩ := List.forall_mem_cons.1 all
    have later := ih blank.2 xs.2 others
    simp only [reset, own, ↓reduceIte, later]

/-- What has been read of an object without some members is the record without them. -/
theorem finish_held_eq_without (fields : Fields ρ) (xs : ρ) {seen missing : List String}
    (given : ∀ name ∈ Json.names (fields.members xs), name ∈ seen ↔ name ∉ missing) :
    fields.finish (fields.held xs seen) = fields.without missing xs := by
  induction fields with
  | nil => rfl
  | cons field rest ih =>
    obtain ⟨x, xs⟩ := xs
    by_cases omitted : field.omits x
    · have absent := field.absent_of_omits x omitted
      simp only [members, omitted, ↓reduceIte] at given
      have later := ih xs given
      by_cases read : field.name ∈ seen <;> by_cases gone : field.name ∈ missing <;>
        simp [held, finish, without, read, gone, absent, later, bind, Except.bind]
    · simp only [members, omitted, Bool.false_eq_true, ↓reduceIte] at given
      obtain ⟨own, others⟩ := List.forall_mem_cons.1 given
      have later := ih xs others
      by_cases gone : field.name ∈ missing
      · have unread : field.name ∉ seen := fun read => own.1 read gone
        cases absent : field.absent <;>
          simp [held, finish, without, unread, gone, absent, later, bind, Except.bind]
      · have read : field.name ∈ seen := own.2 gone
        simp [held, finish, without, read, gone, later, bind, Except.bind]

end Fields

/-- The members of an object that is altered: those of some names are deleted, others are added, and
all may stand in another order. -/
def Altered (members : List (String × Value)) (deleted : List String)
    (added placed : List (String × List UInt8)) : Prop :=
  placed.Perm (memberTexts (members.filter fun member => member.1 ∉ deleted) ++ added)

/-- An object without members is every record with all members deleted. -/
theorem altered_names {ρ : Type} (fields : Fields ρ) (xs : ρ) :
    Altered (fields.members xs) fields.names [] [] := by
  have nothing : (fields.members xs).filter (fun member => member.1 ∉ fields.names) = [] := by
    refine List.filter_eq_nil_iff.2 fun member written => ?_
    simpa using Fields.mem_names_of_mem_members written
  rw [Altered, nothing]
  exact List.Perm.refl _

/-- A member that a record may not know: its name is that of no field, its value is well-formed. -/
structure Fields.Unknown {ρ : Type} (fields : Fields ρ) (member : String × List UInt8) : Prop where
  /-- Its name is that of no field. -/
  name_notMem : member.1 ∉ fields.names
  /-- Its value is well-formed. -/
  formed : IsJson member.2

section Altered

variable {ρ : Type} {fields : Fields ρ} {xs : ρ} {deleted : List String}
  {added placed : List (String × List UInt8)} (unknown : ∀ member ∈ added, fields.Unknown member)
  (order : Altered (fields.members xs) deleted added placed)
include unknown order

/-- The members of an altered object are admitted. -/
theorem Altered.admits : ∀ member ∈ placed, fields.Admits xs .plain member := by
  intro member stands
  rcases List.mem_append.1 (order.mem_iff.1 stands) with kept | new
  · obtain ⟨⟨name, value⟩, given, rfl⟩ := List.mem_map.1 kept
    exact .written (List.mem_of_mem_filter given)
  · exact .unknown (unknown member new).name_notMem (unknown member new).formed

/-- An altered object gives no field twice. -/
theorem Altered.pairwise_apart (nodup : fields.names.Nodup) : placed.Pairwise fields.Apart := by
  refine (order.pairwise_iff Fields.Apart.symm).2 (List.pairwise_append.2 ⟨?_, ?_, ?_⟩)
  · have apart := Fields.nodup_names_members nodup xs
    rw [List.Nodup, Json.names, List.pairwise_map] at apart
    refine List.pairwise_map.2 ((apart.filter _).imp ?_)
    intro member other differ _
    exact differ
  · refine List.pairwise_of_forall_mem_list ?_
    intro member new other _ known
    exact absurd known (unknown member new).name_notMem
  · intro member kept other new known same
    rw [same] at known
    exact (unknown other new).name_notMem known

/-- A member that is written stands in an altered object unless its name is deleted. -/
theorem Altered.mem_names_iff {name : String}
    (written : name ∈ Json.names (fields.members xs)) :
    name ∈ placed.map (·.1) ↔ name ∉ deleted := by
  rw [(order.map Prod.fst).mem_iff, List.map_append, List.mem_append]
  obtain ⟨source, stands, rfl⟩ := List.mem_map.1 written
  constructor
  · rintro (kept | new)
    · obtain ⟨member, held, same⟩ := List.mem_map.1 kept
      obtain ⟨other, left, rfl⟩ := List.mem_map.1 held
      have survives : other.1 ∉ deleted := by simpa using (List.mem_filter.1 left).2
      rwa [← show other.1 = source.1 from same]
    · obtain ⟨member, held, same⟩ := List.mem_map.1 new
      have known := Fields.mem_names_of_mem_members stands
      rw [← same] at known
      exact absurd known (unknown member held).name_notMem
  · intro survives
    have left : source ∈ (fields.members xs).filter fun member => member.1 ∉ deleted :=
      List.mem_filter.2 ⟨stands, decide_eq_true survives⟩
    exact .inl (List.mem_map.2 ⟨_, List.mem_map_of_mem left, rfl⟩)

/-- An altered object is read as the record without what is deleted. -/
theorem Altered.read_fields {depth : Nat} [fields.Lossless depth] (nodup : fields.names.Nodup)
    (expected : String) : fields.read expected (depth + 1) (objectOctets placed) =
      (fields.without deleted xs).map (·, []) := by
  have object : fields.readObject depth _ = _ := Fields.readObject_admitted nodup
    (Altered.admits unknown order) (Altered.pairwise_apart unknown order nodup) []
  have given : ∀ name ∈ Json.names (fields.members xs),
      name ∈ (placed.map (·.1)).reverse ↔ name ∉ deleted := by
    intro name written
    rw [List.mem_reverse]
    exact Altered.mem_names_iff unknown order written
  rw [fields.finish_held_eq_without xs given] at object
  exact object

end Altered

/-- A record codec reads an altered object as the value without what is deleted. -/
theorem Codec.record_read_altered {α ρ : Type} (name : String) {fields : Fields ρ} {depth : Nat}
    [fields.Lossless depth] (nodup : fields.names.Nodup) {pack : ρ → α} {unpack : α → ρ} (x : α)
    {deleted : List String} {added placed : List (String × List UInt8)}
    (unknown : ∀ member ∈ added, fields.Unknown member)
    (order : Altered (fields.members (unpack x)) deleted added placed) :
    ((Codec.record name fields pack unpack).read (depth + 1)).whole (objectOctets placed) =
      (fields.without deleted (unpack x)).map pack := by
  have taken : fields.read _ (depth + 1) _ = _ :=
    Altered.read_fields unknown order nodup ("struct " ++ name)
  simp only [Reader.whole, Codec.record, taken, bind, Except.bind]
  cases fields.without deleted (unpack x) <;> rfl

end OpenBanking.Json
