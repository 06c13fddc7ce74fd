import OpenBanking.Proofs.Json.LegibleRecord
import OpenBanking.Proofs.Json.Passed

/-!
# Texts of records

Which texts hold a record is settled apart from its reader. A record is an object or an array. An
object gives each field at most once, under its name, and may have members of other names with any
well-formed values; an array lists the fields in order and may end early. Fields that are not given
have their values when absent. If the fields take exactly the spellings of their values, the reader
takes exactly these texts, each as the record that it holds.
-/

namespace OpenBanking.Json

variable {α : Type}

/-! ## Exact types and fields -/

/-- A type of which exactly the spellings of its values are taken where arrays and objects may nest
so deep, each as the value that it spells. -/
class Exact (depth : Nat) (α : Type) [Wire α] : Prop where
  /-- What is taken spells what is given. -/
  spells : ∀ {s rest : List UInt8} {x : α}, (Wire.codec : Codec α).read depth s = .ok (x, rest) →
    ∃ t, s = t ++ rest ∧ Spells t (toValue x)
  /-- Every spelling of a value is taken as the value. -/
  understands : ∀ x : α, Understands ((Wire.codec : Codec α).read depth) (toValue x) x

/-- What is taken as a text spells what is given. -/
theorem exists_spells_of_readText {expected : String} {s rest : List UInt8} {text : String}
    (read : readText expected s = .ok (text, rest)) :
    ∃ t, s = t ++ rest ∧ Spells t (toValue text) := by
  obtain ⟨gap, t, blanks, written, rfl⟩ := of_readText read
  exact ⟨gap ++ Octet.quote :: t, by simp, .blanks_append blanks (.string written)⟩

instance (depth : Nat) : Exact depth String where
  spells := exists_spells_of_readText
  understands text := understands_readText _ text

/-- A field of which exactly the spellings of its values are taken where arrays and objects may nest
so deep. -/
class Field.Exact (depth : Nat) (field : Field α) : Prop where
  /-- What is taken spells what is given. -/
  spells : ∀ {s rest x}, field.codec.read depth s = .ok (x, rest) →
    ∃ t, s = t ++ rest ∧ Spells t (field.codec.toValue x)
  /-- Every spelling of a value is taken as the value. -/
  understands : ∀ x, Understands (field.codec.read depth) (field.codec.toValue x) x

instance (depth : Nat) [Wire α] [Exact depth α] (name : String) :
    (Field.required name : Field α).Exact depth :=
  ⟨Exact.spells, Exact.understands⟩

instance (depth : Nat) [Wire α] [Exact depth α] (name : String) (absent : α) :
    (Field.withDefault name absent).Exact depth :=
  ⟨Exact.spells, Exact.understands⟩

/-- A slot holds what members give: no member has the name of the field if the slot is empty, and
one spells what it holds if it is not. -/
def Field.Holds (field : Field α) (given : List (String × List UInt8)) : Option α → Prop
  | none => ∀ member ∈ given, member.1 ≠ field.name
  | some x => ∃ text, (field.name, text) ∈ given ∧ Spells text (field.codec.toValue x)

/-- A member of another name leaves what a slot holds. -/
theorem Field.Holds.append {field : Field α} {given : List (String × List UInt8)} {held : Option α}
    (holds : field.Holds given held) {member : String × List UInt8}
    (apart : member.1 ≠ field.name) :
    field.Holds (given ++ [member]) held := by
  cases held with
  | none => exact List.forall_mem_append.2 ⟨holds, List.forall_mem_singleton.2 apart⟩
  | some x =>
    obtain ⟨text, among, spells⟩ := holds
    exact ⟨text, List.mem_append_left _ among, spells⟩

namespace Fields

/-- Fields each of which is exact where arrays and objects may nest so deep. -/
class inductive Exact (depth : Nat) : {ρ : Type} → Fields ρ → Prop where
  /-- There is no field. -/
  | nil : Exact depth .nil
  /-- The first field and all later ones are exact. -/
  | cons {α ρ : Type} {field : Field α} {rest : Fields ρ} (first : field.Exact depth)
      (later : rest.Exact depth) : Exact depth (.cons field rest)

instance (depth : Nat) : Exact depth .nil := .nil

instance {ρ : Type} (depth : Nat) (field : Field α) (rest : Fields ρ) [first : field.Exact depth]
    [later : rest.Exact depth] : Exact depth (.cons field rest) :=
  .cons first later

/-! ## The texts of a record -/

/-- Each field is spelled behind its name, or has its value when absent and no member has its name.
-/
def Gives : {ρ : Type} → Fields ρ → List (String × List UInt8) → ρ → Prop
  | _, .nil, _, _ => True
  | _, .cons field rest, given, (x, xs) =>
    ((∃ text, (field.name, text) ∈ given ∧ Spells text (field.codec.toValue x)) ∨
      (∀ member ∈ given, member.1 ≠ field.name) ∧ field.absent = some x) ∧ rest.Gives given xs

/-- The items of an array spell the fields in order; fields beyond the last item have their values
when absent. -/
def Lists : {ρ : Type} → Fields ρ → List (List UInt8) → ρ → Prop
  | _, .nil, items, _ => items = []
  | _, .cons field rest, [], (x, xs) => field.absent = some x ∧ rest.Lists [] xs
  | _, .cons field rest, item :: items, (x, xs) =>
    Spells item (field.codec.toValue x) ∧ rest.Lists items xs

/-- A text holds a record. -/
inductive IsText {ρ : Type} (fields : Fields ρ) : List UInt8 → ρ → Prop where
  | object {gap : List UInt8} {entries : List (List UInt8 × String × List UInt8)} {xs : ρ}
    (blanks : IsBlanks gap) (named : ∀ entry ∈ entries, SpellsName entry.1 entry.2.1)
    (once : entries.Pairwise fun entry other => fields.Apart entry.2 other.2)
    (formed : ∀ entry ∈ entries, entry.2.1 ∉ fields.names → IsJson entry.2.2)
    (gives : fields.Gives (entries.map (·.2)) xs) :
    IsText fields (Octet.openObject ::
      (gap ++ (parted (entries.map entryText) ++ [Octet.closeObject]))) xs
  | array {gap : List UInt8} {items : List (List UInt8)} {xs : ρ} (blanks : IsBlanks gap)
    (lists : fields.Lists items xs) :
    IsText fields (Octet.openList :: (gap ++ (parted items ++ [Octet.closeList]))) xs
  | spaced {before s after : List UInt8} {xs : ρ} (leading : IsBlanks before)
    (written : IsText fields s xs) (trailing : IsBlanks after) :
    IsText fields (before ++ (s ++ after)) xs

section Written

variable {ρ : Type} {fields : Fields ρ} {xs : ρ}

/-- Members of other names and the order of members make no difference to what is given. -/
theorem Gives.of_mem {given placed : List (String × List UInt8)} (gives : fields.Gives given xs)
    (among : ∀ member ∈ given, member ∈ placed)
    (others : ∀ member ∈ placed, member.1 ∈ fields.names → member ∈ given) :
    fields.Gives placed xs := by
  induction fields with
  | nil => trivial
  | cons field rest ih =>
    obtain ⟨x, xs⟩ := xs
    obtain ⟨own, later⟩ := gives
    refine ⟨own.imp ?_ ?_, ih later fun member held known =>
      others member held (List.mem_cons_of_mem _ known)⟩
    · rintro ⟨text, held, spells⟩
      exact ⟨text, among _ held, spells⟩
    · rintro ⟨absent, value⟩
      refine ⟨fun member held same => absent member (others member held ?_) same, value⟩
      exact same ▸ List.mem_cons_self

/-- Members that give each field at most once are written as a text of the record, in whatever order
and with members of other names among them. -/
theorem Gives.isText_objectOctets {given extra placed : List (String × List UInt8)}
    (gives : fields.Gives given xs) (once : (given.map (·.1)).Nodup)
    (known : ∀ member ∈ given, member.1 ∈ fields.names)
    (unknown : ∀ member ∈ extra, member.1 ∉ fields.names ∧ IsJson member.2)
    (order : placed.Perm (given ++ extra)) : fields.IsText (objectOctets placed) xs := by
  have distinct : (given ++ extra).Pairwise fields.Apart := by
    refine List.pairwise_append.2 ⟨?_, ?_, ?_⟩
    · refine (List.pairwise_map.1 once).imp ?_
      intro member other apart _
      exact apart
    · refine List.pairwise_of_forall_mem_list fun member held _ _ named => ?_
      exact absurd named (unknown member held).1
    · intro member _ other among named same
      exact (unknown other among).1 (same ▸ named)
  have either {member : String × List UInt8} (held : member ∈ placed) :
      member ∈ given ∨ member ∈ extra := List.mem_append.1 (order.mem_iff.1 held)
  have whole : fields.Gives placed xs := by
    refine gives.of_mem (fun member held => order.mem_iff.2 (List.mem_append_left _ held)) ?_
    intro member held named
    exact (either held).resolve_right fun among => (unknown member among).1 named
  have written := @IsText.object ρ fields [] (placed.map plainEntry) xs isBlanks_nil
    (List.forall_mem_map.2 fun member _ => spellsName_octets member.1)
    (List.pairwise_map.2 ((order.pairwise_iff Apart.symm).2 distinct))
    (List.forall_mem_map.2 fun member held other => by
      rcases either held with among | among
      · exact absurd (known member among) other
      · exact (unknown member among).2)
    (by simpa [Function.comp_def] using whole)
  simp only [List.map_map, Function.comp_def, entryText_plainEntry, List.nil_append] at written
  exact written

end Written

/-! ## Texts of a record are read -/

section Read

variable {ρ : Type} {fields : Fields ρ} {depth : Nat} {xs : ρ}

/-- What is spelled is read. -/
theorem Gives.readFrom [exact : fields.Exact depth] {given : List (String × List UInt8)}
    (gives : fields.Gives given xs) : fields.ReadFrom depth given xs := by
  induction exact with
  | nil => trivial
  | cons first later ih =>
    obtain ⟨x, xs⟩ := xs
    obtain ⟨own, others⟩ := gives
    refine ⟨own.imp ?_ id, ih others⟩
    rintro ⟨text, held, spells⟩
    exact ⟨text, held, first.understands x text spells⟩

/-- An item is read before the others. -/
theorem readSequence_cons {field : Field α} {x : α} {expected : String} {index : Nat} {first : Bool}
    {s behind left rest : List UInt8} (next : nextItem first s = .ok (true, behind))
    (one : field.codec.read depth behind = .ok (x, left))
    (others : fields.readSequence expected depth (index + 1) false left = .ok (xs, rest)) :
    (cons field fields).readSequence expected depth index first s = .ok ((x, xs), rest) := by
  simp only [readSequence, next, one, others, bind, Except.bind, ↓reduceIte]

/-- At the end of an array the fields that are left have their values when absent. -/
theorem readSequence_end (absent : fields.Lists [] xs) (expected : String) (index : Nat)
    (first : Bool)
    {s rest : List UInt8} (stands : skipBlanks s = Octet.closeList :: rest) :
    fields.readSequence expected depth index first s = .ok (xs, rest) := by
  induction fields generalizing index s with
  | nil =>
    have close : closeItems s = .ok rest := by
      rw [closeItems, stands]
      rfl
    simp only [readSequence, close, bind, Except.bind]
  | cons field fields ih =>
    obtain ⟨x, xs⟩ := xs
    obtain ⟨own, others⟩ := absent
    have next : nextItem first s = .ok (false, Octet.closeList :: rest) := by
      rw [nextItem, stands]
      rfl
    have later := ih others (index + 1) (skipBlanks_cons (by decide) rest)
    simp only [readSequence, next, own, later, bind, Except.bind, Bool.false_eq_true, ↓reduceIte]

/-- Items behind commas are read one by one. -/
theorem readSequence_behind [exact : fields.Exact depth] {items : List (List UInt8)}
    (lists : fields.Lists items xs) (expected : String) (index : Nat) {left rest : List UInt8}
    (stands : skipBlanks left =
      skipBlanks (items.flatMap (Octet.comma :: ·) ++ Octet.closeList :: rest)) :
    fields.readSequence expected depth index false left = .ok (xs, rest) := by
  induction exact generalizing items index left with
  | nil =>
    obtain rfl : items = [] := lists
    have absent : nil.Lists [] xs := rfl
    exact readSequence_end absent expected index false
      (stands.trans (skipBlanks_cons (by decide) rest))
  | @cons α ρ field others first later ih =>
    cases items with
    | nil =>
      exact readSequence_end lists expected index false
        (stands.trans (skipBlanks_cons (by decide) rest))
    | cons item items =>
      obtain ⟨x, xs⟩ := xs
      obtain ⟨spells, lists⟩ := lists
      simp only [List.flatMap_cons, List.cons_append, List.append_assoc] at stands
      rw [skipBlanks_cons (by decide)] at stands
      obtain ⟨b, behind, begins, opening⟩ := spells.opens
        (items.flatMap (Octet.comma :: ·) ++ Octet.closeList :: rest)
      have next : nextItem false left = .ok (true, b :: behind) := by
        simp only [nextItem, stands, begins, opening.ne_closeList, ↓reduceIte,
          show Octet.comma ≠ Octet.closeList by decide, Bool.false_eq_true]
      obtain ⟨left, one, after⟩ := first.understands x item spells _
        (endsNumber_items items rest) (b :: behind) (by rw [← begins, skipBlanks_skipBlanks])
      exact readSequence_cons next one (ih lists (index + 1) after)

/-- The items of an array are read. -/
theorem readSequence_lists [exact : fields.Exact depth] {gap : List UInt8} (blanks : IsBlanks gap)
    {items : List (List UInt8)} (lists : fields.Lists items xs) (expected : String) (index : Nat)
    (rest : List UInt8) :
    fields.readSequence expected depth index true
        (gap ++ (parted items ++ Octet.closeList :: rest)) =
      .ok (xs, rest) := by
  cases items with
  | nil =>
    refine readSequence_end lists expected index true ((blanks.skipBlanks_append _).trans ?_)
    exact skipBlanks_cons (by decide) rest
  | cons item items =>
    cases exact with
    | nil => cases lists
    | @cons α ρ field others first later =>
      obtain ⟨x, xs⟩ := xs
      obtain ⟨spells, lists⟩ := lists
      rw [parted_cons_append]
      obtain ⟨b, behind, begins, opening⟩ := spells.opens
        (items.flatMap (Octet.comma :: ·) ++ Octet.closeList :: rest)
      have next : nextItem true (gap ++ (item ++
          (items.flatMap (Octet.comma :: ·) ++ Octet.closeList :: rest))) = .ok (true, b :: behind) := by
        simp only [nextItem, blanks.skipBlanks_append, begins, opening.ne_closeList, ↓reduceIte]
      obtain ⟨left, one, after⟩ := first.understands x item spells _
        (endsNumber_items items rest) (b :: behind) (by rw [← begins, skipBlanks_skipBlanks])
      exact readSequence_cons next one (readSequence_behind lists expected (index + 1) after)

/-- A bracket begins an array. -/
theorem read_openList (fields : Fields ρ) (expected : String) (depth : Nat) (s : List UInt8) :
    fields.read expected (depth + 1) (Octet.openList :: s) =
      fields.readSequence (fields.sequenceName expected) depth 0 true s := rfl

/-- A text of a record is read as the record. -/
theorem IsText.isRead [fields.Exact depth] (nodup : fields.names.Nodup) {s : List UInt8}
    (written : fields.IsText s xs) (expected : String) :
    IsRead (fields.read expected (depth + 1)) (s, xs) := by
  have blind := fields.read_skipBlanks expected (depth + 1)
  induction written with
  | @object gap entries xs blanks named once formed gives =>
    refine isRead_of_blind blind fun rest _ => ⟨rest, ?_, rfl⟩
    simp only [List.cons_append, List.append_assoc, List.nil_append]
    exact (fields.read_openObject expected depth _).trans
      (gives.readFrom.readObject blanks named nodup once formed rest)
  | @array gap items xs blanks lists =>
    refine isRead_of_blind blind fun rest _ => ⟨rest, ?_, rfl⟩
    simp only [List.cons_append, List.append_assoc, List.nil_append]
    exact (fields.read_openList expected depth _).trans (readSequence_lists blanks lists _ 0 rest)
  | spaced leading _ trailing ih => exact ih.spaced leading trailing

end Read

/-! ## What is read is a text of a record -/

section Taken

variable {ρ : Type} {fields : Fields ρ} {depth : Nat}

/-- The slots hold what members give. -/
def Holds : {ρ : Type} → (fields : Fields ρ) → List (String × List UInt8) → fields.Slots → Prop
  | _, .nil, _, _ => True
  | _, .cons (α := α) field rest, given, slots =>
    let held : Option α × rest.Slots := slots
    field.Holds given held.1 ∧ rest.Holds given held.2

/-- At first there are no members. -/
theorem holds_vacant (fields : Fields ρ) : fields.Holds [] fields.vacant := by
  induction fields with
  | nil => trivial
  | cons field rest ih => exact ⟨nofun, ih⟩

/-- A record that is complete is given by the members that the slots hold. -/
theorem Holds.gives {given : List (String × List UInt8)} {slots : fields.Slots}
    (holds : fields.Holds given slots) {xs : ρ} (complete : fields.finish slots = .ok xs) :
    fields.Gives given xs := by
  induction fields with
  | nil => trivial
  | cons field rest ih =>
    obtain ⟨held, slots⟩ := slots
    obtain ⟨own, others⟩ := holds
    -- A slot that is filled gives its field, and an empty one only if the field may be absent.
    cases held with
    | some x =>
      have complete : (rest.finish slots >>= fun later => .ok (x, later)) = .ok xs := complete
      obtain ⟨later, finished, same⟩ := exists_of_bind_eq_ok complete
      cases same
      exact ⟨.inl own, ih others finished⟩
    | none =>
      cases absent : field.absent with
      | none =>
        simp only [finish, absent] at complete
        cases complete
      | some x =>
        simp only [finish, absent] at complete
        have complete : (rest.finish slots >>= fun later => .ok (x, later)) = .ok xs := complete
        obtain ⟨later, finished, same⟩ := exists_of_bind_eq_ok complete
        cases same
        exact ⟨.inr ⟨own, absent⟩, ih others finished⟩

/-- A member of another name leaves what the slots hold. -/
theorem Holds.other {given : List (String × List UInt8)} {slots : fields.Slots}
    (holds : fields.Holds given slots) {member : String × List UInt8}
    (other : member.1 ∉ fields.names) : fields.Holds (given ++ [member]) slots := by
  induction fields with
  | nil => trivial
  | cons field rest ih =>
    obtain ⟨held, slots⟩ := slots
    obtain ⟨own, others⟩ := holds
    obtain ⟨apart, other⟩ := not_or.1 (mt List.mem_cons.2 other)
    exact ⟨own.append apart, ih others other⟩

/-- A member takes the slots to later ones. -/
structure Takes (fields : Fields ρ) (member : String × List UInt8) (slots later : fields.Slots) :
    Prop where
  /-- The text of an unknown member is any value. -/
  formed : member.1 ∉ fields.names → IsJson member.2
  /-- What the slots hold afterwards is given with the member. -/
  holds : ∀ {given : List (String × List UInt8)}, fields.Holds given slots →
    fields.Holds (given ++ [member]) later
  /-- No field is given again. -/
  fresh : ∀ {given : List (String × List UInt8)}, fields.Holds given slots →
    member.1 ∈ fields.names → ∀ other ∈ given, other.1 ≠ member.1

/-- Without fields every member is unknown. -/
theorem takes_nil {member : String × List UInt8} (formed : IsJson member.2) (slots : nil.Slots) :
    nil.Takes member slots slots :=
  ⟨fun _ => formed, fun _ => trivial, fun _ known => absurd known List.not_mem_nil⟩

/-- The slot of the first field is filled by a member of its name. -/
theorem takes_first {field : Field α} (unique : field.name ∉ fields.names) {text : List UInt8}
    {x : α}
    (spells : Spells text (field.codec.toValue x)) (slots : fields.Slots) :
    (cons field fields).Takes (field.name, text) (none, slots) (some x, slots) where
  formed _ := spells.isJson
  holds before :=
    ⟨⟨text, List.mem_append_right _ List.mem_cons_self, spells⟩, before.2.other unique⟩
  fresh before _ := before.1

/-- A member of another name leaves the slot of the first field. -/
theorem Takes.later {member : String × List UInt8} {slots later : fields.Slots}
    (takes : fields.Takes member slots later) {field : Field α} (other : member.1 ≠ field.name)
    (held : Option α) : (cons field fields).Takes member (held, slots) (held, later) where
  formed unknown := takes.formed fun known => unknown (List.mem_cons_of_mem _ known)
  holds before := ⟨before.1.append other, takes.holds before.2⟩
  fresh before known := takes.fresh before.2 ((List.mem_cons.1 known).resolve_left other)

/-- With the member no field is given twice. -/
theorem Takes.pairwise_apart {member : String × List UInt8} {slots later : fields.Slots}
    (takes : fields.Takes member slots later) {given : List (String × List UInt8)}
    (holds : fields.Holds given slots) (once : given.Pairwise fields.Apart) :
    (given ++ [member]).Pairwise fields.Apart := by
  refine List.pairwise_append.2 ⟨once, List.pairwise_singleton _ _, ?_⟩
  intro other among new isNew
  rw [List.mem_singleton.1 isNew]
  exact fun known same => takes.fresh holds (same ▸ known) other among same

/-- A member that is read has a text behind its colon, to which the blanks that follow may be
counted. -/
theorem exists_of_readMember [exact : fields.Exact depth] (nodup : fields.names.Nodup)
    {name : String}
    {slots later : fields.Slots} {s rest : List UInt8}
    (read : fields.readMember depth name slots s = .ok (later, rest)) :
    ∃ gap text, IsBlanks gap ∧ s = gap ++ Octet.colon :: (text ++ rest) ∧
      ∀ inner, IsBlanks inner → fields.Takes (name, text ++ inner) slots later := by
  induction exact generalizing s rest with
  | nil =>
    obtain ⟨behind, colon, passing⟩ := exists_of_bind_eq_ok read
    obtain ⟨left, passed, same⟩ := exists_of_bind_eq_ok passing
    cases same
    obtain ⟨gap, blanks, rfl⟩ := of_readColon colon
    obtain ⟨text, rfl, formed⟩ := beginsWell_of_skipAny passed
    exact ⟨gap, text, blanks, rfl, fun _ trailing =>
      takes_nil (isJson_append_blanks formed trailing) slots⟩
  | @cons α ρ field others first _ ih =>
    obtain ⟨unique, nodup⟩ := List.nodup_cons.1 nodup
    obtain ⟨held, slots⟩ := slots
    by_cases own : name = field.name
    · subst own
      simp only [readMember, ↓reduceIte] at read
      cases held with
      | some x => cases read
      | none =>
        obtain ⟨behind, colon, valued⟩ := exists_of_bind_eq_ok read
        obtain ⟨⟨x, left⟩, one, same⟩ := exists_of_bind_eq_ok valued
        cases same
        obtain ⟨gap, blanks, rfl⟩ := of_readColon colon
        obtain ⟨text, rfl, spells⟩ := first.spells one
        exact ⟨gap, text, blanks, rfl, fun _ trailing =>
          takes_first unique (spells.append_blanks trailing) slots⟩
    · simp only [readMember, own, ↓reduceIte] at read
      obtain ⟨⟨filled, left⟩, inner, same⟩ := exists_of_bind_eq_ok read
      cases same
      obtain ⟨gap, text, blanks, rfl, takes⟩ := ih nodup inner
      exact ⟨gap, text, blanks, rfl, fun inner trailing => (takes inner trailing).later own held⟩

/-- Members that are read stand between commas, none of a field more than once, and the slots hold
what they give with the members before them. -/
theorem exists_of_readSlots [fields.Exact depth] (nodup : fields.names.Nodup) {steps : Nat}
    {first : Bool} {slots later : fields.Slots} {s rest : List UInt8}
    (read : fields.readSlots depth steps first slots s = .ok (later, rest))
    {given : List (String × List UInt8)} (holds : fields.Holds given slots)
    (once : given.Pairwise fields.Apart) :
    ∃ entries : List (List UInt8 × String × List UInt8),
      (∀ entry ∈ entries, SpellsName entry.1 entry.2.1) ∧
      (∀ entry ∈ entries, entry.2.1 ∉ fields.names → IsJson entry.2.2) ∧
      (given ++ entries.map (·.2)).Pairwise fields.Apart ∧
      fields.Holds (given ++ entries.map (·.2)) later ∧
      skipBlanks s = (if first then parted (entries.map entryText)
        else (entries.map entryText).flatMap (Octet.comma :: ·)) ++ Octet.closeObject :: rest := by
  induction steps generalizing first slots s given with
  | zero => cases read
  | succ steps ih =>
    obtain ⟨⟨more, named⟩, next, gave⟩ := exists_of_bind_eq_ok read
    obtain ⟨gap, blanks, parts⟩ := of_nextName next
    cases more with
    | false =>
      cases gave
      obtain rfl : s = gap ++ Octet.closeObject :: rest := parts
      refine ⟨[], nofun, nofun, by simpa using once, by simpa using holds, ?_⟩
      rw [blanks.skipBlanks_append, skipBlanks_cons (by decide)]
      cases first <;> rfl
    | true =>
      obtain ⟨⟨name, behind⟩, own, valued⟩ := exists_of_bind_eq_ok gave
      obtain ⟨⟨filled, left⟩, one, others⟩ := exists_of_bind_eq_ok valued
      obtain ⟨spelled, rfl, written⟩ := exists_spells_of_readString own
      obtain ⟨between, text, trailing, rfl, takes⟩ := exists_of_readMember nodup one
      -- The blanks behind a value belong to its text, and those behind a comma to the name.
      obtain ⟨inner, innerBlanks, ends⟩ := exists_isBlanks left
      have takes := takes inner innerBlanks
      obtain ⟨entries, names, forms, distinct, last, tail⟩ :=
        ih others (takes.holds holds) (takes.pairwise_apart holds once)
      have all (before : List UInt8) (leading : IsBlanks before) :
          ∀ entry ∈ (before ++ Octet.quote :: (spelled ++ (between ++ [Octet.colon])), name,
            text ++ inner) :: entries, SpellsName entry.1 entry.2.1 :=
        List.forall_mem_cons.2 ⟨.named leading written trailing, names⟩
      rw [List.append_assoc, List.singleton_append] at distinct last
      rw [tail] at ends
      cases first with
      | true =>
        obtain rfl : s =
            gap ++ Octet.quote :: (spelled ++ (between ++ Octet.colon :: (text ++ left))) :=
          parts
        refine ⟨_, all [] isBlanks_nil, List.forall_mem_cons.2 ⟨takes.formed, forms⟩, distinct,
          last, ?_⟩
        rw [blanks.skipBlanks_append, skipBlanks_cons (by decide), ends]
        simp [parted]
      | false =>
        obtain ⟨before, leading, rfl⟩ : ∃ before, IsBlanks before ∧ s = gap ++ Octet.comma ::
          (before ++ Octet.quote :: (spelled ++ (between ++ Octet.colon :: (text ++ left)))) := parts
        refine ⟨_, all before leading, List.forall_mem_cons.2 ⟨takes.formed, forms⟩, distinct,
          last, ?_⟩
        rw [blanks.skipBlanks_append, skipBlanks_cons (by decide), ends]
        simp

/-- What is taken as an object behind its brace gives the record that is read. -/
theorem isText_of_readObject [fields.Exact depth] (nodup : fields.names.Nodup)
    {s rest : List UInt8} {xs : ρ} (read : fields.readObject depth s = .ok (xs, rest)) :
    ∃ t, Octet.openObject :: s = t ++ rest ∧ fields.IsText t xs := by
  obtain ⟨⟨slots, left⟩, filled, finished⟩ := exists_of_bind_eq_ok read
  obtain ⟨x, complete, same⟩ := exists_of_bind_eq_ok finished
  cases same
  obtain ⟨entries, named, formed, once, holds, written⟩ :=
    exists_of_readSlots nodup filled fields.holds_vacant .nil
  obtain ⟨gap, blanks, parts⟩ := exists_isBlanks s
  rw [written] at parts
  exact ⟨_, by rw [parts]; simp, .object blanks named (List.pairwise_map.1 once) formed
    (holds.gives complete)⟩

/-- An array that is closed has its bracket behind blanks. -/
theorem skipBlanks_of_closeItems {s rest : List UInt8} (closed : closeItems s = .ok rest) :
    skipBlanks s = Octet.closeList :: rest := by
  unfold closeItems at closed
  split at closed
  · cases closed
  next b later begins =>
    split at closed
    next close =>
      cases closed
      rw [begins, close]
    next =>
      split at closed
      next => split at closed <;> [split at closed <;> cases closed; cases closed]
      next => cases closed

/-- At the end of an array nothing is left but its bracket, and the fields that are left are absent.
-/
theorem of_readSequence_end {expected : String} {index : Nat} {first : Bool} {s rest : List UInt8}
    {xs : ρ}
    (read : fields.readSequence expected depth index first (Octet.closeList :: s) =
      .ok (xs, rest)) :
    fields.Lists [] xs ∧ s = rest := by
  induction fields generalizing index with
  | nil =>
    obtain ⟨left, closed, same⟩ := exists_of_bind_eq_ok read
    cases same
    exact ⟨rfl, (List.cons.inj (skipBlanks_of_closeItems closed)).2⟩
  | cons field others ih =>
    have next : nextItem first (Octet.closeList :: s) = .ok (false, Octet.closeList :: s) := rfl
    simp only [readSequence, next, bind, Except.bind, Bool.false_eq_true, ↓reduceIte] at read
    cases absent : field.absent with
    | none =>
      rw [absent] at read
      cases read
    | some x =>
      simp only [absent] at read
      obtain ⟨⟨later, left⟩, tail, same⟩ := exists_of_bind_eq_ok read
      cases same
      obtain ⟨lists, rfl⟩ := ih tail
      exact ⟨⟨absent, lists⟩, rfl⟩

/-- Items that are read stand between commas and list the fields in order. -/
theorem exists_of_readSequence [exact : fields.Exact depth] {expected : String} {index : Nat}
    {first : Bool} {s rest : List UInt8} {xs : ρ}
    (read : fields.readSequence expected depth index first s = .ok (xs, rest)) :
    ∃ (gap : List UInt8) (items : List (List UInt8)), IsBlanks gap ∧ fields.Lists items xs ∧
      s = gap ++ ((if first then parted items else items.flatMap (Octet.comma :: ·)) ++
        Octet.closeList :: rest) := by
  induction exact generalizing index first s with
  | nil =>
    obtain ⟨left, closed, same⟩ := exists_of_bind_eq_ok read
    cases same
    obtain ⟨gap, blanks, parts⟩ := exists_isBlanks s
    rw [skipBlanks_of_closeItems closed] at parts
    exact ⟨gap, [], blanks, rfl, by cases first <;> exact parts⟩
  | @cons α ρ field others head _ ih =>
    obtain ⟨⟨more, behind⟩, next, gave⟩ := exists_of_bind_eq_ok read
    obtain ⟨gap, blanks, parts⟩ := of_nextItem next
    cases more with
    | false =>
      obtain ⟨later, rfl, written⟩ := parts
      -- Reading on from here is reading from the bracket.
      have stays : nextItem first (Octet.closeList :: later) =
          .ok (false, Octet.closeList :: later) :=
        rfl
      have here : (cons field others).readSequence expected depth index first
          (Octet.closeList :: later) = .ok (xs, rest) := by
        rw [← read]
        simp only [readSequence, next, stays]
      obtain ⟨lists, rfl⟩ := of_readSequence_end here
      exact ⟨gap, [], blanks, lists, by cases first <;> exact written⟩
    | true =>
      obtain ⟨⟨x, left⟩, one, tail⟩ := exists_of_bind_eq_ok gave
      obtain ⟨⟨later, after⟩, tail, same⟩ := exists_of_bind_eq_ok tail
      cases same
      obtain ⟨t, rfl, spells⟩ := head.spells one
      obtain ⟨inner, items, innerBlanks, lists, rfl⟩ := ih tail
      cases first with
      | true =>
        exact ⟨gap, (t ++ inner) :: items, blanks,
          ⟨spells.append_blanks innerBlanks, lists⟩, by simpa [parted] using parts⟩
      | false =>
        obtain ⟨before, leading, written⟩ := parts
        exact ⟨gap, (before ++ (t ++ inner)) :: items, blanks,
          ⟨.spaced leading spells innerBlanks, lists⟩, by simpa using written⟩

/-- What is taken as a record is a text of it. -/
theorem exists_isText_of_read [fields.Exact depth] (nodup : fields.names.Nodup) {expected : String}
    {s rest : List UInt8} {xs : ρ} (read : fields.read expected (depth + 1) s = .ok (xs, rest)) :
    ∃ t, s = t ++ rest ∧ fields.IsText t xs := by
  obtain ⟨gap, blanks, parts⟩ := exists_isBlanks s
  -- Blanks in front belong to the text.
  have spaced {later : List UInt8}
      (inner : ∃ t, later = t ++ rest ∧ fields.IsText t xs) (begins : skipBlanks s = later) :
      ∃ t, s = t ++ rest ∧ fields.IsText t xs := by
    obtain ⟨t, rfl, written⟩ := inner
    rw [begins] at parts
    exact ⟨gap ++ (t ++ []), by simpa using parts, .spaced blanks written isBlanks_nil⟩
  unfold Fields.read at read
  split at read
  · cases read
  next b later begins =>
    split at read
    next openList =>
      obtain ⟨inner, items, innerBlanks, lists, rfl⟩ := exists_of_readSequence read
      exact spaced ⟨_, by rw [openList]; simp, .array innerBlanks lists⟩ begins
    next =>
      split at read
      next openObject =>
        rw [openObject] at begins
        exact spaced (isText_of_readObject nodup read) begins
      next => cases read

end Taken

/-- A text is read as a record if it is a text of this record, and only then. -/
theorem whole_read_eq_ok_iff {ρ : Type} {fields : Fields ρ} {depth : Nat} [fields.Exact depth]
    (nodup : fields.names.Nodup) (expected : String) {s : List UInt8} {xs : ρ} :
    (fields.read expected (depth + 1)).whole s = .ok xs ↔ fields.IsText s xs :=
  Reader.whole_eq_ok_iff (fun _ _ read => exists_isText_of_read nodup read)
    (fun t gap written blanks => @IsText.spaced ρ fields [] t gap xs isBlanks_nil written blanks)
    fun _ written => written.isRead nodup expected

end Fields

/-- A text is decoded as a value if it is a text of its fields, and only then. -/
theorem Codec.record_whole_eq_ok_iff {ρ : Type} (name : String) {fields : Fields ρ} {depth : Nat}
    [fields.Exact depth] (nodup : fields.names.Nodup) {pack : ρ → α} {unpack : α → ρ}
    (packed : ∀ x, pack (unpack x) = x) (unpacked : ∀ xs, unpack (pack xs) = xs) {s : List UInt8}
    {x : α} :
    ((Codec.record name fields pack unpack).read (depth + 1)).whole s = .ok x ↔
      fields.IsText s (unpack x) := by
  have same : ((Codec.record name fields pack unpack).read (depth + 1)).whole s =
      ((fields.read ("struct " ++ name) (depth + 1)).whole s).map pack := by
    simp only [Codec.record, Reader.whole, bind, Except.bind]
    cases fields.read ("struct " ++ name) (depth + 1) s with
    | error error => rfl
    | ok result =>
      simp only
      split <;> rfl
  have exact : (fields.read _ (depth + 1)).whole s = _ ↔ fields.IsText s (unpack x) :=
    Fields.whole_read_eq_ok_iff nodup ("struct " ++ name)
  rw [same, ← exact]
  cases (fields.read ("struct " ++ name) (depth + 1)).whole s with
  | error error => simp [Except.map]
  | ok xs =>
    simp only [Except.map, Except.ok.injEq]
    constructor
    · rintro rfl
      exact (unpacked xs).symm
    · rintro rfl
      exact packed x

end OpenBanking.Json
