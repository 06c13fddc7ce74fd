import OpenBanking.Proofs.Json.Choice
import OpenBanking.Proofs.Json.Legible

/-!
# Legible records and choices

An object tells a record if each field is understood from the member of its name, or has its value
when absent and no member has its name. Members of other names may stand among them. A record of
legible fields is told by the object that it is written as, in whatever order its members stand, and
a choice is legible if its variants are.
-/

namespace OpenBanking.Json

variable {α : Type}

/-! ## Legible fields -/

/-- A field of which every value that is written is taken from every text of it where arrays and
objects may nest so deep. -/
class Field.Legible (depth : Nat) (field : Field α) : Prop where
  /-- The reader takes what stands for the written value. -/
  understands : ∀ x, field.omits x = false → ∀ {value}, Reordered value (field.codec.toValue x) →
    Understands (field.codec.read depth) value x

instance (depth : Nat) [Wire α] [Legible depth α] (name : String) :
    (Field.required name : Field α).Legible depth where
  understands x _ _ := Legible.understands x

instance (depth : Nat) [Wire α] [Legible depth α] (name : String) (absent : α) :
    (Field.withDefault name absent).Legible depth where
  understands x _ _ := Legible.understands x

instance (depth : Nat) [Wire α] [Definite depth α] [Legible depth α] (name : String) :
    (Field.optional name : Field (Option α)).Legible depth where
  understands x _ _ := Legible.understands x

namespace Fields

/-- Fields each of which is legible where arrays and objects may nest so deep. -/
class inductive Legible (depth : Nat) : {ρ : Type} → Fields ρ → Prop where
  /-- There is no field. -/
  | nil : Legible depth .nil
  /-- The first field and all later ones are legible. -/
  | cons {α ρ : Type} {field : Field α} {rest : Fields ρ} (first : field.Legible depth)
      (later : rest.Legible depth) : Legible depth (.cons field rest)

instance (depth : Nat) : Legible depth .nil := .nil

instance {ρ : Type} (depth : Nat) (field : Field α) (rest : Fields ρ) [first : field.Legible depth]
    [later : rest.Legible depth] : Legible depth (.cons field rest) :=
  .cons first later

/-! ## Objects that tell a record -/

/-- Each field is understood from the member of its name, or has its value when absent and no member
has its name. -/
def Tells (depth : Nat) : {ρ : Type} → Fields ρ → List (String × Value) → ρ → Prop
  | _, .nil, _, _ => True
  | _, .cons field rest, members, (x, xs) =>
    ((∃ value, (field.name, value) ∈ members ∧ Understands (field.codec.read depth) value x) ∨
      field.name ∉ Json.names members ∧ field.absent = some x) ∧ rest.Tells depth members xs

variable {ρ : Type} {fields : Fields ρ} {depth : Nat} {xs : ρ} {members : List (String × Value)}

/-- Leading blanks of a record are passed over. -/
theorem read_skipBlanks (fields : Fields ρ) (expected : String) (depth : Nat) (s : List UInt8) :
    fields.read expected depth (skipBlanks s) = fields.read expected depth s := by
  simp only [read, skipBlanks_skipBlanks]

/-- A brace begins an object. -/
theorem read_openObject (fields : Fields ρ) (expected : String) (depth : Nat) (s : List UInt8) :
    fields.read expected (depth + 1) (Octet.openObject :: s) = fields.readObject depth s := rfl

/-- The texts of a member, the value not being read. -/
def entryOf (member : (List UInt8 × String) × List UInt8 × Value) :
    List UInt8 × String × List UInt8 :=
  (member.1.1, member.1.2, member.2.1)

/-- A record that an object tells is read from the texts of its members. -/
theorem Tells.readFrom {texts : List ((List UInt8 × String) × List UInt8 × Value)}
    (tells : fields.Tells depth (texts.map memberDenoted) xs)
    (each : ∀ text ∈ texts, Spells text.2.1 text.2.2) :
    fields.ReadFrom depth ((texts.map entryOf).map (·.2)) xs := by
  induction fields with
  | nil => trivial
  | cons field rest ih =>
    obtain ⟨x, xs⟩ := xs
    obtain ⟨first, later⟩ := tells
    refine ⟨?_, ih later⟩
    rw [List.map_map]
    rcases first with ⟨value, held, understands⟩ | ⟨absent, value⟩
    · obtain ⟨text, mem, same⟩ := List.mem_map.1 held
      obtain ⟨sameName, rfl⟩ := Prod.mk.inj same
      exact .inl ⟨text.2.1, List.mem_map.2 ⟨text, mem, congrArg (·, text.2.1) sameName⟩,
        understands _ (each text mem)⟩
    · refine .inr ⟨List.forall_mem_map.2 fun text mem same => absent ?_, value⟩
      rw [Json.names, List.map_map]
      exact List.mem_map.2 ⟨text, mem, same⟩

/-- The record that an object tells is taken from every text of the object. -/
theorem Tells.understands (tells : fields.Tells depth members xs) (nodup : fields.names.Nodup)
    (once : (Json.names members).Nodup) (expected : String) :
    Understands (fields.read expected (depth + 1)) (.object members) xs := by
  refine understands_of_bare (fields.read_skipBlanks expected (depth + 1)) ?_
  intro s bare rest _
  cases bare with
  | @object gap texts blanks named each =>
    have distinct : (texts.map entryOf).Pairwise fun entry other =>
        fields.Apart entry.2 other.2 := by
      rw [Json.names, List.map_map, List.Nodup, List.pairwise_map] at once
      refine List.pairwise_map.2 (once.imp ?_)
      intro text other differ _
      exact differ
    have read :=
      (tells.readFrom each).readObject blanks (List.forall_mem_map.2 named) nodup distinct
      (List.forall_mem_map.2 fun text mem _ => (each text mem).isJson) rest
    rw [List.map_map] at read
    refine ⟨rest, ?_, rfl⟩
    simp only [List.cons_append, List.append_assoc, List.nil_append]
    exact (fields.read_openObject expected depth _).trans read

/-- A record of legible fields is told by members that stand for those it is written as. -/
theorem tells_of_each [legible : fields.Legible depth] (nodup : fields.names.Nodup)
    (present : ∀ name ∈ fields.names,
      name ∈ Json.names members ↔ name ∈ Json.names (fields.members xs))
    (each : ∀ name value other, (name, value) ∈ members → (name, other) ∈ fields.members xs →
      Reordered value other) : fields.Tells depth members xs := by
  induction legible with
  | nil => trivial
  | @cons α ρ field rest first later ih =>
    obtain ⟨x, xs⟩ := xs
    obtain ⟨unique, nodup⟩ := List.nodup_cons.1 nodup
    obtain ⟨own, others⟩ := List.forall_mem_cons.1 present
    by_cases omitted : field.omits x
    · simp only [Fields.members, omitted, ↓reduceIte] at own others each
      have absent : field.name ∉ Json.names members := by
        intro held
        obtain ⟨member, written, same⟩ := List.mem_map.1 (own.1 held)
        exact unique (same ▸ mem_names_of_mem_members written)
      exact ⟨.inr ⟨absent, field.absent_of_omits x omitted⟩, ih nodup others each⟩
    · simp only [Fields.members, omitted, Bool.false_eq_true, ↓reduceIte] at own others each
      obtain ⟨⟨name, value⟩, held, same⟩ := List.mem_map.1 (own.2 List.mem_cons_self)
      obtain rfl : name = field.name := same
      have reordered := each _ _ _ held List.mem_cons_self
      refine ⟨.inl ⟨value, held, first.understands x (by simpa using omitted) reordered⟩,
        ih nodup (fun name known => ?_) fun _ _ _ held written =>
          each _ _ _ held (List.mem_cons_of_mem _ written)⟩
      have apart : name ≠ field.name := by
        rintro rfl
        exact unique known
      rw [others name known, Json.names, List.map_cons, List.mem_cons, or_iff_right apart]
      rfl

/-- A record of legible fields is taken from every text of the object that it is written as, in
whatever order the members stand. -/
theorem understands_reordered [fields.Legible depth] (nodup : fields.names.Nodup) {value : Value}
    (reordered : Reordered value (.object (fields.members xs))) (expected : String) :
    Understands (fields.read expected (depth + 1)) value xs := by
  cases reordered with
  | @object members placed _ order named each =>
    have once := nodup_names_members nodup xs
    have sameNames : (Json.names members).Perm (Json.names (fields.members xs)) :=
      named ▸ order.map Prod.fst
    have tells : fields.Tells depth _ _ :=
      tells_of_each nodup (fun _ _ => sameNames.mem_iff) fun _ _ _ held =>
      reordered_of_mem named each once (order.mem_iff.1 held)
    exact tells.understands nodup (sameNames.nodup_iff.2 once) expected

end Fields

/-- What is made of what is understood is understood. -/
theorem Understands.map {ρ : Type} {read : Reader ρ} {value : Value} {x : ρ}
    (understands : Understands read value x) (pack : ρ → α) :
    Understands (fun s => do let (x, s) ← read s; .ok (pack x, s)) value (pack x) := by
  intro s spells rest ends t stands
  obtain ⟨left, taken, behind⟩ := understands s spells rest ends t stands
  refine ⟨left, ?_, behind⟩
  simp only [taken, bind, Except.bind]

/-- A record codec takes what an object tells from every text of the object. -/
theorem Codec.record_understands {ρ : Type} (name : String) {fields : Fields ρ} {pack : ρ → α}
    {unpack : α → ρ} {depth : Nat} {members : List (String × Value)} {xs : ρ}
    (tells : fields.Tells depth members xs) (nodup : fields.names.Nodup)
    (once : (names members).Nodup) :
    Understands ((Codec.record name fields pack unpack).read (depth + 1)) (.object members)
      (pack xs) :=
  (tells.understands nodup once ("struct " ++ name)).map pack

/-- A type written as a record of legible fields with distinct names is legible. -/
theorem Legible.record {ρ : Type} {name : String} {fields : Fields ρ} {pack : ρ → α}
    {unpack : α → ρ} {depth : Nat} (legible : fields.Legible depth)
    (nodup : fields.names.Nodup := by decide)
    (inverse : ∀ x, pack (unpack x) = x := by exact fun _ => rfl) :
    @Legible (depth + 1) α ⟨.record name fields pack unpack⟩ :=
  letI : Wire α := ⟨.record name fields pack unpack⟩
  { understands := fun x _ reordered => by
      have understands : Understands (fields.read _ (depth + 1)) _ _ :=
        Fields.understands_reordered nodup reordered ("struct " ++ name)
      have made := understands.map pack
      rwa [inverse] at made }

/-! ## Legible choices -/

/-- The values that a choice may write for `x`, so that each is understood where arrays and objects
may nest so deep, in whatever order members stand. -/
inductive WritesLegibly (variants : List (Variant α)) (x : α) : (depth : Nat) → Value → Prop where
  /-- The name of a variant that denotes it. -/
  | bare {depth : Nat} {variant : Variant α} (known : variant ∈ variants)
    (denotes : variant.bare = .ok x) : WritesLegibly variants x depth (.string variant.name)
  /-- Content under the name of a variant that takes it from every text of the content. -/
  | tagged {depth : Nat} {variant : Variant α} (known : variant ∈ variants) {content : Value}
    (understands : ∀ {value}, Reordered value content →
      Understands (variant.content depth) value x) :
    WritesLegibly variants x (depth + 1) (tagged variant.name content)

namespace WritesLegibly

variable {depth : Nat}

/-- A value without content is written as the name of its variant. -/
theorem unit {variants : List (Variant α)} {name : String} {x : α}
    (known : Variant.unit name x ∈ variants) : WritesLegibly variants x depth (.string name) :=
  .bare known rfl

/-- A value of a legible type is understood under the name of its variant. -/
theorem newtype {β : Type} [Wire β] [Legible depth β] {variants : List (Variant α)}
    {name : String} {inject : β → α} {x : α} {y : β} (place : Nat)
    (known : variants[place]? = some (.newtype name inject)) (same : inject y = x) :
    WritesLegibly variants x (depth + 1) (Json.tagged name (toValue y)) := by
  refine .tagged (List.mem_of_getElem? known) fun reordered => ?_
  have understands : Understands ((Wire.codec : Codec β).read depth) _ y :=
    Legible.understands y reordered
  rw [← same]
  exact understands.map inject

/-- Legible fields of distinct names are understood under the name of their variant. -/
theorem record {ρ : Type} {variants : List (Variant α)} {name label : String} {fields : Fields ρ}
    {inject : ρ → α} {x : α} {xs : ρ} [fields.Legible depth] (place : Nat)
    (known : variants[place]? = some (.record name label fields inject)) (same : inject xs = x)
    (nodup : fields.names.Nodup := by decide) :
    WritesLegibly variants x (depth + 2) (Json.tagged name (.object (fields.members xs))) := by
  refine .tagged (List.mem_of_getElem? known) fun reordered => ?_
  have understands : Understands (fields.read _ (depth + 1)) _ xs :=
    Fields.understands_reordered nodup reordered ("struct variant " ++ label)
  rw [← same]
  exact understands.map inject

end WritesLegibly

/-- An object of one member stays one in every order. -/
theorem exists_of_reordered_tagged {value content : Value} {name : String}
    (reordered : Reordered value (tagged name content)) :
    ∃ held, value = tagged name held ∧ Reordered held content := by
  cases reordered with
  | @object members placed _ order named each =>
    obtain ⟨⟨other, held⟩, rfl, same⟩ := List.map_eq_singleton_iff.1 named
    obtain rfl : other = name := same
    obtain rfl := List.perm_singleton.1 order
    exact ⟨held, rfl, (List.forall₂_cons.1 each).1⟩

/-- A text of an object of one member has the text of its name, which is that of a string with a
colon, and that of its value. -/
theorem exists_of_spellsBare_tagged {s : List UInt8} {name : String} {held : Value}
    (bare : SpellsBare s (tagged name held)) :
    ∃ gap named text, IsBlanks gap ∧ SpellsName named name ∧ Spells text held ∧
      s = Octet.openObject :: (gap ++ (named ++ (text ++ [Octet.closeObject]))) := by
  generalize same : tagged name held = value at bare
  cases bare with
  | @object gap members blanks named each =>
    obtain ⟨member, rfl, denoted⟩ := List.map_eq_singleton_iff.1 (Value.object.inj same).symm
    cases denoted
    refine ⟨gap, member.1.1, member.2.1, blanks, named member (List.mem_singleton_self _),
      each member (List.mem_singleton_self _), ?_⟩
    simp [parted, memberText]
  | _ => cases same

/-- Leading blanks of a choice are passed over. -/
theorem readChoice_skipBlanks (variants : List (Variant α)) (depth : Nat) (s : List UInt8) :
    readChoice variants depth (skipBlanks s) = readChoice variants depth s := by
  simp only [readChoice, skipBlanks_skipBlanks]

/-- A choice is taken from every text of what it may write. -/
theorem WritesLegibly.understands {variants : List (Variant α)}
    (nodup : (variants.map (·.name)).Nodup) {x : α} {depth : Nat} {value written : Value}
    (writes : WritesLegibly variants x depth written) (reordered : Reordered value written) :
    Understands (readChoice variants depth) value x := by
  refine understands_of_bare (readChoice_skipBlanks variants depth) ?_
  intro s bare rest _
  cases writes with
  | @bare _ variant known denotes =>
    have found := findVariant_name nodup known
    cases reordered
    cases bare with
    | string written =>
      have taken := readString_append written rest
      have apart : Octet.quote ≠ Octet.openObject := by decide
      refine ⟨rest, ?_, rfl⟩
      rw [List.cons_append, readChoice, skipBlanks_quote]
      simp only [apart, ↓reduceIte, taken, found, denotes, bind, Except.bind]
  | @tagged depth variant known content understands =>
    have found := findVariant_name nodup known
    obtain ⟨held, rfl, inner⟩ := exists_of_reordered_tagged reordered
    obtain ⟨gap, name, text, blanks, named, spells, rfl⟩ := exists_of_spellsBare_tagged bare
    obtain ⟨later, behind, begins, own, parts⟩ :=
      named.exists_read (text ++ Octet.closeObject :: rest)
    obtain ⟨left, taken, stands⟩ := understands inner text spells _ (.closeObject rest) _ rfl
    have opened (tail : List UInt8) :
        skipBlanks (Octet.openObject :: tail) = Octet.openObject :: tail := rfl
    have first : readText "variant identifier"
        (gap ++ (name ++ (text ++ Octet.closeObject :: rest))) =
        .ok (variant.name, behind) := by
      rw [readText, blanks.skipBlanks_append, begins]
      simpa only [↓reduceIte] using own
    have closed : skipBlanks left = Octet.closeObject :: rest :=
      stands.trans (skipBlanks_cons (by decide) rest)
    refine ⟨rest, ?_, rfl⟩
    simp only [List.cons_append, List.append_assoc, List.nil_append]
    rw [readChoice, opened]
    simp only [↓reduceIte, inside, readTagged, first, found, parts, taken, closed, bind,
      Except.bind]

/-- A type written as a choice of what is understood is legible. -/
theorem Legible.choice {variants : List (Variant α)} {depth : Nat} {toValue : α → Value}
    (writes : ∀ x, WritesLegibly variants x depth (toValue x))
    (nodup : (variants.map (·.name)).Nodup := by decide) :
    @Legible depth α ⟨.choice variants toValue⟩ :=
  letI : Wire α := ⟨.choice variants toValue⟩
  { understands := fun x _ reordered => (writes x).understands nodup reordered }

/-- A type written as names is legible. -/
theorem Legible.named [Named α] {depth : Nat} : @Legible depth α ⟨.named α⟩ := by
  refine .choice (fun x => .unit ?_) ?_
  · exact List.mem_map_of_mem (Named.mem_all x)
  · rw [List.map_map]
    exact Named.names_nodup

end OpenBanking.Json
