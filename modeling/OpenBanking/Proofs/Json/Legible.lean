import OpenBanking.Proofs.Json.Record

/-!
# Legible codecs

Who hands a value back need not write it as it was written: blanks may stand around tokens, strings
may be escaped in other ways, and the members of objects may stand in another order. A codec is
legible if its reader takes each value from every text of this kind. This law passes from items to
lists, which take one more level of depth, and from values to options.
-/

namespace OpenBanking.Json

variable {α : Type}

/-! ## Reordered values -/

/-- A value is another one with the members of its objects in whatever order, at every depth. -/
inductive Reordered : Value → Value → Prop where
  | null : Reordered .null .null
  | bool (b : Bool) : Reordered (.bool b) (.bool b)
  | number (n : Number) : Reordered (.number n) (.number n)
  | string (text : String) : Reordered (.string text) (.string text)
  | array {items others : List Value} (each : List.Forall₂ Reordered items others) :
    Reordered (.array items) (.array others)
  | object {members placed others : List (String × Value)} (order : members.Perm placed)
    (named : names placed = names others)
    (each : List.Forall₂ Reordered (placed.map (·.2)) (others.map (·.2))) :
    Reordered (.object members) (.object others)

/-- Only null is null in another order. -/
theorem Reordered.ne_null {value other : Value} (reordered : Reordered value other)
    (definite : other ≠ .null) : value ≠ .null := by
  rintro rfl
  cases reordered
  exact definite rfl

/-- A single member stays where it is. -/
theorem reordered_single (name : String) {value other : Value} (same : Reordered value other) :
    Reordered (.object [(name, value)]) (.object [(name, other)]) :=
  .object (.refl _) rfl (.cons same .nil)

/-- Under one name stand values of which one is the other in another order. -/
theorem reordered_of_mem {placed others : List (String × Value)}
    (named : names placed = names others)
    (each : List.Forall₂ Reordered (placed.map (·.2)) (others.map (·.2)))
    (once : (names others).Nodup) {name : String} {value other : Value}
    (held : (name, value) ∈ placed) (written : (name, other) ∈ others) :
    Reordered value other := by
  induction placed generalizing others with
  | nil => cases held
  | cons member placed ih =>
    cases others with
    | nil => cases written
    | cons another others =>
      obtain ⟨sameName, sameNames⟩ := List.cons.inj named
      obtain ⟨first, each⟩ := List.forall₂_cons.1 each
      obtain ⟨fresh, once⟩ := List.nodup_cons.1 once
      rcases List.mem_cons.1 held with rfl | later <;>
        rcases List.mem_cons.1 written with rfl | last
      · exact first
      · obtain rfl : another.1 = name := sameName.symm
        exact absurd (List.mem_map_of_mem last) fresh
      · have again : name ∈ names placed := List.mem_map_of_mem later
        exact absurd (sameNames ▸ again) fresh
      · exact ih sameNames each once later last

/-! ## Spellings without blanks around them -/

/-- A text denotes a value and has no blanks in front or behind. -/
inductive SpellsBare : List UInt8 → Value → Prop where
  | null : SpellsBare (0x6E :: ull) .null
  | true : SpellsBare (0x74 :: rue) (.bool true)
  | false : SpellsBare (0x66 :: alse) (.bool false)
  | whole {k : Int} (fits : FitsWord k) :
    SpellsBare (Utf8.octets (Text.integer k)) (.number (.whole k))
  | string {s : List UInt8} {text : String} (written : SpellsOctets s (Utf8.encode text)) :
    SpellsBare (Octet.quote :: s) (.string text)
  | array {gap : List UInt8} {items : List (List UInt8 × Value)} (blanks : IsBlanks gap)
    (each : ∀ item ∈ items, Spells item.1 item.2) :
    SpellsBare (Octet.openList :: (gap ++ (parted (items.map (·.1)) ++ [Octet.closeList])))
      (.array (items.map (·.2)))
  | object {gap : List UInt8} {members : List ((List UInt8 × String) × List UInt8 × Value)}
    (blanks : IsBlanks gap) (named : ∀ member ∈ members, SpellsName member.1.1 member.1.2)
    (each : ∀ member ∈ members, Spells member.2.1 member.2.2) :
    SpellsBare (Octet.openObject ::
        (gap ++ (parted (members.map memberText) ++ [Octet.closeObject])))
      (.object (members.map memberDenoted))

/-- The reader takes `x` from every spelling of a value. -/
def Understands (read : Reader α) (value : Value) (x : α) : Prop :=
  ∀ s, Spells s value → IsRead read (s, x)

/-- A reader that passes over leading blanks has to take a value from spellings without blanks only.
-/
theorem understands_of_bare {read : Reader α} {value : Value} {x : α}
    (blind : ∀ s, read (skipBlanks s) = read s)
    (reads : ∀ s, SpellsBare s value → ∀ rest, EndsNumber rest →
      ∃ left, read (s ++ rest) = .ok (x, left) ∧ skipBlanks left = skipBlanks rest) :
    Understands read value x := by
  intro s spells
  induction spells with
  | null => exact isRead_of_blind blind (reads _ .null)
  | true => exact isRead_of_blind blind (reads _ .true)
  | false => exact isRead_of_blind blind (reads _ .false)
  | whole fits => exact isRead_of_blind blind (reads _ (.whole fits))
  | string written => exact isRead_of_blind blind (reads _ (.string written))
  | array blanks each => exact isRead_of_blind blind (reads _ (.array blanks each))
  | object blanks named each => exact isRead_of_blind blind (reads _ (.object blanks named each))
  | spaced leading _ trailing ih => exact (ih reads).spaced leading trailing

/-- What is understood is read from a whole text. -/
theorem Understands.whole {read : Reader α} {value : Value} {x : α}
    (understands : Understands read value x) {s : List UInt8} (spells : Spells s value) :
    read.whole s = .ok x := by
  obtain ⟨left, taken, blank⟩ := understands s spells [] .nil s (by rw [List.append_nil])
  simp only [Reader.whole, taken, bind, Except.bind, blank]
  rfl

/-! ## Legible types -/

/-- A type of which every value is taken from every text of it where arrays and objects may nest so
deep, in whatever order members stand. -/
class Legible (depth : Nat) (α : Type) [Wire α] : Prop where
  /-- The reader takes what stands for the written value. -/
  understands : ∀ (x : α) {value : Value}, Reordered value (toValue x) →
    Understands ((Wire.codec : Codec α).read depth) value x

/-! ## Scalars -/

/-- A string is read as its text, whatever a message would call it. -/
theorem understands_readText (expected text : String) :
    Understands (readText expected) (.string text) text := by
  refine understands_of_bare (fun s => by simp only [readText, skipBlanks_skipBlanks]) ?_
  intro s bare rest _
  cases bare with
  | string written => exact ⟨rest, readString_append written rest, rfl⟩

instance (depth : Nat) : Legible depth String where
  understands text _ reordered := by
    cases reordered
    exact understands_readText _ text

instance (depth : Nat) : Legible depth Bool where
  understands b _ reordered := by
    cases reordered
    refine understands_of_bare
      (fun s => by simp only [Wire.codec, readBool, skipBlanks_skipBlanks]) ?_
    intro s bare rest _
    cases bare <;> exact ⟨rest, rfl, rfl⟩

/-! ## Options -/

/-- A value other than null is read as a value that is there. -/
theorem Understands.option {read : Reader α} {value : Value} {x : α}
    (understands : Understands read value x) (definite : value ≠ .null) :
    Understands (readOption read) value (some x) := by
  intro s spells rest ends t stands
  obtain ⟨b, later, begins, first, _⟩ := spells.exists_begins rest
  have notNull : b ≠ 0x6E := mt first.eq_null definite
  have inside : skipBlanks (b :: later) = skipBlanks (s ++ rest) := by
    rw [← begins, skipBlanks_skipBlanks]
  obtain ⟨left, taken, behind⟩ := understands s spells rest ends (b :: later) inside
  refine ⟨left, ?_, behind⟩
  rw [readOption, stands, begins]
  simp only [notNull, ↓reduceIte, taken, bind, Except.bind]

/-- The word `null` is read as nothing. -/
theorem understands_null (read : Reader α) : Understands (readOption read) .null none := by
  refine understands_of_bare (fun s => by simp only [readOption, skipBlanks_skipBlanks]) ?_
  intro s bare rest _
  cases bare
  exact ⟨rest, rfl, rfl⟩

instance (depth : Nat) [Wire α] [Definite depth α] [Legible depth α] :
    Legible depth (Option α) where
  understands held value reordered := by
    cases held with
    | none =>
      cases reordered
      exact understands_null _
    | some x =>
      have definite := Reordered.ne_null reordered (Definite.ne_null depth x)
      exact (Legible.understands x reordered).option definite

/-! ## Lists -/

/-- The texts of items, each with the value that is read from it. -/
theorem exists_read_items [Wire α] (depth : Nat) [Legible depth α]
    {items : List (List UInt8 × Value)} {xs : List α}
    (spelled : ∀ item ∈ items, Spells item.1 item.2)
    (each : List.Forall₂ Reordered (items.map (·.2)) (xs.map toValue)) :
    ∃ read : List (List UInt8 × α), read.map (·.1) = items.map (·.1) ∧ read.map (·.2) = xs ∧
      ∀ item ∈ read, Opens item.1 ∧ IsRead ((Wire.codec : Codec α).read depth) item := by
  induction items generalizing xs with
  | nil =>
    cases xs with
    | nil => exact ⟨[], rfl, rfl, nofun⟩
    | cons x xs => cases each
  | cons item items ih =>
    cases xs with
    | nil => cases each
    | cons x xs =>
      obtain ⟨own, others⟩ := List.forall_mem_cons.1 spelled
      obtain ⟨first, later⟩ := List.forall₂_cons.1 each
      obtain ⟨read, texts, values, taken⟩ := ih others later
      refine ⟨(item.1, x) :: read, by simp [texts], by simp [values], ?_⟩
      exact List.forall_mem_cons.2 ⟨⟨own.opens, Legible.understands x first _ own⟩, taken⟩

/-- A bracket begins a list. -/
theorem readList_openList (read : (depth : Nat) → Reader α) (depth : Nat) (s : List UInt8) :
    readList read (depth + 1) (Octet.openList :: s) =
      readItems (read depth) (s.length + 1) true s := rfl

instance (depth : Nat) [Wire α] [Legible depth α] : Legible (depth + 1) (List α) where
  understands xs value reordered := by
    have written : toValue xs = .array (xs.map toValue) := rfl
    rw [written] at reordered
    cases reordered with
    | array each =>
      refine understands_of_bare
        (fun s => by simp only [Wire.codec, Codec.list, readList, skipBlanks_skipBlanks]) ?_
      intro s bare rest _
      cases bare with
      | @array gap items blanks spelled =>
        obtain ⟨read, texts, values, taken⟩ := exists_read_items depth spelled each
        have opening : ∀ item ∈ read, Opens item.1 := fun item held => (taken item held).1
        have enough := length_lt_parted gap (fun item held => (opening item held).ne_nil)
          Octet.closeList rest
        have all := readItems_spelled blanks opening (fun item held => (taken item held).2)
          (Nat.lt_succ_of_lt enough) rest
        rw [texts, values] at all
        refine ⟨rest, ?_, rfl⟩
        simp only [List.cons_append, List.append_assoc, List.nil_append]
        exact (readList_openList _ _ _).trans all

end OpenBanking.Json
