import OpenBanking.Json.Codec
import OpenBanking.Proofs.Json.Layout
import OpenBanking.Proofs.Json.Octets

/-!
# Lossless codecs

A codec loses nothing if its reader takes each value from the front of the octets that the value
is written as, in every layout, and leaves what stands behind. How deep arrays and objects may nest
is part of this law: it passes from items to lists, which take one more level, and from values to
options; scalars have it at every depth because their texts are read back.
-/

namespace OpenBanking.Json

variable {α : Type}

/-- The reader takes `x` from the front of the octets of a value. Numbers have no end of their own,
so what stands behind the value must not go on with one. -/
def Reads (read : Reader α) (value : Value) (x : α) : Prop :=
  ∀ rest, EndsNumber rest → read (value.octets ++ rest) = .ok (x, rest)

/-- What a codec writes is read back where arrays and objects may nest so deep, however the members
of objects are placed. -/
def Codec.ReadsBack (codec : Codec α) (depth : Nat) (x : α) : Prop :=
  ∀ layout : Layout, Reads (codec.read depth) (layout.apply (codec.toValue x)) x

/-- A type of which every value is read back where arrays and objects may nest so deep. -/
class Lossless (depth : Nat) (α : Type) [Wire α] : Prop where
  /-- The reader takes what the writer writes. -/
  readsBack : ∀ x : α, (Wire.codec : Codec α).ReadsBack depth x

/-- A type of which every value is read back and none is written as null. -/
class Definite (depth : Nat) (α : Type) [Wire α] : Prop extends Lossless depth α where
  /-- No value is null. -/
  ne_null : ∀ x : α, toValue x ≠ .null

/-- What is read with anything behind it is read as a whole text too. -/
theorem Reads.whole {read : Reader α} {value : Value} {x : α} (reads : Reads read value x) :
    read.whole value.octets = .ok x := by
  have taken := reads [] .nil
  rw [List.append_nil] at taken
  simp [Reader.whole, taken, bind, Except.bind, skipBlanks]

/-- A codec that loses nothing: both texts of a value hold that value, and so no two values share
their canonical octets. -/
structure Codec.LosesNothing (codec : Codec α) : Prop where
  /-- The text of a value holds the value. -/
  plain : ∀ x, codec.decode (codec.toValue x).octets = .ok x
  /-- The canonical text of a value holds the value. -/
  canonical : ∀ x, codec.decode (codec.toValue x).canonicalOctets = .ok x
  /-- Different values have different canonical octets. -/
  distinct : ∀ x y, (codec.toValue x).canonicalOctets = (codec.toValue y).canonicalOctets → x = y

/-- A codec that reads back what it writes loses nothing. -/
theorem Codec.losesNothing {codec : Codec α} (readsBack : ∀ x, codec.ReadsBack depthLimit x) :
    codec.LosesNothing := by
  have canonical (x : α) : codec.decode (codec.toValue x).canonicalOctets = .ok x :=
    (readsBack x Layout.sorted).whole
  refine ⟨fun x => (readsBack x Layout.plain).whole, canonical, ?_⟩
  intro x y same
  have read := canonical x
  rw [same, canonical y] at read
  cases read
  rfl

/-- The text of a value is decoded as the value. -/
theorem decode_encode [Wire α] [Lossless depthLimit α] (x : α) : decode (encode x) = .ok x :=
  (Codec.losesNothing Lossless.readsBack).plain x

/-! ## Scalars -/

/-- A string is read as its text, whatever a message would call it. -/
theorem reads_readText (expected text : String) :
    Reads (readText expected) (.string text) text := by
  intro rest _
  rw [octets_string, List.cons_append, List.append_assoc]
  exact readString_octets text rest

/-- A truth value is read as itself. -/
theorem reads_readBool (b : Bool) : Reads readBool (.bool b) b := by
  intro rest _
  cases b <;> rfl

/-- A whole number within the bounds is read as itself. -/
theorem reads_readWhole {k : Int} (least greatest : Int) (expected : String) (fits : FitsWord k)
    (within : least ≤ k ∧ k ≤ greatest) :
    Reads (readWhole least greatest expected) (.number (.whole k)) k := by
  intro rest ends
  have number := readNumber_integer fits ends
  obtain ⟨b, later, written, begins⟩ := exists_octets_integer k
  have unblank := skipBlanks_octets (.number (.whole k)) rest
  rw [octets_whole, written, List.cons_append] at unblank
  rw [written, List.cons_append] at number
  rw [octets_whole, written, List.cons_append, readWhole, unblank]
  simp [begins, number, within, bind, Except.bind]

instance (depth : Nat) : Definite depth String where
  readsBack text layout := by
    have placed := layout.string text
    simp only [Wire.codec, placed]
    exact reads_readText _ text
  ne_null _ := nofun

instance (depth : Nat) : Definite depth Bool where
  readsBack b layout := by
    have placed := layout.bool b
    simp only [Wire.codec, placed]
    exact reads_readBool b
  ne_null _ := nofun

instance (depth : Nat) : Definite depth Int64 where
  readsBack x layout := by
    have least := Int64.le_toInt x
    have greatest := Int64.toInt_lt x
    have fits : FitsWord x.toInt := ⟨by omega, Int.lt_trans greatest (by decide)⟩
    intro rest ends
    have number := reads_readWhole (-0x8000000000000000) 0x7FFFFFFFFFFFFFFF "i64" fits
      ⟨by omega, by omega⟩ rest ends
    simp only [Wire.codec, layout.number, number, bind, Except.bind, Int64.ofInt_toInt]
  ne_null _ := nofun

instance (depth : Nat) : Definite depth UInt32 where
  readsBack x layout := by
    have greatest := UInt32.toNat_lt x
    have fits : FitsWord x.toNat := ⟨by omega, by simp only [UInt64.size]; omega⟩
    intro rest ends
    have number := reads_readWhole 0 0xFFFFFFFF "u32" fits ⟨by omega, by omega⟩ rest ends
    simp only [Wire.codec, layout.number, number, bind, Except.bind, Int.toNat_natCast,
      UInt32.ofNat_toNat]
  ne_null _ := nofun

/-! ## Options -/

/-- What stands behind the word `null` is left. -/
theorem reads_null (read : Reader α) : Reads (readOption read) .null none := by
  intro rest _
  rfl

/-- A value other than null is read as a value that is there. -/
theorem Reads.option {read : Reader α} {value : Value} {x : α} (reads : Reads read value x)
    (definite : value ≠ .null) : Reads (readOption read) value (some x) := by
  intro rest ends
  have taken := reads rest ends
  have unblank := skipBlanks_octets value rest
  obtain ⟨b, later, written, begins⟩ := value.exists_octets
  have notNull : b ≠ 0x6E := mt begins.eq_null definite
  rw [written, List.cons_append] at taken unblank ⊢
  rw [readOption, unblank]
  simp only [notNull, ↓reduceIte, taken, bind, Except.bind]

instance (depth : Nat) [Wire α] [Definite depth α] : Lossless depth (Option α) where
  readsBack value layout := by
    cases value with
    | none =>
      have placed := (layout.null .null).2 rfl
      simp only [Wire.codec, Codec.option, placed]
      exact reads_null _
    | some x =>
      have definite := Definite.ne_null depth x
      exact (Lossless.readsBack x layout).option (mt (layout.null _).1 definite)

/-! ## Lists -/

/-- After a comma another item follows. -/
theorem nextItem_comma (value : Value) (rest : List UInt8) :
    nextItem false (Octet.comma :: (value.octets ++ rest)) = .ok (true, value.octets ++ rest) := by
  have unblank := skipBlanks_octets value rest
  obtain ⟨b, later, written, begins⟩ := value.exists_octets
  rw [written, List.cons_append] at unblank ⊢
  have comma : skipBlanks (Octet.comma :: b :: (later ++ rest)) =
      Octet.comma :: b :: (later ++ rest) := rfl
  have apart : Octet.comma ≠ Octet.closeList := by decide
  rw [nextItem, comma]
  simp [unblank, begins.ne_closeList, apart]

/-- At the front of an array that is not empty its first item follows. -/
theorem nextItem_first (value : Value) (rest : List UInt8) :
    nextItem true (value.octets ++ rest) = .ok (true, value.octets ++ rest) := by
  have unblank := skipBlanks_octets value rest
  obtain ⟨b, later, written, begins⟩ := value.exists_octets
  rw [written, List.cons_append] at unblank ⊢
  rw [nextItem, unblank]
  simp [begins.ne_closeList]

section Items

variable {read : Reader α} {write : α → Value} (reads : ∀ x, Reads read (write x) x)

section

include reads

/-- The items after a comma are read back, each in a step of its own. -/
theorem readItems_later (xs : List α) {steps : Nat} (enough : xs.length < steps)
    (rest : List UInt8) :
    readItems read steps false
        ((xs.map fun x => (write x).octets).flatMap (Octet.comma :: ·) ++ Octet.closeList :: rest) =
      .ok (xs, rest) := by
  induction xs generalizing steps with
  | nil =>
    obtain ⟨steps, rfl⟩ := Nat.exists_eq_add_one_of_ne_zero (Nat.ne_zero_of_lt enough)
    rfl
  | cons x xs ih =>
    obtain ⟨steps, rfl⟩ := Nat.exists_eq_add_one_of_ne_zero (Nat.ne_zero_of_lt enough)
    have taken := reads x _ (endsNumber_items (xs.map fun x => (write x).octets) rest)
    have later := ih (Nat.lt_of_succ_lt_succ enough)
    simp only [List.map_cons, List.flatMap_cons, List.cons_append, List.append_assoc, readItems,
      nextItem_comma, bind, Except.bind, ↓reduceIte, taken, later]

/-- The items after the opening bracket are read back. -/
theorem readItems_parted (xs : List α) {steps : Nat} (enough : xs.length < steps)
    (rest : List UInt8) :
    readItems read steps true
        (parted (xs.map fun x => (write x).octets) ++ Octet.closeList :: rest) =
      .ok (xs, rest) := by
  obtain ⟨steps, rfl⟩ := Nat.exists_eq_add_one_of_ne_zero (Nat.ne_zero_of_lt enough)
  cases xs with
  | nil => rfl
  | cons x xs =>
    have taken := reads x _ (endsNumber_items (xs.map fun x => (write x).octets) rest)
    have later := readItems_later reads xs (Nat.lt_of_succ_lt_succ enough) rest
    simp only [List.map_cons, parted, List.append_assoc, readItems, nextItem_first, bind,
      Except.bind, ↓reduceIte, taken, later]

end

/-- An array of items that are read back is read back, and takes one more level. -/
theorem reads_readList {read : (depth : Nat) → Reader α} {depth : Nat}
    (reads : ∀ x, Reads (read depth) (write x) x) (xs : List α) :
    Reads (readList read (depth + 1)) (.array (xs.map write)) xs := by
  intro rest _
  have enough : xs.length <
      (parted (xs.map fun x => (write x).octets) ++ Octet.closeList :: rest).length + 1 :=
    Nat.lt_succ_of_lt
      (length_lt_parted [] (fun x _ => (write x).octets_ne_nil) Octet.closeList rest)
  have items := readItems_parted reads xs enough rest
  have shape : (Value.array (xs.map write)).octets ++ rest = Octet.openList ::
      (parted (xs.map fun x => (write x).octets) ++ Octet.closeList :: rest) := by
    rw [octets_array, List.map_map]
    simp [Function.comp_def]
  rw [shape]
  exact items

end Items

instance (depth : Nat) [Wire α] [Lossless depth α] : Definite (depth + 1) (List α) where
  readsBack xs layout := by
    have each (x : α) : Reads ((Wire.codec : Codec α).read depth) (layout.apply (toValue x)) x :=
      Lossless.readsBack x layout
    have items := reads_readList each xs
    simp only [Wire.codec, Codec.list, layout.array, List.map_map]
    exact items
  ne_null _ := nofun

end OpenBanking.Json
