import OpenBanking.Json.Value
import OpenBanking.Proofs.Double.Layout
import OpenBanking.Proofs.Json.Numbers
import OpenBanking.Proofs.Json.Strings

/-!
# Octets of values

The text of a value has no blanks, so the octets of arrays and objects are those of their items and
members with one comma between any two. What a value begins with tells it from a blank, from the end
of an array and, unless it is null, from the word `null`. A string ends where its reader ends it, so
the text of an object tells the names at its front as long as strings stand between them.
-/

namespace OpenBanking.Json

open Utf8 (octets)

/-! ## The octets of a value -/

/-- Octets one after the other, with commas between them. -/
def parted : List (List UInt8) → List UInt8
  | [] => []
  | first :: later => first ++ later.flatMap (Octet.comma :: ·)

/-- The octets of a member. -/
def memberOctets (member : String × Value) : List UInt8 :=
  octets (stringChars member.1) ++ Octet.colon :: member.2.octets

/-- The octets of a value are those of its characters. -/
theorem Value.octets_eq (value : Value) : value.octets = Utf8.octets value.chars :=
  Utf8.encode_ofList _

/-- The octets of items. -/
theorem octets_itemsChars : ∀ items : List Value,
    octets (itemsChars items) = parted (items.map Value.octets)
  | [] => by simp [itemsChars, parted]
  | [item] => by simp [itemsChars, parted, Value.octets_eq]
  | first :: second :: later => by
    have tail := octets_itemsChars (second :: later)
    have comma : String.utf8EncodeChar ',' = [Octet.comma] := rfl
    simp only [List.map_cons, parted, List.flatMap_cons] at tail ⊢
    rw [itemsChars, Utf8.octets_append, Utf8.octets_cons, tail, comma, Value.octets_eq first]
    · simp
    · simp

/-- The octets of members. -/
theorem octets_membersChars : ∀ members : List (String × Value),
    octets (membersChars members) = parted (members.map memberOctets)
  | [] => by simp [membersChars, parted]
  | [(name, value)] => by
    have colon : String.utf8EncodeChar ':' = [Octet.colon] := rfl
    simp [membersChars, parted, memberOctets, Value.octets_eq, Utf8.octets_cons, colon]
  | (name, value) :: second :: later => by
    have tail := octets_membersChars (second :: later)
    have comma : String.utf8EncodeChar ',' = [Octet.comma] := rfl
    have colon : String.utf8EncodeChar ':' = [Octet.colon] := rfl
    simp only [List.map_cons, parted, List.flatMap_cons] at tail ⊢
    have head : memberOctets (name, value) =
        octets (stringChars name) ++ Octet.colon :: octets value.chars := by
      rw [memberOctets, Value.octets_eq]
    rw [membersChars, Utf8.octets_append, Utf8.octets_append, Utf8.octets_cons ':',
      Utf8.octets_cons ',', tail, comma, colon, head]
    · simp
    · simp

/-- The octets of an array. -/
theorem octets_array (items : List Value) :
    (Value.array items).octets =
      Octet.openList :: (parted (items.map Value.octets) ++ [Octet.closeList]) := by
  rw [Value.octets_eq, Value.chars.eq_def]
  simp only [List.cons_append, Utf8.octets_cons, Utf8.octets_append, octets_itemsChars]
  rfl

/-- The octets of an object. -/
theorem octets_object (members : List (String × Value)) :
    (Value.object members).octets =
      Octet.openObject :: (parted (members.map memberOctets) ++ [Octet.closeObject]) := by
  rw [Value.octets_eq, Value.chars.eq_def]
  simp only [List.cons_append, Utf8.octets_cons, Utf8.octets_append, octets_membersChars]
  rfl

/-- The octets of a name and of the text of its value. -/
def namedOctets (member : String × List UInt8) : List UInt8 :=
  octets (stringChars member.1) ++ Octet.colon :: member.2

/-- The octets of an object whose members are given by the texts of their values. -/
def objectOctets (members : List (String × List UInt8)) : List UInt8 :=
  Octet.openObject :: (parted (members.map namedOctets) ++ [Octet.closeObject])

/-- Members with the texts of their values. -/
def memberTexts (members : List (String × Value)) : List (String × List UInt8) :=
  members.map fun member => (member.1, member.2.octets)

/-- The octets of an object are given by the texts of its values. -/
theorem octets_object_eq_objectOctets (members : List (String × Value)) :
    (Value.object members).octets = objectOctets (memberTexts members) := by
  rw [octets_object, objectOctets, memberTexts, List.map_map]
  rfl

/-- The octets of a member from its opening quote on. -/
theorem memberOctets_append (name : String) (value : Value) (rest : List UInt8) :
    memberOctets (name, value) ++ rest = Octet.quote ::
      (octets (name.toList.flatMap escaped) ++
        Octet.quote :: Octet.colon :: (value.octets ++ rest)) := by
  simp [memberOctets, octets_stringChars]

/-- The octets of a string. -/
theorem octets_string (text : String) :
    (Value.string text).octets =
      Octet.quote :: (octets (text.toList.flatMap escaped) ++ [Octet.quote]) := by
  rw [Value.octets_eq, Value.chars.eq_def]
  exact octets_stringChars text

/-- The octets of a whole number. -/
theorem octets_whole (k : Int) :
    (Value.number (.whole k)).octets = octets (Text.integer k) := by
  rw [Value.octets_eq, Value.chars.eq_def]
  rfl

/-- An octet that a value can begin with. -/
structure BeginsValue (value : Value) (b : UInt8) : Prop where
  /-- It is no blank. -/
  not_blank : Octet.isBlank b = false
  /-- It does not end an array. -/
  ne_closeList : b ≠ Octet.closeList
  /-- It is the first letter of `null` for the null value only. -/
  eq_null : b = 0x6E → value = .null

/-- What begins a number begins no other value. -/
theorem beginsValue_number {b : UInt8} (begins : beginsNumber b = true) (n : Number) :
    BeginsValue (.number n) b := by
  have value : b ≠ Octet.minus → (Octet.digit? b).isSome = true := by
    intro other
    simpa [beginsNumber, other] using begins
  have apart (c : UInt8) (noMinus : c ≠ Octet.minus) (noDigit : Octet.digit? c = none) : b ≠ c := by
    rintro rfl
    simp [noDigit] at value
    exact noMinus value
  refine ⟨?_, apart _ (by decide) rfl, fun letter => absurd letter (apart _ (by decide) rfl)⟩
  simp [Octet.isBlank, apart 0x20 (by decide) rfl, apart 0x09 (by decide) rfl,
    apart 0x0A (by decide) rfl, apart 0x0D (by decide) rfl]

/-- A decimal digit is the octet of a digit. -/
theorem beginsNumber_of_isDigit {c : Char} (digit : c.isDigit = true) :
    ∃ b, String.utf8EncodeChar c = [b] ∧ beginsNumber b = true := by
  have begins : ∀ n < 58, 48 ≤ n → beginsNumber (UInt8.ofNat n) = true := by decide
  simp only [Char.isDigit, Bool.and_eq_true, decide_eq_true_eq, ge_iff_le, UInt32.le_iff_toNat_le]
    at digit
  obtain ⟨least, greatest⟩ := digit
  have most : c.toNat ≤ 57 := greatest
  exact ⟨_, Utf8.utf8EncodeChar_of_lt (by omega), begins c.toNat (by omega) least⟩

/-- The octets of a value begin with an octet that values begin with. -/
theorem Value.exists_octets (value : Value) :
    ∃ b later, value.octets = b :: later ∧ BeginsValue value b := by
  cases value with
  | null => exact ⟨0x6E, _, rfl, by decide, by decide, fun _ => rfl⟩
  | bool b =>
    cases b with
    | false => exact ⟨0x66, _, rfl, by decide, by decide, fun letter => absurd letter (by decide)⟩
    | true => exact ⟨0x74, _, rfl, by decide, by decide, fun letter => absurd letter (by decide)⟩
  | number n =>
    cases n with
    | whole k =>
      obtain ⟨b, later, written, begins⟩ := exists_octets_integer k
      exact ⟨b, later, by rw [octets_whole, written], beginsValue_number begins _⟩
    | double x =>
      have written : (Value.number (.double x)).octets = Utf8.octets x.compactChars := by
        rw [Value.octets_eq, Value.chars.eq_def]
        rfl
      obtain ⟨c, later, chars, rfl | digit⟩ := x.exists_compactChars
      · refine ⟨Octet.minus, Utf8.octets later, ?_, beginsValue_number rfl _⟩
        rw [written, chars, Utf8.octets_cons]
        rfl
      · obtain ⟨b, single, begins⟩ := beginsNumber_of_isDigit digit
        refine ⟨b, Utf8.octets later, ?_, beginsValue_number begins _⟩
        rw [written, chars, Utf8.octets_cons, single]
        rfl
  | string text =>
    exact ⟨_, _, octets_string text, by decide, by decide, fun letter => absurd letter (by decide)⟩
  | array items =>
    exact ⟨_, _, octets_array items, by decide, by decide, fun letter => absurd letter (by decide)⟩
  | object members =>
    exact
      ⟨_, _, octets_object members, by decide, by decide, fun letter => absurd letter (by decide)⟩

/-- No value is written as nothing. -/
theorem Value.octets_ne_nil (value : Value) : value.octets ≠ [] := by
  obtain ⟨b, later, written, _⟩ := value.exists_octets
  simp [written]

/-- Pieces that are not empty are at least as many octets as pieces. -/
theorem length_le_length_parted {pieces : List (List UInt8)}
    (nonempty : ∀ piece ∈ pieces, piece ≠ []) : pieces.length ≤ (parted pieces).length := by
  cases pieces with
  | nil => exact Nat.le_refl _
  | cons first later =>
    have head := List.length_pos_iff.2 (nonempty first List.mem_cons_self)
    have tail : later.length ≤ (later.flatMap (Octet.comma :: ·)).length := by
      clear nonempty head
      induction later with
      | nil => exact Nat.le_refl _
      | cons piece later ih =>
        simp only [List.flatMap_cons, List.length_append, List.length_cons]
        omega
    simp only [parted, List.length_append, List.length_cons]
    omega

/-- The text of the items of an array, or of the members of an object, has more octets than there
are items: a reader that takes one step per item, of as many steps as octets, reaches its end. -/
theorem length_lt_parted {α : Type} (gap : List UInt8) {items : List α} {text : α → List UInt8}
    (nonempty : ∀ item ∈ items, text item ≠ []) (close : UInt8) (rest : List UInt8) :
    items.length < (gap ++ (parted (items.map text) ++ close :: rest)).length := by
  have atLeast := length_le_length_parted (List.forall_mem_map.2 nonempty)
  rw [List.length_map] at atLeast
  simp only [List.length_append, List.length_cons]
  omega

/-- No blank stands in front of a value. -/
theorem skipBlanks_octets (value : Value) (rest : List UInt8) :
    skipBlanks (value.octets ++ rest) = value.octets ++ rest := by
  obtain ⟨b, later, written, begins⟩ := value.exists_octets
  rw [written, List.cons_append, skipBlanks, List.dropWhile_cons_of_neg (by simp [begins.not_blank])]

/-- What stands behind an item ends numbers. -/
theorem endsNumber_items (items : List (List UInt8)) (rest : List UInt8) :
    EndsNumber (items.flatMap (Octet.comma :: ·) ++ Octet.closeList :: rest) := by
  cases items with
  | nil => exact .closeList rest
  | cons item items => exact .comma _

/-- What stands behind a member ends numbers. -/
theorem endsNumber_members (members : List (List UInt8)) (rest : List UInt8) :
    EndsNumber (members.flatMap (Octet.comma :: ·) ++ Octet.closeObject :: rest) := by
  cases members with
  | nil => exact .closeObject rest
  | cons member members => exact .comma _

/-! ## What a text tells of the front of an object -/

/-- Two texts that begin with members agree in the names, and from the values on. -/
theorem eq_of_memberOctets_append {name other : String} {value another : Value}
    {rest later : List UInt8}
    (same : memberOctets (name, value) ++ rest = memberOctets (other, another) ++ later) :
    name = other ∧ value.octets ++ rest = another.octets ++ later := by
  rw [memberOctets_append, memberOctets_append] at same
  have tails := (List.cons.inj same).2
  have read := readString_octets name (Octet.colon :: (value.octets ++ rest))
  rw [tails, readString_octets] at read
  simpa [eq_comm] using read

/-- Two texts that begin with strings agree in the strings, and behind them. -/
theorem eq_of_octets_string_append {text other : String} {rest later : List UInt8}
    (same : (Value.string text).octets ++ rest = (Value.string other).octets ++ later) :
    text = other ∧ rest = later := by
  rw [octets_string, octets_string, List.cons_append, List.cons_append, List.append_assoc,
    List.append_assoc] at same
  have tails := (List.cons.inj same).2
  have read := readString_octets text rest
  rw [← List.singleton_append, tails, List.singleton_append, readString_octets] at read
  simpa [eq_comm] using read

/-- The octets of an object behind its first member. -/
def laterOctets (members : List (String × Value)) : List UInt8 :=
  (members.map memberOctets).flatMap (Octet.comma :: ·) ++ [Octet.closeObject]

/-- Behind a member stands a comma with the next one. -/
theorem laterOctets_cons (member : String × Value) (members : List (String × Value)) :
    laterOctets (member :: members) =
      Octet.comma :: (memberOctets member ++ laterOctets members) := by
  simp [laterOctets]

/-- An object begins with its first member. -/
theorem octets_object_cons (member : String × Value) (members : List (String × Value)) :
    (Value.object (member :: members)).octets =
      Octet.openObject :: (memberOctets member ++ laterOctets members) := by
  simp [octets_object, parted, laterOctets]

/-- Two objects of one text agree in the name of the first member, and from its value on. -/
theorem eq_of_octets_object_eq {name other : String} {value another : Value}
    {members later : List (String × Value)}
    (same : (Value.object ((name, value) :: members)).octets =
      (Value.object ((other, another) :: later)).octets) :
    name = other ∧
      value.octets ++ laterOctets members = another.octets ++ laterOctets later := by
  rw [octets_object_cons, octets_object_cons] at same
  exact eq_of_memberOctets_append (List.cons.inj same).2

/-- If moreover the first value of both is a string, they agree in the name of the second member. -/
theorem eq_of_octets_object_string_eq {name other text words next following : String}
    {value another : Value} {members later : List (String × Value)}
    (same : (Value.object ((name, .string text) :: (next, value) :: members)).octets =
      (Value.object ((other, .string words) :: (following, another) :: later)).octets) :
    next = following := by
  have tails := (eq_of_octets_string_append (eq_of_octets_object_eq same).2).2
  rw [laterOctets_cons, laterOctets_cons] at tails
  exact (eq_of_memberOctets_append (List.cons.inj tails).2).1

end OpenBanking.Json
