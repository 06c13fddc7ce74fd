import OpenBanking.Proofs.Json.Exact
import OpenBanking.Proofs.Json.Same

/-!
# The canonical text is a normal form

The canonical text of a value is a spelling of its canonical form, so it is accepted and read as
that form. Values that are the same have one canonical text, however their texts are spelled, and
values that are not have two.
-/

namespace OpenBanking.Json

open Utf8 (octets)

/-! ## The text of a value spells it -/

/-- The text of a string denotes it. -/
theorem spells_octets_string (text : String) : Spells (Value.string text).octets (.string text) := by
  rw [octets_string]
  exact .string (spellsOctets_encode text)

/-- The text of an array denotes it if the texts of its items do. -/
theorem spells_octets_array {items : List Value} (each : ∀ item ∈ items, Spells item.octets item) :
    Spells (Value.array items).octets (.array items) := by
  have spells := @Spells.array [] (items.map fun item => (item.octets, item)) isBlanks_nil
    (List.forall_mem_map.2 each)
  simpa [octets_array, Function.comp_def] using spells

/-- The text of an object denotes it if the texts of its values do. -/
theorem spells_octets_object {members : List (String × Value)}
    (each : ∀ member ∈ members, Spells member.2.octets member.2) :
    Spells (Value.object members).octets (.object members) := by
  have spells := @Spells.object []
    (members.map fun member =>
      ((octets (stringChars member.1) ++ [Octet.colon], member.1), (member.2.octets, member.2)))
    nofun (List.forall_mem_map.2 fun member _ => spellsName_octets member.1) (List.forall_mem_map.2 each)
  have text : memberOctets = fun member =>
      (octets (stringChars member.1) ++ [Octet.colon]) ++ member.2.octets := by
    funext member
    simp [memberOctets]
  rw [octets_object, text]
  simpa [Function.comp_def, memberText] using spells

/-- What is spelled has a canonical text that spells its canonical form. -/
theorem Spells.canonical {s : List UInt8} {value : Value} (spells : Spells s value) :
    Spells value.canonicalOctets value.canonical := by
  induction spells with
  | null => exact .null
  | true => exact .true
  | false => exact .false
  | @whole k fits =>
    have spells := Spells.whole fits
    rw [← octets_whole] at spells
    simpa [Value.canonicalOctets, Value.canonical] using spells
  | @string s text written =>
    have spells := spells_octets_string text
    simpa [Value.canonicalOctets, Value.canonical] using spells
  | @array gap items _ _ ih =>
    rw [Value.canonicalOctets, canonical_array, List.map_map]
    exact spells_octets_array (List.forall_mem_map.2 ih)
  | @object gap members _ _ _ ih =>
    rw [Value.canonicalOctets, canonical_object]
    refine spells_octets_object fun member held => ?_
    obtain ⟨value, given, same⟩ := exists_of_mem_mapValues (mem_of_mem_sortMembers held)
    obtain ⟨spelled, mem, denoted⟩ := List.mem_map.1 given
    have denotedValue : spelled.2.2 = value := congrArg Prod.snd denoted
    rw [same, ← denotedValue]
    exact ih spelled mem
  | spaced _ _ _ ih => exact ih

/-- A canonical form nests no deeper than its value. -/
theorem NestsWithin.canonical {depth : Nat} {value : Value} (nests : NestsWithin depth value) :
    NestsWithin depth value.canonical := by
  induction nests with
  | null depth => simpa only [Value.canonical] using .null depth
  | bool depth b => simpa only [Value.canonical] using .bool depth b
  | number depth n => simpa only [Value.canonical] using .number depth n
  | string depth text => simpa only [Value.canonical] using .string depth text
  | array _ ih =>
    rw [canonical_array]
    exact .array (List.forall_mem_map.2 ih)
  | object _ ih =>
    rw [canonical_object]
    refine .object fun member held => ?_
    obtain ⟨value, given, same⟩ := exists_of_mem_mapValues (mem_of_mem_sortMembers held)
    rw [same]
    exact ih (member.1, value) given

/-- What is spelled has whole numbers. -/
theorem Spells.wholeNumbers {s : List UInt8} {value : Value} (spells : Spells s value) :
    WholeNumbers value := by
  induction spells with
  | null => exact .null
  | true => exact .bool Bool.true
  | false => exact .bool Bool.false
  | whole => exact .whole _
  | string => exact .string _
  | array _ _ ih => exact .array (List.forall_mem_map.2 ih)
  | object _ _ _ ih => exact .object (List.forall_mem_map.2 ih)
  | spaced _ _ _ ih => exact ih

/-- The canonical text of an accepted value is accepted, and read as its canonical form. -/
theorem parse_canonicalOctets {s : List UInt8} {value : Value} (parsed : parse s = .ok value)
    (whole : WholeNumbers value) : parse value.canonicalOctets = .ok value.canonical := by
  obtain ⟨spells, nests⟩ := (parse_eq_ok_iff whole).1 parsed
  exact (parse_eq_ok_iff spells.canonical.wholeNumbers).2 ⟨spells.canonical, nests.canonical⟩

/-- Accepted values are the same exactly if they have one canonical text. -/
theorem sameAs_iff_canonicalOctets_eq {s t : List UInt8} {value other : Value}
    (parsed : parse s = .ok value) (whole : WholeNumbers value) (parsedToo : parse t = .ok other)
    (wholeToo : WholeNumbers other) :
    SameAs other value ↔ other.canonicalOctets = value.canonicalOctets := by
  rw [sameAs_iff_canonical_eq]
  refine ⟨congrArg Value.octets, fun equal => ?_⟩
  have read := parse_canonicalOctets parsedToo wholeToo
  rw [equal, parse_canonicalOctets parsed whole] at read
  exact (Except.ok.inj read).symm

/-! ## The normal form -/

/-- A text that is accepted with whole numbers denotes the value it is read as. The canonical text
of that value is accepted, its names ascend by their octets in every object, it denotes the same
value, and it is its own canonical text. Every text of the same value has this canonical text: every
accepted one, and every spelling, which is accepted unless it nests too deep. No text of another
value has it. -/
theorem canonicalOctets_normalForm {s : List UInt8} {value : Value} (parsed : parse s = .ok value)
    (whole : WholeNumbers value) :
    Spells s value ∧
    (∃ canonical, parse value.canonicalOctets = .ok canonical ∧ InOrder canonical ∧
      SameAs canonical value ∧ canonical.canonicalOctets = value.canonicalOctets) ∧
    (∀ t other, parse t = .ok other → SameAs other value →
      other.canonicalOctets = value.canonicalOctets) ∧
    (∀ t other, Spells t other → NestsWithin depthLimit other → SameAs other value →
      parse t = .ok other ∧ other.canonicalOctets = value.canonicalOctets) ∧
    (∀ t other, parse t = .ok other → WholeNumbers other → ¬SameAs other value →
      other.canonicalOctets ≠ value.canonicalOctets) := by
  refine ⟨((parse_eq_ok_iff whole).1 parsed).1, ⟨value.canonical, parse_canonicalOctets parsed whole,
    inOrder_canonical value, sameAs_canonical value, ?_⟩, ?_, ?_, ?_⟩
  · exact congrArg Value.octets (canonical_canonical value)
  · exact fun _ _ _ same => congrArg Value.octets same.canonical_eq
  · exact fun _ _ spells nests same =>
      ⟨(parse_eq_ok_iff spells.wholeNumbers).2 ⟨spells, nests⟩,
        congrArg Value.octets same.canonical_eq⟩
  · exact fun _ _ parsedToo wholeToo apart equal =>
      apart ((sameAs_iff_canonicalOctets_eq parsed whole parsedToo wholeToo).2 equal)

/-- An object with a repeated name, blanks, an escaped letter and a negative number has the
canonical text `{"a":"A","b":-3}`, which spells the same value. -/
theorem canonicalOctets_normalForm_of_repeated_name :
    parse (Utf8.encode "\x7b\"b\":1, \"a\":\"\\u0041\",\"b\":-3\x7d") = .ok (.object
      [("b", .number (.whole 1)), ("a", .string "A"), ("b", .number (.whole (-3)))]) ∧
    ∃ canonical, parse (Utf8.encode "\x7b\"a\":\"A\",\"b\":-3\x7d") = .ok canonical ∧
      InOrder canonical ∧
      SameAs canonical (.object
        [("b", .number (.whole 1)), ("a", .string "A"), ("b", .number (.whole (-3)))]) ∧
      canonical.canonicalOctets = Utf8.encode "\x7b\"a\":\"A\",\"b\":-3\x7d" :=
  have parsed : parse (Utf8.encode "\x7b\"b\":1, \"a\":\"\\u0041\",\"b\":-3\x7d") = .ok (.object
      [("b", .number (.whole 1)), ("a", .string "A"), ("b", .number (.whole (-3)))]) := by rfl
  have whole : WholeNumbers (.object
      [("b", .number (.whole 1)), ("a", .string "A"), ("b", .number (.whole (-3)))]) := by
    refine .object ?_
    simp only [List.forall_mem_cons]
    exact ⟨.whole 1, .string "A", .whole (-3), nofun⟩
  ⟨parsed, (canonicalOctets_normalForm parsed whole).2.1⟩

end OpenBanking.Json
