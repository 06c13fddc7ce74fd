import Mathlib.Data.List.Induction
import OpenBanking.Json.Choice
import OpenBanking.Proofs.Json.Layout
import OpenBanking.Proofs.Text.Order

/-!
# Values that are the same

Objects are the same if they have the same members under the same names, whatever their order; under
a repeated name the last member counts. The canonical form of a value has its members in ascending
order, and two values are the same exactly if they have one canonical form.
-/

namespace OpenBanking.Json

/-! ## Induction -/

/-- What holds of scalars, and of arrays and objects if of all that is in them, holds of all values.
-/
theorem Value.nested {motive : Value → Prop} (null : motive .null) (bool : ∀ b, motive (.bool b))
    (number : ∀ n, motive (.number n)) (string : ∀ text, motive (.string text))
    (array : ∀ items, (∀ item ∈ items, motive item) → motive (.array items))
    (object : ∀ members, (∀ member ∈ members, motive member.2) → motive (.object members)) :
    ∀ value, motive value
  | .null => null
  | .bool b => bool b
  | .number n => number n
  | .string text => string text
  | .array items => array items fun item _ => nested null bool number string array object item
  | .object members =>
    object members fun member _ => nested null bool number string array object member.2
termination_by value => sizeOf value
decreasing_by
  · have smaller := List.sizeOf_lt_of_mem ‹item ∈ items›
    simp only [Value.array.sizeOf_spec]
    omega
  · have smaller := List.sizeOf_lt_of_mem ‹member ∈ members›
    have half : sizeOf member.2 < sizeOf member := by
      cases member
      simp only [Prod.mk.sizeOf_spec]
      omega
    simp only [Value.object.sizeOf_spec]
    omega

/-! ## Members by name -/

/-- An object without members has none of any name. -/
theorem member?_nil (name : String) : (Value.object []).member? name = none := rfl

/-- The last member counts. -/
theorem member?_concat (members : List (String × Value)) (member : String × Value) (name : String) :
    (Value.object (members ++ [member])).member? name =
      if member.1 = name then some member.2 else (Value.object members).member? name := by
  by_cases own : member.1 = name <;> simp [Value.member?, own]

/-- The first member counts only if no later one has its name. -/
theorem member?_cons (member : String × Value) (members : List (String × Value)) (name : String) :
    (Value.object (member :: members)).member? name =
      ((Value.object members).member? name).or (if member.1 = name then some member.2 else none) := by
  by_cases own : member.1 = name <;> simp [Value.member?, own]

/-- A member that is found is one of the members. -/
theorem mem_of_member?_eq_some {members : List (String × Value)} {name : String} {value : Value}
    (found : (Value.object members).member? name = some value) : (name, value) ∈ members := by
  obtain ⟨member, first, rfl⟩ := Option.map_eq_some_iff.1 found
  obtain rfl : member.1 = name := by simpa using List.find?_some first
  exact List.mem_reverse.1 (List.mem_of_find?_eq_some first)

/-- No member is found under a name that no member has. -/
theorem member?_eq_none_iff {members : List (String × Value)} {name : String} :
    (Value.object members).member? name = none ↔ name ∉ names members := by
  simp only [Value.member?, Option.map_eq_none_iff, List.find?_eq_none, List.mem_reverse, names,
    List.mem_map, not_exists, not_and, decide_eq_true_eq]

/-- Passing the values through a function passes the one that is found. -/
theorem member?_mapValues (f : Value → Value) (members : List (String × Value)) (name : String) :
    (Value.object (mapValues f members)).member? name =
      ((Value.object members).member? name).map f := by
  induction members with
  | nil => rfl
  | cons member members ih =>
    rw [member?_cons, mapValues, List.map_cons, ← mapValues, member?_cons, ih]
    by_cases own : member.1 = name <;>
      cases (Value.object members).member? name <;> simp [own]

/-! ## Members in order -/

/-- The names of members ascend, so that none is repeated. -/
def Ascends (members : List (String × Value)) : Prop := (names members).Pairwise (· < ·)

/-- Behind the first member the names ascend, and are greater. -/
theorem ascends_cons {member : String × Value} {members : List (String × Value)} :
    Ascends (member :: members) ↔ (∀ name ∈ names members, member.1 < name) ∧ Ascends members :=
  List.pairwise_cons

/-- Under a smaller name nothing is found in members that ascend from a greater one. -/
theorem member?_eq_none_of_lt {members : List (String × Value)} {name : String}
    (greater : ∀ other ∈ names members, name < other) :
    (Value.object members).member? name = none :=
  member?_eq_none_iff.2 fun held => String.lt_irrefl name (greater name held)

/-- The names that an insertion leaves are the inserted one and the others. -/
theorem mem_names_insertMember {name other : String} {value : Value}
    {members : List (String × Value)} (held : other ∈ names (insertMember name value members)) :
    other = name ∨ other ∈ names members := by
  induction members with
  | nil => exact .inl (List.mem_singleton.1 held)
  | cons member members ih =>
    rw [insertMember] at held
    split at held
    · exact List.mem_cons.1 held
    · split at held
      next same =>
        rcases List.mem_cons.1 held with rfl | later
        · exact .inl rfl
        · exact .inr (List.mem_cons_of_mem _ later)
      next =>
        rcases List.mem_cons.1 held with rfl | later
        · exact .inr List.mem_cons_self
        · exact (ih later).imp_right (List.mem_cons_of_mem _)

/-- An insertion keeps the names ascending. -/
theorem Ascends.insertMember {members : List (String × Value)} (ascends : Ascends members)
    (name : String) (value : Value) : Ascends (insertMember name value members) := by
  induction members with
  | nil => exact List.pairwise_singleton _ _
  | cons member members ih =>
    obtain ⟨greater, later⟩ := ascends_cons.1 ascends
    rw [Json.insertMember]
    split
    next before =>
      refine ascends_cons.2 ⟨fun other held => ?_, ascends⟩
      rcases List.mem_cons.1 held with rfl | behind
      · exact before
      · exact String.lt_trans before (greater other behind)
    next notBefore =>
      split
      next same =>
        subst same
        exact ascends_cons.2 ⟨greater, later⟩
      next apart =>
        have behind : member.1 < name := Std.lt_of_le_of_ne (String.not_lt.1 notBefore) (Ne.symm apart)
        refine ascends_cons.2 ⟨fun other held => ?_, ih later⟩
        rcases mem_names_insertMember held with rfl | held
        · exact behind
        · exact greater other held

/-- What is inserted is found, and all else as before. -/
theorem Ascends.member?_insertMember {members : List (String × Value)} (ascends : Ascends members)
    (inserted : String) (value : Value) (name : String) :
    (Value.object (Json.insertMember inserted value members)).member? name =
      if inserted = name then some value else (Value.object members).member? name := by
  induction members with
  | nil => rw [Json.insertMember, member?_cons, member?_nil, Option.none_or]
  | cons member members ih =>
    obtain ⟨greater, later⟩ := ascends_cons.1 ascends
    rw [Json.insertMember]
    split
    next before =>
      rw [member?_cons]
      by_cases own : inserted = name
      · subst own
        have none : (Value.object (member :: members)).member? inserted = none := by
          refine member?_eq_none_of_lt fun other held => ?_
          rcases List.mem_cons.1 held with rfl | behind
          · exact before
          · exact String.lt_trans before (greater other behind)
        simp [none]
      · simp [own]
    next =>
      split
      next same =>
        subst same
        rw [member?_cons, member?_cons]
        by_cases own : member.1 = name
        · subst own
          simp [member?_eq_none_of_lt greater]
        · simp [own]
      next apart =>
        rw [member?_cons, member?_cons, ih later]
        by_cases own : inserted = name
        · subst own
          simp
        · simp [own]

/-- Sorted members ascend, and are found as before. -/
theorem ascends_sortMembers (members : List (String × Value)) :
    Ascends (sortMembers members) ∧
      ∀ name, (Value.object (sortMembers members)).member? name =
        (Value.object members).member? name := by
  -- From the end, where each member is inserted into those before it.
  induction members using List.reverseRecOn with
  | nil => exact ⟨List.Pairwise.nil, fun _ => rfl⟩
  | append_singleton members member ih =>
    have last : sortMembers (members ++ [member]) =
        insertMember member.1 member.2 (sortMembers members) := by
      rw [sortMembers, List.foldl_append]
      rfl
    rw [last]
    refine ⟨ih.1.insertMember _ _, fun name => ?_⟩
    rw [ih.1.member?_insertMember, ih.2, member?_concat]

/-- Under its name the first of ascending members is found. -/
theorem Ascends.member?_head {member : String × Value} {members : List (String × Value)}
    (ascends : Ascends (member :: members)) :
    (Value.object (member :: members)).member? member.1 = some member.2 := by
  rw [member?_cons, member?_eq_none_of_lt (ascends_cons.1 ascends).1, Option.none_or, if_pos rfl]

/-- Under the names of later members the later ones are found. -/
theorem Ascends.member?_tail {member : String × Value} {members : List (String × Value)}
    (ascends : Ascends (member :: members)) (name : String) :
    (Value.object members).member? name =
      if member.1 = name then none else (Value.object (member :: members)).member? name := by
  by_cases own : member.1 = name
  · subst own
    rw [if_pos rfl, member?_eq_none_of_lt (ascends_cons.1 ascends).1]
  · rw [if_neg own, member?_cons, if_neg own, Option.or_none]

/-- Members that ascend are settled by what is found under each name. -/
theorem Ascends.eq_of_member?_eq {members others : List (String × Value)}
    (ascends : Ascends members) (too : Ascends others)
    (same : ∀ name, (Value.object members).member? name = (Value.object others).member? name) :
    members = others := by
  have held (name : String) : name ∈ names members ↔ name ∈ names others := by
    rw [← not_iff_not, ← member?_eq_none_iff, ← member?_eq_none_iff, same]
  induction members generalizing others with
  | nil =>
    cases others with
    | nil => rfl
    | cons other others => exact absurd ((held other.1).2 List.mem_cons_self) List.not_mem_nil
  | cons member members ih =>
    cases others with
    | nil => exact absurd ((held member.1).1 List.mem_cons_self) List.not_mem_nil
    | cons other others =>
      -- The first name of each is among the names of both, and none comes before it.
      have sameName : member.1 = other.1 := by
        rcases List.mem_cons.1 ((held member.1).1 List.mem_cons_self) with equal | behind
        · exact equal
        · rcases List.mem_cons.1 ((held other.1).2 List.mem_cons_self) with equal | before
          · exact equal.symm
          · exact absurd ((ascends_cons.1 too).1 member.1 behind)
              (String.lt_asymm ((ascends_cons.1 ascends).1 other.1 before))
      have sameValue : some member.2 = some other.2 := by
        rw [← ascends.member?_head, ← too.member?_head, same, sameName]
      have sameTail (name : String) :
          (Value.object members).member? name = (Value.object others).member? name := by
        rw [ascends.member?_tail, too.member?_tail, same, sameName]
      have tail := ih (ascends_cons.1 ascends).2 (ascends_cons.1 too).2 sameTail fun name => by
        rw [← not_iff_not, ← member?_eq_none_iff, ← member?_eq_none_iff, sameTail]
      rw [tail, Prod.ext sameName (Option.some.inj sameValue)]

/-- A member of sorted members is one of the members. -/
theorem mem_of_mem_sortMembers {members : List (String × Value)} {member : String × Value}
    (held : member ∈ sortMembers members) : member ∈ members := by
  obtain ⟨ascends, same⟩ := ascends_sortMembers members
  have found : (Value.object (sortMembers members)).member? member.1 = some member.2 := by
    cases given : (Value.object (sortMembers members)).member? member.1 with
    | none => exact absurd (List.mem_map_of_mem held) (member?_eq_none_iff.1 given)
    | some value =>
      have distinct : (names (sortMembers members)).Nodup := by
        refine List.Pairwise.imp ?_ ascends
        rintro name _ less rfl
        exact String.lt_irrefl name less
      have equal := eq_of_nodup_map distinct (mem_of_member?_eq_some given) held rfl
      rw [← equal]
  rw [same] at found
  exact mem_of_member?_eq_some found

/-! ## Canonical forms -/

/-- The items of an array in canonical form are the canonical forms of its items. -/
theorem canonical_array (items : List Value) :
    (Value.array items).canonical = .array (items.map Value.canonical) := by
  rw [Value.canonical, canonicalItems_eq_map]

/-- Under a name the canonical form of an object has the canonical form of what the object has. -/
theorem member?_canonical (members : List (String × Value)) (name : String) :
    (Value.object members).canonical.member? name =
      ((Value.object members).member? name).map Value.canonical := by
  rw [canonical_object, (ascends_sortMembers _).2, member?_mapValues]

/-- Objects that have the same canonical forms under the same names have one canonical form. -/
theorem canonical_object_eq_of_member?_eq {members others : List (String × Value)}
    (same : ∀ name, ((Value.object members).member? name).map Value.canonical =
      ((Value.object others).member? name).map Value.canonical) :
    (Value.object members).canonical = (Value.object others).canonical := by
  rw [canonical_object, canonical_object]
  congr 1
  refine (ascends_sortMembers _).1.eq_of_member?_eq (ascends_sortMembers _).1 fun name => ?_
  rw [(ascends_sortMembers _).2, (ascends_sortMembers _).2, member?_mapValues, member?_mapValues,
    same]

/-- A canonical form is its own canonical form. -/
@[simp]
theorem canonical_canonical (value : Value) : value.canonical.canonical = value.canonical := by
  induction value using Value.nested with
  | null | bool | number | string => simp [Value.canonical]
  | array items ih =>
    rw [canonical_array, canonical_array, List.map_map]
    congr 1
    exact List.map_congr_left ih
  | object members ih =>
    obtain ⟨sorted, form⟩ : ∃ sorted, (Value.object members).canonical = .object sorted :=
      ⟨_, canonical_object members⟩
    rw [form]
    refine (canonical_object_eq_of_member?_eq fun name => ?_).trans form
    rw [← form, member?_canonical]
    cases found : (Value.object members).member? name with
    | none => rfl
    | some value =>
      have inner := ih (name, value) (mem_of_member?_eq_some found)
      simp only [Option.map_some, inner]

/-- The names of every object in a value ascend by their octets. -/
inductive InOrder : Value → Prop where
  | null : InOrder .null
  | bool (b : Bool) : InOrder (.bool b)
  | number (n : Number) : InOrder (.number n)
  | string (text : String) : InOrder (.string text)
  | array {items : List Value} (each : ∀ item ∈ items, InOrder item) : InOrder (.array items)
  | object {members : List (String × Value)}
    (ascend : (names members).Pairwise fun name later => Utf8.encode name < Utf8.encode later)
    (each : ∀ member ∈ members, InOrder member.2) : InOrder (.object members)

/-- A canonical form is in order. -/
theorem inOrder_canonical (value : Value) : InOrder value.canonical := by
  induction value using Value.nested with
  | null => simpa only [Value.canonical] using .null
  | bool b => simpa only [Value.canonical] using .bool b
  | number n => simpa only [Value.canonical] using .number n
  | string text => simpa only [Value.canonical] using .string text
  | array items ih =>
    rw [canonical_array]
    refine .array fun item held => ?_
    obtain ⟨given, mem, rfl⟩ := List.mem_map.1 held
    exact ih given mem
  | object members ih =>
    rw [canonical_object]
    refine .object ((ascends_sortMembers _).1.imp Utf8.encode_lt) fun member held => ?_
    obtain ⟨value, mem, same⟩ := exists_of_mem_mapValues (mem_of_mem_sortMembers held)
    rw [same]
    exact ih (member.1, value) mem

/-! ## Sameness -/

/-- Two values are the same: items are the same one by one, and members under each name. -/
inductive SameAs : Value → Value → Prop where
  | null : SameAs .null .null
  | bool (b : Bool) : SameAs (.bool b) (.bool b)
  | number (n : Number) : SameAs (.number n) (.number n)
  | string (text : String) : SameAs (.string text) (.string text)
  | array {items others : List Value} (length : items.length = others.length)
    (each : ∀ (i : Nat) (item other : Value), items[i]? = some item → others[i]? = some other →
      SameAs item other) :
    SameAs (.array items) (.array others)
  | object {members others : List (String × Value)}
    (absent : ∀ name, (Value.object members).member? name = none ↔
      (Value.object others).member? name = none)
    (each : ∀ name value other, (Value.object members).member? name = some value →
      (Value.object others).member? name = some other → SameAs value other) :
    SameAs (.object members) (.object others)

/-- Values that are the same have one canonical form. -/
theorem SameAs.canonical_eq {value other : Value} (same : SameAs value other) :
    value.canonical = other.canonical := by
  induction same with
  | null | bool | number | string => rfl
  | @array items others length each ih =>
    rw [canonical_array, canonical_array]
    congr 1
    refine List.ext_getElem? fun i => ?_
    rw [List.getElem?_map, List.getElem?_map]
    by_cases inside : i < items.length
    · have too : i < others.length := length ▸ inside
      rw [List.getElem?_eq_getElem inside, List.getElem?_eq_getElem too, Option.map_some,
        Option.map_some, ih i _ _ (List.getElem?_eq_getElem inside) (List.getElem?_eq_getElem too)]
    · have too : ¬i < others.length := length ▸ inside
      rw [List.getElem?_eq_none (Nat.le_of_not_lt inside), List.getElem?_eq_none (Nat.le_of_not_lt too)]
  | @object members others absent each ih =>
    refine canonical_object_eq_of_member?_eq fun name => ?_
    cases found : (Value.object members).member? name with
    | none => rw [(absent name).1 found]
    | some value =>
      cases foundToo : (Value.object others).member? name with
      | none => exact absurd ((absent name).2 foundToo) (by simp [found])
      | some other => simp only [Option.map_some, ih name value other found foundToo]

/-- Values of one canonical form are the same. -/
theorem sameAs_of_canonical_eq {value other : Value} (equal : value.canonical = other.canonical) :
    SameAs value other := by
  induction value using Value.nested generalizing other with
  | null => cases other <;> simp [Value.canonical] at equal; exact .null
  | bool b => cases other <;> simp [Value.canonical] at equal; exact equal ▸ .bool b
  | number n => cases other <;> simp [Value.canonical] at equal; exact equal ▸ .number n
  | string text => cases other <;> simp [Value.canonical] at equal; exact equal ▸ .string text
  | array items ih =>
    cases other with
    | array others =>
      rw [canonical_array, canonical_array, Value.array.injEq] at equal
      have length : items.length = others.length := by
        simpa using congrArg List.length equal
      refine .array length fun i item other first second => ih item (List.mem_of_getElem? first) ?_
      have placed := congrArg (·[i]?) equal
      simpa [first, second] using placed
    | _ => simp [Value.canonical] at equal
  | object members ih =>
    cases other with
    | object others =>
      have mapped (name : String) : ((Value.object members).member? name).map Value.canonical =
          ((Value.object others).member? name).map Value.canonical := by
        rw [← member?_canonical, ← member?_canonical, equal]
      refine .object (fun name => ?_) fun name value other first second => ?_
      · rw [← Option.map_eq_none_iff, mapped, Option.map_eq_none_iff]
      · refine ih (name, value) (mem_of_member?_eq_some first) ?_
        have named := mapped name
        rw [first, second] at named
        exact Option.some.inj named
    | _ => simp [Value.canonical] at equal

/-- Values are the same exactly if they have one canonical form. -/
theorem sameAs_iff_canonical_eq {value other : Value} :
    SameAs value other ↔ value.canonical = other.canonical :=
  ⟨SameAs.canonical_eq, sameAs_of_canonical_eq⟩

/-- A canonical form is the same as its value. -/
theorem sameAs_canonical (value : Value) : SameAs value.canonical value :=
  sameAs_of_canonical_eq (canonical_canonical value)

end OpenBanking.Json
