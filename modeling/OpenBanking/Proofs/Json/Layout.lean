import OpenBanking.Json.Canonical

/-!
# Layouts of values

A value can be written with the members of its objects in the order in which they are given, or
sorted by name at every depth. Both are layouts: scalars stand as they are, items keep their order,
and members of distinct names stand in some order. What a reader of objects does with every order
of members it does with both, so nothing has to be said twice.
-/

namespace OpenBanking.Json

/-- The names of members. -/
def names (members : List (String × Value)) : List String := members.map (·.1)

/-- The members with their values passed through a function. -/
def mapValues (f : Value → Value) (members : List (String × Value)) : List (String × Value) :=
  members.map fun member => (member.1, f member.2)

/-- Passing values through a function leaves the names. -/
@[simp]
theorem names_mapValues (f : Value → Value) (members : List (String × Value)) :
    names (mapValues f members) = names members := by
  simp [names, mapValues]

/-- A member with a passed value comes from a member of its name. -/
theorem exists_of_mem_mapValues {f : Value → Value} {members : List (String × Value)}
    {name : String} {passed : Value} (held : (name, passed) ∈ mapValues f members) :
    ∃ value, (name, value) ∈ members ∧ passed = f value := by
  obtain ⟨⟨_, value⟩, given, same⟩ := List.mem_map.1 held
  cases same
  exact ⟨value, given, rfl⟩

/-- A way of placing the members of objects. -/
structure Layout where
  /-- The value with its members placed. -/
  apply : Value → Value
  /-- The null value has no members, and no other value is placed as null. -/
  null : ∀ value, apply value = .null ↔ value = .null
  /-- A truth value has no members. -/
  bool : ∀ b, apply (.bool b) = .bool b
  /-- A number has no members. -/
  number : ∀ n, apply (.number n) = .number n
  /-- A string has no members. -/
  string : ∀ text, apply (.string text) = .string text
  /-- Items keep their order. -/
  array : ∀ items, apply (.array items) = .array (items.map apply)
  /-- Members of distinct names stand in some order, none is lost and none is added. -/
  object : ∀ members, (names members).Nodup →
    ∃ placed, apply (.object members) = .object placed ∧ placed.Perm (mapValues apply members)

namespace Layout

/-- The members stand as they are given. -/
def plain : Layout where
  apply := id
  null _ := Iff.rfl
  bool _ := rfl
  number _ := rfl
  string _ := rfl
  array items := by simp
  object members _ := ⟨members, rfl, by simp [mapValues]⟩

end Layout

/-! ## Sorted members -/

/-- A member of a fresh name is added to the others. -/
theorem insertMember_perm {name : String} {members : List (String × Value)}
    (fresh : name ∉ names members) (value : Value) :
    (insertMember name value members).Perm ((name, value) :: members) := by
  induction members with
  | nil => exact List.Perm.refl _
  | cons member members ih =>
    obtain ⟨other, held⟩ := member
    obtain ⟨apart, fresh⟩ := not_or.1 (mt List.mem_cons.2 fresh)
    by_cases before : name < other
    · simp only [insertMember, before, ↓reduceIte]
      exact List.Perm.refl _
    · have notSame : name ≠ other := apart
      simp only [insertMember, before, notSame, ↓reduceIte]
      exact ((ih fresh).cons (other, held)).trans (List.Perm.swap _ _ members)

/-- Sorting members of distinct names into sorted ones neither loses nor adds any. -/
theorem foldl_insertMember_perm {members sorted : List (String × Value)}
    (nodup : (names members).Nodup) (apart : ∀ name ∈ names members, name ∉ names sorted) :
    (members.foldl (fun sorted member => insertMember member.1 member.2 sorted) sorted).Perm
      (members ++ sorted) := by
  induction members generalizing sorted with
  | nil => exact List.Perm.refl _
  | cons member members ih =>
    obtain ⟨fresh, nodup⟩ := List.nodup_cons.1 nodup
    obtain ⟨first, later⟩ := List.forall_mem_cons.1 apart
    have inserted := insertMember_perm first member.2
    have stillApart : ∀ name ∈ names members,
        name ∉ names (insertMember member.1 member.2 sorted) := by
      intro name held again
      rcases List.mem_cons.1 ((inserted.map Prod.fst).mem_iff.1 again) with rfl | older
      · exact fresh held
      · exact later name held older
    exact (ih nodup stillApart).trans ((inserted.append_left members).trans List.perm_middle)

/-- Members of distinct names are placed in another order by sorting. -/
theorem sortMembers_perm {members : List (String × Value)} (nodup : (names members).Nodup) :
    (sortMembers members).Perm members := by
  have apart : ∀ name ∈ names members, name ∉ names [] := by simp [names]
  have sorted := foldl_insertMember_perm nodup apart
  rwa [List.append_nil] at sorted

/-- The canonical items are the items in canonical form. -/
theorem canonicalItems_eq_map (items : List Value) :
    canonicalItems items = items.map Value.canonical := by
  induction items with
  | nil => simp [canonicalItems]
  | cons item items ih => simp [canonicalItems, ih]

/-- The canonical members are the members with canonical values. -/
theorem canonicalMembers_eq_mapValues (members : List (String × Value)) :
    canonicalMembers members = mapValues Value.canonical members := by
  induction members with
  | nil => simp [canonicalMembers, mapValues]
  | cons member members ih => simpa [canonicalMembers, mapValues] using ih

/-- The canonical form of an object sorts the canonical forms of its members. -/
theorem canonical_object (members : List (String × Value)) :
    (Value.object members).canonical = .object (sortMembers (mapValues Value.canonical members)) := by
  rw [Value.canonical, canonicalMembers_eq_mapValues]

/-- The members stand in the order of their names. -/
def Layout.sorted : Layout where
  apply := Value.canonical
  null value := by cases value <;> simp [Value.canonical]
  bool b := by simp [Value.canonical]
  number n := by simp [Value.canonical]
  string text := by simp [Value.canonical]
  array items := by simp [Value.canonical, canonicalItems_eq_map]
  object members nodup := by
    exact ⟨_, canonical_object members, sortMembers_perm (by rwa [names_mapValues])⟩

end OpenBanking.Json
