import OpenBanking.Proofs.Json.Exact
import OpenBanking.Proofs.Json.LegibleRecord

/-!
# Texts of names

A value that is written as a name is read from the texts that denote the name as a string, and from
those that denote an object with null under the name and nothing else. Characters may be escaped
there and blanks stand around tokens, as in every text, but the name that is denoted has to be the
very name. So no other text is read as the value, and these are read as no other one, unless there
is no room for the object.
-/

namespace OpenBanking.Json

variable {α : Type}

/-- A text tells a name: it denotes the string, or an object with null under this name alone. -/
inductive TellsName (s : List UInt8) (name : String) : Prop where
  | bare (spells : Spells s (.string name))
  | tagged (spells : Spells s (tagged name .null))

/-- Blanks behind a text may be counted to it. -/
theorem TellsName.append_blanks {s gap : List UInt8} {name : String} (tells : TellsName s name)
    (blanks : IsBlanks gap) : TellsName (s ++ gap) name := by
  cases tells with
  | bare spells => exact .bare (spells.append_blanks blanks)
  | tagged spells => exact .tagged (spells.append_blanks blanks)

/-- Blanks in front of a text may be counted to it. -/
theorem TellsName.blanks_append {gap s : List UInt8} {name : String} (blanks : IsBlanks gap)
    (tells : TellsName s name) : TellsName (gap ++ s) name := by
  cases tells with
  | bare spells => exact .bare (spells.blanks_append blanks)
  | tagged spells => exact .tagged (spells.blanks_append blanks)

/-- An object of one member is spelled by the texts of its name and of its value. -/
theorem spells_tagged {named text : List UInt8} {name : String} {value : Value}
    (own : SpellsName named name) (spells : Spells text value) :
    Spells (Octet.openObject :: (named ++ (text ++ [Octet.closeObject]))) (tagged name value) := by
  have written := @Spells.object [] [((named, name), (text, value))] isBlanks_nil
    (List.forall_mem_singleton.2 own) (List.forall_mem_singleton.2 spells)
  simpa [parted, memberText, memberDenoted, tagged] using written

/-! ## Null -/

/-- Null is read from its spellings. -/
theorem understands_readNull : Understands readNull .null () := by
  refine understands_of_bare (fun s => by simp only [readNull, skipBlanks_skipBlanks]) ?_
  intro s bare rest _
  cases bare
  exact ⟨rest, rfl, rfl⟩

/-- What is read as null spells it. -/
theorem exists_spells_of_readNull {s rest : List UInt8} (read : readNull s = .ok ((), rest)) :
    ∃ t, s = t ++ rest ∧ Spells t .null := by
  obtain ⟨gap, blanks, parts⟩ := exists_isBlanks s
  unfold readNull at read
  split at read
  · cases read
  next b later begins =>
    split at read
    next letter =>
      obtain ⟨behind, taken, same⟩ := exists_of_bind_eq_ok read
      cases same
      rw [begins, letter, of_expectWord taken] at parts
      exact ⟨gap ++ 0x6E :: ull, by simpa using parts, .blanks_append blanks .null⟩
    next => cases read

/-! ## Choices among names -/

section Named

variable [Named α]

/-- The variants of a choice among names. -/
abbrev namedVariants (α : Type) [Named α] : List (Variant α) :=
  (Named.all : List α).map fun x => .unit (nameOf x) x

/-- No two variants have one name. -/
theorem nodup_namedVariants : ((namedVariants α).map (·.name)).Nodup := by
  rw [List.map_map]
  exact Named.names_nodup

/-- A variant that is found is that of the value with the name. -/
theorem of_findVariant_named {name : String} {variant : Variant α}
    (found : findVariant (namedVariants α) name = .ok variant) :
    ∃ x : α, nameOf x = name ∧ variant = .unit name x := by
  unfold findVariant at found
  split at found
  next first first_eq =>
    cases found
    obtain ⟨x, _, rfl⟩ := List.mem_map.1 (List.mem_of_find?_eq_some first_eq)
    have same := List.find?_some first_eq
    obtain rfl : nameOf x = name := of_decide_eq_true same
    exact ⟨x, rfl, rfl⟩
  next => cases found

section Taken

variable {depth : Nat} {s rest : List UInt8} {x : α}

/-- What is read as a value behind a quote tells its name. -/
theorem exists_tellsName_of_quote
    (read : readChoice (namedVariants α) depth (Octet.quote :: s) = .ok (x, rest)) :
    ∃ t, Octet.quote :: s = t ++ rest ∧ TellsName t (nameOf x) := by
  obtain ⟨⟨name, behind⟩, own, chosen⟩ := exists_of_bind_eq_ok read
  obtain ⟨variant, found, valued⟩ := exists_of_bind_eq_ok chosen
  obtain ⟨y, rfl, rfl⟩ := of_findVariant_named found
  cases valued
  obtain ⟨t, rfl, written⟩ := exists_spells_of_readString own
  exact ⟨Octet.quote :: t, rfl, .bare (.string written)⟩

/-- What is read as a value behind a brace tells its name. -/
theorem exists_tellsName_of_readTagged
    (read : readTagged (namedVariants α) depth s = .ok (x, rest)) :
    ∃ t, Octet.openObject :: s = t ++ rest ∧ TellsName t (nameOf x) := by
  obtain ⟨⟨name, behind⟩, own, chosen⟩ := exists_of_bind_eq_ok read
  obtain ⟨variant, found, valued⟩ := exists_of_bind_eq_ok chosen
  obtain ⟨y, rfl, rfl⟩ := of_findVariant_named found
  obtain ⟨left, colon, held⟩ := exists_of_bind_eq_ok valued
  obtain ⟨⟨z, after⟩, content, closed⟩ := exists_of_bind_eq_ok held
  obtain ⟨⟨⟨⟩, last⟩, null, same⟩ := exists_of_bind_eq_ok content
  cases same
  obtain ⟨before, written, leading, spells, rfl⟩ := of_readText own
  obtain ⟨between, trailing, rfl⟩ := of_readColon colon
  obtain ⟨text, rfl, spellsNull⟩ := exists_spells_of_readNull null
  -- The blanks behind null belong to its text.
  obtain ⟨inner, innerBlanks, ends⟩ := exists_isBlanks after
  simp only at closed
  split at closed
  · cases closed
  next c later finish =>
    split at closed
    next close =>
      cases closed
      rw [finish, close] at ends
      have named := SpellsName.named leading spells trailing
      refine ⟨_, ?_, .tagged (spells_tagged named (spellsNull.append_blanks innerBlanks))⟩
      rw [ends]
      simp
    next => cases closed

/-- What is read as a value tells its name. -/
theorem exists_tellsName_of_read (read : (Codec.named α).read depth s = .ok (x, rest)) :
    ∃ t, s = t ++ rest ∧ TellsName t (nameOf x) := by
  obtain ⟨gap, blanks, parts⟩ := exists_isBlanks s
  have bare : readChoice (namedVariants α) depth (skipBlanks s) = .ok (x, rest) :=
    (readChoice_skipBlanks _ depth s).trans read
  have told : ∃ t, skipBlanks s = t ++ rest ∧ TellsName t (nameOf x) := by
    cases begins : skipBlanks s with
    | nil =>
      rw [begins] at bare
      cases bare
    | cons b later =>
      rw [begins] at bare
      by_cases opens : b = Octet.openObject
      · subst opens
        cases depth with
        | zero => cases bare
        | succ depth => exact exists_tellsName_of_readTagged bare
      · by_cases quote : b = Octet.quote
        · subst quote
          exact exists_tellsName_of_quote bare
        · have here : skipBlanks (b :: later) = b :: later := by
            rw [← begins, skipBlanks_skipBlanks]
          rw [readChoice, here] at bare
          simp only [opens, quote, ↓reduceIte] at bare
          cases bare
  -- Blanks in front belong to the text.
  obtain ⟨t, same, tells⟩ := told
  rw [same, ← List.append_assoc] at parts
  exact ⟨gap ++ t, parts, tells.blanks_append blanks⟩

end Taken

/-- A text that tells the name of a value is read as the value if there is room for an object. -/
theorem TellsName.isRead {s : List UInt8} {x : α} (tells : TellsName s (nameOf x)) (depth : Nat) :
    IsRead ((Codec.named α).read (depth + 1)) (s, x) := by
  have known : Variant.unit (nameOf x) x ∈ namedVariants α :=
    List.mem_map_of_mem (Named.mem_all x)
  cases tells with
  | bare spells =>
    exact (WritesLegibly.unit known).understands nodup_namedVariants (.string _) s spells
  | tagged spells =>
    have writes : WritesLegibly (namedVariants α) x (depth + 1) (Json.tagged (nameOf x) .null) := by
      refine .tagged known fun reordered => ?_
      cases reordered
      exact understands_readNull.map fun _ => x
    exact writes.understands nodup_namedVariants (reordered_single _ .null) s spells

/-- A text is read as a value exactly if it tells the name of the value. -/
theorem named_decode_eq_ok_iff {s : List UInt8} {x : α} :
    (Codec.named α).decode s = .ok x ↔ TellsName s (nameOf x) :=
  Reader.whole_eq_ok_iff (fun _ _ read => exists_tellsName_of_read read)
    (fun _ _ tells blanks => tells.append_blanks blanks) fun _ tells => tells.isRead _

end Named

end OpenBanking.Json
