import OpenBanking.Json.Choice
import OpenBanking.Proofs.Json.Record

/-!
# Lossless choices

The name that a choice writes leads its reader to the variant of that name, since no other variant
has it. So a choice loses nothing if every value is written either as the name of a variant that
denotes it, or under the name of a variant that reads it back from what is written, with one level
of depth less.
-/

namespace OpenBanking.Json

variable {α : Type}

/-- The name of a variant leads to the variant. -/
theorem findVariant_name {variants : List (Variant α)} (nodup : (variants.map (·.name)).Nodup)
    {variant : Variant α} (known : variant ∈ variants) :
    findVariant variants variant.name = .ok variant := by
  cases found : variants.find? (·.name = variant.name) with
  | none =>
    have other := List.find?_eq_none.1 found variant known
    simp at other
  | some first =>
    have sameName : first.name = variant.name := by simpa using List.find?_some found
    have same := eq_of_nodup_map nodup (List.mem_of_find?_eq_some found) known sameName
    rw [findVariant, found, same]

/-- The values that a choice may write for `x` where arrays and objects may nest so deep. -/
inductive Writes (variants : List (Variant α)) (x : α) : (depth : Nat) → Value → Prop where
  /-- The name of a variant that denotes it. -/
  | bare {depth : Nat} {variant : Variant α} (known : variant ∈ variants)
    (denotes : variant.bare = .ok x) : Writes variants x depth (.string variant.name)
  /-- Content under the name of a variant that reads it back. -/
  | tagged {depth : Nat} {variant : Variant α} (known : variant ∈ variants) {content : Value}
    (reads : ∀ layout : Layout, Reads (variant.content depth) (layout.apply content) x) :
    Writes variants x (depth + 1) (tagged variant.name content)

namespace Writes

variable {depth : Nat}

/-- A value without content is written as the name of its variant. -/
theorem unit {variants : List (Variant α)} {name : String} {x : α}
    (known : Variant.unit name x ∈ variants) : Writes variants x depth (.string name) :=
  .bare known rfl

/-- A value of a type that loses nothing is read back under the name of its variant. -/
theorem newtype {β : Type} [Wire β] [Lossless depth β] {variants : List (Variant α)}
    {name : String} {inject : β → α} {x : α} {y : β} (place : Nat)
    (known : variants[place]? = some (.newtype name inject)) (same : inject y = x) :
    Writes variants x (depth + 1) (Json.tagged name (toValue y)) := by
  refine .tagged (List.mem_of_getElem? known) fun layout rest ends => ?_
  have reads : Reads ((Wire.codec : Codec β).read depth) (layout.apply (toValue y)) y :=
    Lossless.readsBack y layout
  have taken := reads rest ends
  simp only [Variant.newtype, taken, bind, Except.bind, same]

/-- Lossless fields of distinct names are read back under the name of their variant. -/
theorem record {ρ : Type} {variants : List (Variant α)} {name label : String} {fields : Fields ρ}
    {inject : ρ → α} {x : α} {xs : ρ} [fields.Lossless depth] (place : Nat)
    (known : variants[place]? = some (.record name label fields inject)) (same : inject xs = x)
    (nodup : fields.names.Nodup := by decide) :
    Writes variants x (depth + 2) (Json.tagged name (.object (fields.members xs))) := by
  refine .tagged (List.mem_of_getElem? known) fun layout rest ends => ?_
  have taken := Fields.reads_object depth nodup xs layout ("struct variant " ++ label) rest ends
  simp only [Variant.record, taken, bind, Except.bind, same]

end Writes

/-- A lone member stays alone in every layout. -/
theorem Layout.apply_tagged (layout : Layout) (name : String) (content : Value) :
    layout.apply (tagged name content) = tagged name (layout.apply content) := by
  obtain ⟨placed, applied, order⟩ := layout.object [(name, content)] (by simp [names])
  have alone : placed = [(name, layout.apply content)] := List.perm_singleton.1 order
  rw [tagged, applied, alone]
  rfl

/-- A quote is no blank. -/
theorem skipBlanks_quote (rest : List UInt8) :
    skipBlanks (Octet.quote :: rest) = Octet.quote :: rest := rfl

/-- A choice reads back what it may write. -/
theorem Codec.choice_readsBack {variants : List (Variant α)}
    (nodup : (variants.map (·.name)).Nodup) {depth : Nat} {toValue : α → Value} {x : α}
    (writes : Writes variants x depth (toValue x)) :
    (Codec.choice variants toValue).ReadsBack depth x := by
  intro layout rest _
  simp only [Codec.choice]
  generalize toValue x = value at writes ⊢
  cases writes with
  | @bare _ variant known denotes =>
    have found := findVariant_name nodup known
    have taken := readString_octets variant.name rest
    have apart : Octet.quote ≠ Octet.openObject := by decide
    rw [layout.string, octets_string, List.cons_append, List.append_assoc, List.singleton_append,
      readChoice, skipBlanks_quote]
    simp only [apart, ↓reduceIte, taken, found, denotes, bind, Except.bind]
  | @tagged depth variant known content reads =>
    have found := findVariant_name nodup known
    have named : readText "variant identifier"
        (memberOctets (variant.name, layout.apply content) ++ Octet.closeObject :: rest) =
        .ok (variant.name,
          Octet.colon :: ((layout.apply content).octets ++ Octet.closeObject :: rest)) := by
      rw [memberOctets_append, readText, skipBlanks_quote]
      exact readString_octets variant.name _
    have colon : readColon
        (Octet.colon :: ((layout.apply content).octets ++ Octet.closeObject :: rest)) =
        .ok ((layout.apply content).octets ++ Octet.closeObject :: rest) := rfl
    have taken := reads layout (Octet.closeObject :: rest) (.closeObject rest)
    have closed : skipBlanks (Octet.closeObject :: rest) = Octet.closeObject :: rest := rfl
    have shape : (tagged variant.name (layout.apply content)).octets ++ rest = Octet.openObject ::
        (memberOctets (variant.name, layout.apply content) ++ Octet.closeObject :: rest) := by
      rw [tagged, octets_object]
      simp [parted]
    have opened (tail : List UInt8) :
        skipBlanks (Octet.openObject :: tail) = Octet.openObject :: tail := rfl
    rw [layout.apply_tagged, shape, readChoice, opened]
    simp only [↓reduceIte, inside, readTagged, named, found, colon, taken, closed, bind,
      Except.bind]

/-- A type written as a choice that reads back what it writes loses nothing. -/
theorem Definite.choice {variants : List (Variant α)} {depth : Nat} {toValue : α → Value}
    (writes : ∀ x, Writes variants x depth (toValue x))
    (nodup : (variants.map (·.name)).Nodup := by decide) :
    @Definite depth α ⟨.choice variants toValue⟩ :=
  letI : Wire α := ⟨.choice variants toValue⟩
  { readsBack := fun x => Codec.choice_readsBack nodup (writes x)
    ne_null := fun x null => by
      have written := writes x
      rw [show toValue x = .null from null] at written
      cases written }

/-- A type written as names loses nothing. -/
theorem Definite.named [Named α] {depth : Nat} : @Definite depth α ⟨.named α⟩ := by
  refine .choice (fun x => .unit ?_) ?_
  · exact List.mem_map_of_mem (Named.mem_all x)
  · rw [List.map_map]
    exact Named.names_nodup

/-- The name of a value leads back to the value. -/
theorem ofName?_nameOf {α : Type} [Named α] (x : α) : ofName? (nameOf x) = some x := by
  unfold ofName?
  cases found : (Named.all : List α).find? (Named.name · = nameOf x) with
  | none =>
    have other := List.find?_eq_none.1 found x (Named.mem_all x)
    simp [nameOf] at other
  | some first =>
    have same := List.find?_some found
    rw [Named.name_injective (of_decide_eq_true same)]

/-- A value is told by its name and by no other text. -/
theorem ofName?_eq_some_iff {α : Type} [Named α] {text : String} {x : α} :
    ofName? text = some x ↔ text = nameOf x := by
  constructor
  · intro found
    have same := List.find?_some found
    exact (of_decide_eq_true same).symm
  · rintro rfl
    exact ofName?_nameOf x

end OpenBanking.Json
