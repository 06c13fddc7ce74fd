import OpenBanking.Proofs.Alias.Preimage
import OpenBanking.Proofs.Configuration
import OpenBanking.Proofs.Gateway.Headers
import OpenBanking.Proofs.Json.Named

/-!
# One name for each value

Kinds, levels, statuses, methods and clusters are known by names. A name is shown in paths, headers,
messages and in what is hashed, it is parsed where a text is all there is, and it is written and
read in JSON. What is shown is set apart from the names of JSON, but it is the same text; and a text
is taken for a value exactly if it is that text, but for the case of ASCII letters where a cluster
is named. So no two places name a value differently, and no text names two values.
-/

namespace OpenBanking

open Json

/-! ## Shown and parsed -/

/-- Values are shown by their names. -/
class ShownByName (α : Type) [Named α] [ToString α] : Prop where
  /-- What is shown is the name. -/
  toString_eq : ∀ x : α, toString x = nameOf x

instance : ShownByName AliasKind := ⟨AliasKind.toString_eq_nameOf⟩

instance : ShownByName KeyLevel := ⟨KeyLevel.toString_eq_nameOf⟩

instance : ShownByName KeyAlgorithm := ⟨fun x => by cases x <;> rfl⟩

instance : ShownByName ResourceKind := ⟨fun x => by cases x <;> rfl⟩

instance : ShownByName MemberKind := ⟨fun x => by cases x <;> rfl⟩

instance : ShownByName VerificationStatus := ⟨fun x => by cases x <;> rfl⟩

instance : ShownByName Status := ⟨fun _ => rfl⟩

instance : ShownByName Method := ⟨fun _ => rfl⟩

/-- Values are parsed from what they are shown as, and from nothing else. -/
structure ParsedAsShown (α : Type) [Named α] [ToString α] : Prop where
  /-- Exactly the text that a value is shown as is parsed as the value. -/
  ofShown?_eq_some_iff : ∀ (text : String) (x : α), ofShown? text = some x ↔ text = toString x
  /-- Whoever looks a value up by its name finds the one that is shown so. -/
  ofName?_eq_ofShown? : ∀ text : String, (ofName? text : Option α) = ofShown? text

/-- JSON knows values by what they are shown as. -/
structure KnownAsShown (α : Type) [Wire α] [ToString α] : Prop where
  /-- A value is written as a string of the text. -/
  toValue_eq : ∀ x : α, toValue x = .string (toString x)
  /-- A text holds a value exactly if it tells that name. -/
  decode_eq_ok_iff : ∀ (s : List UInt8) (x : α), decode s = .ok x ↔ TellsName s (toString x)
  /-- What is read as a value at the front of a text tells that name. -/
  taken : ∀ (depth : Nat) (s rest : List UInt8) (x : α),
    (Wire.codec : Codec α).read depth s = .ok (x, rest) →
      ∃ t, s = t ++ rest ∧ TellsName t (toString x)
  /-- Whatever tells that name is read as the value at the front of a text if there is room for an
  object. -/
  isRead : ∀ (depth : Nat) (s : List UInt8) (x : α), TellsName s (toString x) →
    IsRead ((Wire.codec : Codec α).read (depth + 1)) (s, x)

section Shown

variable {α : Type} [Named α] [ToString α] [shown : ShownByName α]

/-- Who is shown by name is parsed by name. -/
theorem ofShown?_eq_ofName? (text : String) : (ofShown? text : Option α) = ofName? text := by
  simp only [ofShown?, ofName?, shown.toString_eq, nameOf]

/-- Who is shown by name is parsed as shown, since no two values share a name. -/
theorem parsedAsShown : ParsedAsShown α where
  ofShown?_eq_some_iff text x := by
    rw [ofShown?_eq_ofName?, ofName?_eq_some_iff, shown.toString_eq]
  ofName?_eq_ofShown? text := (ofShown?_eq_ofName? text).symm

/-- Who is shown by name, and written as that name, is known to JSON as shown. -/
theorem knownAsShown : @KnownAsShown α ⟨.named α⟩ _ :=
  letI : Wire α := ⟨.named α⟩
  { toValue_eq := fun x => congrArg Value.string (shown.toString_eq x).symm
    decode_eq_ok_iff := fun s x => by
      rw [shown.toString_eq]
      exact named_decode_eq_ok_iff
    taken := fun depth s rest x read => by
      rw [shown.toString_eq]
      exact exists_tellsName_of_read read
    isRead := fun depth s x tells => by
      rw [shown.toString_eq] at tells
      exact tells.isRead depth }

end Shown

/-! ## Paths -/

/-- A path is that of a method exactly if it names the method behind the version. -/
theorem Method.ofPath?_eq_some_iff {path : String} {method : Method} :
    ofPath? path = some method ↔ path = method.path := by
  constructor
  · intro found
    unfold ofPath? at found
    split at found
    next name shape =>
      have named := ofName?_eq_some_iff.1 found
      rw [Method.path, ← named, ← String.toList_inj, shape]
      simp
    next => cases found
  · rintro rfl
    have shape : method.path.toList = '/' :: 'v' :: '1' :: '/' :: (nameOf method).toList := by
      simp [Method.path]
    simp only [ofPath?, shape, String.ofList_toList]
    exact ofName?_nameOf method

/-- No slash too many, and no other case. -/
example : Method.ofPath? "/v1//GetMember" = none ∧ Method.ofPath? "/v1/getMember" = none := by
  decide

/-- Names are parsed exactly, and every place uses the same. A path names a method exactly if it is
the path of the method. Kinds of aliases and resources, levels, statuses and methods are parsed from
exactly what they are shown as, and clusters from what differs from it by the case of ASCII letters
only. What is shown in headers and messages and JSON have the same names, written and read: so the
header of a call shows its level as JSON writes it, and what is hashed for an alias holds its kind
as JSON writes it. -/
theorem names_parsed_exactly :
    (∀ (path : String) (method : Method),
      Method.ofPath? path = some method ↔ path = method.path) ∧
    (ParsedAsShown AliasKind ∧ ParsedAsShown ResourceKind ∧ ParsedAsShown KeyLevel ∧
      ParsedAsShown Status ∧ ParsedAsShown Method) ∧
    (∀ (text : String) (cluster : Cluster), Cluster.ofText? text = some cluster ↔
      Text.SameLetters text.toList (toString cluster).toList) ∧
    (KnownAsShown AliasKind ∧ KnownAsShown ResourceKind ∧ KnownAsShown KeyLevel ∧
      KnownAsShown KeyAlgorithm ∧ KnownAsShown MemberKind ∧ KnownAsShown VerificationStatus) ∧
    (∀ context : CallContext, ∃ text, context.headers.value? HeaderName.keyLevel = some text ∧
      text = toString context.keyLevel ∧ toValue context.keyLevel = .string text) ∧
    ∀ x : Alias, x.preimage = (Value.object [("realm_id", .string x.normalize.realmId),
      ("type", toValue x.kind), ("value", .string x.normalize.value)]).canonicalOctets := by
  refine ⟨fun _ _ => Method.ofPath?_eq_some_iff,
    ⟨parsedAsShown, parsedAsShown, parsedAsShown, parsedAsShown, parsedAsShown⟩,
    fun _ _ => Cluster.ofText?_eq_some_iff,
    ⟨knownAsShown, knownAsShown, knownAsShown, knownAsShown, knownAsShown, knownAsShown⟩,
    fun context => ?_, fun x => ?_⟩
  · have header := context.value?_headers.1
    rw [← KeyLevel.toString_eq_nameOf] at header
    exact ⟨_, header, rfl, (knownAsShown (α := KeyLevel)).toValue_eq context.keyLevel⟩
  · have written : toValue x.kind = .string (toString x.normalize.kind) :=
      (knownAsShown (α := AliasKind)).toValue_eq x.kind
    rw [written]
    rfl

end OpenBanking
