import OpenBanking.Json.Value

/-!
# Canonical values

The canonical form of a value has the members of every object in the order of their names,
each name once with its last value. Its text is what is hashed and signed: two values that
differ only in the order of members have one canonical text.
-/

namespace OpenBanking.Json

/-- Puts a member where its name belongs, in place of a member of that name. -/
def insertMember (name : String) (value : Value) :
    List (String × Value) → List (String × Value)
  | [] => [(name, value)]
  | (other, held) :: rest =>
    if name < other then (name, value) :: (other, held) :: rest
    else if name = other then (name, value) :: rest
    else (other, held) :: insertMember name value rest

/-- The members in the order of their names, the last of each name. -/
def sortMembers (members : List (String × Value)) : List (String × Value) :=
  members.foldl (fun sorted member => insertMember member.1 member.2 sorted) []

mutual

/-- The value with sorted members at every depth. -/
def Value.canonical : Value → Value
  | .array items => .array (canonicalItems items)
  | .object members => .object (sortMembers (canonicalMembers members))
  | .null => .null
  | .bool b => .bool b
  | .number n => .number n
  | .string s => .string s

/-- The canonical forms of items. -/
def canonicalItems : List Value → List Value
  | [] => []
  | item :: rest => item.canonical :: canonicalItems rest

/-- The members with canonical values, in their order. -/
def canonicalMembers : List (String × Value) → List (String × Value)
  | [] => []
  | (name, value) :: rest => (name, value.canonical) :: canonicalMembers rest

end

/-- The canonical text of a value. -/
def Value.canonicalText (value : Value) : String := value.canonical.text

/-- The octets of the canonical text of a value. -/
def Value.canonicalOctets (value : Value) : List UInt8 := value.canonical.octets

end OpenBanking.Json
