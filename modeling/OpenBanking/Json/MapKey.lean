import OpenBanking.Alias
import OpenBanking.Json.Canonical
import OpenBanking.Key
import OpenBanking.WireError

/-!
# Maps as objects

A map whose keys are texts, names or numbers becomes an object; other keys have no text that
could name a member.
-/

namespace OpenBanking.Json

/-- A key of a map. -/
inductive MapKey where
  /-- A text. -/
  | text (s : String)
  /-- A name. -/
  | name (s : String)
  /-- A whole number. -/
  | whole (n : Int)
  /-- A truth value. -/
  | bool (b : Bool)
  /-- A double. -/
  | double (x : Double)
  /-- A value that can be missing. -/
  | optional (s : Option String)
  /-- Nothing. -/
  | unit
  /-- A list. -/
  | list (items : List String)
  /-- An alias. -/
  | ofAlias (x : Alias)
deriving DecidableEq

/-- The name of a member, if a key has one. -/
def MapKey.memberName : MapKey → Except WireError String
  | .text s | .name s => .ok s
  | .whole n => .ok (String.ofList (Text.integer n))
  | .bool b => .ok (if b then "true" else "false")
  | .double x =>
    if x.isFinite then .ok (String.ofList x.compactChars)
    else .error (.serialization "float key must be finite (got NaN or +/-inf)")
  | .optional _ | .unit | .list _ | .ofAlias _ =>
    .error (.serialization ReadError.nameNotString.message)

/-- The members of a map in order; the first key without a name decides. -/
def namedMembers : List (MapKey × Value) → Except WireError (List (String × Value))
  | [] => .ok []
  | (key, value) :: rest => do
    let name ← key.memberName
    let members ← namedMembers rest
    .ok ((name, value) :: members)

/-- The object of a map. -/
def objectOf (entries : List (MapKey × Value)) : Except WireError Value := do
  let members ← namedMembers entries
  .ok (.object members)

/-- The value of a double; one that is not finite has none. -/
def Value.ofDouble (x : Double) : Value := if x.isFinite then .number (.double x) else .null

end OpenBanking.Json
