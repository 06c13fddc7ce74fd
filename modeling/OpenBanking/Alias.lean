import OpenBanking.Json.Choice
import OpenBanking.Digest.Sha256
import OpenBanking.Text.Base64url
import OpenBanking.Text.Blank
import OpenBanking.Text.Lowercase

/-!
# Aliases

An alias names a member by something a person knows: an e-mail address, a domain, the
identifier of a bank. Spellings that differ only in surrounding blanks, or in the case of
an e-mail address or domain, name the same member, so an alias is normalized before it is
hashed.
-/

namespace OpenBanking

open Json

/-- What kind of name an alias is. -/
inductive AliasKind where
  /-- Not known. -/
  | unknown
  /-- An e-mail address. -/
  | email
  /-- A telephone number. -/
  | phone
  /-- A domain name. -/
  | domain
  /-- The identifier of a bank. -/
  | bank
  /-- The authorization number in an eIDAS certificate. -/
  | eidas
  /-- A name of the realm's own making. -/
  | custom
  /-- A user name. -/
  | username
deriving DecidableEq

/-- Wire names of the kinds. -/
instance : Named AliasKind where
  all := [.unknown, .email, .phone, .domain, .bank, .eidas, .custom, .username]
  name
    | .unknown => "UNKNOWN"
    | .email => "EMAIL"
    | .phone => "PHONE"
    | .domain => "DOMAIN"
    | .bank => "BANK"
    | .eidas => "EIDAS"
    | .custom => "CUSTOM"
    | .username => "USERNAME"
  mem_all x := by cases x <;> simp
  names_nodup := by decide

/-- Kinds are written as their names. -/
instance : Wire AliasKind := ⟨.named AliasKind⟩

/-- How kinds are shown. -/
instance : ToString AliasKind where
  toString
    | .unknown => "UNKNOWN"
    | .email => "EMAIL"
    | .phone => "PHONE"
    | .domain => "DOMAIN"
    | .bank => "BANK"
    | .eidas => "EIDAS"
    | .custom => "CUSTOM"
    | .username => "USERNAME"

/-- The kind where none is given. -/
instance : Inhabited AliasKind := ⟨.unknown⟩

/-- A name of a member. -/
structure Alias where
  /-- What kind of name it is. -/
  kind : AliasKind := .unknown
  /-- The name itself. -/
  value : String := ""
  /-- The realm in which it names a member; empty outside realms. -/
  realmId : String := ""
deriving DecidableEq

namespace Alias

/-- The alias of empty name. -/
instance : Inhabited Alias := ⟨{}⟩

/-- Members of the JSON object of an alias. -/
def fields : Fields (AliasKind × String × String × Unit) :=
  .cons (.required "type") <| .cons (.required "value") <|
  .cons (.withDefault "realm_id" "") .nil

/-- An alias as an object. -/
instance : Wire Alias where
  codec := .record "Alias" fields (fun (kind, value, realmId, ()) => ⟨kind, value, realmId⟩)
    fun x => (x.kind, x.value, x.realmId, ())

/-- An alias outside realms. -/
def new (kind : AliasKind) (value : String) : Alias := { kind, value }

/-- An e-mail address. -/
def email (value : String) : Alias := new .email value

/-- A domain name. -/
def domain (value : String) : Alias := new .domain value

/-- The identifier of a bank. -/
def bank (value : String) : Alias := new .bank value

/-- An eIDAS authorization number. -/
def eidas (value : String) : Alias := new .eidas value

/-- The same name in a realm. -/
def inRealm (x : Alias) (realmId : String) : Alias := { x with realmId }

/-- The spelling that stands for all spellings of the name: without surrounding blanks, and
in lower case for e-mail addresses and domains. -/
def normalize (x : Alias) : Alias where
  kind := x.kind
  value :=
    match x.kind with
    | .email | .domain => Text.lowercase (Text.trim x.value)
    | _ => Text.trim x.value
  realmId := Text.trim x.realmId

/-- What is hashed to stand for an alias: realm, kind as it is shown, and value of its normal
spelling. -/
def preimage (x : Alias) : List UInt8 :=
  let normal := x.normalize
  (Value.object [("realm_id", .string normal.realmId), ("type", .string (toString normal.kind)),
    ("value", .string normal.value)]).canonicalOctets

/-- The hash under which a member record lists an alias. -/
def hash (x : Alias) : String := Digest.sha256Text x.preimage

end Alias

end OpenBanking
