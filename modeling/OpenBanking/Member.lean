import OpenBanking.Alias
import OpenBanking.Key

/-!
# Members

A member is known to the gateway by a record: its keys, the hashes of its aliases, and the
hash of the last update, which the next one names.
-/

namespace OpenBanking

open Json

/-- What kind of member is created. -/
inductive MemberKind where
  /-- A person. -/
  | personal
  /-- A business. -/
  | business
  /-- A member for one request. -/
  | transient
deriving DecidableEq

/-- Wire names. -/
instance : Named MemberKind where
  all := [.personal, .business, .transient]
  name
    | .personal => "PERSONAL"
    | .business => "BUSINESS"
    | .transient => "TRANSIENT"
  mem_all x := by cases x <;> simp
  names_nodup := by decide

/-- Written as its name. -/
instance : Wire MemberKind := ⟨.named MemberKind⟩

/-- How kinds are shown. -/
instance : ToString MemberKind where
  toString
    | .personal => "PERSONAL"
    | .business => "BUSINESS"
    | .transient => "TRANSIENT"

/-- The value where none is given. -/
instance : Inhabited MemberKind := ⟨.personal⟩

/-- Who may vouch for a member that has lost its keys. -/
structure RecoveryRule where
  /-- The agent whose word is needed. -/
  primaryAgent : String := ""
  /-- Agents of whom one has to agree. -/
  secondaryAgents : List String := []
deriving DecidableEq

namespace RecoveryRule

/-- All fields at their defaults. -/
instance : Inhabited RecoveryRule := ⟨{}⟩

/-- Members of the JSON object. -/
def fields : Fields (String × List String × Unit) :=
  .cons (.required "primary_agent") <| .cons (.withDefault "secondary_agents" []) .nil

/-- Written as an object of its fields. -/
instance : Wire RecoveryRule where
  codec := .record "RecoveryRule" fields
    (fun (primaryAgent, secondaryAgents, ()) => ⟨primaryAgent, secondaryAgents⟩)
    fun x => (x.primaryAgent, x.secondaryAgents, ())

end RecoveryRule

/-- A member as the gateway keeps it. -/
structure MemberRecord where
  /-- Names the member. -/
  id : String := ""
  /-- Hash of the last update. -/
  lastHash : String := ""
  /-- Hashes of its aliases. -/
  aliasHashes : List String := []
  /-- Its approved keys. -/
  keys : List Key := []
  /-- Its recovery rule, if it has one. -/
  recoveryRule : Option RecoveryRule := none
  /-- What kind of member it is. -/
  kind : MemberKind := .personal
  /-- The realm it was created in; empty outside realms. -/
  realmId : String := ""
deriving DecidableEq

namespace MemberRecord

/-- All fields at their defaults. -/
instance : Inhabited MemberRecord := ⟨{}⟩

/-- Members of the JSON object. -/
def fields :
    Fields (String × String × List String × List Key × Option RecoveryRule × MemberKind × String
      × Unit) :=
  .cons (.required "id") <| .cons (.required "last_hash") <|
  .cons (.withDefault "alias_hashes" []) <| .cons (.withDefault "keys" []) <|
  .cons (.optional "recovery_rule") <| .cons (.withDefault "member_type" .personal) <|
  .cons (.withDefault "realm_id" "") .nil

/-- Written as an object of its fields. -/
instance : Wire MemberRecord where
  codec := .record "Member" fields
    (fun (id, lastHash, aliasHashes, keys, recoveryRule, kind, realmId, ()) =>
      ⟨id, lastHash, aliasHashes, keys, recoveryRule, kind, realmId⟩)
    fun x => (x.id, x.lastHash, x.aliasHashes, x.keys, x.recoveryRule, x.kind, x.realmId, ())

end MemberRecord

/-- A member named by its id, an alias, or both. -/
structure Party where
  /-- Its id; empty if it is not known. -/
  id : String := ""
  /-- One of its aliases. -/
  knownAs : Option Alias := none
deriving DecidableEq

namespace Party

/-- All fields at their defaults. -/
instance : Inhabited Party := ⟨{}⟩

/-- Members of the JSON object. -/
def fields : Fields (String × Option Alias × Unit) :=
  .cons (.withDefault "id" "") <| .cons (.optional "alias") .nil

/-- Written as an object of its fields. -/
instance : Wire Party where
  codec := .record "TokenMember" fields
    (fun (id, knownAs, ()) => ⟨id, knownAs⟩)
    fun x => (x.id, x.knownAs, ())

end Party

/-- The keys of a device that is to be linked to a member. -/
structure DeviceKeys where
  /-- The member. -/
  memberId : String
  /-- Keys that the member has yet to approve. -/
  keys : List Key
deriving DecidableEq

namespace DeviceKeys

/-- Members of the JSON object. -/
def fields : Fields (String × List Key × Unit) :=
  .cons (.required "member_id") <| .cons (.required "keys") .nil

/-- Written as an object of its fields. -/
instance : Wire DeviceKeys where
  codec := .record "DeviceInfo" fields
    (fun (memberId, keys, ()) => ⟨memberId, keys⟩)
    fun x => (x.memberId, x.keys, ())

end DeviceKeys

/-- What an agent signs to vouch for a new key of a member. -/
structure Authorization where
  /-- The member. -/
  memberId : String := ""
  /-- Hash of its last update. -/
  prevHash : String := ""
  /-- The new key. -/
  memberKey : Key := {}
deriving DecidableEq

namespace Authorization

/-- All fields at their defaults. -/
instance : Inhabited Authorization := ⟨{}⟩

/-- Members of the JSON object. -/
def fields : Fields (String × String × Key × Unit) :=
  .cons (.required "member_id") <| .cons (.required "prev_hash") <|
  .cons (.required "member_key") .nil

/-- Written as an object of its fields. -/
instance : Wire Authorization where
  codec := .record "Authorization" fields
    (fun (memberId, prevHash, memberKey, ()) => ⟨memberId, prevHash, memberKey⟩)
    fun x => (x.memberId, x.prevHash, x.memberKey, ())

end Authorization

/-- An authorization with the signature of the agent. -/
structure RecoveryEntry where
  /-- What was signed. -/
  authorization : Authorization := {}
  /-- The signature of the agent. -/
  agentSignature : Signature := {}
deriving DecidableEq

namespace RecoveryEntry

/-- All fields at their defaults. -/
instance : Inhabited RecoveryEntry := ⟨{}⟩

/-- Members of the JSON object. -/
def fields : Fields (Authorization × Signature × Unit) :=
  .cons (.required "authorization") <| .cons (.required "agent_signature") .nil

/-- Written as an object of its fields. -/
instance : Wire RecoveryEntry where
  codec := .record "MemberRecoveryOperation" fields
    (fun (authorization, agentSignature, ()) => ⟨authorization, agentSignature⟩)
    fun x => (x.authorization, x.agentSignature, ())

end RecoveryEntry

end OpenBanking
