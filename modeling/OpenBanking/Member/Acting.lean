import OpenBanking.Client.Accounts
import OpenBanking.Client.Own

/-!
# Members that act

A member that acts is its last known record with the client that acts for it. Whatever
changes the record begins with the record that the gateway has now, and the record that the
gateway answers takes the place of the known one; where that fails, the known one stays.
-/

namespace OpenBanking

/-- A member that acts. -/
structure Member where
  /-- The last known record. -/
  record : MemberRecord
  /-- Acts for the member. -/
  client : Client
  /-- The cluster that it lives in. -/
  cluster : Cluster
deriving DecidableEq

namespace Member

/-- The id of the member. -/
def id (member : Member) : String := member.record.id

/-- The known keys of the member. -/
def keys (member : Member) : List Key := member.record.keys

/-- Puts the record that a flow gives in place of the known one. -/
def renew (flow : Member → Flow Session MemberRecord) : Flow (Member × Session) Unit := do
  let member ← Flow.read (·.1)
  let record ← Flow.onSecond (flow member)
  Flow.change fun (member, session) => ({ member with record }, session)

/-- Fetches the record. -/
def refresh : Flow (Member × Session) Unit :=
  renew fun member => member.client.getMember member.id

/-- Applies operations to the record that the gateway has now. -/
def update (operations : List MemberOperation) (metadata : List OperationMetadata) :
    Flow (Member × Session) Unit :=
  renew fun member => do
    let latest ← member.client.getMember member.id
    member.client.updateMember latest operations metadata

/-- Adds keys in one update. -/
def addKeys (keys : List Key) : Flow (Member × Session) Unit :=
  update (keys.map .ofKey) []

/-- Adds a key. -/
def addKey (key : Key) : Flow (Member × Session) Unit := addKeys [key]

/-- Removes keys in one update. -/
def removeKeys (keyIds : List String) : Flow (Member × Session) Unit :=
  update (keyIds.map .withoutKey) []

/-- Removes a key. -/
def removeKey (keyId : String) : Flow (Member × Session) Unit := removeKeys [keyId]

/-- Adds aliases in one update, which also tells them in their normal spelling. -/
def addAliases (aliases : List Alias) : Flow (Member × Session) Unit :=
  let normal := aliases.map (·.normalize)
  update (normal.map .ofAlias) (normal.map .ofAlias)

/-- Adds an alias. -/
def addAlias (x : Alias) : Flow (Member × Session) Unit := addAliases [x]

/-- Removes aliases in one update. -/
def removeAliases (aliases : List Alias) : Flow (Member × Session) Unit :=
  update (aliases.map .withoutAlias) []

/-- Removes an alias. -/
def removeAlias (x : Alias) : Flow (Member × Session) Unit := removeAliases [x]

/-- Lets the default agent recover the member. -/
def useDefaultRecoveryRule : Flow (Member × Session) Unit :=
  renew fun member => member.client.useDefaultRecoveryRule

/-- The first alias of the member. -/
def firstAlias (member : Member) : Flow Session (Option Alias) := do
  let aliases ← member.client.getAliases
  return aliases.head?

end Member

end OpenBanking
