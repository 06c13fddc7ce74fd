import OpenBanking.Gateway.Identity
import OpenBanking.Gateway.Message

/-!
# Clients of members

A client makes calls as one member. It remembers on whose behalf account data are asked for,
whether a person asked, and what is told of the device. Calls about the member itself never
carry the first two.
-/

namespace OpenBanking

/-- Makes calls as one member. -/
structure Client where
  /-- The member. -/
  memberId : String
  /-- Its keys. -/
  engine : Engine
  /-- The access token of another member. -/
  accessToken : Option String := none
  /-- A person asked for the calls. -/
  customerInitiated : Bool := false
  /-- What is told of the device. -/
  tracking : Tracking := {}
deriving DecidableEq

namespace Client

/-- The client of a member on its own behalf. -/
def new (memberId : String) (engine : Engine) : Client := { memberId, engine }

/-- Acts under an access token from now on. -/
def useAccessToken (client : Client) (tokenId : String) : Client :=
  { client with accessToken := some tokenId }

/-- Acts on its own behalf from now on, and not because a person asked. -/
def clearAccessToken (client : Client) : Client :=
  { client with accessToken := none, customerInitiated := false }

/-- Says whether a person asks for the calls from now on. -/
def setCustomerInitiated (client : Client) (customerInitiated : Bool) : Client :=
  { client with customerInitiated }

/-- Tells of the device from now on. -/
def setTracking (client : Client) (tracking : Tracking) : Client := { client with tracking }

/-- Tells nothing of the device from now on. -/
def clearTracking (client : Client) : Client := { client with tracking := {} }

/-- Under what calls about the member are made, signed at a level. -/
def memberContext (client : Client) (level : KeyLevel) : CallContext :=
  { keyLevel := level, tracking := client.tracking }

/-- Under what calls about the member are made, as a rule. -/
def ownContext (client : Client) : CallContext := client.memberContext .low

/-- Under what calls about accounts are made, signed at a level. -/
def accountContext (client : Client) (level : KeyLevel) : CallContext where
  onBehalfOf := client.accessToken
  customerInitiated := client.customerInitiated
  keyLevel := level
  tracking := client.tracking

/-- The member under a context. -/
def identity (client : Client) (context : CallContext) : Identity :=
  ⟨client.memberId, client.engine, context⟩

/-- Shows the member and on whose behalf it acts. -/
def description (client : Client) : String :=
  Text.described "Client"
    [("member_id", Text.quoted client.memberId),
      ("on_behalf_of", Text.describedOption (client.accessToken.map Text.quoted)),
      ("customer_initiated", if client.customerInitiated then "true" else "false")]

end Client

end OpenBanking
