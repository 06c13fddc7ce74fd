import OpenBanking.Cluster
import OpenBanking.Flow
import OpenBanking.Gateway.Lifecycle
import OpenBanking.Keys.Store
import OpenBanking.Text.Uuid

/-!
# Sessions

A session is what all parts of a client share: the channel with the gateway behind it, the
keys of members, the clock, and what has been sent and logged so far. `Session.send` is the
only way to the gateway.
-/

namespace OpenBanking

open Json

/-- What the gateway does with a call. -/
structure Answer where
  /-- The body of the answer, or why there is none. -/
  result : Except ClientError (List UInt8)
  /-- What the clock says when it arrives, in milliseconds since 1970. -/
  arrival : Int64

/-- How the gateway answers a call, after the calls before it. -/
abbrev Gateway := (earlier : List Call) → Call → Answer

/-- What all parts of a client share. -/
structure Session where
  /-- The cluster. -/
  cluster : Cluster
  /-- The way to the gateway. -/
  channel : Channel
  /-- The gateway. -/
  gateway : Gateway
  /-- The keys of members. -/
  keys : KeyStore
  /-- Seeds for new keys. -/
  seeds : List String
  /-- Random octets, sixteen for each new member. -/
  entropy : Nat → List UInt8
  /-- What the clock says, in milliseconds since 1970. -/
  now : Int64
  /-- The calls that reached the gateway, in order. -/
  calls : List Call := []
  /-- What was logged, in order. -/
  events : List Event := []

namespace Session

/-- The session with one more event. -/
def log (session : Session) (event : Event) : Session :=
  { session with events := session.events ++ [event] }

/-- Logs an event. -/
def emit (event : Event) : Flow Session Unit := .change (·.log event)

/-- Sends a call and waits for its answer. A closed channel refuses it. -/
def send (method : Method) (headers : Headers) (body : List UInt8) :
    Flow Session (List UInt8) := fun session =>
  match session.channel.admit? with
  | none => (.error .channelClosed, session)
  | some channel =>
    let call := channel.callOf method headers body
    let answer := session.gateway session.calls call
    let elapsed := (answer.arrival.toInt - session.now.toInt).toNat
    let later :=
      { session with
        channel := channel.release
        calls := session.calls ++ [call]
        now := answer.arrival }
    (answer.result, later.log (.ofResult method elapsed answer.result))

/-- The value of an answer. An empty body is an object without members. -/
def readAnswer {α : Type} [Wire α] (body : List UInt8) : Except ClientError α :=
  match decode (if body.isEmpty then Utf8.encode "\x7b\x7d" else body) with
  | .ok x => .ok x
  | .error error => .error (.serialization error)

/-- Sends a value that carries headers, and reads the value of the answer. -/
def exchange {α β : Type} [Wire α] [Wire β] (method : Method) (headers : Headers) (x : α) :
    Flow Session β := do
  let body ← send method headers (encode x)
  .ofExcept (readAnswer body)

/-- Closes the channel and waits for calls under way, which are none between two flows. -/
def shutdown : Flow Session Unit := .change fun session =>
  { session with channel := session.channel.close }.log
    (session.channel.shutdownEvent Channel.shutdownTimeout)

/-- A random identifier. -/
def freshNonce : Flow Session String := fun session =>
  (.ok (Uuid.ofOctets (session.entropy 0)),
    { session with entropy := fun n => session.entropy (n + 1) })

/-- A new key of a level; the seed is spent also if it is none. -/
def freshKey (level : KeyLevel) : Flow Session SecretKey := fun session =>
  match session.seeds with
  | [] => (.error (.crypto .seedsSpent), session)
  | seed :: later => (Flow.ofCrypto (SecretKey.ofSeed seed level)) { session with seeds := later }

/-- Shows the cluster and whether the channel is closed. -/
def description (session : Session) : String :=
  Text.described "TokenClient"
    [("cluster", session.cluster.label),
      ("closed", if session.channel.closed then "true" else "false")]

end Session

end OpenBanking
