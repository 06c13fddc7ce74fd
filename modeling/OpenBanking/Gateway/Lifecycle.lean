import OpenBanking.Gateway.Channel
import OpenBanking.Gateway.Event

/-!
# Lifecycles of channels

Calls may overlap, and a shutdown may wait while calls are under way. A lifecycle is a channel
with the shutdowns that were begun; it says what becomes of both when a call begins or ends,
and what is logged.
-/

namespace OpenBanking

/-- What a shutdown logs when its wait is over. -/
def Channel.shutdownEvent (channel : Channel) (timeout : Nat) : Event :=
  if channel.isDrained then .channelShutDown else .channelNotDrained channel.inFlight timeout

/-- A shutdown that was begun. -/
structure Shutdown where
  /-- Longest wait, in milliseconds. -/
  timeout : Nat
  /-- It has seen the channel without calls. -/
  drained : Bool := false
deriving DecidableEq

/-- A channel with the shutdowns that were begun, the latest first. -/
structure Lifecycle where
  /-- The channel. -/
  channel : Channel := {}
  /-- Shutdowns whose outcome has not been asked for. -/
  shutdowns : List Shutdown := []
  /-- What was logged, in order. -/
  events : List Event := []

namespace Lifecycle

/-- Logs an event. -/
def log (life : Lifecycle) (event : Event) : Lifecycle :=
  { life with events := life.events ++ [event] }

/-- Shutdowns that wait are over as soon as no call is under way. -/
def settle (life : Lifecycle) : Lifecycle :=
  if life.channel.isDrained then
    { life with
      shutdowns := life.shutdowns.map fun shutdown => { shutdown with drained := true }
      events := life.events
        ++ (life.shutdowns.filter (!·.drained)).map fun _ => Event.channelShutDown }
  else life

/-- A call begins. A closed channel refuses it. -/
def begin (life : Lifecycle) (method : Method) (headers : Headers) (body : List UInt8) :
    Except ClientError Call × Lifecycle :=
  match life.channel.admit? with
  | none => (.error .channelClosed, life)
  | some channel => (.ok (channel.callOf method headers body), { life with channel })

/-- A call comes to its end with a result. -/
def finish {α : Type} (life : Lifecycle) (method : Method) (elapsed : Nat)
    (result : Except ClientError α) : Lifecycle :=
  ({ life with channel := life.channel.release }.log (.ofResult method elapsed result)).settle

/-- A call is given up. -/
def cancel (life : Lifecycle) : Lifecycle :=
  { life with channel := life.channel.release }.settle

/-- Begins a shutdown; it may be over at once. -/
def beginShutdown (life : Lifecycle) (timeout : Nat) : Bool × Lifecycle :=
  let life :=
    { life with
      channel := life.channel.close
      shutdowns := { timeout } :: life.shutdowns }.settle
  (life.channel.isDrained, life)

/-- Waits until the latest shutdown is over; tells whether it saw the channel without calls. -/
def joinShutdown (life : Lifecycle) : Bool × Lifecycle :=
  match life.shutdowns with
  | [] => (life.channel.isDrained, life)
  | shutdown :: shutdowns =>
    let life := { life with shutdowns }
    if shutdown.drained then (true, life)
    else (false, life.log (life.channel.shutdownEvent shutdown.timeout))

/-- A shutdown from its begin to its end. -/
def shutdown (life : Lifecycle) (timeout : Nat) : Bool × Lifecycle :=
  (life.beginShutdown timeout).2.joinShutdown

end Lifecycle

end OpenBanking
