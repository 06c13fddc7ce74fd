import OpenBanking.Gateway.Call

/-!
# Channels

A channel carries calls to the gateway. It adds headers that every call has, counts the
calls under way, and once it is closed it takes no more. A shutdown closes the channel and
has drained it as soon as no call is under way.
-/

namespace OpenBanking

/-- The way to the gateway. -/
structure Channel where
  /-- The headers of every call. -/
  headers : Headers := []
  /-- It takes no more calls. -/
  closed : Bool := false
  /-- The number of calls under way. -/
  inFlight : Nat := 0
deriving DecidableEq

namespace Channel

/-- Longest wait of a shutdown for calls under way, in milliseconds. -/
def shutdownTimeout : Nat := 10000

/-- A call as the gateway gets it. -/
def callOf (channel : Channel) (method : Method) (headers : Headers) (body : List UInt8) : Call :=
  ⟨method, channel.headers ++ headers, body⟩

/-- Takes in one more call, unless it is closed. -/
def admit? (channel : Channel) : Option Channel :=
  if channel.closed then none else some { channel with inFlight := channel.inFlight + 1 }

/-- A call has come to its end. -/
def release (channel : Channel) : Channel := { channel with inFlight := channel.inFlight - 1 }

/-- Takes no more calls. -/
def close (channel : Channel) : Channel := { channel with closed := true }

/-- No call is under way. -/
def isDrained (channel : Channel) : Bool := channel.inFlight = 0

/-- A call that is admitted and comes to its end leaves no trace. -/
theorem release_of_admit? {channel admitted : Channel} (h : channel.admit? = some admitted) :
    admitted.release = channel := by
  unfold admit? at h
  split at h
  · simp at h
  · cases h
    simp [release]

end Channel

end OpenBanking
