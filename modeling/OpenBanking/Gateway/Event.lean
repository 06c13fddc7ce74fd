import OpenBanking.ClientError
import OpenBanking.Eidas
import OpenBanking.Gateway.Method

/-!
# Events

What a client writes to the log. Each event has a severity, a message and fields.
-/

namespace OpenBanking

open Json

/-- How much attention an event deserves. -/
inductive Severity where
  /-- For those who look for faults. -/
  | debug
  /-- For all. -/
  | info
  /-- Something is not as it should be. -/
  | warn
deriving DecidableEq

/-- Names in the log. -/
instance : Named Severity where
  all := [.debug, .info, .warn]
  name
    | .debug => "DEBUG"
    | .info => "INFO"
    | .warn => "WARN"
  mem_all x := by cases x <;> simp
  names_nodup := by decide

/-- The name of a status of a verification in the log. -/
def EidasStatus.label : EidasStatus → String
  | .invalid => "Invalid"
  | .pending => "Pending"
  | .success => "Success"
  | .failureEidasInvalid => "FailureEidasInvalid"
  | .failureError => "FailureError"

/-- What is written to the log. -/
inductive Event where
  /-- A call was answered. -/
  | callSucceeded (method : Method) (elapsed : Nat)
  /-- A call failed. -/
  | callFailed (method : Method) (elapsed : Nat) (error : ClientError)
  /-- A channel was shut down with no call under way. -/
  | channelShutDown
  /-- Calls were still under way when the wait was over. -/
  | channelNotDrained (inFlight timeout : Nat)
  /-- A member was created. -/
  | memberCreated (memberId : String)
  /-- A member was recovered by the word of agents. -/
  | memberRecovered (memberId : String)
  /-- A member was recovered by the word of the default agent. -/
  | memberRecoveredByDefault (memberId : String)
  /-- A certificate was sent to be verified. -/
  | eidasSubmitted (memberId : String) (status : EidasStatus)
deriving DecidableEq

namespace Event

/-- The event of a call that came to its end. -/
def ofResult {α : Type} (method : Method) (elapsed : Nat) : Except ClientError α → Event
  | .ok _ => .callSucceeded method elapsed
  | .error error => .callFailed method elapsed error

/-- How much attention an event deserves. -/
def severity : Event → Severity
  | .callSucceeded .. | .callFailed .. | .channelShutDown => .debug
  | .channelNotDrained .. => .warn
  | .memberCreated _ | .memberRecovered _ | .memberRecoveredByDefault _ => .info
  | .eidasSubmitted .. => .info

/-- The message of an event. -/
def message : Event → String
  | .callSucceeded .. => "gateway call succeeded"
  | .callFailed .. => "gateway call failed"
  | .channelShutDown => "gateway channel shut down"
  | .channelNotDrained .. => "gateway channel did not drain before shutdown timeout"
  | .memberCreated _ => "member created"
  | .memberRecovered _ => "member recovered"
  | .memberRecoveredByDefault _ => "member recovered with default rule"
  | .eidasSubmitted .. => "eIDAS verification submitted"

/-- The fields of an event. -/
def fields : Event → List (String × Value)
  | .callSucceeded method elapsed =>
    [("method", .string (nameOf method)), ("elapsed_ms", .number (.whole elapsed))]
  | .callFailed method elapsed error =>
    [("method", .string (nameOf method)), ("elapsed_ms", .number (.whole elapsed)),
      ("error", .string error.message)]
  | .channelShutDown => []
  | .channelNotDrained inFlight timeout =>
    [("in_flight", .number (.whole inFlight)), ("timeout_ms", .number (.whole timeout))]
  | .memberCreated memberId | .memberRecovered memberId | .memberRecoveredByDefault memberId =>
    [("member_id", .string memberId)]
  | .eidasSubmitted memberId status =>
    [("member_id", .string memberId), ("status", .string status.label)]

end Event

end OpenBanking
