import OpenBanking.Json.Choice

/-!
# Statuses

The outcome that the gateway reports of a call. Where only the status of an HTTP response is
known, `Status.ofHttp` gives the closest one.
-/

namespace OpenBanking

open Json

/-- The outcome of a call. -/
inductive Status where
  /-- No error. -/
  | ok
  /-- The caller gave up. -/
  | cancelled
  /-- Nothing more is known. -/
  | unknown
  /-- The request is malformed. -/
  | invalidArgument
  /-- The deadline passed. -/
  | deadlineExceeded
  /-- There is no such thing. -/
  | notFound
  /-- There is such a thing already. -/
  | alreadyExists
  /-- The caller may not do it. -/
  | permissionDenied
  /-- A quota is used up. -/
  | resourceExhausted
  /-- The system is in no state to do it. -/
  | failedPrecondition
  /-- Another change came first. -/
  | aborted
  /-- Beyond the range. -/
  | outOfRange
  /-- The gateway does not do it. -/
  | unimplemented
  /-- The gateway failed. -/
  | internal
  /-- The gateway cannot be reached. -/
  | unavailable
  /-- Data are lost for good. -/
  | dataLoss
  /-- It is not known who calls. -/
  | unauthenticated
deriving DecidableEq

/-- Wire names. -/
instance : Named Status where
  all := [.ok, .cancelled, .unknown, .invalidArgument, .deadlineExceeded, .notFound,
    .alreadyExists, .permissionDenied, .resourceExhausted, .failedPrecondition, .aborted,
    .outOfRange, .unimplemented, .internal, .unavailable, .dataLoss, .unauthenticated]
  name
    | .ok => "OK"
    | .cancelled => "CANCELLED"
    | .unknown => "UNKNOWN"
    | .invalidArgument => "INVALID_ARGUMENT"
    | .deadlineExceeded => "DEADLINE_EXCEEDED"
    | .notFound => "NOT_FOUND"
    | .alreadyExists => "ALREADY_EXISTS"
    | .permissionDenied => "PERMISSION_DENIED"
    | .resourceExhausted => "RESOURCE_EXHAUSTED"
    | .failedPrecondition => "FAILED_PRECONDITION"
    | .aborted => "ABORTED"
    | .outOfRange => "OUT_OF_RANGE"
    | .unimplemented => "UNIMPLEMENTED"
    | .internal => "INTERNAL"
    | .unavailable => "UNAVAILABLE"
    | .dataLoss => "DATA_LOSS"
    | .unauthenticated => "UNAUTHENTICATED"
  mem_all x := by cases x <;> simp
  names_nodup := by decide

/-- A status is shown by its name. -/
instance : ToString Status := ⟨nameOf⟩

/-- An HTTP status that reports success. -/
def isHttpSuccess (http : Nat) : Bool := 200 ≤ http && http ≤ 299

/-- The status closest to one of HTTP. -/
def Status.ofHttp (http : Nat) : Status :=
  if isHttpSuccess http then .ok
  else
    match http with
    | 400 => .invalidArgument
    | 401 => .unauthenticated
    | 403 => .permissionDenied
    | 404 => .notFound
    | 409 => .aborted
    | 412 => .failedPrecondition
    | 429 => .resourceExhausted
    | 499 => .cancelled
    | 501 => .unimplemented
    | 503 => .unavailable
    | 504 => .deadlineExceeded
    | _ => if 500 ≤ http ∧ http ≤ 599 then .internal else .unknown

end OpenBanking
