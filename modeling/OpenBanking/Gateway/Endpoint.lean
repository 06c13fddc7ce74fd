import OpenBanking.ClientError
import OpenBanking.Gateway.Call

/-!
# Calls over HTTP

Where a gateway listens, the request that a call becomes, and what a response makes of it.
A response that reports no success is an error; without a response the gateway cannot be
reached.
-/

namespace OpenBanking

/-- A stretch of time. -/
structure Duration where
  /-- Whole seconds. -/
  seconds : UInt64
  /-- Nanoseconds that are left, less than a second. -/
  nanoseconds : Fin 1000000000
deriving DecidableEq

namespace Duration

/-- So many milliseconds. -/
def ofNat (milliseconds : Nat) : Duration :=
  ⟨UInt64.ofNat (milliseconds / 1000), ⟨milliseconds % 1000 * 1000000, by omega⟩⟩

/-- The whole milliseconds. -/
def toNat (duration : Duration) : Nat :=
  duration.seconds.toNat * 1000 + duration.nanoseconds / 1000000

/-- Milliseconds come back, as long as the seconds have room for them. -/
theorem toNat_ofNat {milliseconds : Nat} (room : milliseconds < 1000 * UInt64.size) :
    (ofNat milliseconds).toNat = milliseconds := by
  have seconds : (UInt64.ofNat (milliseconds / 1000)).toNat = milliseconds / 1000 :=
    UInt64.toNat_ofNat_of_lt (by omega)
  simp only [ofNat, toNat, seconds]
  omega

end Duration

/-- Where and how a gateway is reached. -/
structure Endpoint where
  /-- The host. -/
  host : String
  /-- Where at the host it listens. -/
  tcpPort : UInt16
  /-- Whether the connection is encrypted. -/
  usesTls : Bool
  /-- Longest wait for a response. -/
  timeout : Duration
  /-- A certificate that is trusted beside the usual ones. -/
  rootCertificate : Option (List UInt8)
deriving DecidableEq

/-- Where the paths of an endpoint begin. -/
def Endpoint.baseUrl (endpoint : Endpoint) : String :=
  (if endpoint.usesTls then "https" else "http") ++ "://" ++ endpoint.host ++ ":"
    ++ String.ofList (Text.natural endpoint.tcpPort.toNat)

/-- A response. -/
structure HttpResponse where
  /-- The status. -/
  status : Nat
  /-- The body. -/
  body : List UInt8
deriving DecidableEq

/-- What a response makes of a call. -/
def HttpResponse.result (response : HttpResponse) : Except ClientError (List UInt8) :=
  if isHttpSuccess response.status then .ok response.body
  else .error (.ofResponse response.status response.body)

/-- A request to post. -/
structure HttpRequest where
  /-- The first line. -/
  line : String
  /-- The headers. -/
  headers : Headers
  /-- The body. -/
  body : List UInt8
deriving DecidableEq

/-- The request that a call becomes. -/
def HttpRequest.ofCall (call : Call) : HttpRequest where
  line := "POST " ++ call.method.path ++ " HTTP/1.1"
  headers := ("content-type", "application/json") :: call.headers
  body := call.body

/-- What becomes of a call, where `peer` tells the response to a request, if there is one. -/
def Call.overHttp (peer : HttpRequest → Option HttpResponse) (call : Call) :
    Except ClientError (List UInt8) :=
  match peer (.ofCall call) with
  | some response => response.result
  | none => .error .http

end OpenBanking
