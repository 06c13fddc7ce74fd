import OpenBanking.Json.Choice

/-!
# Clusters

The deployments of the gateway, each with its host.
-/

namespace OpenBanking

open Json

/-- A deployment of the gateway. -/
inductive Cluster where
  /-- For live traffic. -/
  | production
  /-- For partners. -/
  | integration
  /-- For everyone to try. -/
  | sandbox
  /-- For the next version. -/
  | staging
  /-- For load tests. -/
  | performance
  /-- For development. -/
  | development
deriving DecidableEq

/-- Names, all in lower case. -/
instance : Named Cluster where
  all := [.production, .integration, .sandbox, .staging, .performance, .development]
  name
    | .production => "production"
    | .integration => "integration"
    | .sandbox => "sandbox"
    | .staging => "staging"
    | .performance => "performance"
    | .development => "development"
  mem_all x := by cases x <;> simp
  names_nodup := by decide

/-- A cluster is shown by its name. -/
instance : ToString Cluster := ⟨nameOf⟩

/-- Where nothing is said, the sandbox. -/
instance : Inhabited Cluster := ⟨.sandbox⟩

namespace Cluster

/-- The host of a cluster. -/
def host : Cluster → String
  | .production => "api-grpc.token.io"
  | .integration => "api-grpc.int.token.io"
  | .sandbox => "api-grpc.sandbox.token.io"
  | .staging => "api-grpc.stg.token.io"
  | .performance => "api-grpc.perf.token.io"
  | .development => "api-grpc.dev.token.io"

/-- The cluster that a text names; ASCII letters may be of either case. -/
def ofText? (text : String) : Option Cluster :=
  ofName? (String.ofList (text.toList.map Char.toLower))

/-- The name of a cluster in descriptions. -/
def label : Cluster → String
  | .production => "Production"
  | .integration => "Integration"
  | .sandbox => "Sandbox"
  | .staging => "Staging"
  | .performance => "Performance"
  | .development => "Development"

end Cluster

end OpenBanking
