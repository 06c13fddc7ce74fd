import OpenBanking.Cluster
import OpenBanking.Gateway.Channel
import OpenBanking.Gateway.Endpoint

/-!
# Configuration

What a client is told before it is built: the cluster, where it is reached, and the key of
the developer. Settings come one by one or from the environment; a variable whose text cannot
be read leaves what was there.
-/

namespace OpenBanking

namespace Config

/-- Where a gateway listens for encrypted connections. -/
def tlsPort : UInt16 := 443

/-- The wait for a response where none is set: ten seconds. -/
def defaultTimeout : Duration := .ofNat 10000

end Config

/-- What a client is told. -/
structure Config where
  /-- The cluster. -/
  cluster : Cluster := .sandbox
  /-- The host of the gateway. -/
  host : String := Cluster.sandbox.host
  /-- Where at the host the gateway listens. -/
  tcpPort : UInt16 := Config.tlsPort
  /-- Whether the connection is encrypted. -/
  usesTls : Bool := true
  /-- Longest wait for a response. -/
  timeout : Duration := Config.defaultTimeout
  /-- A certificate that is trusted beside the usual ones. -/
  rootCertificate : Option (List UInt8) := none
  /-- The key of the developer. -/
  developerKey : Option String := none
deriving DecidableEq

namespace Config

/-- One thing to tell a client. -/
inductive Setting where
  /-- The cluster; its host comes with it. -/
  | cluster (cluster : Cluster)
  /-- The host of the gateway. -/
  | host (host : String)
  /-- Where at the host the gateway listens; encryption comes with it. -/
  | tcpPort (tcpPort : UInt16)
  /-- Longest wait for a response. -/
  | timeout (timeout : Duration)
  /-- A certificate that is trusted beside the usual ones. -/
  | rootCertificate (document : List UInt8)
  /-- The key of the developer. -/
  | developerKey (key : String)
deriving DecidableEq

/-- The configuration after a setting. -/
def set (config : Config) : Setting → Config
  | .cluster cluster => { config with cluster, host := cluster.host }
  | .host host => { config with host }
  | .tcpPort tcpPort => { config with tcpPort, usesTls := tcpPort = tlsPort }
  | .timeout timeout => { config with timeout }
  | .rootCertificate document => { config with rootCertificate := some document }
  | .developerKey key => { config with developerKey := some key }

/-- The configuration after settings in order. -/
def setAll (config : Config) (settings : List Setting) : Config := settings.foldl set config

/-- The setting of a variable, if its text can be read. -/
def settingOf? (read : String → Option Setting) : Option String → List Setting
  | none => []
  | some text => (read text).toList

/-- The settings of an environment. The host stands after the cluster, and so overrides the
one that comes with it. -/
def environmentSettings (lookup : String → Option String) : List Setting :=
  settingOf? (fun text => (Cluster.ofText? text).map .cluster) (lookup "TOKEN_CLUSTER")
    ++ settingOf? (fun text => some (.host text)) (lookup "TOKEN_HOST")
    ++ settingOf?
        (fun text => (Text.bounded? UInt16.size text).map fun n => .tcpPort (UInt16.ofNat n))
        (lookup "TOKEN_PORT")
    ++ settingOf?
        (fun text => (Text.bounded? UInt64.size text).map fun n => .timeout (.ofNat n))
        (lookup "TOKEN_TIMEOUT_MS")
    ++ settingOf? (fun text => some (.developerKey text)) (lookup "TOKEN_DEV_KEY")

/-- The configuration of an environment. -/
def ofEnvironment (lookup : String → Option String) : Config :=
  ({} : Config).setAll (environmentSettings lookup)

/-- Where the gateway is reached. -/
def endpoint (config : Config) : Endpoint where
  host := config.host
  tcpPort := config.tcpPort
  usesTls := config.usesTls
  timeout := config.timeout
  rootCertificate := config.rootCertificate

/-- What is said where the key of the developer is missing. -/
def missingDeveloperKey : String :=
  "Please provide a developer key. Contact Token for more details."

/-- The channel of a client, whose calls all carry the key of the developer. There is none
without a key that holds more than blanks. -/
def channel (config : Config) : Except ClientError Channel :=
  match config.developerKey with
  | none => .error (.configuration missingDeveloperKey)
  | some key =>
    if (Text.trim key).isEmpty then .error (.configuration missingDeveloperKey)
    else
      .ok
        { headers :=
            [(HeaderName.developerKey, key), (HeaderName.platform, platformName),
              (HeaderName.version, versionName)] }

end Config

end OpenBanking
