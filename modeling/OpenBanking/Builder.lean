import OpenBanking.Config

/-!
# Building clients

A client is built from its configuration and from parts that may be replaced: the way calls are
carried, the engines that hold the keys of members, and the store behind the usual engines. A
part that nobody replaces is the usual one.
-/

namespace OpenBanking

/-- What a client is built from. -/
structure Builder (Store Engines Transport : Type) where
  /-- What the client is told. -/
  config : Config := {}
  /-- Where the usual engines keep the keys of members. -/
  store : Option Store := none
  /-- Engines in place of the usual ones. -/
  engines : Option Engines := none
  /-- What carries calls in place of HTTP. -/
  transport : Option Transport := none

/-- The usual parts. -/
structure UsualParts (Store Engines Transport : Type) where
  /-- HTTP to an endpoint, unless it cannot be set up. -/
  overHttp : Endpoint → Except ClientError Transport
  /-- An empty store. -/
  store : Store
  /-- Engines over a store. -/
  engines : Store → Engines

/-- What a client is made of. -/
structure ClientParts (Engines Transport : Type) where
  /-- The way to the gateway. -/
  channel : Channel
  /-- What carries the calls of the channel. -/
  transport : Transport
  /-- The engines that hold the keys of members. -/
  engines : Engines
  /-- The cluster. -/
  cluster : Cluster

namespace Builder

/-- One thing to set. -/
inductive Setting (Store Engines Transport : Type) where
  /-- A setting of the configuration. -/
  | config (setting : Config.Setting)
  /-- Where the usual engines keep the keys of members. -/
  | store (store : Store)
  /-- Engines in place of the usual ones, whatever their store. -/
  | engines (engines : Engines)
  /-- What carries calls in place of HTTP. -/
  | transport (transport : Transport)

variable {Store Engines Transport : Type}

/-- A builder to begin with, in an environment if there is one. -/
def start (environment : Option (String → Option String)) : Builder Store Engines Transport :=
  match environment with
  | some lookup => { config := Config.ofEnvironment lookup }
  | none => {}

/-- The builder after a setting. -/
def set (builder : Builder Store Engines Transport) :
    Setting Store Engines Transport → Builder Store Engines Transport
  | .config setting => { builder with config := builder.config.set setting }
  | .store store => { builder with store := some store }
  | .engines engines => { builder with engines := some engines }
  | .transport transport => { builder with transport := some transport }

/-- The builder after settings in order. -/
def setAll (builder : Builder Store Engines Transport)
    (settings : List (Setting Store Engines Transport)) : Builder Store Engines Transport :=
  settings.foldl set builder

/-- The parts of the client. The key of the developer is looked at first. -/
def build (usual : UsualParts Store Engines Transport)
    (builder : Builder Store Engines Transport) :
    Except ClientError (ClientParts Engines Transport) := do
  let channel ← builder.config.channel
  let transport ←
    match builder.transport with
    | some transport => pure transport
    | none => usual.overHttp builder.config.endpoint
  let engines := builder.engines.getD (usual.engines (builder.store.getD usual.store))
  return ⟨channel, transport, engines, builder.config.cluster⟩

end Builder

end OpenBanking
