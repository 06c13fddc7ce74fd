import Mathlib.Data.String.Basic
import OpenBanking.Builder
import OpenBanking.Proofs.Json.Choice
import OpenBanking.Proofs.Text.Blank
import OpenBanking.Proofs.Text.Case
import OpenBanking.Proofs.Text.Numeral

/-!
# What clients are told

Encryption goes by the port alone, after any settings in any order. A variable of the environment
that says something is followed, one that says nothing leaves what is usual, and none changes what
another one says, except that a host stands above the host of a cluster. A client with a transport
of its own lacks nothing but the key of the developer.
-/

namespace OpenBanking

/-- What is told, or the usual value where nothing is told. -/
def IsToldOr {α : Type} (told : α → Prop) (usual x : α) : Prop :=
  (∀ y, told y → x = y) ∧ ((∀ y, ¬told y) → x = usual)

/-- A reader that finds exactly what is told decides between that and the usual value. -/
theorem isToldOr_getD {α : Type} {told : α → Prop} {found : Option α}
    (finds : ∀ y, found = some y ↔ told y) (usual : α) : IsToldOr told usual (found.getD usual) := by
  constructor
  · intro y said
    rw [(finds y).2 said, Option.getD_some]
  · intro unsaid
    have none : found = none := Option.eq_none_iff_forall_ne_some.2 fun y some =>
      unsaid y ((finds y).1 some)
    rw [none, Option.getD_none]

/-- A cluster is told by its name, in capitals or small letters. -/
theorem Cluster.ofText?_eq_some_iff {text : String} {cluster : Cluster} :
    ofText? text = some cluster ↔ Text.SameLetters text.toList (Json.nameOf cluster).toList := by
  have small : (Json.nameOf cluster).toList.map Char.toLower = (Json.nameOf cluster).toList := by
    cases cluster <;> decide
  rw [ofText?, Json.ofName?_eq_some_iff, Text.sameLetters_iff, small, String.ofList_eq]

/-- The address of an encrypted connection begins as such. -/
theorem Endpoint.https_isPrefix_iff (endpoint : Endpoint) :
    "https".toList <+: endpoint.baseUrl.toList ↔ endpoint.usesTls = true := by
  cases tls : endpoint.usesTls with
  | true => simp [baseUrl, tls]
  | false => simp [baseUrl, tls]

namespace Config

/-! ## Encryption -/

/-- Encryption goes by the port: what is used, and what the address says. -/
structure TlsByPort (config : Config) : Prop where
  /-- The connection is encrypted at one port only. -/
  usesTls_iff : config.usesTls = true ↔ config.tcpPort = 443
  /-- The address begins so at that port only. -/
  https_iff : "https".toList <+: config.endpoint.baseUrl.toList ↔ config.tcpPort = 443

/-- The address follows what is used. -/
theorem TlsByPort.of_usesTls {config : Config}
    (uses : config.usesTls = true ↔ config.tcpPort = 443) : config.TlsByPort :=
  ⟨uses, (Endpoint.https_isPrefix_iff _).trans uses⟩

/-- No setting parts encryption from the port. -/
theorem TlsByPort.set {config : Config} (before : config.TlsByPort) (setting : Setting) :
    (config.set setting).TlsByPort := by
  apply of_usesTls
  cases setting with
  | tcpPort tcpPort => exact decide_eq_true_iff
  | cluster | host | timeout | rootCertificate | developerKey => exact before.usesTls_iff

/-- No settings do. -/
theorem TlsByPort.setAll {config : Config} (before : config.TlsByPort) (settings : List Setting) :
    (config.setAll settings).TlsByPort := by
  induction settings generalizing config with
  | nil => exact before
  | cons setting settings ih => exact ih (before.set setting)

/-- The usual configuration is encrypted. -/
theorem tlsByPort_usual : ({} : Config).TlsByPort := .of_usesTls (by decide)

/-! ## The environment -/

/-- A variable writes a number that is not too large. -/
def Numbered (lookup : String → Option String) (name : String) (most n : Nat) : Prop :=
  ∃ text, lookup name = some text ∧ Text.IsNumeral text.toList n ∧ n ≤ most

/-- What the variables say, and what is usual where they say nothing. -/
structure Follows (lookup : String → Option String) (config : Config) : Prop where
  /-- The cluster is named, or it is the sandbox. -/
  cluster : IsToldOr (fun cluster => ∃ text, lookup "TOKEN_CLUSTER" = some text ∧
    Text.SameLetters text.toList (Json.nameOf cluster).toList) .sandbox config.cluster
  /-- The host is said, or it is that of the cluster. -/
  host : IsToldOr (fun host => lookup "TOKEN_HOST" = some host) config.cluster.host config.host
  /-- The port is a number that has room. -/
  tcpPort : IsToldOr (fun tcpPort : UInt16 => Numbered lookup "TOKEN_PORT" 65535 tcpPort.toNat)
    443 config.tcpPort
  /-- The wait is a number of milliseconds, or ten seconds. -/
  timeout : IsToldOr (fun timeout => ∃ n, Numbered lookup "TOKEN_TIMEOUT_MS" (2 ^ 64 - 1) n ∧
    timeout = .ofNat n) (.ofNat 10000) config.timeout
  /-- Each number of milliseconds has room. -/
  milliseconds : ∀ n, Numbered lookup "TOKEN_TIMEOUT_MS" (2 ^ 64 - 1) n → config.timeout.toNat = n
  /-- The key is said or missing. -/
  developerKey : config.developerKey = lookup "TOKEN_DEV_KEY"

/-- Each variable does the same beside whatever others: two environments that agree on it agree on
what it says. Only the host has two variables, and the cluster counts where no host is said. -/
structure Independent (lookup other : String → Option String) : Prop where
  /-- The cluster. -/
  cluster : lookup "TOKEN_CLUSTER" = other "TOKEN_CLUSTER" →
    (ofEnvironment lookup).cluster = (ofEnvironment other).cluster
  /-- A host that is said. -/
  host_of_isSome : lookup "TOKEN_HOST" = other "TOKEN_HOST" → (lookup "TOKEN_HOST").isSome = true →
    (ofEnvironment lookup).host = (ofEnvironment other).host
  /-- The host of a cluster. -/
  host : lookup "TOKEN_HOST" = other "TOKEN_HOST" → lookup "TOKEN_CLUSTER" = other "TOKEN_CLUSTER" →
    (ofEnvironment lookup).host = (ofEnvironment other).host
  /-- The port, and encryption with it. -/
  tcpPort : lookup "TOKEN_PORT" = other "TOKEN_PORT" →
    (ofEnvironment lookup).tcpPort = (ofEnvironment other).tcpPort ∧
    (ofEnvironment lookup).usesTls = (ofEnvironment other).usesTls
  /-- The wait. -/
  timeout : lookup "TOKEN_TIMEOUT_MS" = other "TOKEN_TIMEOUT_MS" →
    (ofEnvironment lookup).timeout = (ofEnvironment other).timeout
  /-- The key. -/
  developerKey : lookup "TOKEN_DEV_KEY" = other "TOKEN_DEV_KEY" →
    (ofEnvironment lookup).developerKey = (ofEnvironment other).developerKey

/-- The cluster that is named. -/
def cluster? (lookup : String → Option String) : Option Cluster :=
  (lookup "TOKEN_CLUSTER").bind Cluster.ofText?

/-- The port that is written. -/
def tcpPort? (lookup : String → Option String) : Option UInt16 :=
  ((lookup "TOKEN_PORT").bind (Text.bounded? UInt16.size)).map UInt16.ofNat

/-- The wait that is written. -/
def timeout? (lookup : String → Option String) : Option Duration :=
  ((lookup "TOKEN_TIMEOUT_MS").bind (Text.bounded? UInt64.size)).map Duration.ofNat

/-- A variable that is read into a setting is the setting of what is read from it. -/
theorem settingOf?_map {α : Type} (read : String → Option α) (make : α → Setting)
    (said : Option String) :
    settingOf? (fun text => (read text).map make) said = ((said.bind read).map make).toList := by
  cases said <;> rfl

/-- The configuration of an environment, field by field. -/
theorem ofEnvironment_eq (lookup : String → Option String) : ofEnvironment lookup =
    { cluster := (cluster? lookup).getD .sandbox
      host := (lookup "TOKEN_HOST").getD ((cluster? lookup).getD .sandbox).host
      tcpPort := (tcpPort? lookup).getD tlsPort
      usesTls := (tcpPort? lookup).getD tlsPort = tlsPort
      timeout := (timeout? lookup).getD defaultTimeout
      developerKey := lookup "TOKEN_DEV_KEY" } := by
  have said (make : String → Setting) (text : Option String) :
      settingOf? (fun text => some (make text)) text = (text.map make).toList := by
    cases text <;> rfl
  have number {α : Type} (convert : Nat → α) (make : α → Setting) (found : Option Nat) :
      found.map (fun n => make (convert n)) = (found.map convert).map make :=
    (Option.map_map make convert found).symm
  rw [ofEnvironment, environmentSettings, settingOf?_map, settingOf?_map, settingOf?_map, said, said,
    number UInt16.ofNat, number Duration.ofNat, ← cluster?, ← tcpPort?, ← timeout?]
  -- Each variable says something or nothing.
  cases cluster? lookup <;> cases lookup "TOKEN_HOST" <;> cases tcpPort? lookup <;>
    cases timeout? lookup <;> cases lookup "TOKEN_DEV_KEY" <;> rfl

/-- A number is read from a variable that writes it, if it is not too large. -/
theorem bind_bounded?_eq_some_iff {lookup : String → Option String} {name : String} {limit n : Nat} :
    (lookup name).bind (Text.bounded? (limit + 1)) = some n ↔ Numbered lookup name limit n := by
  rw [Option.bind_eq_some_iff]
  exact exists_congr fun text => and_congr_right fun _ =>
    Text.bounded?_eq_some_iff.trans (and_congr_right fun _ => Nat.lt_succ_iff)

/-- The port that is written has the number. -/
theorem tcpPort?_eq_some_iff {lookup : String → Option String} {tcpPort : UInt16} :
    tcpPort? lookup = some tcpPort ↔ Numbered lookup "TOKEN_PORT" 65535 tcpPort.toNat := by
  have read {n : Nat} : (lookup "TOKEN_PORT").bind (Text.bounded? UInt16.size) = some n ↔
      Numbered lookup "TOKEN_PORT" 65535 n := bind_bounded?_eq_some_iff
  rw [tcpPort?, Option.map_eq_some_iff]
  constructor
  · rintro ⟨n, found, rfl⟩
    obtain ⟨text, said, numeral, room⟩ := read.1 found
    have same : (UInt16.ofNat n).toNat = n := UInt16.toNat_ofNat_of_lt (Nat.lt_succ_of_le room)
    exact ⟨text, said, same.symm ▸ numeral, same.symm ▸ room⟩
  · intro numbered
    exact ⟨_, read.2 numbered, UInt16.ofNat_toNat⟩

/-- The wait that is written is so many milliseconds. -/
theorem timeout?_eq_some_iff {lookup : String → Option String} {timeout : Duration} :
    timeout? lookup = some timeout ↔
      ∃ n, Numbered lookup "TOKEN_TIMEOUT_MS" (2 ^ 64 - 1) n ∧ timeout = .ofNat n := by
  have read {n : Nat} : (lookup "TOKEN_TIMEOUT_MS").bind (Text.bounded? UInt64.size) = some n ↔
      Numbered lookup "TOKEN_TIMEOUT_MS" (2 ^ 64 - 1) n := bind_bounded?_eq_some_iff
  rw [timeout?, Option.map_eq_some_iff]
  exact exists_congr fun n => and_congr read eq_comm

/-- Configurations follow their environments. -/
theorem follows_ofEnvironment (lookup : String → Option String) :
    (ofEnvironment lookup).Follows lookup := by
  rw [ofEnvironment_eq]
  exact {
    cluster := isToldOr_getD (fun _ => by
      simp only [cluster?, Option.bind_eq_some_iff, Cluster.ofText?_eq_some_iff]) _
    host := isToldOr_getD (fun _ => Iff.rfl) _
    tcpPort := isToldOr_getD (fun _ => tcpPort?_eq_some_iff) _
    timeout := isToldOr_getD (fun _ => timeout?_eq_some_iff) _
    milliseconds := by
      intro n numbered
      have found : timeout? lookup = some (.ofNat n) := timeout?_eq_some_iff.2 ⟨n, numbered, rfl⟩
      obtain ⟨text, said, numeral, most⟩ := numbered
      rw [found]
      exact Duration.toNat_ofNat (Nat.lt_of_le_of_lt most (by decide))
    developerKey := rfl }

/-- Environments that agree on a variable agree on what it says. -/
theorem independent (lookup other : String → Option String) : Independent lookup other where
  cluster same := by simp only [ofEnvironment_eq, cluster?, same]
  host_of_isSome same said := by
    obtain ⟨host, said⟩ := Option.isSome_iff_exists.1 said
    rw [ofEnvironment_eq, ofEnvironment_eq, ← same, said]
    rfl
  host same cluster := by simp only [ofEnvironment_eq, cluster?, same, cluster]
  tcpPort same := by
    rw [ofEnvironment_eq, ofEnvironment_eq, tcpPort?, same, ← tcpPort?]
    exact ⟨rfl, rfl⟩
  timeout same := by simp only [ofEnvironment_eq, timeout?, same]
  developerKey same := by simp only [ofEnvironment_eq, same]

/-! ## The key of the developer -/

/-- No key of the developer is there, or it is blank. -/
def Keyless (config : Config) : Prop :=
  ∀ key, config.developerKey = some key → ∀ c ∈ key.toList, Text.isBlank c = true

/-- Without a key there is no channel. -/
theorem channel_eq_error {config : Config} (keyless : config.Keyless) :
    config.channel = .error (.configuration missingDeveloperKey) := by
  cases said : config.developerKey with
  | none => simp only [channel, said]
  | some key => simp only [channel, said, Text.isEmpty_trim_iff.2 (keyless key said), if_true]

/-- With a key there is one. -/
theorem exists_channel {config : Config} (keyed : ¬config.Keyless) :
    ∃ channel, config.channel = .ok channel := by
  cases said : config.developerKey with
  | none => exact absurd (fun key some => by rw [said] at some; cases some) keyed
  | some key =>
    have solid : (Text.trim key).isEmpty ≠ true := by
      intro empty
      apply keyed
      intro other same
      obtain rfl := Option.some.inj (said.symm.trans same)
      exact Text.isEmpty_trim_iff.1 empty
    simp only [channel, said, if_neg solid]
    exact ⟨_, rfl⟩

end Config

namespace Builder

/-! ## Builders -/

variable {Store Engines Transport : Type}

namespace Setting

/-- The setting of the configuration. -/
def config? : Setting Store Engines Transport → Option Config.Setting
  | .config setting => some setting
  | _ => none

/-- The key of the developer. -/
def developerKey? : Setting Store Engines Transport → Option String
  | .config (.developerKey key) => some key
  | _ => none

/-- What carries calls. -/
def transport? : Setting Store Engines Transport → Option Transport
  | .transport own => some own
  | _ => none

end Setting

/-- Settings of the configuration are made in order, whatever stands between them. -/
theorem config_setAll (builder : Builder Store Engines Transport)
    (settings : List (Setting Store Engines Transport)) :
    (builder.setAll settings).config =
      builder.config.setAll (settings.filterMap Setting.config?) := by
  induction settings generalizing builder with
  | nil => rfl
  | cons setting settings ih =>
    cases setting <;> exact ih _

/-- What settings put in its place is what the last one puts there, or what stood there before. -/
theorem last_setAll {α : Type} (part : Builder Store Engines Transport → Option α)
    {told? : Setting Store Engines Transport → Option α}
    (step : ∀ builder setting, part (builder.set setting) = (told? setting).or (part builder))
    (builder : Builder Store Engines Transport)
    (settings : List (Setting Store Engines Transport)) :
    part (builder.setAll settings) = (settings.filterMap told?).getLast?.or (part builder) := by
  induction settings using List.reverseRecOn with
  | nil => rfl
  | append_singleton settings setting ih =>
    have last : builder.setAll (settings ++ [setting]) = (builder.setAll settings).set setting := by
      rw [setAll, List.foldl_append]
      rfl
    rw [last, step, ih, List.filterMap_append]
    cases told : told? setting with
    | none => simp [told]
    | some x => simp [told]

/-- The key of the developer that is told last, by settings or else in the environment. -/
def lastKey? (environment : Option (String → Option String))
    (settings : List (Setting Store Engines Transport)) : Option String :=
  (settings.filterMap Setting.developerKey?).getLast?.or (environment.bind (· "TOKEN_DEV_KEY"))

/-- The key of a builder is the one that is told last. -/
theorem developerKey_setAll (environment : Option (String → Option String))
    (settings : List (Setting Store Engines Transport)) :
    ((start environment).setAll settings).config.developerKey = lastKey? environment settings := by
  have step (builder : Builder Store Engines Transport) (setting : Setting Store Engines Transport) :
      (builder.set setting).config.developerKey =
        setting.developerKey?.or builder.config.developerKey := by
    cases setting with
    | config setting => cases setting <;> rfl
    | store | engines | transport => rfl
  have first : (start environment : Builder Store Engines Transport).config.developerKey =
      environment.bind (· "TOKEN_DEV_KEY") := by
    cases environment with
    | none => rfl
    | some lookup => exact (Config.follows_ofEnvironment lookup).developerKey
  rw [last_setAll (·.config.developerKey) step, first, lastKey?]

/-- A transport that is set stays set. -/
theorem exists_transport_setAll (builder : Builder Store Engines Transport)
    {settings : List (Setting Store Engines Transport)}
    (own : ∃ transport, .transport transport ∈ settings) :
    ∃ transport, (builder.setAll settings).transport = some transport := by
  obtain ⟨transport, held⟩ := own
  have step (builder : Builder Store Engines Transport) (setting : Setting Store Engines Transport) :
      (builder.set setting).transport = setting.transport?.or builder.transport := by
    cases setting <;> rfl
  have told : transport ∈ settings.filterMap Setting.transport? :=
    List.mem_filterMap.2 ⟨_, held, rfl⟩
  rw [last_setAll (·.transport) step, List.getLast?_eq_some_getLast (List.ne_nil_of_mem told)]
  exact ⟨_, rfl⟩

/-- With a transport of its own a client lacks nothing but the key of the developer. -/
theorem build_cases (usual : UsualParts Store Engines Transport)
    {builder : Builder Store Engines Transport} {transport : Transport}
    (own : builder.transport = some transport) :
    (builder.config.Keyless ∧
      builder.build usual = .error (.configuration Config.missingDeveloperKey)) ∨
    (¬builder.config.Keyless ∧ ∃ parts, builder.build usual = .ok parts) := by
  by_cases keyless : builder.config.Keyless
  · refine .inl ⟨keyless, ?_⟩
    rw [build, Config.channel_eq_error keyless]
    rfl
  · obtain ⟨channel, made⟩ := Config.exists_channel keyless
    refine .inr ⟨keyless, ?_⟩
    rw [build, made, own]
    exact ⟨_, rfl⟩

/-- Encryption goes by the port after any settings in any order, whether an environment was read
before or not. A client with a transport of its own is then built, unless no key of the developer
was told or the last one is blank; that is the only failure. And each variable of an environment is
followed if it says something, whatever the others say. -/
theorem follows_told (usual : UsualParts Store Engines Transport) :
    (∀ (environment : Option (String → Option String))
        (settings : List (Setting Store Engines Transport)),
      let builder := (start environment).setAll settings
      builder.config.TlsByPort ∧
      ((∃ transport, .transport transport ∈ settings) →
        ((∃ message, builder.build usual = .error (.configuration message)) ↔
          ∀ key, lastKey? environment settings = some key →
            ∀ c ∈ key.toList, Text.isBlank c = true) ∧
        ∀ error, builder.build usual = .error error →
          error = .configuration Config.missingDeveloperKey)) ∧
    ∀ lookup : String → Option String,
      (start (some lookup) : Builder Store Engines Transport).config.Follows lookup ∧
      ∀ other, Config.Independent lookup other := by
  refine ⟨fun environment settings => ⟨?_, fun own => ?_⟩, fun lookup =>
    ⟨Config.follows_ofEnvironment lookup, Config.independent lookup⟩⟩
  · have first : (start environment : Builder Store Engines Transport).config.TlsByPort := by
      cases environment with
      | none => exact Config.tlsByPort_usual
      | some lookup => exact Config.tlsByPort_usual.setAll _
    rw [config_setAll]
    exact first.setAll _
  · obtain ⟨transport, set⟩ := exists_transport_setAll (start environment) own
    rw [← developerKey_setAll environment settings]
    rcases build_cases usual set with ⟨keyless, failed⟩ | ⟨keyed, parts, built⟩
    · exact ⟨iff_of_true ⟨_, failed⟩ keyless,
        fun error other => (Except.error.inj (failed.symm.trans other)).symm⟩
    · have never (error : ClientError) :
          ((start environment).setAll settings).build usual ≠ .error error := by
        rw [built]
        intro same
        cases same
      exact ⟨iff_of_false (fun ⟨_, failed⟩ => never _ failed) keyed,
        fun error failed => absurd failed (never error)⟩

/-- Zeros in front of the port of encrypted connections do not matter, and an ideographic space is
no key of the developer. -/
theorem follows_told_blank_key :
    let lookup := fun name =>
      if name = "TOKEN_PORT" then some "+0443"
      else if name = "TOKEN_DEV_KEY" then some "\u3000"
      else none
    let builder : Builder Unit Unit Unit :=
      (start (some lookup)).setAll [.config (.cluster .staging), .transport ()]
    builder.config.usesTls = true ∧
      ∃ message, builder.build ⟨fun _ => .error .http, (), id⟩ = .error (.configuration message) := by
  intro lookup builder
  obtain ⟨told, environments⟩ :=
    follows_told (⟨fun _ => .error .http, (), id⟩ : UsualParts Unit Unit Unit)
  obtain ⟨tls, built⟩ := told (some lookup) [.config (.cluster .staging), .transport ()]
  have numeral : Text.IsNumeral "+0443".toList 443 :=
    ⟨[0, 4, 4, 3], by decide, by decide, .inr (by decide), by decide⟩
  have tcpPort : builder.config.tcpPort = 443 :=
    (environments lookup).1.tcpPort.1 443 ⟨_, rfl, numeral, by decide⟩
  refine ⟨tls.usesTls_iff.2 tcpPort, (built ⟨(), by simp⟩).1.2 ?_⟩
  intro key said
  obtain rfl : "\u3000" = key := Option.some.inj said
  have blank : "\u3000".toList.all Text.isBlank = true := by decide
  exact List.all_eq_true.1 blank

end Builder

end OpenBanking
