/-
# Configuration

What a broker is told at start-up: the port, the log level, the credentials it asks
for and how it reaches its provider.  `Config.parse?` reads it from a document in
which every part may be left out, `Config.problems` lists everything that is wrong
with it.
-/

import ServiceBroker.Json.Fields
import ServiceBroker.Json.Shape
import ServiceBroker.Time.Duration

namespace ServiceBroker

open Json (Shape)

/-- Where appliances live. -/
inductive ProviderKind where
  /-- Behind the REST interface of the cloud. -/
  | sakura
  /-- In the memory of the broker. -/
  | memory
deriving DecidableEq, Repr

namespace ProviderKind

def name : ProviderKind → String
  | sakura => "sakura"
  | memory => "memory"

/-- The kind with exactly this name. -/
def ofName? (name : String) : Option ProviderKind :=
  [sakura, memory].find? (·.name = name)

/-- A text in lower case, as far as ASCII letters go. -/
def lowered (s : String) : String := String.ofList (s.toList.map Char.toLower)

/-- The kind with a name, the case of ASCII letters not counting. -/
def ofText? (s : String) : Option ProviderKind := ofName? (lowered s)

/-- What is said about a text that names no kind. -/
def unknownMessage (s : String) : String :=
  "unknown provider: " ++ lowered s ++ " (expected sakura or memory)"

end ProviderKind

/-- How much is logged. -/
inductive LogLevel where
  | info
  | warn
  | debug
deriving DecidableEq, Repr

namespace LogLevel

/-- The level's name in a configuration. -/
def name : LogLevel → String
  | info => "INFO"
  | warn => "WARN"
  | debug => "DEBUG"

/-- The level's name in a log filter. -/
def filter : LogLevel → String
  | info => "info"
  | warn => "warn"
  | debug => "debug"

def all : List LogLevel := [info, warn, debug]

/-- The level with exactly this name. -/
def ofName? (name : String) : Option LogLevel := all.find? (·.name = name)

/-- What is said about a name that belongs to no level. -/
def unknownMessage (name : String) : String := "unknown log level: " ++ name

end LogLevel

/-- The credentials that requests have to carry. -/
structure BasicAuth where
  username : String := ""
  password : String := ""
deriving DecidableEq, Repr

/-- Credentials are asked for when neither is empty. -/
def BasicAuth.isEnabled (auth : BasicAuth) : Bool := auth.username ≠ "" && auth.password ≠ ""

/-- How the provider is reached, and how long to wait for it. -/
structure ProviderConfig where
  kind : ProviderKind := .sakura
  accessToken : String := ""
  accessTokenSecret : String := ""
  zone : String := "tk1a"
  acceptLanguage : Option String := none
  /-- Repetitions of a request that may succeed the next time. -/
  retryMax : UInt32 := 0
  retryInterval : Duration := 0
  apiRootUrl : String := "https://secure.sakura.ad.jp/cloud/zone/"
  /-- Whether requests and responses are logged. -/
  trace : Bool := false
  /-- Bound for waits on the state of an appliance. -/
  waitTimeout : Duration := Duration.seconds 1200
  /-- Time between two looks at the state of an appliance. -/
  pollInterval : Duration := Duration.seconds 5
  /-- Bound for an engine to start after a migration. -/
  startupTimeout : Duration := Duration.seconds 180
deriving DecidableEq, Repr

/-- The configuration of a broker. -/
structure Config where
  port : UInt16 := 8080
  logLevel : String := "INFO"
  basicAuth : BasicAuth := {}
  provider : ProviderConfig := {}
deriving DecidableEq, Repr

namespace Duration

/-- Whole seconds that fit 64 bits. -/
def maxSeconds : Nat := UInt64.size - 1

/-- A duration is a record of seconds and nanoseconds that knows no other key. -/
def shape : Shape := .record [("secs", .any), ("nanos", .any)] true

/-- Nanoseconds beyond a second carry over, as long as the seconds fit 64 bits. -/
def ofJson? (v : Json) : Option Duration := do
  let fields ← v.fields? ["secs", "nanos"]
  let secs ← fields.required "secs" Json.uint64?
  let nanos ← fields.required "nanos" Json.uint32?
  let total := seconds secs.toNat + nanos.toNat
  if wholeSeconds total ≤ maxSeconds then some total else none

def toJson (d : Duration) : Json :=
  .object [("nanos", .integer (subsecond d)), ("secs", .integer (wholeSeconds d))]

end Duration

namespace BasicAuth

def fieldShapes : List (String × Shape) := [("username", .any), ("password", .any)]

def ofJson? (v : Json) : Option BasicAuth := do
  let fields ← v.fields? (fieldShapes.map (·.1))
  return ⟨← fields.orElse "username" "" Json.string?, ← fields.orElse "password" "" Json.string?⟩

def toJson (auth : BasicAuth) : Json :=
  .object [("password", .string auth.password), ("username", .string auth.username)]

end BasicAuth

namespace ProviderConfig

/-- The fields in order of declaration. -/
def fieldShapes : List (String × Shape) :=
  [("kind", .variant), ("access_token", .any), ("access_token_secret", .any), ("zone", .any),
    ("accept_language", .any), ("retry_max", .any), ("retry_interval", Duration.shape),
    ("api_root_url", .any), ("trace", .any), ("wait_timeout", Duration.shape),
    ("poll_interval", Duration.shape), ("startup_timeout", Duration.shape)]

def readKind (v : Json) : Option ProviderKind := v.variant?.bind ProviderKind.ofName?

def ofJson? (v : Json) : Option ProviderConfig := do
  let fields ← v.fields? (fieldShapes.map (·.1))
  let default : ProviderConfig := {}
  return {
    kind := ← fields.orElse "kind" default.kind readKind
    accessToken := ← fields.orElse "access_token" "" Json.string?
    accessTokenSecret := ← fields.orElse "access_token_secret" "" Json.string?
    zone := ← fields.orElse "zone" default.zone Json.string?
    acceptLanguage := ← fields.optional "accept_language" Json.string?
    retryMax := ← fields.orElse "retry_max" default.retryMax Json.uint32?
    retryInterval := ← fields.orElse "retry_interval" default.retryInterval Duration.ofJson?
    apiRootUrl := ← fields.orElse "api_root_url" default.apiRootUrl Json.string?
    trace := ← fields.orElse "trace" default.trace Json.bool?
    waitTimeout := ← fields.orElse "wait_timeout" default.waitTimeout Duration.ofJson?
    pollInterval := ← fields.orElse "poll_interval" default.pollInterval Duration.ofJson?
    startupTimeout := ← fields.orElse "startup_timeout" default.startupTimeout Duration.ofJson? }

def toJson (p : ProviderConfig) : Json :=
  .object [
    ("accept_language", .ofString? p.acceptLanguage),
    ("access_token", .string p.accessToken),
    ("access_token_secret", .string p.accessTokenSecret),
    ("api_root_url", .string p.apiRootUrl),
    ("kind", .string p.kind.name),
    ("poll_interval", Duration.toJson p.pollInterval),
    ("retry_interval", Duration.toJson p.retryInterval),
    ("retry_max", .integer p.retryMax.toNat),
    ("startup_timeout", Duration.toJson p.startupTimeout),
    ("trace", .bool p.trace),
    ("wait_timeout", Duration.toJson p.waitTimeout),
    ("zone", .string p.zone)]

end ProviderConfig

namespace Config

/-- The fields in order of declaration. -/
def fieldShapes : List (String × Shape) :=
  [("port", .any), ("log_level", .any), ("basic_auth", .record BasicAuth.fieldShapes),
    ("provider", .record ProviderConfig.fieldShapes)]

def ofJson? (v : Json) : Option Config := do
  let fields ← v.fields? (fieldShapes.map (·.1))
  let default : Config := {}
  return {
    port := ← fields.orElse "port" default.port Json.uint16?
    logLevel := ← fields.orElse "log_level" default.logLevel Json.string?
    basicAuth := ← fields.orElse "basic_auth" default.basicAuth BasicAuth.ofJson?
    provider := ← fields.orElse "provider" default.provider ProviderConfig.ofJson? }

/-- The configuration that a text describes. -/
def parse? (text : Bytes) : Option Config := (Json.parseAs? (.record fieldShapes) text).bind ofJson?

def toJson (config : Config) : Json :=
  .object [
    ("basic_auth", config.basicAuth.toJson),
    ("log_level", .string config.logLevel),
    ("port", .integer config.port.toNat),
    ("provider", config.provider.toJson)]

/-- Something that is wrong with a configuration. -/
inductive Problem where
  /-- An option that has to be given is empty. -/
  | missing (option : String)
  | unknownLogLevel
  | noPollInterval
deriving DecidableEq, Repr

/-- The line that reports a problem. -/
def Problem.message : Problem → String
  | missing option => "[Option] --" ++ option ++ " is required"
  | unknownLogLevel =>
    "[Option] --log-level must be in [" ++ "/".intercalate (LogLevel.all.map (·.name)) ++ "]"
  | noPollInterval => "[Option] --poll-interval must be greater than zero"

/-- An option that has to be given. -/
def require (option value : String) : List Problem :=
  if value = "" then [.missing option] else []

/-- Everything that is wrong with a configuration, in a fixed order. -/
def problems (config : Config) : List Problem :=
  (if config.provider.kind = .sakura then
    require "token" config.provider.accessToken ++
      require "secret" config.provider.accessTokenSecret
   else []) ++
  require "zone" config.provider.zone ++
  require "log-level" config.logLevel ++
  (if config.logLevel ≠ "" ∧ LogLevel.ofName? config.logLevel = none then [.unknownLogLevel]
   else []) ++
  (if config.provider.pollInterval = 0 then [.noPollInterval] else [])

/-- All problems in one line. -/
def problemsMessage (problems : List Problem) : String :=
  "invalid configuration: " ++ ", ".intercalate (problems.map (·.message))

/-- The log level, `INFO` where the name is unknown. -/
def level (config : Config) : LogLevel := (LogLevel.ofName? config.logLevel).getD .info

end Config
end ServiceBroker
