/-
# The command line

Every setting has a flag and an environment variable.  The words of the command line
are read from left to right and the first fault ends the reading; then the variables
of the settings not given are read in the order of the settings.  A flag and its value
may be one word with `=` or two words; a value in a word of its own is checked only
when the next flag is reached, and not at all when that flag is unknown.
-/

import ServiceBroker.Config
import ServiceBroker.Text.Integer
import ServiceBroker.Time.Spelled

namespace ServiceBroker
namespace CommandLine

/-- Something that can be set. -/
inductive Setting where
  | token
  | secret
  | zone
  | acceptLanguage
  | retryMax
  | retryInterval
  | apiRootUrl
  | trace
  | basicAuthUsername
  | basicAuthPassword
  | logLevel
  | port
  | waitTimeout
  | pollInterval
  | startupTimeout
  | provider
deriving DecidableEq, Repr

namespace Setting

/-- All settings, in the order in which their variables are read. -/
def all : List Setting :=
  [token, secret, zone, acceptLanguage, retryMax, retryInterval, apiRootUrl, trace,
    basicAuthUsername, basicAuthPassword, logLevel, port, waitTimeout, pollInterval,
    startupTimeout, provider]

/-- The flag without its dashes. -/
def flag : Setting → String
  | token => "token"
  | secret => "secret"
  | zone => "zone"
  | acceptLanguage => "accept-language"
  | retryMax => "retry-max"
  | retryInterval => "retry-interval"
  | apiRootUrl => "api-root-url"
  | trace => "trace"
  | basicAuthUsername => "basic-auth-username"
  | basicAuthPassword => "basic-auth-password"
  | logLevel => "log-level"
  | port => "port"
  | waitTimeout => "wait-timeout"
  | pollInterval => "poll-interval"
  | startupTimeout => "startup-timeout"
  | provider => "provider"

/-- The environment variable. -/
def environmentVariable : Setting → String
  | token => "SAKURACLOUD_ACCESS_TOKEN"
  | secret => "SAKURACLOUD_ACCESS_TOKEN_SECRET"
  | zone => "SAKURACLOUD_ZONE"
  | acceptLanguage => "SAKURACLOUD_ACCEPT_LANGUAGE"
  | retryMax => "SAKURACLOUD_RETRY_MAX"
  | retryInterval => "SAKURACLOUD_RETRY_INTERVAL"
  | apiRootUrl => "SAKURACLOUD_API_ROOT_URL"
  | trace => "SAKURACLOUD_TRACE_MODE"
  | basicAuthUsername => "OSBS_BASIC_AUTH_USERNAME"
  | basicAuthPassword => "OSBS_BASIC_AUTH_PASSWORD"
  | logLevel => "OSBS_LOG_LEVEL"
  | port => "OSBS_PORT"
  | waitTimeout => "OSBS_WAIT_TIMEOUT"
  | pollInterval => "OSBS_POLL_INTERVAL"
  | startupTimeout => "OSBS_STARTUP_TIMEOUT"
  | provider => "OSBS_PROVIDER"

/-- The flag of a switch takes no value. -/
def isSwitch (setting : Setting) : Bool := setting = trace

/-- The setting with a flag. -/
def ofFlag? (flag : String) : Option Setting := all.find? (·.flag = flag)

/-- A configuration with a setting changed, or nothing when the value does not parse. -/
def apply (setting : Setting) (value : String) (config : Config) : Option Config :=
  let provider := config.provider
  match setting with
  | token => some { config with provider := { provider with accessToken := value } }
  | secret => some { config with provider := { provider with accessTokenSecret := value } }
  | zone => some { config with provider := { provider with zone := value } }
  | acceptLanguage =>
    let language := if value = "" then none else some value
    some { config with provider := { provider with acceptLanguage := language } }
  | retryMax => (Integer.within? 0 (UInt32.size - 1) value).map fun n =>
    { config with provider := { provider with retryMax := UInt32.ofNat n.toNat } }
  | retryInterval => (Integer.natural? (UInt64.size - 1) value).map fun n =>
    { config with provider := { provider with retryInterval := Duration.seconds n } }
  | apiRootUrl => some { config with provider := { provider with apiRootUrl := value } }
  | trace =>
    match value with
    | "true" => some { config with provider := { provider with trace := true } }
    | "false" => some { config with provider := { provider with trace := false } }
    | _ => none
  | basicAuthUsername =>
    some { config with basicAuth := { config.basicAuth with username := value } }
  | basicAuthPassword =>
    some { config with basicAuth := { config.basicAuth with password := value } }
  | logLevel => some { config with logLevel := value }
  | port => (Integer.within? 0 (UInt16.size - 1) value).map fun n =>
    { config with port := UInt16.ofNat n.toNat }
  | waitTimeout => (Duration.ofSpelled? value).map fun d =>
    { config with provider := { provider with waitTimeout := d } }
  | pollInterval => (Duration.ofSpelled? value).map fun d =>
    { config with provider := { provider with pollInterval := d } }
  | startupTimeout => (Duration.ofSpelled? value).map fun d =>
    { config with provider := { provider with startupTimeout := d } }
  | Setting.provider => (ProviderKind.ofText? value).map fun kind =>
    { config with provider := { provider with kind } }

end Setting

/-- Why the reading of a command line ends early. -/
inductive Stop where
  | displayHelp
  | displayVersion
  | unknownArgument
  /-- A flag without its value, or a switch variable that is neither true nor false. -/
  | invalidValue
  /-- A value that does not parse. -/
  | valueValidation
  /-- A flag given twice. -/
  | argumentConflict
  /-- A value given to a flag that takes none. -/
  | tooManyValues
deriving DecidableEq, Repr

/-- Asking for help or the version is no failure. -/
def Stop.exitCode : Stop → Nat
  | .displayHelp | .displayVersion => 0
  | _ => 2

/-- What has been read of a command line. -/
structure Reading where
  config : Config := {}
  /-- The settings given so far. -/
  given : List Setting := []
  /-- A flag that takes a value, with the value if it was seen, not yet applied. -/
  pending : Option (Setting × Option String) := none
  /-- Whether the word that ends the flags was seen. -/
  flagsEnded : Bool := false

namespace Reading

/-- A setting given on the command line. -/
def set (reading : Reading) (setting : Setting) (value : String) : Except Stop Reading :=
  if setting ∈ reading.given then .error .argumentConflict
  else match setting.apply value reading.config with
    | some config => .ok { reading with config, given := setting :: reading.given }
    | none => .error .valueValidation

/-- The flag still pending applied. -/
def settle (reading : Reading) : Except Stop Reading :=
  match reading.pending with
  | none => .ok reading
  | some (_, none) => .error .invalidValue
  | some (setting, some value) => { reading with pending := none }.set setting value

/-- The parts of a word before and after its first `=`. -/
def splitValue (word : List Char) : String × Option String :=
  let name := String.ofList (word.takeWhile (· ≠ '='))
  match word.dropWhile (· ≠ '=') with
  | [] => (name, none)
  | _ :: value => (name, some (String.ofList value))

/-- A word with two dashes, which are left off here. -/
def long (reading : Reading) (word : List Char) : Except Stop Reading :=
  let (name, value?) := splitValue word
  let plain (stop : Stop) : Except Stop Reading :=
    match value? with
    | some _ => .error .tooManyValues
    | none => reading.settle.bind fun _ => .error stop
  match name with
  | "help" => plain .displayHelp
  | "version" => plain .displayVersion
  | _ =>
    match Setting.ofFlag? name with
    | none => .error .unknownArgument
    | some setting =>
      match setting.isSwitch, value? with
      | true, some _ => .error .tooManyValues
      | true, none => do (← reading.settle).set setting "true"
      | false, some value => do (← reading.settle).set setting value
      | false, none => do return { (← reading.settle) with pending := some (setting, none) }

/-- One more word. -/
def word (reading : Reading) (text : String) : Except Stop Reading :=
  if reading.flagsEnded then .error .unknownArgument
  else
    match text.toList with
    | ['-', '-'] => .ok { reading with flagsEnded := true }
    | '-' :: '-' :: rest => reading.long rest
    | '-' :: 'h' :: _ => reading.settle.bind fun _ => .error .displayHelp
    | '-' :: 'V' :: _ => reading.settle.bind fun _ => .error .displayVersion
    | '-' :: _ :: _ => .error .unknownArgument
    | _ =>
      match reading.pending with
      | some (setting, none) => .ok { reading with pending := some (setting, some text) }
      | _ => .error .unknownArgument

/-- A setting read from its variable, unless it was given. -/
def fromVariable (environment : List (String × String)) (reading : Reading) (setting : Setting) :
    Except Stop Reading :=
  if setting ∈ reading.given then .ok reading
  else match environment.lookup setting.environmentVariable with
    | none => .ok reading
    | some value =>
      match setting.apply value reading.config with
      | some config => .ok { reading with config, given := setting :: reading.given }
      | none => .error (if setting.isSwitch then .invalidValue else .valueValidation)

end Reading

/-- The configuration that the words of a command line and the variables of an environment give. -/
def read (words : List String) (environment : List (String × String)) : Except Stop Config := do
  let reading ← (← words.foldlM Reading.word {}).settle
  return (← Setting.all.foldlM (Reading.fromVariable environment) reading).config

/-- What a program prints and the code with which it exits. -/
structure Exit where
  code : Nat
  output : String := ""
  errors : String := ""
deriving DecidableEq, Repr

/-- The name and version of the program. -/
def version : String := "osbs 0.4.0\n"

/-- How the program is used. -/
def usage : String :=
  "Open Service Broker for SAKURA Cloud database appliances\n\nUsage: osbs [OPTIONS]\n\nOptions:\n" ++
    String.join (Setting.all.map fun setting =>
      "  --" ++ setting.flag ++ "  [env: " ++ setting.environmentVariable ++ "]\n")

/-- The end of a program whose command line was not read to the end. -/
def Stop.exit (stop : Stop) : Exit :=
  match stop with
  | .displayHelp => ⟨stop.exitCode, usage, ""⟩
  | .displayVersion => ⟨stop.exitCode, version, ""⟩
  | _ => ⟨stop.exitCode, "", "error: invalid command line\n"⟩

/-- The configuration with which a program starts, or how it ends at once. -/
def start (words : List String) (environment : List (String × String)) : Except Exit Config := do
  let config ← (read words environment).mapError (·.exit)
  let problems := config.problems
  if problems.isEmpty then return config
  else throw ⟨2, "", String.join (problems.map fun problem => problem.message ++ "\n")⟩

end CommandLine
end ServiceBroker
