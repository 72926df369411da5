import InferenceGateway.Config.Settings
import InferenceGateway.Text.Blank
import InferenceGateway.Text.Utf8

/-!
# Settings from the environment

What the variables of the process say. A variable whose bytes are no UTF-8 counts as not set; for
addresses, keys and the secret so does a blank one.

* `Environment`: what each variable holds, `Environment.text?`, `Environment.filled?` as texts.
* `SettingFault`: why variables make no settings.
* `Settings.ofEnvironment`: the settings, without the gateway file.
-/

namespace InferenceGateway.Config

/-- What each variable holds, if it is set. -/
abbrev Environment := String → Option (List UInt8)

namespace Environment

/-- The text of a variable. -/
def text? (env : Environment) (name : String) : Option String :=
  (env name).bind Text.decode?

/-- The text of a variable that is not blank. -/
def filled? (env : Environment) (name : String) : Option String :=
  (env.text? name).filter fun s => !Text.isBlankText s

end Environment

/-! ## Numbers -/

/-- A number below a limit, in decimal digits with any leading zeros behind at most one plus. -/
def numberBelow? (limit : Nat) (s : String) : Option Nat :=
  let digits := match s.toList with
    | '+' :: rest => rest
    | cs => cs
  let value := digits.foldl (fun n d => 10 * n + (d.toNat - '0'.toNat)) 0
  if !digits.isEmpty && digits.all Char.isDigit && value < limit then some value else none

/-- Ports have sixteen bits. -/
def portLimit : Nat := Nat.pow 2 16

/-- Times have sixty-four bits. -/
def secondsLimit : Nat := Nat.pow 2 64

/-! ## Faults -/

/-- Why variables make no settings. -/
inductive SettingFault where
  | badPort
  | badSeconds (name : String)
  | noPriority
  | noSecret
  deriving DecidableEq, Repr

/-- The message of a fault. -/
def SettingFault.message : SettingFault → String
  | badPort => "SERVER_PORT must be a valid port number"
  | badSeconds name => name ++ " must be a number of seconds"
  | noPriority => "MODEL_REGISTRY_PRIORITY must name at least one provider"
  | noSecret => "APIKEY_SECRET not set"

/-! ## Groups of settings -/

namespace Environment

variable (env : Environment)

/-- The port to listen at. -/
def port : Except SettingFault Nat :=
  match env.text? "SERVER_PORT" with
  | none => .ok 3000
  | some s =>
    match numberBelow? portLimit s with
    | some n => .ok n
    | none => .error .badPort

/-- A time in seconds that has to be a number if it is set. -/
def seconds (name : String) (standard : Nat) : Except SettingFault Nat :=
  match env.text? name with
  | none => .ok standard
  | some s =>
    match numberBelow? secondsLimit s with
    | some n => .ok n
    | none => .error (.badSeconds name)

/-- A time in seconds; what is no number counts as not set. -/
def lenientSeconds (name : String) (standard : Nat) : Nat :=
  ((env.text? name).bind (numberBelow? secondsLimit)).getD standard

/-- An address without blanks around it and slashes behind it. -/
def address (s : String) : String :=
  Text.dropEndRun '/' (Text.trim s)

/-- Where a provider with a standard address is reached. -/
def endpoint (urlName keyName standard : String) : Endpoint where
  baseUrl := address ((env.filled? urlName).getD standard)
  key := env.filled? keyName

/-- Where Jan is reached, if its address is configured. -/
def jan : Option Endpoint :=
  (env.filled? "JAN_INFERENCE_MODEL_URL").map fun url =>
    { baseUrl := address url, key := env.filled? "JAN_INFERENCE_API_KEY" }

/-- How long providers may take. -/
def timeouts : Except SettingFault Timeouts := do
  return {
    request := ← env.seconds "INFERENCE_REQUEST_TIMEOUT" Timeouts.standard.request
    streamHeader := ← env.seconds "INFERENCE_STREAM_HEADER_TIMEOUT" Timeouts.standard.streamHeader
    streamIdle := ← env.seconds "INFERENCE_STREAM_IDLE_TIMEOUT" Timeouts.standard.streamIdle }

/-- How models are listed. -/
def listing : Except SettingFault ListingSettings := do
  let priority := Priority.names ((env.text? "MODEL_REGISTRY_PRIORITY").getD standardPriority)
  if priority.isEmpty then throw .noPriority
  let standard := ListingSettings.standard
  return {
    refreshInterval :=
      env.lenientSeconds "MODEL_REGISTRY_REFRESH_INTERVAL" standard.refreshInterval
    providerTimeout :=
      env.lenientSeconds "MODEL_REGISTRY_PROVIDER_TIMEOUT" standard.providerTimeout
    priority }

/-- The modules whose level can be set, with the variables that do. -/
def loggedModules : List (String × String) :=
  [("api", "LOG_MODULE_API"), ("services", "LOG_MODULE_SERVICES"),
    ("inference_providers", "LOG_MODULE_PROVIDERS")]

/-- What is logged. -/
def logging : Logging where
  level := (env.text? "LOG_LEVEL").getD Logging.standard.level
  format := (env.text? "LOG_FORMAT").getD Logging.standard.format
  modules := loggedModules.filterMap fun (module, name) =>
    (env.text? name).map fun level => (module, level)

/-- The secret under which keys are hashed. -/
def secret : Except SettingFault String :=
  match env.filled? "APIKEY_SECRET" with
  | some s => .ok s
  | none => .error .noSecret

end Environment

/-- The settings, without the gateway file. The first fault in the order of the groups counts. -/
def Settings.ofEnvironment (env : Environment) : Except SettingFault Settings := do
  let port ← env.port
  let timeouts ← env.timeouts
  let listing ← env.listing
  let secret ← env.secret
  return {
    host := (env.text? "SERVER_HOST").getD "0.0.0.0"
    port
    jan := env.jan
    openRouter :=
      env.endpoint "OPENROUTER_BASE_URL" "OPENROUTER_API_KEY" "https://openrouter.ai/api/v1"
    gemini :=
      env.endpoint "GEMINI_BASE_URL" "GEMINI_API_KEY"
        "https://generativelanguage.googleapis.com/v1beta"
    timeouts, listing, logging := env.logging, secret }

end InferenceGateway.Config
