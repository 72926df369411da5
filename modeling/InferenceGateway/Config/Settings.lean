import InferenceGateway.Auth.Record
import InferenceGateway.Provider.Table
import InferenceGateway.Registry.Priority
import InferenceGateway.Registry.Entry

/-!
# Settings

Everything that can be configured: where the gateway listens, where its providers are and how long
they may take, how models are listed, what is logged, and the contents of the gateway file.

* `Settings`: the whole, `Settings.processKeys` the keys that belong to the process.
* `Timeouts.standard`, `ListingSettings.standard`, `Logging.standard`: what holds by default.
-/

namespace InferenceGateway.Config

/-- Where a provider is reached, and the key of the process for it. -/
structure Endpoint where
  baseUrl : String
  key : Option String := none
  deriving DecidableEq, Repr

/-- How long providers may take, in seconds. -/
structure Timeouts where
  request : Nat
  streamHeader : Nat
  streamIdle : Nat
  deriving DecidableEq, Repr

/-- Half a minute for answers, a minute between the pieces of a stream. -/
def Timeouts.standard : Timeouts where
  request := 30
  streamHeader := 30
  streamIdle := 60

/-- How models are listed; times in seconds. -/
structure ListingSettings where
  refreshInterval : Nat
  providerTimeout : Nat
  /-- Names of providers, highest priority first. -/
  priority : List String
  deriving DecidableEq, Repr

/-- The text of the default priority. -/
def standardPriority : String := "jan,openrouter,gemini"

/-- A listing every five minutes. -/
def ListingSettings.standard : ListingSettings where
  refreshInterval := 300
  providerTimeout := 5
  priority := Priority.names standardPriority

/-- What is logged. -/
structure Logging where
  level : String
  format : String
  /-- Levels of single modules. -/
  modules : List (String × String)
  deriving DecidableEq, Repr

/-- Details for two modules. -/
def Logging.standard : Logging where
  level := "info"
  format := "pretty"
  modules := [("api", "debug"), ("services", "debug")]

/-- The contents of the gateway file. -/
structure GatewayFile where
  apiKeys : List KeyEntry := []
  /-- Keys by the name of a provider, by organization. -/
  organizations : List (String × List (String × String)) := []
  pins : List PinEntry := []
  deriving DecidableEq, Repr

/-- All settings. -/
structure Settings where
  host : String
  port : Nat
  /-- Jan takes part only if its address is configured. -/
  jan : Option Endpoint
  openRouter : Endpoint
  gemini : Endpoint
  timeouts : Timeouts
  listing : ListingSettings
  logging : Logging
  /-- The secret under which gateway keys are hashed. -/
  secret : String
  file : GatewayFile := {}
  deriving DecidableEq, Repr

/-- A key of the process for a provider, if there is one. -/
def optionalKey (p : Provider) (key : Option String) : ProviderKeys :=
  match key with
  | some k => [(p, k)]
  | none => []

/-- The keys of the process. -/
def Settings.processKeys (s : Settings) : ProviderKeys :=
  optionalKey .jan (s.jan.bind (·.key)) ++ optionalKey .openRouter s.openRouter.key
    ++ optionalKey .gemini s.gemini.key

end InferenceGateway.Config
