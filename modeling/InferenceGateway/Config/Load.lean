import InferenceGateway.Config.Environment
import InferenceGateway.Config.File

/-!
# Loading the configuration

The environment comes first; it also names the gateway file, which may be absent.

* `Stored`: what a path leads to.
* `ConfigError`: why there is no configuration.
* `load`: the whole configuration.
-/

namespace InferenceGateway.Config

/-- What a path leads to. -/
inductive Stored where
  /-- Nothing, as far as one may look. -/
  | missing
  | directory
  /-- Something that may not be read, with the reason of the system. -/
  | locked (reason : String)
  | file (bytes : List UInt8)
  deriving DecidableEq, Repr

/-- Why a file cannot be read. -/
inductive ReadFault where
  | isDirectory
  /-- The system does not hand out the bytes, for instance for want of permission. -/
  | refused (reason : String)
  | notUtf8
  deriving DecidableEq, Repr

/-- The message of a fault. -/
def ReadFault.message : ReadFault → String
  | isDirectory => "Is a directory (os error 21)"
  | refused reason => reason
  | notUtf8 => "stream did not contain valid UTF-8"

/-- Why there is no configuration. -/
inductive ConfigError where
  | environment (fault : SettingFault)
  | fileNotFound (path : String)
  | fileUnreadable (fault : ReadFault)
  /-- The file is not well formed or says something of another kind than expected. -/
  | fileMalformed
  | invalid (fault : FileFault)
  deriving DecidableEq, Repr

/-- The message of an error, as far as it is its own. -/
def ConfigError.message? : ConfigError → Option String
  | environment fault => some ("Invalid environment configuration: " ++ fault.message)
  | fileNotFound path => some ("Configuration file not found: " ++ path)
  | fileUnreadable fault => some ("Failed to read configuration file: " ++ fault.message)
  | fileMalformed => none
  | invalid fault => some ("Invalid configuration: " ++ fault.message)

/-- What is stored at a path, as a gateway file. -/
def GatewayFile.ofStored (path : String) : Stored → Except ConfigError GatewayFile
  | .missing => .error (.fileNotFound path)
  | .directory => .error (.fileUnreadable .isDirectory)
  | .locked reason => .error (.fileUnreadable (.refused reason))
  | .file bytes =>
    match Text.decode? bytes with
    | none => .error (.fileUnreadable .notUtf8)
    | some text =>
      match GatewayFile.ofYaml? text with
      | none => .error .fileMalformed
      | some f => (f.check.mapError ConfigError.invalid).map fun _ => f

/-- The variable that names the gateway file. -/
def fileVariable : String := "GATEWAY_CONFIG_FILE"

/-- The whole configuration. -/
def load (env : Environment) (stored : String → Stored) : Except ConfigError Settings := do
  let settings ← (Settings.ofEnvironment env).mapError ConfigError.environment
  match env.text? fileVariable with
  | none => return settings
  | some path => return { settings with file := ← GatewayFile.ofStored path (stored path) }

end InferenceGateway.Config
