import InferenceGateway.Chat.Model
import InferenceGateway.Provider.Basic
import InferenceGateway.Text.Fields

/-!
# Entries of the model registry

A model as clients see it, where it is served from, and pins: bindings of public ids that are
configured and win over whatever providers publish.
-/

namespace InferenceGateway

/-- Where a public model id is served from. -/
structure Binding where
  publicId : String
  provider : Provider
  /-- The id that the provider knows the model by. -/
  providerId : String
  deriving DecidableEq, Repr

/-- A model as clients see it. -/
structure ModelEntry where
  id : String
  provider : Provider
  /-- The id that the provider knows the model by. -/
  providerId : String
  ownedBy : String
  created : Int
  deriving DecidableEq, Repr

namespace ModelEntry

/-- The entry of a published model; a model without an owner belongs to its provider. -/
def ofListing (p : Provider) (m : ModelInfo) : ModelEntry where
  id := m.id
  provider := p
  providerId := m.id
  ownedBy := if m.ownedBy.isEmpty then p.id else m.ownedBy
  created := m.created

/-- Where the model is served from. -/
def binding (e : ModelEntry) : Binding where
  publicId := e.id
  provider := e.provider
  providerId := e.providerId

end ModelEntry

/-- A configured binding as it is written. -/
structure PinEntry where
  model : String
  provider : String
  providerId : String
  deriving DecidableEq, Repr

/-- A configured binding. -/
structure ModelPin where
  model : String
  provider : Provider
  providerId : String
  deriving DecidableEq, Repr

/-- What can go wrong with the registry. -/
inductive RegistryError where
  /-- No provider could list its models; each with its error. -/
  | allFailed (failures : List (Provider × String))
  /-- A pin names no provider. -/
  | invalidPin (model provider : String)
  deriving DecidableEq, Repr

/-- The message of an error. -/
def RegistryError.message : RegistryError → String
  | allFailed failures =>
    "All providers failed to list models: "
      ++ Text.join "; " (failures.map fun failure => failure.1.id ++ ": " ++ failure.2)
  | invalidPin model provider =>
    "Invalid model pin " ++ model ++ ": " ++ Provider.unknownMessage provider

/-- The binding that is written. -/
def PinEntry.toPin (e : PinEntry) : Except RegistryError ModelPin :=
  match Provider.ofText e.provider with
  | .ok p => .ok { model := e.model, provider := p, providerId := e.providerId }
  | .error name => .error (.invalidPin e.model name)

end InferenceGateway
