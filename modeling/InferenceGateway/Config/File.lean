import InferenceGateway.Config.Settings
import InferenceGateway.Text.Blank
import InferenceGateway.Yaml.Read

/-!
# The gateway file

Keys, organizations and pins are kept in a YAML file. All three parts may be absent.

* `GatewayFile.ofYaml?`: what a text says, if it has the expected form.
* `FileFault`, `GatewayFile.check`: what no file may say.
-/

namespace InferenceGateway.Config

open Yaml (Document Node)

/-- Keys by the name of a provider. -/
def providerKeysOf (d : Document) (r : Document.Record) : Option (List (String × String)) :=
  r.given? "provider_keys" [] (d.map? d.text?)

/-- The entry of a gateway key. -/
def keyEntryOf (d : Document) (n : Node) : Option KeyEntry := do
  let r ← d.record?
    ["key_hash", "caller_id", "organization_id", "enabled", "expires_at", "provider_keys"] n
  return {
    hash := ← r.required? "key_hash" d.text?
    callerId := ← r.required? "caller_id" d.text?
    organization := ← r.given? "organization_id" none (d.optional? d.text?)
    enabled := ← r.given? "enabled" true d.bool?
    expiresAt := ← r.given? "expires_at" none (d.optional? d.int?)
    providerKeys := ← providerKeysOf d r }

/-- The keys of an organization. -/
def organizationOf (d : Document) (n : Node) : Option (List (String × String)) := do
  providerKeysOf d (← d.record? ["provider_keys"] n)

/-- A pin. -/
def pinEntryOf (d : Document) (n : Node) : Option PinEntry := do
  let r ← d.record? ["model", "provider", "upstream_id"] n
  return {
    model := ← r.required? "model" d.text?
    provider := ← r.required? "provider" d.text?
    providerId := ← r.required? "upstream_id" d.text? }

/-- What a text says. -/
def GatewayFile.ofYaml? (text : String) : Option GatewayFile := do
  let d ← Document.ofText? text
  let r ← d.record? ["api_keys", "organizations", "model_pins"] d.root
  return {
    apiKeys := ← r.given? "api_keys" [] (d.list? (keyEntryOf d))
    organizations := ← r.given? "organizations" [] (d.map? (organizationOf d))
    pins := ← r.given? "model_pins" [] (d.list? (pinEntryOf d)) }

/-- What no file may say. -/
inductive FileFault where
  | blankHash (callerId : String)
  | emptyPin
  deriving DecidableEq, Repr

/-- The message of a fault. -/
def FileFault.message : FileFault → String
  | blankHash callerId => "api key for caller '" ++ callerId ++ "' has an empty key_hash"
  | emptyPin => "model pins need both model and upstream_id"

/-- Whether a pin lacks one of its models. -/
def isEmptyPin (p : PinEntry) : Bool :=
  p.model.isEmpty || p.providerId.isEmpty

/-- Refuses a file for the first key without a hash, then for a pin without a model. -/
def GatewayFile.check (f : GatewayFile) : Except FileFault Unit :=
  match f.apiKeys.find? fun k => Text.isBlankText k.hash with
  | some k => .error (.blankHash k.callerId)
  | none => if f.pins.any isEmptyPin then .error .emptyPin else .ok ()

end InferenceGateway.Config
