import InferenceGateway.Auth.Key
import InferenceGateway.Dispatch.Acceptance

/-!
# What the gateway tells about itself

The models in the form of the common listing, and how each provider is doing. Of a key only a hint
is shown.
-/

namespace InferenceGateway

/-- How a provider is doing. -/
structure ProviderSummary where
  provider : Provider
  active : Bool
  modelCount : Nat
  lastError : Option String
  /-- When the provider was last asked, in milliseconds. -/
  checkedAt : Option Nat
  keyHint : Option String
  deriving DecidableEq, Repr

/-- How a provider is doing under a snapshot. -/
def Gateway.summary (g : Gateway) (s : Snapshot) (p : Provider) : ProviderSummary :=
  let health := s.health.get p
  { provider := p
    active := health.any Health.healthy
    modelCount := (health.map Health.modelCount).getD 0
    lastError := health.bind Health.lastError
    checkedAt := health.map Health.checkedAt
    keyHint := (g.rules.processDefault p).map Auth.hint }

/-- How all providers are doing, in order of priority. -/
def Gateway.summaries (g : Gateway) (s : Snapshot) : List ProviderSummary :=
  g.registry.providers.map (g.summary s)

/-- A summary as a JSON object; `time` writes a time. -/
def ProviderSummary.toJson (time : Nat → String) (s : ProviderSummary) : Json :=
  Json.ofPairs
    [("provider", .string s.provider.id), ("name", .string s.provider.displayName),
     ("active", .bool s.active), ("model_count", .integer s.modelCount),
     ("last_error", Json.ofOption (s.lastError.map .string)),
     ("checked_at", Json.ofOption (s.checkedAt.map fun t => .string (time t))),
     ("api_key_hint", Json.ofOption (s.keyHint.map .string))]

/-- An entry in the form of the common listing. -/
def ModelEntry.toJson (e : ModelEntry) : Json :=
  Json.ofPairs
    [("id", .string e.id), ("object", .string "model"), ("created", .integer e.created),
     ("owned_by", .string e.ownedBy), ("provider", .string e.provider.id)]

/-- Items as the common listing. -/
def listingJson (items : List Json) : Json :=
  Json.ofPairs [("object", .string "list"), ("data", .array items)]

end InferenceGateway
