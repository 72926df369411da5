import InferenceGateway.Calendar
import InferenceGateway.Config.Settings
import InferenceGateway.Text.Quoted

/-!
# What may be shown of values with secrets

Texts of values for logs. Each secret is left out or stands as `<redacted>`; of keys for providers
only the providers are shown.
-/

namespace InferenceGateway.Inspection

/-- What stands for a secret. -/
def redacted : String := "<redacted>"

/-- A value with named fields. -/
def fields (name : String) (pairs : List (String × String)) : String :=
  name ++ " \x7b " ++ Text.join ", " (pairs.map fun pair => pair.1 ++ ": " ++ pair.2) ++ " \x7d"

/-- A value that may be absent. -/
def optional (value : Option String) : String :=
  match value with
  | some v => "Some(" ++ v ++ ")"
  | none => "None"

/-- A list of values. -/
def list (values : List String) : String :=
  "[" ++ Text.join ", " values ++ "]"

/-- A truth value. -/
def truth (b : Bool) : String :=
  if b then "true" else "false"

/-- A provider. -/
def provider : Provider → String
  | .jan => "Jan"
  | .openRouter => "OpenRouter"
  | .gemini => "Gemini"

/-- The providers that have a key. -/
def providers (keys : ProviderKeys) : String :=
  list (keys.providers.map provider)

/-- A caller. -/
def caller (c : Caller) : String :=
  fields "Caller"
    [("caller_id", Text.quoted c.id), ("organization_id", optional (c.organization.map Text.quoted)),
     ("provider_keys", providers c.keys)]

/-- A key record. -/
def record (r : KeyRecord) : String :=
  fields "ApiKeyRecord"
    [("caller_id", Text.quoted r.caller.id),
     ("organization_id", optional (r.caller.organization.map Text.quoted)),
     ("enabled", truth r.enabled), ("expires_at", optional (r.expiresAt.map Calendar.text)),
     ("provider_keys", providers r.caller.keys)]

/-- A key record as configured. -/
def entry (e : KeyEntry) : String :=
  fields "ApiKeyConfig"
    [("caller_id", Text.quoted e.callerId),
     ("organization_id", optional (e.organization.map Text.quoted)), ("enabled", truth e.enabled),
     ("expires_at", optional (e.expiresAt.map toString)),
     ("providers", list (e.providerKeys.map fun pair => Text.quoted pair.1))]

/-- The configured keys of an organization. -/
def organization (keys : List (String × String)) : String :=
  fields "OrganizationConfig" [("providers", list (keys.map fun pair => Text.quoted pair.1))]

/-- An endpoint. -/
def endpoint (e : Config.Endpoint) : String :=
  fields "ProviderEndpointConfig"
    [("base_url", Text.quoted e.baseUrl),
     ("api_key", optional (e.key.map fun _ => Text.quoted redacted))]

/-- The secret under which gateway keys are hashed. -/
def secret (_ : String) : String :=
  fields "AuthConfig" [("apikey_secret", Text.quoted redacted)]

/-- A key for a provider. -/
def credential (_ : String) : String :=
  "ProviderCredential(" ++ redacted ++ ")"

end InferenceGateway.Inspection
