import InferenceGateway.Auth.Decision
import InferenceGateway.Client.Remote
import InferenceGateway.Config.Settings
import InferenceGateway.Dispatch.Acceptance
import InferenceGateway.Registry.Priority
import InferenceGateway.Registry.Timing

/-!
# Setting up the gateway

What never changes while the gateway runs, made from its settings. Settings that load may still
name unknown providers, repeat a key or hold a time out of range; then there is no gateway.

* `Site`: keys, clients, registry.
* `SetupError`: why settings make no site.
* `boot`: the gateway of some clients with its first snapshot.
* `Site.ofSettings`: the site of settings.
-/

namespace InferenceGateway.Server

open Config (Settings)

/-- Why settings make no site. -/
inductive SetupError where
  | keys (e : AuthError)
  | organizations (e : AuthError)
  | pins (e : RegistryError)
  | priority (name : String)
  deriving DecidableEq, Repr

/-- The message of an error. -/
def SetupError.message : SetupError → String
  | keys e => "invalid api_keys in gateway file: " ++ e.message
  | organizations e => "invalid organizations in gateway file: " ++ e.message
  | pins e => e.message
  | priority name => Provider.unknownMessage name

/-- What lets callers in. -/
def authenticatorOf (s : Settings) : Except SetupError Authenticator := do
  let book ← (KeyBook.ofEntries s.file.apiKeys).mapError .keys
  return { secret := s.secret, store := book.store }

/-- The registry of some clients, and the keys. -/
def gatewayOf (s : Settings) (clients : List Client) : Except SetupError Gateway := do
  let organizations ←
    (OrganizationKeys.ofConfig s.file.organizations).mapError .organizations
  let pins ← (s.file.pins.mapM PinEntry.toPin).mapError .pins
  let order ← (Priority.ofNames s.listing.priority).mapError .priority
  return {
    registry := .new order pins clients
    rules := { organizations := organizations.store, process := s.processKeys } }

/-- A time in milliseconds. -/
def milliseconds (seconds : Nat) : Nat := 1000 * seconds

/--
The gateway of some clients, and its snapshot once they have answered the first listing. That none
of them can list its models is no reason not to serve.
-/
def boot (s : Settings) (clients : List Client) (ended : Nat)
    (answers : List (Provider × ListingAnswer)) : Except SetupError (Gateway × Snapshot) := do
  let gateway ← gatewayOf s clients
  let limit := milliseconds s.listing.providerTimeout
  let (_, snapshot) := gateway.registry.refresh limit {} ended answers
  return (gateway, snapshot)

/-- How long the clients may take. -/
def limitsOf (t : Config.Timeouts) : Client.Limits where
  request := milliseconds t.request
  streamHeader := milliseconds t.streamHeader
  streamIdle := milliseconds t.streamIdle

/-- A client for each provider that is configured. -/
def remotesOf (s : Settings) : List Client.Remote :=
  let limits := limitsOf s.timeouts
  (s.jan.toList.map fun jan => .openAi (.jan jan.baseUrl limits))
    ++ [.openAi (.openRouter s.openRouter.baseUrl limits),
      .gemini { baseUrl := s.gemini.baseUrl, limits }]

/-- What never changes while the gateway runs. -/
structure Site where
  authenticator : Authenticator
  remotes : List Client.Remote
  gateway : Gateway
  /-- The time that a listing may take, in milliseconds. -/
  listingLimit : Nat

/-- The site of settings. Faults of keys come before all others. -/
def Site.ofSettings (s : Settings) : Except SetupError Site := do
  let authenticator ← authenticatorOf s
  let remotes := remotesOf s
  let gateway ← gatewayOf s (remotes.map Client.Remote.toClient)
  return { authenticator, remotes, gateway, listingLimit := milliseconds s.listing.providerTimeout }

/-- The client of a provider. -/
def Site.remote? (site : Site) (p : Provider) : Option Client.Remote :=
  site.remotes.find? fun c => c.provider == p

end InferenceGateway.Server
