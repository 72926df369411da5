import InferenceGateway.Provider.Basic

/-!
# Callers

Who stands behind a gateway key: an id, perhaps an organization, and keys of its own for some
providers. Configured keys are trimmed, and blank ones count as absent whatever their provider is
called.

* `ProviderKeys`: a key for some of the providers.
* `ProviderKeys.ofConfig`: typed keys from configured ones.
-/

namespace InferenceGateway

/-- Keys by provider, each provider at most once, in the order of `Provider.rank`. -/
abbrev ProviderKeys := List (Provider × String)

namespace ProviderKeys

/-- The key of a provider. -/
def find? (p : Provider) (keys : ProviderKeys) : Option String :=
  List.lookup p keys

/-- Puts the key of a provider, in place of an earlier one. -/
def insert (p : Provider) (key : String) : ProviderKeys → ProviderKeys
  | [] => [(p, key)]
  | (q, k) :: rest =>
    if p = q then (p, key) :: rest
    else if p.rank < q.rank then (p, key) :: (q, k) :: rest
    else (q, k) :: ProviderKeys.insert p key rest

/-- The providers that have a key. -/
def providers (keys : ProviderKeys) : List Provider :=
  List.map (·.1) keys

/-- Typed keys from names and keys as configured, taken in the given order. -/
def ofConfig (pairs : List (String × String)) : Except String ProviderKeys :=
  (pairs.filter fun pair => !Text.isBlankText pair.2).foldlM
    (fun keys pair => do
      let p ← Provider.ofText pair.1
      return ProviderKeys.insert p (Text.trim pair.2) keys) []

end ProviderKeys

/-- Someone who may use the gateway. -/
structure Caller where
  id : String
  organization : Option String := none
  keys : ProviderKeys := []
  deriving DecidableEq, Repr

end InferenceGateway
