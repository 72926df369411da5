import InferenceGateway.Auth.Record

/-!
# Which key goes to a provider

For a call on behalf of a caller the first key that is not empty counts: the caller's own, the one
of its organization, the default of the process. A failed look-up at the organizations is not
passed over. Listings carry the default of the process alone.

* `OrganizationKeys.ofConfig`: keys by organization, from configured ones.
* `CredentialRules.resolve`: the key for a call.
* `CredentialRules.processDefault`: the key for a listing.
-/

namespace InferenceGateway

/-- Why no key is found. -/
inductive CredentialError where
  | notFound (p : Provider)
  | lookupFailed (reason : String)
  deriving DecidableEq, Repr

/-- The message of a failed search for a key. -/
def CredentialError.message : CredentialError → String
  | notFound p => "No credential configured for provider " ++ p.id
  | lookupFailed reason => "Credential lookup failed: " ++ reason

/-- Where the keys of organizations are looked up. -/
abbrev OrganizationStore := String → Provider → Except CredentialError (Option String)

/-- Keys by organization, each organization once. -/
abbrev OrganizationKeys := List (String × ProviderKeys)

namespace OrganizationKeys

/-- Typed keys from configured ones; the first name of no provider refuses them all. -/
def ofConfig (organizations : List (String × List (String × String))) :
    Except AuthError OrganizationKeys :=
  organizations.mapM fun (id, pairs) =>
    match ProviderKeys.ofConfig pairs with
    | .ok keys => .ok (id, keys)
    | .error name => .error (.invalidRecord (Provider.unknownMessage name))

/-- A store that holds these keys. -/
def store (organizations : OrganizationKeys) : OrganizationStore :=
  fun id p => .ok ((List.lookup id organizations).bind (ProviderKeys.find? p))

end OrganizationKeys

/-- Where the keys for providers come from. -/
structure CredentialRules where
  organizations : OrganizationStore
  /-- The defaults of the process. -/
  process : ProviderKeys

namespace CredentialRules

/-- The default of the process, if it is not empty. -/
def processDefault (rules : CredentialRules) (p : Provider) : Option String :=
  (ProviderKeys.find? p rules.process).filter fun key => !key.isEmpty

/-- The caller's own key, if it is not empty. -/
def ownKey (caller : Caller) (p : Provider) : Option String :=
  (ProviderKeys.find? p caller.keys).filter fun key => !key.isEmpty

/-- The key of the caller's organization, if it has one that is not empty. -/
def organizationKey (rules : CredentialRules) (caller : Caller) (p : Provider) :
    Except CredentialError (Option String) :=
  match caller.organization with
  | none => .ok none
  | some id => (rules.organizations id p).map fun key => key.filter fun k => !k.isEmpty

/-- The key for a call to a provider on behalf of a caller. -/
def resolve (rules : CredentialRules) (caller : Caller) (p : Provider) :
    Except CredentialError String :=
  match ownKey caller p with
  | some key => .ok key
  | none => do
    match ← rules.organizationKey caller p with
    | some key => return key
    | none =>
      match rules.processDefault p with
      | some key => return key
      | none => throw (.notFound p)

end CredentialRules

end InferenceGateway
