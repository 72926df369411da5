import Mathlib
import InferenceGateway.Dispatch.Acceptance

/-!
# The key of a call

The key of a call to a provider is the first of three that is there: the caller's own, the one of
its organization, the default of the process. A look-up that fails is not passed over.

* `firstKey`, `CredentialRules.organizationDefault`: what the key of a call is made of.
* `CredentialRules.Grants`: what there is to say about it; `Gateway.grants_of_keyFor` says it of the
  key with which a request is let through.
* `CredentialRules.SameKeys`: two configurations agree on a caller and a provider;
  `Gateway.keyFor_eq_of_sameKeys`, `Gateway.accept_eq_of_sameKeys` say what follows.
-/

namespace InferenceGateway

/-! ## Keys by source -/

/-- The first key of several sources that is there and not empty. -/
def firstKey (sources : List (Option String)) : Option String :=
  sources.findSome? fun key => key.filter fun k => !k.isEmpty

/-- The first key of several sources is that of the first source, or of the others. -/
theorem firstKey_cons (source : Option String) (rest : List (Option String)) :
    firstKey (source :: rest) = (firstKey [source]).or (firstKey rest) := by
  unfold firstKey
  rw [List.findSome?_cons, List.findSome?_singleton]
  cases source.filter fun k => !k.isEmpty <;> rfl

theorem ne_empty_of_firstKey {sources : List (Option String)} {key : String}
    (h : firstKey sources = some key) : key ≠ "" := by
  obtain ⟨source, -, kept⟩ := List.exists_of_findSome?_eq_some h
  obtain ⟨-, present⟩ := Option.filter_eq_some_iff.mp kept
  rintro rfl
  cases present

/-- Whether an error says that the look-up failed, and not that there is no key. -/
def CredentialError.isFailure : CredentialError → Bool
  | lookupFailed _ => true
  | notFound _ => false

namespace CredentialRules

variable {rules : CredentialRules} {caller : Caller} {p : Provider}

/-- What the organization of a caller has for a provider, or why that is not known. -/
def organizationDefault (rules : CredentialRules) (caller : Caller) (p : Provider) :
    Except CredentialError (Option String) :=
  match caller.organization with
  | none => .ok none
  | some id => rules.organizations id p

theorem ownKey_eq (caller : Caller) (p : Provider) :
    ownKey caller p = firstKey [ProviderKeys.find? p caller.keys] :=
  (List.findSome?_singleton).symm

theorem processDefault_eq (rules : CredentialRules) (p : Provider) :
    rules.processDefault p = firstKey [ProviderKeys.find? p rules.process] :=
  (List.findSome?_singleton).symm

/-- An empty key of an organization counts as none. -/
theorem organizationKey_eq (rules : CredentialRules) (caller : Caller) (p : Provider) :
    rules.organizationKey caller p
      = (rules.organizationDefault caller p).map fun key => firstKey [key] := by
  unfold organizationKey organizationDefault
  cases caller.organization with
  | none => rfl
  | some id =>
    cases rules.organizations id p <;> simp [Except.map, firstKey]

/-- With a key of the caller's own nobody else is asked. -/
theorem resolve_of_own {key : String}
    (own : firstKey [ProviderKeys.find? p caller.keys] = some key) :
    rules.resolve caller p = .ok key := by
  unfold resolve
  rw [ownKey_eq, own]

/-- Where the organizations give an error, the search ends with it. -/
theorem resolve_of_error (own : firstKey [ProviderKeys.find? p caller.keys] = none)
    {e : CredentialError} (unanswered : rules.organizationDefault caller p = .error e) :
    rules.resolve caller p = .error e := by
  unfold resolve
  rw [ownKey_eq, own, organizationKey_eq, unanswered]
  rfl

/-- Where they answer, the key of the organization comes before that of the process. -/
theorem resolve_of_answer (own : firstKey [ProviderKeys.find? p caller.keys] = none)
    {default : Option String} (answered : rules.organizationDefault caller p = .ok default) :
    rules.resolve caller p =
      (firstKey [default, ProviderKeys.find? p rules.process]).elim (.error (.notFound p)) .ok := by
  unfold resolve
  rw [ownKey_eq, own, organizationKey_eq, answered, processDefault_eq, firstKey_cons default]
  dsimp only [Except.map, bind, Except.bind]
  cases firstKey [default] with
  | some key => rfl
  | none => cases firstKey [ProviderKeys.find? p rules.process] <;> rfl

/-- What there is to say about the key of a call to a provider on behalf of a caller, by a client
that requires a key or not. -/
structure Grants (rules : CredentialRules) (caller : Caller) (p : Provider) (requires : Bool)
    (key : String) : Prop where
  /-- The caller's own key counts, whatever would be found at the organizations. -/
  own : ∀ k, firstKey [ProviderKeys.find? p caller.keys] = some k → key = k
  /-- The first key counts that is there, and without any the call carries an empty one. -/
  first : ∀ default, rules.organizationDefault caller p = .ok default →
    key = (firstKey [ProviderKeys.find? p caller.keys, default,
      ProviderKeys.find? p rules.process]).getD ""
  /-- A call without an own key is not made when the look-up has failed. Where the organizations
  say themselves that there is no key, the default of the process does not count either. -/
  unanswered : firstKey [ProviderKeys.find? p caller.keys] = none →
    ∀ e, rules.organizationDefault caller p = .error e → e.isFailure = false ∧ key = ""
  /-- An empty key is one that is neither there nor required. -/
  keyless : key = "" → requires = false ∧ ∀ default,
    rules.organizationDefault caller p = .ok default →
      firstKey [ProviderKeys.find? p caller.keys, default,
        ProviderKeys.find? p rules.process] = none

end CredentialRules

open CredentialRules

namespace Gateway

variable {g : Gateway} {caller : Caller} {client : Client} {p : Provider}

/-- A key of the caller's own counts whatever would be found at the organizations. -/
theorem keyFor_of_own {key : String}
    (own : firstKey [ProviderKeys.find? p caller.keys] = some key) :
    g.keyFor caller client p = .ok key := by
  unfold keyFor
  rw [resolve_of_own own]

/-- Without one, a failed look-up is a refusal. -/
theorem keyFor_of_failed (own : firstKey [ProviderKeys.find? p caller.keys] = none)
    {reason : String}
    (failed : g.rules.organizationDefault caller p = .error (.lookupFailed reason)) :
    g.keyFor caller client p = .error (.noCredential p) := by
  unfold keyFor
  rw [resolve_of_error own failed]

/-- What becomes of a call for which there is no key. -/
def withoutKey (client : Client) (p : Provider) : Except GatewayError String :=
  if client.requiresKey then .error (.noCredential p) else .ok ""

/-- Where the organizations say that there is no key, the client decides. -/
theorem keyFor_of_unknown (own : firstKey [ProviderKeys.find? p caller.keys] = none)
    {q : Provider} (unknown : g.rules.organizationDefault caller p = .error (.notFound q)) :
    g.keyFor caller client p = withoutKey client p := by
  unfold keyFor
  rw [resolve_of_error own unknown]
  rfl

/-- Without a key of any source, the client decides. -/
theorem keyFor_of_answer (own : firstKey [ProviderKeys.find? p caller.keys] = none)
    {default : Option String} (answered : g.rules.organizationDefault caller p = .ok default) :
    g.keyFor caller client p = (firstKey [default, ProviderKeys.find? p g.rules.process]).elim
      (withoutKey client p) .ok := by
  unfold keyFor
  rw [resolve_of_answer own answered]
  cases firstKey [default, ProviderKeys.find? p g.rules.process] <;> rfl

/-- Where the organizations answer, the first of all keys counts, and without any it depends on the
client. -/
theorem keyFor_of_all {default : Option String}
    (answered : g.rules.organizationDefault caller p = .ok default) :
    g.keyFor caller client p = (firstKey [ProviderKeys.find? p caller.keys, default,
      ProviderKeys.find? p g.rules.process]).elim (withoutKey client p) .ok := by
  rw [firstKey_cons]
  cases own : firstKey [ProviderKeys.find? p caller.keys] with
  | some key => exact keyFor_of_own own
  | none => exact keyFor_of_answer own answered

/-- Without an own key a call is refused when the look-up fails, and for a client that requires a
key also when it comes to no answer otherwise. -/
theorem keyFor_of_unanswered (own : firstKey [ProviderKeys.find? p caller.keys] = none)
    {e : CredentialError} (unanswered : g.rules.organizationDefault caller p = .error e)
    (refused : e.isFailure = true ∨ client.requiresKey = true) :
    g.keyFor caller client p = .error (.noCredential p) := by
  cases e with
  | lookupFailed reason => exact keyFor_of_failed own unanswered
  | notFound q =>
    have required := refused.resolve_left Bool.false_ne_true
    rw [keyFor_of_unknown own unanswered, withoutKey, if_pos required]

/-- A call without a key is made only for a client that needs none. -/
theorem of_withoutKey_eq_ok {key : String} (h : withoutKey client p = .ok key) :
    client.requiresKey = false ∧ key = "" := by
  unfold withoutKey at h
  split at h
  · cases h
  · next optional =>
    cases h
    exact ⟨Bool.eq_false_iff.mpr optional, rfl⟩

/-- The four ways in which a request is let through. -/
theorem of_keyFor_eq_ok {key : String} (h : g.keyFor caller client p = .ok key) :
    firstKey [ProviderKeys.find? p caller.keys] = some key
    ∨ firstKey [ProviderKeys.find? p caller.keys] = none
      ∧ ((∃ q, g.rules.organizationDefault caller p = .error (.notFound q)
          ∧ client.requiresKey = false ∧ key = "")
        ∨ ∃ default, g.rules.organizationDefault caller p = .ok default
          ∧ (firstKey [default, ProviderKeys.find? p g.rules.process] = some key
            ∨ firstKey [default, ProviderKeys.find? p g.rules.process] = none
              ∧ client.requiresKey = false ∧ key = "")) := by
  cases own : firstKey [ProviderKeys.find? p caller.keys] with
  | some k =>
    rw [keyFor_of_own own] at h
    cases h
    exact .inl rfl
  | none =>
    refine .inr ⟨rfl, ?_⟩
    -- a failed look-up refuses; any other error leaves the call without a key
    cases answer : g.rules.organizationDefault caller p with
    | error e =>
      cases e with
      | lookupFailed reason =>
        rw [keyFor_of_failed own answer] at h
        cases h
      | notFound q =>
        rw [keyFor_of_unknown own answer] at h
        exact .inl ⟨q, rfl, of_withoutKey_eq_ok h⟩
    | ok default =>
      refine .inr ⟨default, rfl, ?_⟩
      rw [keyFor_of_answer own answer] at h
      cases found : firstKey [default, ProviderKeys.find? p g.rules.process] with
      | some k =>
        rw [found] at h
        cases h
        exact .inl rfl
      | none =>
        rw [found] at h
        exact .inr ⟨rfl, of_withoutKey_eq_ok h⟩

/-- The key with which a request is let through. -/
theorem grants_of_keyFor {key : String} (h : g.keyFor caller client p = .ok key) :
    g.rules.Grants caller p client.requiresKey key := by
  have others := fun default =>
    firstKey_cons (ProviderKeys.find? p caller.keys) [default, ProviderKeys.find? p g.rules.process]
  rcases of_keyFor_eq_ok h with own | ⟨own, rest⟩
  -- with a key of its own a caller needs nothing else to be known
  · refine ⟨fun k same => ?_, fun default _ => ?_, fun absent => ?_, fun empty => ?_⟩
    · exact Option.some.inj (own.symm.trans same)
    · rw [others, own]
      rfl
    · cases own.symm.trans absent
    · exact absurd empty (ne_empty_of_firstKey own)
  -- without one, the first of the others is the first of all
  rw [own] at others
  rcases rest with
    ⟨q, unknown, optional, rfl⟩ | ⟨default, answered, found | ⟨nowhere, optional, rfl⟩⟩
  · refine ⟨fun k present => ?_, fun default answered => ?_, fun _ e same => ?_, fun _ => ?_⟩
    · cases own.symm.trans present
    · cases unknown.symm.trans answered
    · cases unknown.symm.trans same
      exact ⟨rfl, rfl⟩
    · exact ⟨optional, fun default answered => nomatch unknown.symm.trans answered⟩
  · refine ⟨fun k present => ?_, fun default' same => ?_, fun _ e unanswered => ?_, fun empty => ?_⟩
    · cases own.symm.trans present
    · cases answered.symm.trans same
      rw [others, found]
      rfl
    · cases answered.symm.trans unanswered
    · exact absurd empty (ne_empty_of_firstKey found)
  · refine ⟨fun k present => ?_, fun default' same => ?_, fun _ e unanswered => ?_, fun _ => ?_⟩
    · cases own.symm.trans present
    · cases answered.symm.trans same
      rw [others, nowhere]
      rfl
    · cases answered.symm.trans unanswered
    · refine ⟨optional, fun default' same => ?_⟩
      cases answered.symm.trans same
      rw [others, nowhere]
      rfl

end Gateway

/-! ## Two configurations -/

namespace CredentialRules

/-- What the organization of a caller has for a provider, or whether the look-up has failed. -/
def organizationAnswer (rules : CredentialRules) (caller : Caller) (p : Provider) :
    Except Bool (Option String) :=
  ((rules.organizationDefault caller p).map fun key => firstKey [key]).mapError
    CredentialError.isFailure

/-- Two configurations, each with a caller, agree on all keys for a provider, and on whether a
look-up fails that is made. -/
structure SameKeys (p : Provider) (rules : CredentialRules) (caller : Caller)
    (rules' : CredentialRules) (caller' : Caller) : Prop where
  own : firstKey [ProviderKeys.find? p caller.keys] = firstKey [ProviderKeys.find? p caller'.keys]
  organization : firstKey [ProviderKeys.find? p caller.keys] = none →
    rules.organizationAnswer caller p = rules'.organizationAnswer caller' p
  process : firstKey [ProviderKeys.find? p rules.process]
    = firstKey [ProviderKeys.find? p rules'.process]

end CredentialRules

namespace Gateway

/-- What decides about the key of a call. -/
theorem keyFor_eq (g : Gateway) (caller : Caller) (client : Client) (p : Provider) :
    g.keyFor caller client p =
      (firstKey [ProviderKeys.find? p caller.keys]).elim
        (match g.rules.organizationAnswer caller p with
          | .ok default => (default.or (firstKey [ProviderKeys.find? p g.rules.process])).elim
              (withoutKey client p) .ok
          | .error failure =>
            if failure then .error (.noCredential p) else withoutKey client p) .ok := by
  unfold organizationAnswer
  cases own : firstKey [ProviderKeys.find? p caller.keys] with
  | some k => exact keyFor_of_own own
  | none =>
    cases answer : g.rules.organizationDefault caller p with
    | ok default =>
      rw [keyFor_of_answer own answer, firstKey_cons]
      rfl
    | error e =>
      cases e with
      | lookupFailed reason => exact keyFor_of_failed own answer
      | notFound q => exact keyFor_of_unknown own answer

/-- Where two configurations agree, the same calls are made, and with the same key. -/
theorem keyFor_eq_of_sameKeys {g g' : Gateway} {caller caller' : Caller} {p : Provider}
    (same : SameKeys p g.rules caller g'.rules caller') (client : Client) :
    g.keyFor caller client p = g'.keyFor caller' client p := by
  rw [keyFor_eq, keyFor_eq, same.own]
  cases own : firstKey [ProviderKeys.find? p caller'.keys] with
  | some k => rfl
  | none => rw [same.organization (same.own.trans own), same.process]

/-- The client of a call decides whether it is made, but not with which key. -/
theorem key_unique {g : Gateway} {caller : Caller} {client client' : Client} {p : Provider}
    {key key' : String} (h : g.keyFor caller client p = .ok key)
    (h' : g.keyFor caller client' p = .ok key') : key = key' := by
  rw [keyFor_eq] at h h'
  have missing : ∀ {c c' : Client}, withoutKey c p = .ok key → withoutKey c' p = .ok key' →
      key = key' :=
    fun h h' => (of_withoutKey_eq_ok h).2.trans (of_withoutKey_eq_ok h').2.symm
  -- the client is asked only where there is no key, and then the key is empty
  generalize firstKey [ProviderKeys.find? p caller.keys] = own at h h'
  generalize g.rules.organizationAnswer caller p = answer at h h'
  generalize firstKey [ProviderKeys.find? p g.rules.process] = process at h h'
  cases own with
  | some k =>
    cases h
    cases h'
    rfl
  | none =>
    cases answer with
    | error failure =>
      cases failure with
      | true => cases h
      | false => exact missing h h'
    | ok default =>
      cases found : default.or process with
      | some k =>
        simp only [Option.elim, found] at h h'
        cases h
        cases h'
        rfl
      | none =>
        simp only [Option.elim, found] at h h'
        exact missing h h'

/-- Nothing but the key of a call depends on where keys come from and on who calls. -/
theorem accept_congr {g g' : Gateway} {s : Snapshot} {caller caller' : Caller} {r : ChatRequest}
    (clients : g.registry = g'.registry)
    (same : ∀ binding client, s.resolve r.model = some binding →
      g.keyFor caller client binding.provider = g'.keyFor caller' client binding.provider) :
    g.accept s caller r = g'.accept s caller' r := by
  unfold accept
  cases resolved : s.resolve r.model with
  | none => rfl
  | some binding =>
    have keys := fun client => same binding client resolved
    dsimp only [Option.elim, bind, Except.bind]
    rw [clients]
    simp only [keys]

/-- Two gateways with the same clients let the same requests through, and refuse the others for the
same reason, where they agree about the provider of the model. -/
theorem accept_eq_of_sameKeys {g g' : Gateway} {s : Snapshot} {caller caller' : Caller}
    {r : ChatRequest} (clients : g.registry = g'.registry)
    (same : ∀ binding, s.resolve r.model = some binding →
      SameKeys binding.provider g.rules caller g'.rules caller') :
    g.accept s caller r = g'.accept s caller' r := by
  exact accept_congr clients fun binding client resolved =>
    keyFor_eq_of_sameKeys (same binding resolved) client

/-- With a key of its own a caller is let through or refused whatever store there is. -/
theorem accept_eq_of_own (g : Gateway) {s : Snapshot} {caller : Caller} {r : ChatRequest}
    (own : ∀ binding, s.resolve r.model = some binding →
      firstKey [ProviderKeys.find? binding.provider caller.keys] ≠ none)
    (store : OrganizationStore) :
    { g with rules := { g.rules with organizations := store } }.accept s caller r
      = g.accept s caller r := by
  refine accept_congr rfl fun binding client resolved => ?_
  obtain ⟨key, present⟩ := Option.ne_none_iff_exists'.mp (own binding resolved)
  rw [keyFor_of_own present, keyFor_of_own present]

/-- A caller is let through to a provider with a key for it. -/
def LetsThrough (g : Gateway) (caller : Caller) (a : Accepted) : Prop :=
  g.registry.client? a.binding.provider = some a.client
    ∧ g.keyFor caller a.client a.binding.provider = .ok a.key

/-- Where a client is found for a request, its key decides. -/
theorem accept_of_client {g : Gateway} {s : Snapshot} {caller : Caller} {r : ChatRequest}
    {binding : Binding} {client : Client} (checked : checkRequest r = .ok ())
    (resolved : s.resolve r.model = some binding)
    (found : g.registry.client? binding.provider = some client) :
    g.accept s caller r = (g.keyFor caller client binding.provider).map fun key =>
      { binding, client, key } := by
  unfold accept
  simp only [checked, resolved, found, Option.elim, bind, Except.bind]
  cases g.keyFor caller client binding.provider <;> rfl

end Gateway

end InferenceGateway
