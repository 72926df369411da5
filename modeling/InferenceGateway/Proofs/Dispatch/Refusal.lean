import Mathlib
import InferenceGateway.Proofs.Dispatch.Credential
import InferenceGateway.Proofs.Rehearsal.Snapshots
import InferenceGateway.Proofs.Server.States
import InferenceGateway.Proofs.Text.Names

/-!
# Why requests are refused

A request is refused for the first reason that there is, before any provider is called, and then
nothing changes. That a provider is not configured is never among the reasons, since every published
model is that of a configured one.

* `ChatRequest.Posed`: what a request must hold before it is looked at.
* `CredentialRules.LookupFails`, `CredentialRules.FindsNone`: the ways to be without a key.
* `Gateway.Refuses`: the reasons against a request, each where no earlier one applies.
* `Gateway.accept_eq_error_iff`: there are no other reasons, under any sound snapshot.
* `Gateway.refuses_in_order`: what becomes of requests, in both ways to deliver completions, under
  any snapshot that rounds lead to. Those of worlds and of servers are such snapshots
  (`World.Reachable.founded`, `Server.Reachable.registry`).
-/

namespace InferenceGateway

/-- A request that names a model and holds a message. -/
structure ChatRequest.Posed (r : ChatRequest) : Prop where
  named : Text.trim r.model ≠ ""
  spoken : r.messages ≠ []

namespace CredentialRules

/-- There is no own key, and the look-up at the organizations fails. -/
def LookupFails (rules : CredentialRules) (caller : Caller) (p : Provider) : Prop :=
  firstKey [ProviderKeys.find? p caller.keys] = none
    ∧ ∃ reason, rules.organizationDefault caller p = .error (.lookupFailed reason)

/-- There is no own key, and none is found elsewhere: the organizations say so, or neither they nor
the process have one. -/
def FindsNone (rules : CredentialRules) (caller : Caller) (p : Provider) : Prop :=
  firstKey [ProviderKeys.find? p caller.keys] = none
    ∧ ((∃ q, rules.organizationDefault caller p = .error (.notFound q))
      ∨ ∃ default, rules.organizationDefault caller p = .ok default
        ∧ firstKey [default, ProviderKeys.find? p rules.process] = none)

end CredentialRules

namespace Gateway

variable {g : Gateway} {s : Snapshot} {caller : Caller} {r : ChatRequest}

/-! ## Without a key -/

/-- Without a key only a client that requires one is refused. -/
theorem of_withoutKey_eq_error {client : Client} {p : Provider} {e : GatewayError}
    (h : withoutKey client p = .error e) : e = .noCredential p ∧ client.requiresKey = true := by
  unfold withoutKey at h
  split at h
  · next required =>
    cases h
    exact ⟨rfl, required⟩
  · cases h

/-- A call is refused for want of a key, and only then. -/
theorem keyFor_eq_error_iff {client : Client} {p : Provider} {e : GatewayError} :
    g.keyFor caller client p = .error e ↔ e = .noCredential p
      ∧ (g.rules.LookupFails caller p
        ∨ client.requiresKey = true ∧ g.rules.FindsNone caller p) := by
  constructor
  · intro refused
    cases own : firstKey [ProviderKeys.find? p caller.keys] with
    | some key =>
      rw [keyFor_of_own own] at refused
      cases refused
    | none =>
      cases answer : g.rules.organizationDefault caller p with
      | error cause =>
        cases cause with
        | lookupFailed reason =>
          rw [keyFor_of_failed own answer] at refused
          cases refused
          exact ⟨rfl, .inl ⟨own, reason, answer⟩⟩
        | notFound q =>
          rw [keyFor_of_unknown own answer] at refused
          obtain ⟨rfl, required⟩ := of_withoutKey_eq_error refused
          exact ⟨rfl, .inr ⟨required, own, .inl ⟨q, answer⟩⟩⟩
      | ok default =>
        rw [keyFor_of_answer own answer] at refused
        cases found : firstKey [default, ProviderKeys.find? p g.rules.process] with
        | some key =>
          rw [found] at refused
          cases refused
        | none =>
          rw [found] at refused
          obtain ⟨rfl, required⟩ := of_withoutKey_eq_error refused
          exact ⟨rfl, .inr ⟨required, own, .inr ⟨default, answer, found⟩⟩⟩
  · rintro ⟨rfl, ⟨own, reason, failed⟩ | ⟨required, own, ⟨q, unknown⟩ | ⟨default, answer, none⟩⟩⟩
    · exact keyFor_of_failed own failed
    · rw [keyFor_of_unknown own unknown]
      exact if_pos required
    · rw [keyFor_of_answer own answer, none]
      exact if_pos required

/-! ## The reasons -/

/-- The reasons against a request. -/
inductive Refuses (g : Gateway) (s : Snapshot) (caller : Caller) (r : ChatRequest) :
    GatewayError → Prop where
  | unnamed (blank : Text.trim r.model = "") :
    Refuses g s caller r (.invalidRequest "model is required")
  | unspoken (named : Text.trim r.model ≠ "") (silent : r.messages = []) :
    Refuses g s caller r (.invalidRequest "messages must not be empty")
  /-- No model is published under the very text, blanks included. -/
  | unpublished (posed : r.Posed) (absent : ∀ e ∈ s.catalog, e.id ≠ r.model) :
    Refuses g s caller r (.modelNotFound r.model)
  | lookupFails {e : ModelEntry} (posed : r.Posed) (published : e ∈ s.catalog)
    (id : e.id = r.model) (fails : g.rules.LookupFails caller e.provider) :
    Refuses g s caller r (.noCredential e.provider)
  | keyless {e : ModelEntry} {client : Client} (posed : r.Posed) (published : e ∈ s.catalog)
    (id : e.id = r.model) (configured : g.registry.client? e.provider = some client)
    (required : client.requiresKey = true) (none : g.rules.FindsNone caller e.provider) :
    Refuses g s caller r (.noCredential e.provider)

/-- A blank model is looked at first. -/
theorem accept_of_unnamed (blank : Text.trim r.model = "") :
    g.accept s caller r = .error (.invalidRequest "model is required") := by
  unfold accept checkRequest
  rw [if_pos (Text.trim_eq_empty_iff.mp blank)]
  rfl

/-- A request without messages is refused before its model is looked up. -/
theorem accept_of_unspoken (named : Text.trim r.model ≠ "") (silent : r.messages = []) :
    g.accept s caller r = .error (.invalidRequest "messages must not be empty") := by
  unfold accept checkRequest
  rw [if_neg (named ∘ Text.trim_eq_empty_iff.mpr), silent]
  rfl

/-- A request with a model and a message is one that can be answered. -/
theorem checkRequest_of_posed (posed : r.Posed) : checkRequest r = .ok () := by
  have spoken : ¬r.messages.isEmpty = true := posed.spoken ∘ List.isEmpty_iff.mp
  unfold checkRequest
  rw [if_neg (posed.named ∘ Text.trim_eq_empty_iff.mpr), if_neg spoken]

/-- A model that nobody publishes is refused before any key is looked up. -/
theorem accept_of_unpublished (posed : r.Posed) (unresolved : s.resolve r.model = none) :
    g.accept s caller r = .error (.modelNotFound r.model) := by
  unfold accept
  rw [checkRequest_of_posed posed, unresolved]
  rfl

/-- A published model has a client, and so the key decides. -/
theorem accept_of_published (sound : s.Sound g.registry.providers) (caller : Caller)
    (posed : r.Posed) {e : ModelEntry} (published : e ∈ s.catalog) (id : e.id = r.model) :
    ∃ client, g.registry.client? e.provider = some client
      ∧ g.accept s caller r = (g.keyFor caller client e.provider).map fun key =>
        { binding := e.binding, client, key } := by
  obtain ⟨client, found⟩ := Option.isSome_iff_exists.mp
    (Registry.client?_isSome_iff.mpr (sound.configured e published))
  refine ⟨client, found, ?_⟩
  refine accept_of_client (checkRequest_of_posed posed) ?_ found
  exact (sound.resolves r.model e.binding).mpr ⟨e, published, id, by rw [← id]; rfl⟩

/-- Under a sound snapshot requests are refused for these reasons, and for no other. -/
theorem accept_eq_error_iff (sound : s.Sound g.registry.providers) {e : GatewayError} :
    g.accept s caller r = .error e ↔ g.Refuses s caller r e := by
  constructor
  · intro refused
    -- the reasons in the order in which they are looked for
    by_cases blank : Text.trim r.model = ""
    · rw [accept_of_unnamed blank] at refused
      cases refused
      exact .unnamed blank
    by_cases silent : r.messages = []
    · rw [accept_of_unspoken blank silent] at refused
      cases refused
      exact .unspoken blank silent
    have posed : r.Posed := ⟨blank, silent⟩
    cases resolved : s.resolve r.model with
    | none =>
      rw [accept_of_unpublished posed resolved] at refused
      cases refused
      refine .unpublished posed fun entry published id => ?_
      have found := (sound.resolves _ _).mpr ⟨entry, published, id, rfl⟩
      cases resolved.symm.trans found
    | some binding =>
      obtain ⟨entry, published, id, -⟩ := (sound.resolves _ _).mp resolved
      obtain ⟨client, configured, decided⟩ := accept_of_published sound caller posed published id
      rw [decided] at refused
      cases keyed : g.keyFor caller client entry.provider with
      | ok key =>
        rw [keyed] at refused
        cases refused
      | error cause =>
        rw [keyed] at refused
        cases refused
        obtain ⟨rfl, fails | ⟨required, none⟩⟩ := keyFor_eq_error_iff.mp keyed
        · exact .lookupFails posed published id fails
        · exact .keyless posed published id configured required none
  · intro reason
    -- each reason implies that none before it holds
    cases reason with
    | unnamed blank => exact accept_of_unnamed blank
    | unspoken named silent => exact accept_of_unspoken named silent
    | unpublished posed absent =>
      refine accept_of_unpublished posed (Option.eq_none_iff_forall_not_mem.mpr fun b found => ?_)
      obtain ⟨entry, published, id, -⟩ := (sound.resolves _ _).mp found
      exact absent entry published id
    | lookupFails posed published id fails =>
      obtain ⟨client, -, decided⟩ := accept_of_published sound caller posed published id
      rw [decided, keyFor_eq_error_iff.mpr ⟨rfl, .inl fails⟩]
      rfl
    | keyless posed published id configured required none =>
      obtain ⟨client, found, decided⟩ := accept_of_published sound caller posed published id
      cases found.symm.trans configured
      rw [decided, keyFor_eq_error_iff.mpr ⟨rfl, .inr ⟨required, none⟩⟩]
      rfl

/-- A request against which there is no reason is accepted. -/
theorem exists_accepted (sound : s.Sound g.registry.providers)
    (none : ∀ e, ¬g.Refuses s caller r e) : ∃ accepted, g.accept s caller r = .ok accepted := by
  cases decided : g.accept s caller r with
  | error e => exact absurd ((accept_eq_error_iff sound).mp decided) (none e)
  | ok accepted => exact ⟨accepted, rfl⟩

end Gateway

/-! ## Refused requests -/

namespace Rehearsal.World

variable {w : World} {caller : Caller} {r : ChatRequest}

/-- A refused request begins no call. -/
theorem beginCall_of_refused (id : Option String) (delivery : Delivery) {e : GatewayError}
    (refused : w.gateway.accept w.snapshot caller r = .error e) :
    w.beginCall id delivery caller r = .error e := by
  unfold beginCall
  rw [refused]
  rfl

/-- Nor does it when a shutdown is noticed late. -/
theorem beginLate_of_refused (id : Option String) (delivery : Delivery) {e : GatewayError}
    (refused : w.gateway.accept w.snapshot caller r = .error e) :
    w.beginLate id delivery caller r = .error e := by
  unfold beginLate
  rw [refused]
  rfl

/-- Once a shutdown is noticed an accepted request is canceled. -/
theorem beginCall_of_stopped (id : Option String) (delivery : Delivery) {accepted : Accepted}
    (accepts : w.gateway.accept w.snapshot caller r = .ok accepted) (stopped : w.stopped ≠ none) :
    w.beginCall id delivery caller r = .error .canceled := by
  have past : w.stopped.isSome = true := Option.isSome_iff_ne_none.mpr stopped
  unfold beginCall
  rw [accepts]
  simp only [bind, Except.bind, if_pos past]
  rfl

theorem catalog_listed (replies : List (Answer Payload)) :
    (listed replies).snapshot.catalog = [.ofListing .jan ⟨"m", "model", 0, ""⟩] := by
  cbv

end Rehearsal.World

namespace Server

variable {site : Site} {caller : Caller} {r : ChatRequest} {st : State}

/-- A refused request leaves everything as it is. -/
theorem complete_of_refused (peer : Http.Peer) (times : Times) {e : GatewayError}
    (refused : site.gateway.accept st.snapshot caller r = .error e) :
    complete site peer times caller r st = (.error e, st) := by
  unfold complete
  rw [refused]

/-- An accepted request finds the client of its provider. -/
theorem complete_of_accepted (equipped : site.Equipped) (peer : Http.Peer) (times : Times)
    {accepted : Accepted} (accepts : site.gateway.accept st.snapshot caller r = .ok accepted) :
    ∃ c, site.remote? accepted.binding.provider = some c
      ∧ complete site peer times caller r st = completeBy c peer times accepted r st := by
  obtain ⟨-, client, -⟩ := Gateway.of_accept_eq_ok accepts
  have configured : accepted.binding.provider ∈ site.gateway.registry.providers :=
    Registry.client?_isSome_iff.mp (Option.isSome_iff_exists.mpr ⟨_, client⟩)
  obtain ⟨c, found⟩ := equipped _ configured
  refine ⟨c, found, ?_⟩
  unfold complete
  rw [accepts]
  dsimp only
  rw [found]

end Server

namespace Gateway

open Rehearsal (World)
open Server (Site State Times)

/--
What becomes of a request under any snapshot that rounds lead to. It is refused exactly if there is
a reason against it, and there is at most one; that a provider is not configured never is. In both
ways to deliver a completion, a refused request begins no call, sends nothing to any provider and
leaves the state as it is. All other requests reach the client of their provider; where the gateway
has been shut down they may do so, or are canceled before.
-/
theorem refuses_in_order {g : Gateway} {s : Snapshot} (reached : g.registry.Reachable s)
    (caller : Caller) (r : ChatRequest) :
    (∀ e, g.accept s caller r = .error e ↔ g.Refuses s caller r e)
    ∧ (∀ e e', g.Refuses s caller r e → g.Refuses s caller r e' → e = e')
    ∧ (∀ p message, g.accept s caller r ≠ .error (.providerUnavailable p message))
    ∧ (∀ w : World, w.gateway = g → w.snapshot = s → ∀ id delivery,
      (∀ e, g.Refuses s caller r e → w.beginCall id delivery caller r = .error e
        ∧ w.beginLate id delivery caller r = .error e)
      ∧ ((∀ e, ¬g.Refuses s caller r e) →
        (w.stopped = none → ∃ w' call, w.beginCall id delivery caller r = .ok w'
          ∧ call.isChat = true ∧ w'.log = w.log ++ [call])
        ∧ (w.stopped ≠ none → w.beginCall id delivery caller r = .error .canceled
          ∧ ∃ w' call, w.beginLate id delivery caller r = .ok w'
            ∧ call.isChat = true ∧ w'.log = w.log ++ [call])))
    ∧ ∀ site : Site, site.gateway = g → ∀ (peer : Http.Peer) (times : Times) (st : State),
      st.snapshot = s → ∀ stream,
      (∀ e, g.Refuses s caller r e →
        Server.complete site peer times caller { r with stream } st = (.error e, st))
      ∧ ((∀ e, ¬g.Refuses s caller r e) → ∀ settings, Site.ofSettings settings = .ok site →
        ∃ accepted c, g.accept s caller r = .ok accepted
          ∧ site.remote? accepted.binding.provider = some c
          ∧ Server.complete site peer times caller { r with stream } st
            = Server.completeBy c peer times accepted { r with stream } st) := by
  have sound := reached.sound
  have decided : ∀ e, g.accept s caller r = .error e ↔ g.Refuses s caller r e :=
    fun e => accept_eq_error_iff sound
  refine ⟨decided, ?_, ?_, ?_, ?_⟩
  · intro e e' reason reason'
    have refused := (decided e).mpr reason
    rw [(decided e').mpr reason'] at refused
    exact (Except.error.inj refused).symm
  · intro p message refused
    cases (decided _).mp refused
  · rintro w rfl rfl id delivery
    constructor
    · intro e reason
      have refused := (decided e).mpr reason
      exact ⟨World.beginCall_of_refused id delivery refused,
        World.beginLate_of_refused id delivery refused⟩
    · intro none
      obtain ⟨accepted, accepts⟩ := exists_accepted sound none
      refine ⟨fun going => ?_, fun stopped => ?_⟩
      · obtain ⟨scripts, begun⟩ := World.beginCall_eq_ok id accepts going
        exact ⟨_, _, begun, rfl, rfl⟩
      · obtain ⟨scripts, begun⟩ := World.beginLate_eq_ok id accepts
        exact ⟨World.beginCall_of_stopped id delivery accepts stopped, _, _, begun, rfl, rfl⟩
  · rintro site rfl peer times st rfl stream
    -- how a completion is to be delivered has no part in whether a request is accepted
    have same : site.gateway.accept st.snapshot caller { r with stream }
        = site.gateway.accept st.snapshot caller r := rfl
    constructor
    · intro e reason
      exact Server.complete_of_refused peer times (same.trans ((decided e).mpr reason))
    · intro none settings made
      obtain ⟨accepted, accepts⟩ := exists_accepted sound none
      have equipped := Site.equipped_ofSettings made
      obtain ⟨c, found, completes⟩ :=
        Server.complete_of_accepted equipped peer times (same.trans accepts)
      exact ⟨accepted, c, accepts, found, completes⟩

/-- Models are looked up under the very text of a request. -/
theorem refuses_padded_model :
    let w := World.listed []
    let r : ChatRequest := { model := " m", messages := [{ role := "user" }] }
    w.gateway.registry.Reachable w.snapshot
      ∧ w.gateway.Refuses w.snapshot { id := "caller" } r (.modelNotFound " m")
      ∧ ∀ id delivery,
        w.beginCall id delivery { id := "caller" } r = .error (.modelNotFound " m") := by
  intro w r
  have reached : w.gateway.registry.Reachable w.snapshot :=
    (World.reachable_listed []).founded.reachable
  have reason : w.gateway.Refuses w.snapshot { id := "caller" } r (.modelNotFound " m") := by
    refine .unpublished ⟨by decide, List.cons_ne_nil _ _⟩ fun e published => ?_
    rw [World.catalog_listed] at published
    rw [List.mem_singleton.mp published]
    decide
  obtain ⟨-, -, -, worlds, -⟩ := refuses_in_order reached { id := "caller" } r
  exact ⟨reached, reason, fun id delivery => ((worlds w rfl rfl id delivery).1 _ reason).1⟩

end Gateway

end InferenceGateway
