import Mathlib
import InferenceGateway.Config.File
import InferenceGateway.Proofs.Dispatch.Refusal

/-!
# Whether published models are served

A request for a published model is never told that there is no such model, and with a message it is
invalid only if the model's id is blank. Nothing keeps such an id from being published: neither
listings nor pins are trimmed, whereas requests are.

* `GatewayError.FindsNoModel`: the answers that deny a model.
* `Registry.Reachable.origin`: every published id is listed or pinned.
* `Gateway.published_models_are_found`: when a published model is denied, in both ways to deliver
  completions.
* `World.blank_pin_is_denied`: a gateway file that is accepted, and a model of it that is denied.
-/

namespace InferenceGateway

/-- Whether an answer says that the request is invalid or that there is no such model. -/
def GatewayError.FindsNoModel : GatewayError → Prop
  | invalidRequest _ | modelNotFound _ => True
  | _ => False

/-- No answer of a provider denies the model of a request. -/
theorem GatewayError.not_findsNoModel_ofProvider (cause : ProviderError) :
    ¬(GatewayError.ofProvider cause).FindsNoModel := by
  cases cause <;> exact id

/-- Every published id is pinned, by a pin that counts, or listed by a configured provider. -/
theorem Registry.Reachable.origin {registry : Registry} {s : Snapshot}
    (h : registry.Reachable s) : ∀ e ∈ s.catalog,
      (∃ pin ∈ registry.activePins, pin.model = e.id ∧ pin.provider = e.provider)
      ∨ ∃ p ∈ registry.providers, ∃ m : ModelInfo, e = .ofListing p m := by
  obtain ⟨published, empty | merged⟩ := h.published
  · rw [empty]
    exact List.forall_mem_nil _
  · rw [merged]
    refine forall_mem_merge _ _ (fun p configured e listed => ?_) fun pin active => ?_
    · obtain ⟨models, eq⟩ := published p
      rw [eq] at listed
      obtain ⟨m, -, rfl⟩ := List.mem_map.mp listed
      exact .inr ⟨p, configured, m, rfl⟩
    · exact .inl ⟨pin, active, rfl, rfl⟩

/-! ## Answers that deny a model -/

variable {caller : Caller} {r : ChatRequest} {error : GatewayError}

/-- A call under way is begun or canceled, unless its request has been refused. -/
theorem Rehearsal.World.accept_of_beginCall_eq_error {w : World} {id : Option String}
    {delivery : Delivery} (denied : error.FindsNoModel)
    (h : w.beginCall id delivery caller r = .error error) :
    w.gateway.accept w.snapshot caller r = .error error := by
  cases decided : w.gateway.accept w.snapshot caller r with
  | error e =>
    rw [beginCall_of_refused id delivery decided] at h
    rw [Except.error.inj h]
  | ok accepted =>
    by_cases going : w.stopped = none
    · obtain ⟨scripts, begun⟩ := beginCall_eq_ok id decided going
      cases begun.symm.trans h
    · rw [beginCall_of_stopped id delivery decided going] at h
      cases h
      cases denied

namespace Server

theorem eq_error_of_map {α β : Type} {x : Except GatewayError α} {f : α → β}
    (h : x.map f = .error error) : x = .error error := by
  cases x with
  | ok a => cases h
  | error e =>
    cases h
    rfl

theorem of_twice_eq_error {α : Type} {attempt : Http.Sending (Except ProviderError α)}
    {t : Http.Traffic} (h : (twice attempt t).1 = .error error) :
    ∃ cause, error = .ofProvider cause := by
  unfold twice at h
  split at h
  · cases h
  split at h
  · dsimp only at h
    cases second : (attempt _).1 with
    | ok a =>
      rw [second] at h
      cases h
    | error cause =>
      rw [second] at h
      cases h
      exact ⟨cause, rfl⟩
  · cases h
    exact ⟨_, rfl⟩

/-- An accepted request fails only as its provider fails. -/
theorem of_completeBy_eq_error {c : Client.Remote} {peer : Http.Peer} {times : Times}
    {accepted : Accepted} {st : State}
    (h : (completeBy c peer times accepted r st).1 = .error error) :
    ∃ cause, error = .ofProvider cause := by
  unfold completeBy at h
  dsimp only at h
  split at h
  · exact of_twice_eq_error (eq_error_of_map h)
  · exact of_twice_eq_error (eq_error_of_map h)

theorem accept_of_complete_eq_error {site : Site} {peer : Http.Peer} {times : Times} {st : State}
    (denied : error.FindsNoModel) (h : (complete site peer times caller r st).1 = .error error) :
    site.gateway.accept st.snapshot caller r = .error error := by
  cases decided : site.gateway.accept st.snapshot caller r with
  | error e =>
    rw [complete_of_refused peer times decided] at h
    rw [Except.error.inj h]
  | ok accepted =>
    unfold complete at h
    rw [decided] at h
    dsimp only at h
    split at h
    · cases h
      cases denied
    · obtain ⟨cause, rfl⟩ := of_completeBy_eq_error h
      exact absurd denied (GatewayError.not_findsNoModel_ofProvider cause)

end Server

/-! ## Published models -/

namespace Gateway

open Rehearsal (World)
open Server (Site State Times)

theorem accept_of_published_eq_error_iff {g : Gateway} {s : Snapshot}
    (sound : s.Sound g.registry.providers) {e : ModelEntry} (published : e ∈ s.catalog)
    (id : r.model = e.id) (spoken : r.messages ≠ []) (denied : error.FindsNoModel) :
    g.accept s caller r = .error error
      ↔ Text.trim e.id = "" ∧ error = .invalidRequest "model is required" := by
  rw [accept_eq_error_iff sound, ← id]
  constructor
  · intro reason
    cases reason with
    | unnamed blank => exact ⟨blank, rfl⟩
    | unspoken _ silent => exact absurd silent spoken
    | unpublished _ absent => exact absurd id.symm (absent e published)
    | lookupFails => cases denied
    | keyless => cases denied
  · rintro ⟨blank, rfl⟩
    exact .unnamed blank

/--
A request that holds a message and names a model as it is published, under any snapshot that rounds
lead to. However its completion is to be delivered, and whatever its provider answers, the model is
denied only if its id is blank, and then always, as if no model had been named. A blank id is one
that is pinned or listed so.
-/
theorem published_models_are_found {g : Gateway} {s : Snapshot} (reached : g.registry.Reachable s)
    {e : ModelEntry} (published : e ∈ s.catalog) (caller : Caller) {r : ChatRequest}
    (id : r.model = e.id) (spoken : r.messages ≠ []) :
    (∀ error : GatewayError, error.FindsNoModel →
      (g.accept s caller r = .error error
        ↔ Text.trim e.id = "" ∧ error = .invalidRequest "model is required")
      ∧ (∀ w : World, w.gateway = g → w.snapshot = s → ∀ id delivery,
        w.beginCall id delivery caller r = .error error
          ↔ Text.trim e.id = "" ∧ error = .invalidRequest "model is required")
      ∧ ∀ site : Site, site.gateway = g → ∀ (peer : Http.Peer) (times : Times) (st : State),
        st.snapshot = s → ∀ stream,
        (Server.complete site peer times caller { r with stream } st).1 = .error error
          ↔ Text.trim e.id = "" ∧ error = .invalidRequest "model is required")
    ∧ (Text.trim e.id = "" →
      (∃ pin ∈ g.registry.activePins, Text.trim pin.model = "" ∧ pin.provider = e.provider)
      ∨ ∃ p ∈ g.registry.providers, ∃ m : ModelInfo, Text.trim m.id = "" ∧ e = .ofListing p m) := by
  constructor
  · intro error denied
    -- it is decided when the request is accepted: nothing later finds no model
    have decided : g.accept s caller r = .error error
        ↔ Text.trim e.id = "" ∧ error = .invalidRequest "model is required" :=
      accept_of_published_eq_error_iff reached.sound published id spoken denied
    refine ⟨decided, ?_, ?_⟩
    · rintro w rfl rfl call delivery
      rw [← decided]
      exact ⟨World.accept_of_beginCall_eq_error denied, World.beginCall_of_refused call delivery⟩
    · rintro site rfl peer times st rfl stream
      rw [← decided]
      constructor
      · exact Server.accept_of_complete_eq_error denied
      · intro refused
        have same : site.gateway.accept st.snapshot caller { r with stream } = .error error := refused
        rw [Server.complete_of_refused peer times same]
  · intro blank
    rcases reached.origin e published with ⟨pin, active, same, provider⟩ | ⟨p, configured, m, rfl⟩
    · exact .inl ⟨pin, active, same ▸ blank, provider⟩
    · exact .inr ⟨p, configured, m, blank, rfl⟩

/-- A listed model is found by every caller. -/
theorem listed_model_is_found :
    let w := World.listed []
    let r : ChatRequest := { model := "m", messages := [{ role := "user" }] }
    w.gateway.registry.Reachable w.snapshot
      ∧ ModelEntry.ofListing .jan ⟨"m", "model", 0, ""⟩ ∈ w.snapshot.catalog
      ∧ ∀ caller id delivery (error : GatewayError), error.FindsNoModel →
        w.beginCall id delivery caller r ≠ .error error := by
  intro w r
  have reached : w.gateway.registry.Reachable w.snapshot :=
    (World.reachable_listed []).founded.reachable
  have published : ModelEntry.ofListing .jan ⟨"m", "model", 0, ""⟩ ∈ w.snapshot.catalog := by
    rw [World.catalog_listed]
    exact List.mem_singleton_self _
  refine ⟨reached, published, fun caller id delivery error denied refused => ?_⟩
  have named : r.model = (ModelEntry.ofListing .jan ⟨"m", "model", 0, ""⟩).id := rfl
  have spoken : r.messages ≠ [] := List.cons_ne_nil _ _
  obtain ⟨-, worlds, -⟩ :=
    (published_models_are_found reached published caller named spoken).1 error denied
  obtain ⟨blank, -⟩ := (worlds w rfl rfl id delivery).mp refused
  exact absurd blank (by decide)

end Gateway

/-! ## A blank pin -/

namespace Rehearsal.World

/-- A gateway file with a pin for a blank id. -/
def blankFile : Config.GatewayFile where
  pins := [⟨" ", "jan", "m"⟩]

/-- A gateway with this pin, whose one provider has listed its models. -/
def blankPinned : World :=
  let jan : Script :=
    { client := ⟨.jan, false⟩, listing := { result := .ok [⟨"m", "model", 0, ""⟩] } }
  (beginRefresh (.new [] [⟨" ", .jan, "m"⟩] ⟨OrganizationKeys.store [], []⟩ 1000 [jan])).runTo 0

theorem reachable_blankPinned : blankPinned.Reachable := by
  obtain ⟨contacts, run⟩ := exists_run_refreshed (World.new ..) rfl
  exact ⟨_, _, _, _, _, contacts, run⟩

theorem catalog_blankPinned : blankPinned.snapshot.catalog
    = [⟨" ", .jan, "m", "jan", 0⟩, .ofListing .jan ⟨"m", "model", 0, ""⟩] := by
  cbv

/-- The file is accepted and its model is published, but a request for the model is invalid. -/
theorem blank_pin_is_denied :
    let r : ChatRequest := { model := " ", messages := [{ role := "user" }] }
    blankFile.check = .ok ()
      ∧ blankFile.pins.mapM PinEntry.toPin = .ok blankPinned.gateway.registry.pins
      ∧ blankPinned.Reachable
      ∧ ⟨" ", .jan, "m", "jan", 0⟩ ∈ blankPinned.snapshot.catalog
      ∧ ∀ caller id delivery, blankPinned.beginCall id delivery caller r
        = .error (.invalidRequest "model is required") := by
  intro r
  refine ⟨by decide, by cbv, reachable_blankPinned, ?_, fun caller id delivery => ?_⟩
  · rw [catalog_blankPinned]
    exact List.mem_cons_self
  · have blank : Text.trim r.model = "" := by decide
    exact beginCall_of_refused id delivery (Gateway.accept_of_unnamed blank)

end Rehearsal.World

end InferenceGateway
