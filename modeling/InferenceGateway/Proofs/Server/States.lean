import Mathlib
import InferenceGateway.Proofs.Registry.Merging
import InferenceGateway.Proofs.Results
import InferenceGateway.Server.Service

/-!
# The states of a server

A server goes from state to state as it lists the models anew and answers requests. Only the former
changes its snapshot, and by whole rounds.

* `Site.Equipped`: each provider of the registry has a client that can be called. Sites that are
  made from settings are equipped (`Site.equipped_ofSettings`).
* `snapshot_handle`: no request changes the snapshot.
* `Reachable`: the states that a server can come to; `Reachable.registry` says that rounds of its
  registry lead to their snapshots.
-/

namespace InferenceGateway.Server

variable {site : Site}

/-! ## Clients -/

/-- Each provider of the registry has a client that can be called. -/
def Site.Equipped (site : Site) : Prop :=
  ∀ p ∈ site.gateway.registry.providers, ∃ c, site.remote? p = some c

theorem Site.exists_remote? {p : Provider} {c : Client.Remote} (mem : c ∈ site.remotes)
    (provider : c.provider = p) : ∃ c', site.remote? p = some c' := by
  refine Option.isSome_iff_exists.mp ?_
  exact List.find?_isSome.mpr ⟨c, mem, beq_iff_eq.mpr provider⟩

/-- Settings make a registry of the clients, with typed pins. -/
theorem of_gatewayOf {s : Config.Settings} {clients : List Client} {g : Gateway}
    (h : gatewayOf s clients = .ok g) :
    ∃ order pins, s.file.pins.mapM PinEntry.toPin = .ok pins
      ∧ g.registry = .new order pins clients := by
  unfold gatewayOf at h
  simp only [bind_eq_ok_iff, mapError_eq_ok_iff] at h
  obtain ⟨organizations, -, pins, pinned, order, -, ⟨⟩⟩ := h
  exact ⟨order, pins, pinned, rfl⟩

/-- Each part of a site is made from the settings. -/
theorem Site.parts_of_ofSettings {s : Config.Settings} (h : Site.ofSettings s = .ok site) :
    authenticatorOf s = .ok site.authenticator ∧ site.remotes = remotesOf s
      ∧ gatewayOf s (site.remotes.map Client.Remote.toClient) = .ok site.gateway
      ∧ site.listingLimit = milliseconds s.listing.providerTimeout := by
  unfold Site.ofSettings at h
  simp only [bind_eq_ok_iff] at h
  obtain ⟨a, authenticator, g, gateway, ⟨⟩⟩ := h
  exact ⟨authenticator, rfl, gateway, rfl⟩

/-- Settings make a site with the clients that its registry is made of. -/
theorem Site.of_ofSettings {s : Config.Settings} (h : Site.ofSettings s = .ok site) :
    ∃ order pins, s.file.pins.mapM PinEntry.toPin = .ok pins
      ∧ site.gateway.registry = .new order pins (site.remotes.map Client.Remote.toClient) := by
  obtain ⟨-, -, gateway, -⟩ := Site.parts_of_ofSettings h
  exact of_gatewayOf gateway

/-- The registry of a site that is made from settings has no provider but those of its clients. -/
theorem Site.equipped_ofSettings {s : Config.Settings} (h : Site.ofSettings s = .ok site) :
    site.Equipped := by
  obtain ⟨order, pins, -, registry⟩ := Site.of_ofSettings h
  intro p mem
  rw [registry, Registry.mem_providers_new, List.map_map] at mem
  obtain ⟨c, among, provider⟩ := List.mem_map.mp mem
  exact Site.exists_remote? among provider

/-! ## Refreshes -/

/-- All providers are asked for their models. -/
theorem map_fst_listAll (peer : Http.Peer) {ps : List Provider}
    (equipped : ∀ p ∈ ps, ∃ c, site.remote? p = some c) (t : Http.Traffic) :
    (listAll site peer ps t).1.map Prod.fst = ps := by
  induction ps generalizing t with
  | nil => rfl
  | cons p rest ih =>
    obtain ⟨c, client⟩ := equipped p List.mem_cons_self
    have others := ih fun q mem => equipped q (List.mem_cons_of_mem p mem)
    unfold listAll
    rw [client]
    exact congrArg (p :: ·) (others _)

/-- A refresh is a round of all clients of the registry. -/
theorem snapshot_refresh (equipped : site.Equipped) (peer : Http.Peer) (now : Nat) (st : State) :
    ∃ ended listings, site.gateway.registry.Covers listings
      ∧ (refresh site peer now st).2.snapshot
        = site.gateway.registry.next st.snapshot ended listings := by
  refine ⟨_, _, ?_, rfl⟩
  show List.map _ (List.map _ _) = _
  rw [List.map_map]
  exact map_fst_listAll peer equipped st.traffic

/-! ## Requests -/

/-- Whatever a provider answers, the snapshot stays. -/
theorem snapshot_completeBy (c : Client.Remote) (peer : Http.Peer) (times : Times)
    (accepted : Accepted) (r : ChatRequest) (st : State) :
    (completeBy c peer times accepted r st).2.snapshot = st.snapshot := by
  unfold completeBy
  dsimp only
  split <;> rfl

/-- Completions leave the snapshot as it is, accepted or not. -/
theorem snapshot_complete (peer : Http.Peer) (times : Times) (caller : Caller) (r : ChatRequest)
    (st : State) : (complete site peer times caller r st).2.snapshot = st.snapshot := by
  unfold complete
  split
  · rfl
  · dsimp only
    split
    · rfl
    · exact snapshot_completeBy _ _ _ _ _ _

/-- Nothing that is served changes the snapshot. -/
theorem snapshot_serve (peer : Http.Peer) (times : Times) (g : Guarded) (caller : Caller)
    (r : Request) (st : State) :
    (serve site peer times g caller r st).2.snapshot = st.snapshot := by
  cases g with
  | completions =>
    show (answerCompletion site peer times caller r.body st).2.snapshot = st.snapshot
    unfold answerCompletion
    split
    · rfl
    split
    · rfl
    next request _ =>
    have kept := @snapshot_complete site peer times caller request st
    split <;> next eq => rwa [eq] at kept
  | models => rfl
  | providers => rfl

/-- No request changes the snapshot. -/
theorem snapshot_handle (peer : Http.Peer) (times : Times) (r : Request) (st : State) :
    (handle site peer times r st).2.snapshot = st.snapshot := by
  unfold handle
  split
  · rfl
  next route _ =>
  show (answerAt site peer times route r st).2.snapshot = st.snapshot
  unfold answerAt
  split
  · rfl
  · rfl
  split
  · rfl
  split
  · exact snapshot_serve _ _ _ _ _ _
  · rfl

/-! ## All states -/

/-- The states that a server can come to, among any peers. -/
inductive Reachable (site : Site) : State → Prop where
  | start : Reachable site {}
  | refresh {st : State} (h : Reachable site st) (peer : Http.Peer) (now : Nat) :
    Reachable site (refresh site peer now st).2
  | handle {st : State} (h : Reachable site st) (peer : Http.Peer) (times : Times) (r : Request) :
    Reachable site (handle site peer times r st).2

/-- The snapshot of a server is always one that rounds of its registry lead to. -/
theorem Reachable.registry (equipped : site.Equipped) {st : State} (h : Reachable site st) :
    site.gateway.registry.Reachable st.snapshot := by
  induction h with
  | start => exact .start
  | @refresh st _ peer now ih =>
    obtain ⟨ended, listings, covers, eq⟩ := snapshot_refresh equipped peer now st
    rw [eq]
    exact .round ended listings ih covers
  | @handle st _ peer times r ih =>
    rw [snapshot_handle]
    exact ih

end InferenceGateway.Server
