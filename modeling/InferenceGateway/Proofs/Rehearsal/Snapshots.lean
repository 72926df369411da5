import Mathlib
import InferenceGateway.Proofs.Dispatch.Delivery

/-!
# Where snapshots come from

Whatever happens to a gateway over scripted providers, its snapshot is one that rounds of its own
registry lead to: each round lists the clients of the registry, each once and in order.

* `World.scripted`: the providers that have a script.
* `World.Founded`: scripts, rounds under way and the snapshot go with the registry.
* `World.Reachable.founded`: this holds in all worlds that a gateway can come to.
-/

namespace InferenceGateway.Rehearsal.World

/-! ## Scripts -/

/-- The providers that have a script, in order. -/
def scripted (w : World) : List Provider :=
  w.scripts.map fun s => s.client.provider

/-- A script may be changed in all but its client. -/
theorem map_provider_modifyFirst (p : Script → Bool) {f : Script → Script}
    (same : ∀ s, (f s).client = s.client) (scripts : List Script) :
    (modifyFirst p f scripts).map (fun s => s.client.provider)
      = scripts.map fun s => s.client.provider := by
  induction scripts with
  | nil => rfl
  | cons s rest ih =>
    unfold modifyFirst
    split
    · rw [List.map_cons, List.map_cons, same]
    · rw [List.map_cons, List.map_cons, ih]

theorem scripted_script (w : World) (p : Provider) {f : Script → Script}
    (same : ∀ s, (f s).client = s.client) : (w.script p f).scripted = w.scripted :=
  map_provider_modifyFirst _ same w.scripts

/-- Who takes a reply takes it from a script, and leaves the script there. -/
theorem scripted_takeReply (w : World) (p : Provider) (delivery : Delivery) (r : ChatRequest) :
    (w.takeReply p delivery r).2.scripted = w.scripted := by
  unfold takeReply
  split
  · exact scripted_script w p fun _ => rfl
  · rfl

/-- A call that begins takes a reply from a script, and no script away. -/
theorem scripted_launch (w : World) (id : Option String) (delivery : Delivery)
    (accepted : Accepted) (r : ChatRequest) (state : Answer Payload → Call Payload) :
    (w.launch id delivery accepted r state).scripted = w.scripted := by
  have kept := scripted_takeReply { w with lastId := CompletionId.draw w.clock w.lastId }
    accepted.binding.provider delivery (outgoing delivery accepted.binding r)
  -- of what is done after the reply has been taken, nothing is about the scripts
  unfold launch note
  unfold scripted at kept ⊢
  dsimp only
  exact kept

/-- A call that goes on may take a reply, and takes no script away. -/
theorem scripted_stepCall (w : World) (place : Nat) (r : Running) :
    (w.stepCall place r).scripted = w.scripted := by
  unfold stepCall
  dsimp only
  split
  · exact scripted_takeReply w _ _ _
  · rfl

/-! ## Rounds -/

/-- Scripts, rounds under way and the snapshot go with the registry. -/
structure Founded (w : World) : Prop where
  scripted : w.scripted = w.gateway.registry.providers
  /-- A round under way lists the clients of the registry. -/
  covers : ∀ r ∈ w.refreshes, ∀ time listings, r.round = some (time, listings) →
    w.gateway.registry.Covers listings
  reachable : w.gateway.registry.Reachable w.snapshot

/-- What changes neither the registry nor scripts, rounds and the snapshot. -/
theorem Founded.of_same {a b : World} (h : a.Founded) (gateway : b.gateway = a.gateway)
    (scripted : b.scripted = a.scripted) (refreshes : b.refreshes = a.refreshes)
    (snapshot : b.snapshot = a.snapshot) : b.Founded := by
  refine ⟨?_, ?_, ?_⟩
  · rw [scripted, gateway, h.scripted]
  · rw [refreshes, gateway]
    exact h.covers
  · rw [gateway, snapshot]
    exact h.reachable

/-- The scripts are sorted as the clients are. -/
theorem founded_new (order : List Provider) (pins : List ModelPin) (rules : CredentialRules)
    (limit : Nat) (scripts : List Script) : (World.new order pins rules limit scripts).Founded := by
  refine ⟨?_, List.forall_mem_nil _, .start⟩
  have sorted : (Priority.sort order (fun s : Script => s.client.provider) scripts).map Script.client
      = Priority.sort order Client.provider (scripts.map Script.client) :=
    List.map_mergeSort fun a _ b _ => rfl
  show List.map _ (Priority.sort order (fun s : Script => s.client.provider) scripts)
    = (Priority.sort order Client.provider (scripts.map Script.client)).map Client.provider
  rw [← sorted, List.map_map]
  rfl

/-- A round that begins asks the clients of all scripts. -/
theorem Founded.beginRound {w : World} (h : w.Founded) : w.beginRound.Founded := by
  unfold World.beginRound
  split
  · next asker rest eq =>
    refine ⟨h.scripted, fun r mem time listings round => ?_, h.reachable⟩
    rcases List.mem_cons.mp mem with rfl | mem
    · cases round
      show (List.map _ (List.map _ (List.map _ w.scripts))) = w.gateway.registry.providers
      rw [List.map_map, List.map_map, ← h.scripted]
      rfl
    · exact h.covers r (eq ▸ List.mem_cons_of_mem _ mem) time listings round
  · exact h

/-- A refresh that waits for its turn has asked nobody yet. -/
theorem Founded.enqueue {w : World} (h : w.Founded) (asker : Asker) : (w.enqueue asker).Founded := by
  refine Founded.beginRound ⟨h.scripted, fun r mem time listings round => ?_, h.reachable⟩
  rcases List.mem_append.mp mem with mem | mem
  · exact h.covers r mem time listings round
  · cases List.mem_singleton.mp mem
    cases round

/-- A round leads from a snapshot that rounds lead to to another one. -/
theorem Founded.endRound {w : World} (h : w.Founded) : w.endRound.Founded := by
  unfold World.endRound
  split
  · next asker time listings rest eq =>
    have covers : w.gateway.registry.Covers listings :=
      h.covers _ (eq ▸ List.mem_cons_self) time listings rfl
    have next : Founded
        { w with
          snapshot := w.gateway.registry.next w.snapshot w.now listings
          refreshes := rest } := by
      refine ⟨h.scripted, fun r mem => ?_, .round w.now listings h.reachable covers⟩
      exact h.covers r (eq ▸ List.mem_cons_of_mem _ mem)
    refine Founded.beginRound ?_
    cases asker <;> exact next.of_same rfl rfl rfl rfl
  · exact h

/-- A tick asks for a refresh like anyone else. -/
theorem Founded.tick {w : World} (h : w.Founded) : w.tick.Founded := by
  unfold World.tick
  split
  · refine Founded.enqueue ?_ .task
    exact h.of_same rfl rfl rfl rfl
  · exact h

/-- What a task has asked for may be dropped. -/
theorem Founded.endTask {w : World} (h : w.Founded) : w.endTask.Founded := by
  refine Founded.beginRound ⟨h.scripted, fun r mem => ?_, h.reachable⟩
  exact h.covers r (List.mem_filter.mp mem).1

theorem Founded.startTask {w : World} (h : w.Founded) (interval : Nat) :
    (w.startTask interval).Founded := by
  unfold World.startTask
  dsimp only
  split
  · exact h.endTask
  · exact h.endTask.of_same rfl rfl rfl rfl

theorem Founded.stepCall {w : World} (h : w.Founded) (place : Nat) (r : Running) :
    (w.stepCall place r).Founded := by
  have scripts := scripted_stepCall w place r
  obtain ⟨_, _, _, eq⟩ := stepCall_eq w place r
  rw [eq] at scripts ⊢
  exact h.of_same rfl scripts rfl rfl

/-- Whatever is due next keeps a world in line with its registry. -/
theorem Founded.perform {w : World} (h : w.Founded) (time : Nat) (due : Due) :
    (w.perform time due).Founded := by
  have later : Founded { w with now := max w.now time } := h.of_same rfl rfl rfl rfl
  cases due with
  | round => exact later.endRound
  | tick => exact later.tick
  | call place r => exact later.stepCall place r

/-- Every step keeps scripts, rounds and the snapshot in line with the registry. -/
theorem Step.founded {a b : World} {made : List Contact} (s : Step a made b) (h : a.Founded) :
    b.Founded := by
  cases s with
  | wait => exact h.of_same rfl rfl rfl rfl
  | @perform time due => exact h.perform time due
  | script p f same => exact h.of_same rfl (scripted_script a p same) rfl rfl
  | refresh =>
    refine Founded.enqueue ?_ .visitor
    exact h.of_same rfl rfl rfl rfl
  | task interval => exact h.startTask interval
  | @begin _ accepted id delivery caller r accepts begun =>
    obtain ⟨state, rfl⟩ := begun.exists_launch accepts
    have scripts := scripted_launch a id delivery accepted r state
    obtain ⟨_, eq⟩ := launch_eq a id delivery accepted r state
    rw [eq] at scripts ⊢
    exact h.of_same rfl scripts rfl rfl
  | shutdown => exact Founded.endTask (h.of_same rfl rfl rfl rfl)

/-- The snapshot of a gateway is always one that rounds of its registry lead to. -/
theorem Reachable.founded {w : World} (h : w.Reachable) : w.Founded := by
  obtain ⟨order, pins, rules, limit, scripts, past, run⟩ := h
  exact run.invariant Step.founded (founded_new order pins rules limit scripts)

end InferenceGateway.Rehearsal.World
