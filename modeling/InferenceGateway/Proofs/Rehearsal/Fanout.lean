import Mathlib
import InferenceGateway.Proofs.Registry.Waiting
import InferenceGateway.Proofs.Rehearsal.Shutdown
import InferenceGateway.Proofs.Rehearsal.Snapshots

/-!
# Refreshes that fan out

A refresh that has its turn at once asks all providers at the same time. It is over when its longest
wait is, whatever else happens on the gateway meanwhile, and what it makes of one provider has to do
with the script of that provider alone.

* `Fares`, `Snapshot.AgreeOn`: what becomes of a provider, and when it is the same.
* `World.Awaiting`, `World.Published`: a refresh under way, and at its end.
* `World.Awaiting.run`: until its end a refresh is under way, whatever happens.
* `World.FannedOut`: what a refresh has come to.
* `World.refreshes_fan_out`: the duration of a refresh, and what becomes of each provider.
-/

namespace InferenceGateway

/-! ## One provider -/

/-- What becomes of a provider with such a listing: its entries, whether it is healthy, and its
error. -/
inductive Fares (p : Provider) (prior : List ModelEntry) :
    Listing → List ModelEntry → Bool → Option String → Prop where
  | listed (models : List ModelInfo) :
    Fares p prior (.ok models) (models.map (ModelEntry.ofListing p)) true none
  | failed (e : String) : Fares p prior (.error e) prior false (some e)

/-- What a listing makes of a provider is one of the two ways to fare. -/
theorem fares_after (prior : Snapshot) (now : Nat) (p : Provider) (l : Listing) :
    Fares p (prior.retained.get p) l (Registry.retainedAfter prior p l)
      (Registry.healthAfter prior now p l).healthy
      (Registry.healthAfter prior now p l).lastError := by
  cases l with
  | ok models => exact .listed models
  | error e => exact .failed e

/-- Nothing else has a part in what becomes of a provider. -/
theorem Fares.unique {p : Provider} {prior entries entries' : List ModelEntry} {l : Listing}
    {healthy healthy' : Bool} {error error' : Option String}
    (h : Fares p prior l entries healthy error) (h' : Fares p prior l entries' healthy' error') :
    entries = entries' ∧ healthy = healthy' ∧ error = error' := by
  cases h <;> cases h' <;> exact ⟨rfl, rfl, rfl⟩

/-- Two snapshots have the same to say of a provider, but for when it was said. -/
structure Snapshot.AgreeOn (p : Provider) (s s' : Snapshot) : Prop where
  retained : s.retained.get p = s'.retained.get p
  healthy : (s.health.get p).map Health.healthy = (s'.health.get p).map Health.healthy
  error : (s.health.get p).map Health.lastError = (s'.health.get p).map Health.lastError

/-- A provider is healthy just if its listing has succeeded. -/
theorem Fares.healthy_iff {p : Provider} {prior entries : List ModelEntry} {l : Listing}
    {healthy : Bool} {error : Option String} (h : Fares p prior l entries healthy error) :
    healthy = true ↔ ∃ models, l = .ok models := by
  cases h with
  | listed models => exact iff_of_true rfl ⟨models, rfl⟩
  | failed e => exact iff_of_false Bool.false_ne_true nofun

namespace Rehearsal.World

/-! ## A refresh under way -/

/-- The refresh of a visitor is under way: it has its turn, and its listings will be there at some
time. -/
structure Awaiting (prior : World) (fin : Nat) (listings : List (Provider × Listing)) (w : World) :
    Prop where
  turn : ∃ rest, w.refreshes = { asker := .visitor, round := some (fin, listings) } :: rest
  early : w.now ≤ fin
  silent : w.refreshed = none
  gateway : w.gateway = prior.gateway
  snapshot : w.snapshot = prior.snapshot

/-- A refresh has just come to its end. -/
structure Published (prior : World) (fin : Nat) (listings : List (Provider × Listing)) (w : World) :
    Prop where
  now : w.now = fin
  refreshed : w.refreshed = some (fin, prior.gateway.registry.verdict listings)
  snapshot : w.snapshot = prior.gateway.registry.next prior.snapshot fin listings

variable {prior a b : World} {fin : Nat} {listings : List (Provider × Listing)}

/-- The first refresh keeps the round that it has. -/
theorem beginRound_of_round {asker : Asker} {round : Nat × List (Provider × Listing)}
    {rest : List Refresh} {w : World}
    (h : w.refreshes = { asker, round := some round } :: rest) : w.beginRound = w := by
  unfold beginRound
  rw [h]

/-- A round that begins is not over: it says nothing of how a refresh has gone. -/
theorem refreshed_beginRound (w : World) : w.beginRound.refreshed = w.refreshed := by
  unfold beginRound
  split <;> rfl

/-- The listings that a world asks for. -/
def asked (w : World) : List (Provider × ListingAnswer) :=
  w.scripts.map fun s => (s.client.provider, s.listing)

/-- A refresh that need not wait has its turn at once. -/
theorem awaiting_beginRefresh {w : World} (free : w.refreshes = []) :
    Awaiting w (roundEnd w.limit w.now (w.asked.map (·.2))) (roundListings w.limit w.asked)
      w.beginRefresh := by
  unfold beginRefresh World.enqueue
  dsimp only
  rw [free]
  exact ⟨⟨[], rfl⟩, Nat.le_add_right _ _, rfl, rfl, rfl⟩

/-- What leaves the refreshes alone. -/
theorem Awaiting.of_same (h : Awaiting prior fin listings a) (refreshes : b.refreshes = a.refreshes)
    (now : b.now = a.now) (refreshed : b.refreshed = a.refreshed) (gateway : b.gateway = a.gateway)
    (snapshot : b.snapshot = a.snapshot) : Awaiting prior fin listings b where
  turn := refreshes ▸ h.turn
  early := now ▸ h.early
  silent := refreshed ▸ h.silent
  gateway := gateway.trans h.gateway
  snapshot := snapshot.trans h.snapshot

/-- Other refreshes wait for their turn. -/
theorem Awaiting.enqueue (h : Awaiting prior fin listings a) (asker : Asker) :
    Awaiting prior fin listings (a.enqueue asker) := by
  obtain ⟨rest, turn⟩ := h.turn
  let next : Refresh := { asker := asker }
  have more : a.refreshes ++ [next]
      = { asker := .visitor, round := some (fin, listings) } :: (rest ++ [next]) := by
    rw [turn, List.cons_append]
  unfold World.enqueue
  rw [beginRound_of_round more]
  exact ⟨⟨_, more⟩, h.early, h.silent, h.gateway, h.snapshot⟩

/-- The end of the task is none of a visitor's business. -/
theorem Awaiting.endTask (h : Awaiting prior fin listings a) :
    Awaiting prior fin listings a.endTask := by
  obtain ⟨rest, turn⟩ := h.turn
  have kept : (a.refreshes.filter fun r => r.asker != .task)
      = { asker := .visitor, round := some (fin, listings) }
        :: rest.filter fun r => r.asker != .task := by
    rw [turn, List.filter_cons_of_pos rfl]
  unfold World.endTask
  rw [beginRound_of_round kept]
  exact ⟨⟨_, kept⟩, h.early, h.silent, h.gateway, h.snapshot⟩

/-- A task that is started asks behind the refresh. -/
theorem Awaiting.startTask (h : Awaiting prior fin listings a) (interval : Nat) :
    Awaiting prior fin listings (a.startTask interval) := by
  unfold World.startTask
  dsimp only
  split
  · exact h.endTask
  · exact h.endTask.of_same rfl rfl rfl rfl rfl

/-- A tick asks behind the refresh. -/
theorem Awaiting.tick (h : Awaiting prior fin listings a) :
    Awaiting prior fin listings a.tick := by
  unfold World.tick
  split
  · refine Awaiting.enqueue ?_ .task
    exact h.of_same rfl rfl rfl rfl rfl
  · exact h

/-- Calls have no part in a refresh. -/
theorem Awaiting.stepCall (h : Awaiting prior fin listings a) (place : Nat) (r : Running) :
    Awaiting prior fin listings (a.stepCall place r) := by
  obtain ⟨scripts, log, answer, eq⟩ := stepCall_eq a place r
  rw [eq]
  exact h.of_same rfl rfl rfl rfl rfl

/-- Time may pass until the listings are there. -/
theorem Awaiting.later (h : Awaiting prior fin listings a) {time : Nat} (soon : time ≤ fin) :
    Awaiting prior fin listings { a with now := max a.now time } :=
  ⟨h.turn, Nat.max_le.mpr ⟨h.early, soon⟩, h.silent, h.gateway, h.snapshot⟩

theorem Awaiting.mem_agenda (h : Awaiting prior fin listings a) : (fin, Due.round) ∈ a.agenda := by
  obtain ⟨rest, turn⟩ := h.turn
  exact World.mem_agenda.mpr (.inl ⟨_, _, _, turn, rfl⟩)

/-- When the listings are there, they are published. -/
theorem Awaiting.published (h : Awaiting prior fin listings a) :
    Published prior fin listings (a.perform fin .round) := by
  obtain ⟨rest, turn⟩ := h.turn
  have now : max a.now fin = fin := Nat.max_eq_right h.early
  unfold perform endRound
  dsimp only
  rw [turn, now]
  dsimp only
  refine ⟨?_, ?_, ?_⟩
  · rw [(undisturbed_beginRound _).now]
  · rw [refreshed_beginRound, h.gateway]
  · rw [snapshot_beginRound, h.gateway, h.snapshot]

/-- Of what is due while a refresh is under way, only the end of its round concerns it. -/
theorem Awaiting.perform (h : Awaiting prior fin listings a) {time : Nat} {due : Due}
    (listed : (time, due) ∈ a.agenda) (soonest : ∀ d ∈ a.agenda, time ≤ d.1) :
    Awaiting prior fin listings (a.perform time due)
      ∨ Published prior fin listings (a.perform time due) := by
  have later := h.later (soonest _ h.mem_agenda)
  cases due with
  | round =>
    -- the round that is due is that of the refresh
    obtain ⟨rest, turn⟩ := h.turn
    rcases World.mem_agenda.mp listed with ⟨_, _, _, eq, -⟩ | ⟨_, -, -, -, eq⟩ | ⟨_, _, -, -, eq⟩
    · cases turn.symm.trans eq
      exact .inr h.published
    · cases eq
    · cases eq
  | tick => exact .inl later.tick
  | call place r => exact .inl (later.stepCall place r)

/-- A refresh under way is still under way after a step, or it has just come to its end. -/
theorem Awaiting.step (h : Awaiting prior fin listings a) {made : List Contact}
    (s : Step a made b) :
    Awaiting prior fin listings b ∨ Published prior fin listings b := by
  cases s with
  | wait time idle => exact .inl (h.later (idle _ h.mem_agenda))
  | perform listed soonest => exact h.perform listed soonest
  | script => exact .inl (h.of_same rfl rfl rfl rfl rfl)
  | refresh =>
    have asked : Awaiting prior fin listings { a with refreshed := none } :=
      ⟨h.turn, h.early, rfl, h.gateway, h.snapshot⟩
    exact .inl (asked.enqueue .visitor)
  | task interval => exact .inl (h.startTask interval)
  | begin id delivery caller r accepts begun =>
    obtain ⟨scripts, call, rfl⟩ := begun.exists_began accepts
    exact .inl (h.of_same rfl rfl rfl rfl rfl)
  | shutdown => exact .inl (Awaiting.endTask (h.of_same rfl rfl rfl rfl rfl))

/-- Whatever happens, a refresh is under way until it comes to its end. -/
theorem Awaiting.run (h : Awaiting prior fin listings a) {contacts : List Contact}
    (run : Run a contacts b) :
    Awaiting prior fin listings b
    ∨ ∃ past c made d rest, Run a past c ∧ Awaiting prior fin listings c ∧ Step c made d
      ∧ Published prior fin listings d ∧ Run d rest b := by
  induction run with
  | refl => exact .inl h
  | @tail c b _ made before s ih =>
    rcases ih with awaiting | ⟨past, c', made', d, rest, first, awaiting, ends, published, after⟩
    · rcases awaiting.step s with awaiting | published
      · exact .inl awaiting
      · exact .inr ⟨_, c, made, b, [], before, awaiting, s, published, .refl b⟩
    · exact .inr ⟨past, c', made', d, _, first, awaiting, ends, published, after.tail s⟩

/-- Who lets time pass until the refresh is over finds it just at its end. -/
theorem Awaiting.runWithin {w : World} (h : Awaiting prior fin listings w) {limit fuel : Nat}
    (ticking : w.Ticking) (soon : fin ≤ limit) (enough : w.work limit < fuel) :
    Published prior fin listings (runWithin (·.refreshed.isSome) limit fuel w) := by
  -- the work that is left within the limit stays below the fuel
  induction fuel generalizing w with
  | zero => cases enough
  | succ fuel ih =>
    have waits : ¬w.refreshed.isSome = true := by simp [h.silent]
    unfold World.runWithin
    rw [if_neg waits]
    cases first : soonest w.agenda with
    | none =>
      have nothing := eq_nil_of_soonest_eq_none first
      exact absurd h.mem_agenda (by simp [nothing])
    | some d =>
      obtain ⟨time, due⟩ := d
      obtain ⟨listed, least⟩ := of_soonest_eq_some first
      have early : time ≤ limit := Nat.le_trans (least _ h.mem_agenda) soon
      have less := work_perform listed early ticking
      dsimp only
      rw [if_pos early]
      rcases h.perform listed least with awaiting | published
      · exact ih awaiting (ticking.perform _ _) (by omega)
      · -- there is fuel left to see that it is over
        obtain ⟨more, rfl⟩ : ∃ more, fuel = more + 1 := ⟨fuel - 1, by omega⟩
        unfold World.runWithin
        rw [if_pos (by simp [published.refreshed])]
        exact published

/-- Who waits for the refresh has enough fuel to see its end. -/
theorem Awaiting.runUntil {w : World} (h : Awaiting prior fin listings w) (ticking : w.Ticking)
    {limit : Nat} (soon : fin ≤ limit) :
    Published prior fin listings (w.runUntil (·.refreshed.isSome) limit) :=
  h.runWithin ticking soon (work_lt_budget limit w)

/-! ## What a refresh comes to -/

/-- What the refresh of a world has come to, which took so long. -/
structure FannedOut (w : World) (longest : Nat) (b : World) : Prop where
  now : b.now = w.now + longest
  /-- The refresh fails if there are scripts and none of them lists models in time. -/
  result : ∃ result, b.refreshed = some (w.now + longest, result)
    ∧ (result = .ok () ↔ w.scripts = [] ∨ ∃ s ∈ w.scripts, s.listing.Lists w.limit)
  /-- What becomes of a provider comes of its own script and of what was retained of it. -/
  fares : ∀ s ∈ w.scripts, ∃ l health, s.listing.Settles w.limit l
    ∧ b.snapshot.health.get s.client.provider = some health
    ∧ (health.healthy = true ↔ s.listing.Lists w.limit)
    ∧ Fares s.client.provider (w.snapshot.retained.get s.client.provider) l
      (b.snapshot.retained.get s.client.provider) health.healthy health.lastError

/-- A refresh fails just if there is a provider and none has listed its models in time. -/
theorem verdict_eq_ok_iff {w : World} (founded : w.Founded) :
    w.gateway.registry.verdict (roundListings w.limit w.asked) = .ok ()
      ↔ w.scripts = [] ∨ ∃ s ∈ w.scripts, s.listing.Lists w.limit := by
  -- there are as many clients as scripts, and as many listings
  have clients : w.gateway.registry.clients.length = w.scripts.length := by
    have same := congrArg List.length founded.scripted
    simpa [scripted, Registry.providers] using same.symm
  have listings : (roundListings w.limit w.asked).length = w.scripts.length := by
    simp [roundListings, asked]
  have failed : (Registry.failures (roundListings w.limit w.asked)).length = w.scripts.length
      ↔ ∀ s ∈ w.scripts, ¬s.listing.Lists w.limit := by
    rw [← listings, Registry.failures_length_eq_iff]
    unfold roundListings asked
    rw [List.map_map, List.forall_mem_map]
    refine forall₂_congr fun s _ => ?_
    rw [ListingAnswer.lists_iff]
    show (∃ e, (s.listing.within w.limit).2 = .error e) ↔ _
    cases (s.listing.within w.limit).2 <;> simp
  have manned : w.gateway.registry.clients.isEmpty = w.scripts.isEmpty := by
    rw [Bool.eq_iff_iff, List.isEmpty_iff_length_eq_zero, List.isEmpty_iff_length_eq_zero, clients]
  unfold Registry.verdict
  rw [clients, manned]
  split
  · next both =>
    -- there are scripts, and all of them failed
    simp only [Bool.and_eq_true, Bool.not_eq_true', List.isEmpty_eq_false_iff, beq_iff_eq] at both
    refine iff_of_false (by simp) ?_
    rintro (none | ⟨s, mem, lists⟩)
    · exact both.1 none
    · exact failed.mp both.2 s mem lists
  · next notBoth =>
    refine iff_of_true rfl ?_
    by_contra neither
    rw [not_or] at neither
    refine notBoth ?_
    simp only [Bool.and_eq_true, Bool.not_eq_true', List.isEmpty_eq_false_iff, beq_iff_eq]
    exact ⟨neither.1, failed.mpr fun s mem lists => neither.2 ⟨s, mem, lists⟩⟩

/-- What is published when the last wait is over. -/
theorem Published.fannedOut {w b : World} {longest : Nat} (founded : w.Founded)
    (distinct : w.scripted.Nodup)
    (h : Published w (w.now + longest) (roundListings w.limit w.asked) b) :
    FannedOut w longest b where
  now := h.now
  result := ⟨_, h.refreshed, verdict_eq_ok_iff founded⟩
  fares s mem := by
    have keys : (roundListings w.limit w.asked).map Prod.fst = w.scripted := by
      simp [roundListings, asked, scripted, Function.comp_def]
    have own : (s.client.provider, (s.listing.within w.limit).2)
        ∈ roundListings w.limit w.asked :=
      List.mem_map_of_mem (f := fun a => (a.1, (a.2.within w.limit).2))
        (List.mem_map_of_mem (f := fun s => (s.client.provider, s.listing)) mem)
    have once : ((roundListings w.limit w.asked).map Prod.fst).Nodup := keys ▸ distinct
    have fares := fares_after w.snapshot (w.now + longest) s.client.provider
      (s.listing.within w.limit).2
    rw [h.snapshot, Registry.retained_next_of_mem _ _ _ once own]
    exact ⟨_, _, ListingAnswer.settles_iff.mpr rfl,
      Registry.health_next_of_mem _ _ _ once own,
      fares.healthy_iff.trans ListingAnswer.lists_iff.symm, fares⟩

/-- What a refresh makes of a provider comes of its script and of what was retained of it. -/
theorem FannedOut.agreeOn {w w' b b' : World} {longest longest' : Nat}
    (h : FannedOut w longest b) (h' : FannedOut w' longest' b') (limit : w.limit = w'.limit)
    {s s' : Script} (mem : s ∈ w.scripts) (mem' : s' ∈ w'.scripts)
    (provider : s.client.provider = s'.client.provider) (listing : s.listing = s'.listing)
    (retained : w.snapshot.retained.get s.client.provider
      = w'.snapshot.retained.get s.client.provider) :
    Snapshot.AgreeOn s.client.provider b.snapshot b'.snapshot := by
  obtain ⟨l, health, settles, known, -, fares⟩ := h.fares s mem
  obtain ⟨l', health', settles', known', -, fares'⟩ := h'.fares s' mem'
  rw [← limit, ← listing] at settles'
  rw [← provider] at known' fares'
  obtain rfl := settles.unique settles'
  rw [← retained] at fares'
  obtain ⟨entries, healthy, error⟩ := fares.unique fares'
  refine ⟨entries, ?_, ?_⟩
  · rw [known, known']
    exact congrArg some healthy
  · rw [known, known']
    exact congrArg some error

/-- Nothing of a refresh shows yet. -/
structure UnderWay (w : World) (longest : Nat) (b : World) : Prop where
  early : b.now ≤ w.now + longest
  silent : b.refreshed = none
  snapshot : b.snapshot = w.snapshot

theorem Awaiting.underWay {w b : World} {longest : Nat}
    (h : Awaiting w (w.now + longest) listings b) : UnderWay w longest b :=
  ⟨h.early, h.silent, h.snapshot⟩

/--
A refresh that need not wait for its turn asks all providers at once. However the single waits are
looked at, they are over when the longest has passed, and so is the refresh: whatever else happens
on the gateway, nothing of it shows until then, and just then it is published. A provider has
succeeded if it lists its models no later than the limit. What is retained of a provider, its health
and its error are the same on all gateways where it answers alike and had the same entries before.
-/
theorem refreshes_fan_out {w : World} (reached : w.Reachable) (free : w.refreshes = [])
    (distinct : (w.scripts.map fun s => s.client.provider).Nodup) :
    let answers := w.scripts.map Script.listing
    ∃ longest, Longest (answers.map (·.took w.limit)) longest
      ∧ (∀ waits, Waits.Steps w.limit w.now answers (.begin w.now answers) waits →
        waits.Ends w.limit w.now answers longest)
      ∧ (∀ contacts b, Run w.beginRefresh contacts b →
        UnderWay w longest b
        ∨ ∃ past c made d rest, Run w.beginRefresh past c ∧ UnderWay w longest c ∧ Step c made d
          ∧ FannedOut w longest d ∧ Run d rest b)
      ∧ (∀ limit, w.now + longest ≤ limit →
        FannedOut w longest (w.beginRefresh.runUntil (·.refreshed.isSome) limit))
      ∧ ∀ b w' b' longest', FannedOut w longest b → FannedOut w' longest' b' →
        w.limit = w'.limit → ∀ s ∈ w.scripts, ∀ s' ∈ w'.scripts,
          s.client.provider = s'.client.provider → s.listing = s'.listing →
          w.snapshot.retained.get s.client.provider = w'.snapshot.retained.get s.client.provider →
          Snapshot.AgreeOn s.client.provider b.snapshot b'.snapshot := by
  intro answers
  obtain ⟨longest, most, ended⟩ := longest_roundEnd w.limit w.now answers
  have awaiting : Awaiting w (w.now + longest) (roundListings w.limit w.asked) w.beginRefresh := by
    have begun := awaiting_beginRefresh free
    have own : w.asked.map (·.2) = answers := by
      unfold asked
      rw [List.map_map]
      rfl
    rwa [own, ended] at begun
  have publishes {d : World}
      (h : Published w (w.now + longest) (roundListings w.limit w.asked) d) :
      FannedOut w longest d := h.fannedOut reached.founded distinct
  refine ⟨longest, most, fun waits run => run.ends most, ?_, ?_, ?_⟩
  · intro contacts b run
    rcases awaiting.run run with still | ⟨past, c, made, d, rest, before, still, ends, h, after⟩
    · exact .inl still.underWay
    · exact .inr ⟨past, c, made, d, rest, before, still.underWay, ends, publishes h, after⟩
  · intro limit soon
    exact publishes (awaiting.runUntil (Step.ticking (.refresh w) reached.ticking) soon)
  · intro b w' b' longest' h h' limit s mem s' mem' provider listing retained
    exact h.agreeOn h' limit mem mem' provider listing retained

/-! ## A silent provider -/

/-- A provider that lists a model after a while. -/
def janScript : Script where
  client := ⟨.jan, false⟩
  listing := { delay := some 30, result := .ok [⟨"m", "model", 0, ""⟩] }

/-- A provider that never answers. -/
def geminiScript : Script where
  client := ⟨.gemini, true⟩
  listing := { delay := none, result := .ok [] }

/-- A gateway over both of them. -/
def halfSilent : World :=
  .new [] [] ⟨OrganizationKeys.store [], []⟩ 50 [janScript, geminiScript]

theorem scripts_halfSilent : halfSilent.scripts = [janScript, geminiScript] := by
  cbv

/-- The silent provider takes all the time there is, and the other one is healthy all the same. -/
theorem silent_provider_takes_limit :
    let b := halfSilent.beginRefresh.runUntil (·.refreshed.isSome) 1000
    (halfSilent.Reachable ∧ halfSilent.refreshes = []
      ∧ (halfSilent.scripts.map fun s => s.client.provider).Nodup)
    ∧ b.now = 50
    ∧ (b.snapshot.health.get .jan).map Health.healthy = some true
    ∧ (b.snapshot.health.get .gemini).map Health.lastError
      = some (some "listing timed out after 0.05s") := by
  intro b
  have reached : halfSilent.Reachable := ⟨_, _, _, _, _, [], .refl _⟩
  have distinct : (halfSilent.scripts.map fun s => s.client.provider).Nodup := by
    rw [scripts_halfSilent]
    decide
  refine ⟨⟨reached, rfl, distinct⟩, ?_⟩
  obtain ⟨longest, most, -, -, letPass, -⟩ := refreshes_fan_out reached rfl distinct
  rw [scripts_halfSilent] at most
  have fifty : longest = 50 := most.unique ⟨by decide, .inr (by decide)⟩
  subst fifty
  have ended : FannedOut halfSilent 50 b := letPass 1000 (by decide)
  have jan : janScript ∈ halfSilent.scripts := by simp [scripts_halfSilent]
  have gemini : geminiScript ∈ halfSilent.scripts := by simp [scripts_halfSilent]
  refine ⟨ended.now, ?_, ?_⟩
  · obtain ⟨l, health, -, known, healthy, -⟩ := ended.fares janScript jan
    have lists : janScript.listing.Lists 50 := ⟨30, _, rfl, by decide, rfl⟩
    exact (congrArg _ known).trans (congrArg some (healthy.mpr lists))
  · obtain ⟨l, health, settles, known, -, fares⟩ := ended.fares geminiScript gemini
    obtain rfl : l = _ := settles.unique (.late nofun)
    have text : listingTimeout 50 = "listing timed out after 0.05s" := by decide +kernel
    have error : health.lastError = some (listingTimeout 50) := (fares.unique (.failed _)).2.2
    rw [text] at error
    exact (congrArg _ known).trans (congrArg some error)

end Rehearsal.World

end InferenceGateway
