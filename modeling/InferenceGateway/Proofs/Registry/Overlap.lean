import Mathlib
import InferenceGateway.Registry.Turns

/-!
# Rounds that overlap

Any number of refreshes side by side, of which any may be dropped while it waits, and readers that
load the snapshot between any two steps. One lock over reading the prior snapshot, gathering and
publishing is enough for every interleaving to be as good as one refresh after the other.

* `Turns.Guarded`: only the refresh that has the lock is under way, and what it has read is still
  current.
* `Turns.Recorded`: each published snapshot is computed from the one before it.
* `Turns.Trace`: the interleavings, with the refreshes that reach publication.
* `Turns.Observed`: what readers have seen.
* `Turns.overlapping_rounds`: all of it, with what dropping a refresh does.
-/

namespace InferenceGateway.Registry

/-- Whether a refresh has the lock at a stage. -/
def RefreshStage.holdsLock : RefreshStage → Bool
  | waiting | ended => false
  | locked | gathering .. | published => true

/-- A snapshot is computed from another one and a listing for each client. -/
def Follows (r : Registry) (newer older : Snapshot) : Prop :=
  ∃ now listings, r.Covers listings ∧ newer = r.next older now listings

/-- As many listings as there are clients, in their order, are one for each. -/
theorem covers_zip (r : Registry) {listings : List Listing}
    (all : listings.length = r.clients.length) : r.Covers (r.providers.zip listings) := by
  unfold Covers
  refine List.map_fst_zip (Nat.le_of_eq ?_)
  rw [providers, List.length_map, all]

namespace Turns

variable {r : Registry} {t t' : Turns} {i : Nat}

theorem refreshes_setStage (t : Turns) (i : Nat) (stage : RefreshStage) (j : Nat) :
    (t.setStage i stage).refreshes j = if j = i then some stage else t.refreshes j := rfl

/-- A refresh that another one's change of stage leaves where it is. -/
theorem refreshes_setStage_of_ne (t : Turns) {i j : Nat} (stage : RefreshStage) (h : j ≠ i) :
    (t.setStage i stage).refreshes j = t.refreshes j :=
  if_neg h

/-! ## The lock -/

/-- A refresh is between taking and releasing the lock. -/
def Within (t : Turns) (i : Nat) : Prop :=
  ∃ stage, t.refreshes i = some stage ∧ stage.holdsLock = true

/-- Whether a refresh has the lock is told by its stage. -/
theorem within_iff {stage : RefreshStage} (h : t.refreshes i = some stage) :
    t.Within i ↔ stage.holdsLock = true := by
  unfold Within
  rw [h]
  simp

/-- A refresh that changes its stage does not take or release the lock for others. -/
theorem within_setStage (t : Turns) (i : Nat) (stage : RefreshStage) (j : Nat) :
    (t.setStage i stage).Within j ↔ if j = i then stage.holdsLock = true else t.Within j := by
  unfold Within
  rw [refreshes_setStage]
  split
  · simp
  · rfl

/-- Whatever gathers has read the current snapshot, and has a place for each client. -/
def Fresh (r : Registry) (t : Turns) : Prop :=
  ∀ i prior arrived, t.refreshes i = some (.gathering prior arrived) →
    prior = t.current ∧ arrived.length = r.clients.length

/-- The refresh that has the lock is the one between taking and releasing it, and what it has read
is fresh. -/
structure Guarded (r : Registry) (t : Turns) : Prop where
  holder : ∀ i, t.holder = some i ↔ t.Within i
  fresh : t.Fresh r

theorem guarded_start (r : Registry) : Guarded r {} where
  holder _ := by
    refine ⟨nofun, ?_⟩
    rintro ⟨stage, present, -⟩
    cases present
  fresh _ _ _ := nofun

/-- There is one at a time. -/
theorem Guarded.unique (h : Guarded r t) {j : Nat} (hi : t.Within i) (hj : t.Within j) : i = j :=
  Option.some.inj (((h.holder i).mpr hi).symm.trans ((h.holder j).mpr hj))

/-- A stage that has the lock if the one before it had leaves the lock guarded. -/
theorem Guarded.holder_setStage (h : Guarded r t) {stage : RefreshStage}
    (same : t.Within i ↔ stage.holdsLock = true) (j : Nat) :
    (t.setStage i stage).holder = some j ↔ (t.setStage i stage).Within j := by
  rw [within_setStage]
  show t.holder = some j ↔ _
  split
  · next here =>
    subst here
    exact (h.holder j).trans same
  · exact h.holder j

/-- One that gives the lock back takes it from nobody else. -/
theorem holder_unlock_of_ne (t : Turns) {i j : Nat} (h : j ≠ i) :
    (t.unlock i).holder = some j ↔ t.holder = some j := by
  show (if t.holder = some i then none else t.holder) = some j ↔ _
  split
  · next held =>
    rw [held]
    exact ⟨nofun, fun eq => absurd (Option.some.inj eq).symm h⟩
  · rfl

theorem holder_unlock_self (t : Turns) (i : Nat) : (t.unlock i).holder ≠ some i := by
  show (if t.holder = some i then none else t.holder) ≠ some i
  split
  · exact nofun
  · next free => exact free

/-- A refresh that ends gives the lock back if it has it. -/
theorem Guarded.holder_end (h : Guarded r t) (j : Nat) :
    ((t.unlock i).setStage i .ended).holder = some j
      ↔ ((t.unlock i).setStage i .ended).Within j := by
  rw [within_setStage]
  show (t.unlock i).holder = some j ↔ _
  split
  · next here =>
    subst here
    exact ⟨fun held => absurd held (holder_unlock_self t j), nofun⟩
  · next other => exact (holder_unlock_of_ne t other).trans (h.holder j)

/-- A change of stage leaves all fresh if the new stage is. -/
theorem Fresh.setStage (h : Fresh r t) {stage : RefreshStage}
    (own : ∀ prior arrived, stage = .gathering prior arrived →
      prior = t.current ∧ arrived.length = r.clients.length) : Fresh r (t.setStage i stage) := by
  intro j prior arrived gathers
  rw [refreshes_setStage] at gathers
  split at gathers
  · exact own prior arrived (Option.some.inj gathers)
  · exact h j prior arrived gathers

/-- Every step leaves the lock guarded. -/
theorem Step.guarded (s : Step r t t') (h : Guarded r t) : Guarded r t' := by
  -- One case for each kind of step. Those that change nothing but the stage of a refresh keep the
  -- lock where it is.
  cases s with
  | @begin i new =>
    refine ⟨h.holder_setStage ⟨?_, nofun⟩, h.fresh.setStage nofun⟩
    rintro ⟨stage, present, -⟩
    rw [new] at present
    cases present
  | @lock i waits free =>
    refine ⟨fun j => ?_, ?_⟩
    · rw [within_setStage]
      show some i = some j ↔ _
      split
      · next here => exact ⟨fun _ => rfl, fun _ => congrArg some here.symm⟩
      · next other =>
        -- nobody else was under way
        refine ⟨fun eq => absurd (Option.some.inj eq).symm other, fun within => ?_⟩
        have held := (h.holder j).mpr within
        rw [free] at held
        cases held
    · exact h.fresh.setStage nofun
  | @readPrior i locked =>
    refine ⟨h.holder_setStage ((within_iff locked).trans ⟨fun _ => rfl, fun _ => rfl⟩), ?_⟩
    refine h.fresh.setStage ?_
    rintro prior arrived ⟨⟩
    exact ⟨rfl, List.length_replicate⟩
  | @arrive i prior arrived place listing gathers absent =>
    refine ⟨h.holder_setStage ((within_iff gathers).trans ⟨fun _ => rfl, fun _ => rfl⟩), ?_⟩
    refine h.fresh.setStage ?_
    rintro prior' arrived' ⟨⟩
    obtain ⟨read, places⟩ := h.fresh i prior arrived gathers
    exact ⟨read, List.length_set.trans places⟩
  | @publish i prior now listings gathers =>
    have within : t.Within i := (within_iff gathers).mpr rfl
    refine ⟨h.holder_setStage (iff_of_true within rfl), fun j prior' arrived' gathers' => ?_⟩
    -- what another refresh has read would be out of date now, but there is none
    rw [refreshes_setStage] at gathers'
    split at gathers'
    · cases gathers'
    · next other =>
      have within' : t.Within j := (within_iff gathers').mpr rfl
      exact absurd (h.unique within' within) other
  | @release i published =>
    exact ⟨h.holder_end, Fresh.setStage (t := t.unlock i) h.fresh nofun⟩
  | @dropWaiting i waits =>
    refine ⟨h.holder_setStage ((within_iff waits).trans ⟨nofun, nofun⟩), h.fresh.setStage nofun⟩
  | @dropGathering i prior arrived gathers =>
    exact ⟨h.holder_end, Fresh.setStage (t := t.unlock i) h.fresh nofun⟩
  | load reader => exact ⟨h.holder, h.fresh⟩

/-! ## What is published -/

/-- All snapshots that were ever current, from the empty one on, each computed from the one before
it. -/
structure Recorded (r : Registry) (t : Turns) : Prop where
  current : t.history.head? = some t.current
  chain : t.history.IsChain r.Follows
  first : t.history.getLast? = some {}

theorem recorded_start (r : Registry) : Recorded r {} where
  current := rfl
  chain := .singleton _
  first := rfl

/-- A step that does not publish leaves the record as it is. -/
theorem Step.publishes_or_keeps (s : Step r t t') :
    (∃ i prior now listings, t.refreshes i = some (.gathering prior (List.map some listings))
      ∧ t' = (t.publish (r.next prior now (r.providers.zip listings))).setStage i .published)
    ∨ t'.history = t.history ∧ t'.current = t.current := by
  cases s with
  | @publish i prior now listings gathers => exact .inl ⟨i, prior, now, listings, gathers, rfl⟩
  | _ => exact .inr ⟨rfl, rfl⟩

/-- What is published is computed from the snapshot that it replaces. -/
theorem Guarded.follows (h : Guarded r t) {prior : Snapshot} {listings : List Listing} (now : Nat)
    (gathers : t.refreshes i = some (.gathering prior (listings.map some))) :
    r.Follows (r.next prior now (r.providers.zip listings)) t.current := by
  obtain ⟨rfl, all⟩ := h.fresh i prior _ gathers
  rw [List.length_map] at all
  exact ⟨now, _, covers_zip r all, rfl⟩

/-- Publishing puts a snapshot on the record that follows the last one there; no other step touches
it. -/
theorem Step.recorded (s : Step r t t') (guarded : Guarded r t) (h : Recorded r t) :
    Recorded r t' := by
  rcases s.publishes_or_keeps with ⟨i, prior, now, listings, gathers, rfl⟩ | ⟨history, current⟩
  -- what is replaced is the last snapshot on the record, and the new one was computed from it
  · obtain ⟨rest, past⟩ := List.head?_eq_some_iff.mp h.current
    refine ⟨rfl, ?_, ?_⟩
    · show (_ :: t.history).IsChain r.Follows
      have chain := h.chain
      rw [past] at chain ⊢
      exact .cons_cons (guarded.follows now gathers) chain
    · show (_ :: t.history).getLast? = some {}
      rw [List.getLast?_cons, h.first]
      rfl
  · refine ⟨?_, ?_, ?_⟩
    · rw [history, current]
      exact h.current
    · rw [history]
      exact h.chain
    · rw [history]
      exact h.first

/-- In a record the generations count down to zero, one by one. -/
theorem generations_of_chain {snapshots : List Snapshot} (chain : snapshots.IsChain r.Follows)
    (first : snapshots.getLast? = some {}) :
    snapshots.map Snapshot.generation = (List.range snapshots.length).reverse := by
  induction snapshots with
  | nil => cases first
  | cons newer rest ih =>
    cases rest with
    | nil =>
      cases first
      rfl
    | cons older rest =>
      obtain ⟨⟨now, listings, -, rfl⟩, before⟩ := List.isChain_cons_cons.mp chain
      rw [List.getLast?_cons_cons] at first
      have counted := ih before first
      -- the generation of the older one is the number of those before it
      have last : older.generation = rest.length := by
        rw [List.map_cons, List.length_cons, List.range_succ, List.reverse_concat] at counted
        exact (List.cons.inj counted).1
      rw [List.map_cons, counted]
      show (older.generation + 1) :: (List.range (rest.length + 1)).reverse = _
      rw [last, ← List.reverse_concat, ← List.range_succ]
      rfl

/-- So the generation of a snapshot is the number of those before it. -/
theorem Recorded.generations (h : Recorded r t) :
    t.history.map Snapshot.generation = (List.range t.history.length).reverse :=
  generations_of_chain h.chain h.first

/-- No snapshot that was ever current is of a later generation than the current one. -/
theorem Recorded.generation_le (h : Recorded r t) {s : Snapshot} (mem : s ∈ t.history) :
    s.generation ≤ t.current.generation := by
  obtain ⟨rest, past⟩ := List.head?_eq_some_iff.mp h.current
  have counted := h.generations
  have below : s.generation ∈ t.history.map Snapshot.generation := List.mem_map_of_mem mem
  rw [counted, List.mem_reverse, List.mem_range] at below
  rw [past, List.length_cons] at below
  rw [past, List.length_cons, List.range_succ, List.reverse_concat, List.map_cons] at counted
  rw [(List.cons.inj counted).1]
  exact Nat.le_of_lt_succ below

/-! ## Which refreshes publish -/

/-- Interleavings, with the refreshes that reach publication, the latest first. -/
inductive Trace (r : Registry) : List Nat → Turns → Prop where
  | start : Trace r [] {}
  | publish {publishers t i prior} (now : Nat) (listings : List Listing) (h : Trace r publishers t)
    (gathers : t.refreshes i = some (.gathering prior (listings.map some))) :
    Trace r (i :: publishers)
      ((t.publish (r.next prior now (r.providers.zip listings))).setStage i .published)
  | other {publishers t t'} (h : Trace r publishers t) (s : Step r t t')
    (silent : t'.history = t.history) : Trace r publishers t'

/-- Every interleaving is traced. -/
theorem Steps.exists_trace (run : Steps r {} t) : ∃ publishers, Trace r publishers t := by
  induction run with
  | refl => exact ⟨[], .start⟩
  | tail _ s ih =>
    obtain ⟨publishers, trace⟩ := ih
    rcases s.publishes_or_keeps with ⟨i, prior, now, listings, gathers, rfl⟩ | ⟨history, -⟩
    · exact ⟨_, trace.publish now listings gathers⟩
    · exact ⟨publishers, trace.other s history⟩

/-- A refresh has published, or ended without. -/
def Past (t : Turns) (i : Nat) : Prop :=
  t.refreshes i = some .published ∨ t.refreshes i = some .ended

/-- A refresh that is past stays so. -/
theorem Step.past (s : Step r t t') {j : Nat} (h : t.Past j) : t'.Past j := by
  -- a step of a refresh that is not past is one of another refresh
  have elsewhere : ∀ {u : Turns} {k : Nat} {old : Option RefreshStage} {stage : RefreshStage},
      u.refreshes = t.refreshes → t.refreshes k = old → old ≠ some .published → old ≠ some .ended →
      (u.setStage k stage).Past j := by
    intro u k old stage same present notPublished notEnded
    have other : j ≠ k := by
      rintro rfl
      rcases h with published | ended
      · exact notPublished (present.symm.trans published)
      · exact notEnded (present.symm.trans ended)
    unfold Past
    rw [refreshes_setStage_of_ne u stage other, same]
    exact h
  cases s with
  | begin new => exact elsewhere rfl new nofun nofun
  | lock waits free => exact elsewhere rfl waits nofun nofun
  | readPrior locked => exact elsewhere rfl locked nofun nofun
  | arrive place listing gathers absent => exact elsewhere rfl gathers nofun nofun
  | publish now listings gathers => exact elsewhere rfl gathers nofun nofun
  | @release i published =>
    by_cases here : j = i
    · exact .inr (if_pos here)
    · unfold Past
      rw [refreshes_setStage_of_ne _ _ here]
      exact h
  | dropWaiting waits => exact elsewhere rfl waits nofun nofun
  | dropGathering gathers => exact elsewhere rfl gathers nofun nofun
  | load reader => exact h

/-- Each refresh that reaches publication publishes one snapshot, and nothing else does. -/
structure Counted (publishers : List Nat) (t : Turns) : Prop where
  past : ∀ i ∈ publishers, t.Past i
  once : publishers.Nodup
  count : t.history.length = publishers.length + 1

/-- A refresh that has published is past, so it does not gather a second time. -/
theorem Trace.counted {publishers : List Nat} (trace : Trace r publishers t) :
    Counted publishers t := by
  induction trace with
  | start => exact ⟨nofun, List.nodup_nil, rfl⟩
  | @publish publishers t i prior now listings _ gathers ih =>
    refine ⟨fun j mem => ?_, List.nodup_cons.mpr ⟨fun mem => ?_, ih.once⟩,
      congrArg (· + 1) ih.count⟩
    · rcases List.mem_cons.mp mem with rfl | mem
      · exact .inl (if_pos rfl)
      · exact (Step.publish (r := r) now listings gathers).past (ih.past j mem)
    · -- what is past does not gather
      rcases ih.past i mem with published | ended
      · cases gathers.symm.trans published
      · cases gathers.symm.trans ended
  | other _ s silent ih =>
    exact ⟨fun j mem => s.past (ih.past j mem), ih.once, (congrArg _ silent).trans ih.count⟩

/-! ## What readers see -/

/-- Each reader has seen published snapshots, and never an earlier one after a later one. -/
structure Observed (t : Turns) : Prop where
  published : ∀ reader, ∀ s ∈ t.loaded reader, s ∈ t.history
  ascending : ∀ reader,
    (t.loaded reader).Pairwise fun newer older => older.generation ≤ newer.generation

/-- Nothing that was published is ever taken off the record. -/
theorem Observed.of_loaded_eq (h : Observed t) (loaded : t'.loaded = t.loaded)
    (kept : ∀ s ∈ t.history, s ∈ t'.history) : Observed t' where
  published reader s mem := kept s (h.published reader s (loaded ▸ mem))
  ascending := by
    rw [loaded]
    exact h.ascending

/-- Who loads a snapshot gets the current one, which is the latest of all. -/
theorem Step.observed (s : Step r t t') (recorded : Recorded r t) (h : Observed t) :
    Observed t' := by
  cases s with
  | publish now listings gathers =>
    exact h.of_loaded_eq rfl fun s mem => List.mem_cons_of_mem _ mem
  -- what a reader has loaded before was published earlier, and so has a lower number
  | load reader =>
    have current : t.current ∈ t.history := List.mem_of_head? recorded.current
    constructor
    · intro reader' s mem
      change s ∈ if reader' = reader then t.current :: t.loaded reader' else t.loaded reader' at mem
      split at mem
      · rcases List.mem_cons.mp mem with rfl | mem
        · exact current
        · exact h.published reader' s mem
      · exact h.published reader' s mem
    · intro reader'
      show (if reader' = reader then t.current :: t.loaded reader'
        else t.loaded reader').Pairwise _
      split
      · refine List.pairwise_cons.mpr ⟨fun s mem => ?_, h.ascending reader'⟩
        exact recorded.generation_le (h.published reader' s mem)
      · exact h.ascending reader'
  | _ => exact h.of_loaded_eq rfl fun _ mem => mem

/-! ## Refreshes that are dropped -/

/-- A refresh waits, for the lock or for listings. -/
def Waits (t : Turns) (i : Nat) : Prop :=
  t.refreshes i = some .waiting ∨ ∃ prior arrived, t.refreshes i = some (.gathering prior arrived)

/-- The same without one refresh. -/
def drop (t : Turns) (i : Nat) : Turns :=
  (t.unlock i).setStage i .ended

/-- A refresh that waits has not ended. -/
theorem Waits.not_ended (h : t.Waits i) : t.refreshes i ≠ some .ended := by
  intro ended
  rcases h with waits | ⟨prior, arrived, gathers⟩
  · cases ended.symm.trans waits
  · cases ended.symm.trans gathers

/-- A refresh that waits for the lock does not have it. -/
theorem Guarded.drop_of_waiting (h : Guarded r t) (waits : t.refreshes i = some .waiting) :
    t.drop i = t.setStage i .ended := by
  have without : t.holder ≠ some i := by
    intro held
    have within := (within_iff waits).mp ((h.holder i).mp held)
    cases within
  unfold drop unlock
  rw [if_neg without]

/-- A refresh that waits may be dropped. -/
theorem Guarded.step_drop (h : Guarded r t) (waits : t.Waits i) : Step r t (t.drop i) := by
  rcases waits with waits | ⟨prior, arrived, gathers⟩
  · rw [h.drop_of_waiting waits]
    exact .dropWaiting waits
  · exact .dropGathering gathers

/-- Where a refresh ends that waits, it is dropped. -/
theorem Step.eq_drop (s : Step r t t') (h : Guarded r t) (waits : t.Waits i)
    (ended : t'.refreshes i = some .ended) : t' = t.drop i := by
  -- Only a step of the refresh itself ends it.
  have own : ∀ {u : Turns} {k : Nat} {stage : RefreshStage}, u.refreshes = t.refreshes →
      (u.setStage k stage).refreshes i = some .ended → i = k ∧ stage = .ended := by
    intro u k stage same ended
    rw [refreshes_setStage] at ended
    split at ended
    · next here => exact ⟨here, Option.some.inj ended⟩
    · rw [same] at ended
      exact absurd ended waits.not_ended
  cases s with
  | begin | lock | readPrior | arrive | publish => cases (own rfl ended).2
  | @release k published =>
    obtain ⟨rfl, -⟩ := own rfl ended
    rfl
  | @dropWaiting k waiting =>
    obtain ⟨rfl, -⟩ := own rfl ended
    exact (h.drop_of_waiting waiting).symm
  | @dropGathering k prior arrived gathers =>
    obtain ⟨rfl, -⟩ := own rfl ended
    rfl
  | load reader => exact absurd ended waits.not_ended

/-! ## Turns that come -/

theorem Steps.trans {a b c : Turns} (h : Steps r a b) (k : Steps r b c) : Steps r a c := by
  induction k with
  | refl => exact h
  | tail _ s ih => exact ih.tail s

theorem Steps.single (s : Step r t t') : Steps r t t' :=
  (Steps.refl t).tail s

/-- Of two changes of stage the later one counts. -/
theorem setStage_setStage (t : Turns) (i : Nat) (a b : RefreshStage) :
    (t.setStage i a).setStage i b = t.setStage i b := by
  unfold setStage
  congr 1
  funext j
  dsimp only
  split <;> rfl

/-- Listings may go on arriving until there are all. -/
theorem steps_gather (t : Turns) (i : Nat) (prior : Snapshot) (done : List Listing)
    (rest : List (Option Listing)) :
    ∃ listings, Steps r (t.setStage i (.gathering prior (done.map some ++ rest)))
      (t.setStage i (.gathering prior (List.map some listings))) := by
  -- The places are filled from the left, so those done come first.
  induction rest generalizing done with
  | nil =>
    rw [List.append_nil]
    exact ⟨done, .refl _⟩
  | cons next rest ih =>
    cases next with
    | some listing =>
      obtain ⟨listings, steps⟩ := ih (done ++ [listing])
      rw [List.map_append, List.append_assoc] at steps
      exact ⟨listings, steps⟩
    | none =>
      -- any listing may arrive at the first free place; an empty one does
      obtain ⟨listings, steps⟩ := ih (done ++ [.ok []])
      refine ⟨listings, (Steps.single ?_).trans steps⟩
      have absent : (done.map some ++ none :: rest)[done.length]? = some none := by simp
      have arrives := Step.arrive (r := r) done.length (.ok [])
        (t := t.setStage i (.gathering prior (done.map some ++ none :: rest))) (i := i)
        (if_pos rfl) absent
      rw [setStage_setStage] at arrives
      simpa using arrives

theorem setStage_self {stage : RefreshStage} (h : t.refreshes i = some stage) :
    t.setStage i stage = t := by
  have same : (fun j => if j = i then some stage else t.refreshes j) = t.refreshes := by
    funext j
    split
    · next here => rw [here, h]
    · rfl
  unfold setStage
  rw [same]

/-- A refresh can go on until it has released the lock, and the others stay where they are. -/
def Clears (r : Registry) (t : Turns) (i : Nat) : Prop :=
  ∃ t', Steps r t t' ∧ t'.holder = none ∧ ∀ j, j ≠ i → t'.refreshes j = t.refreshes j

/-- Steps that leave the others alone may come before. -/
theorem Clears.of_steps {u : Turns} (h : Clears r u i) (steps : Steps r t u)
    (others : ∀ j, j ≠ i → u.refreshes j = t.refreshes j) : Clears r t i := by
  obtain ⟨t', onward, free, same⟩ := h
  exact ⟨t', steps.trans onward, free, fun j other => (same j other).trans (others j other)⟩

theorem clears_of_published (held : t.holder = some i) (h : t.refreshes i = some .published) :
    Clears r t i :=
  ⟨_, .single (.release h), if_pos held, fun _ other => refreshes_setStage_of_ne _ _ other⟩

/-- Listings may arrive until there are all; then the snapshot is published and the lock released.
-/
theorem clears_of_gathering (held : t.holder = some i) {prior : Snapshot}
    {arrived : List (Option Listing)} (h : t.refreshes i = some (.gathering prior arrived)) :
    Clears r t i := by
  obtain ⟨listings, gathers⟩ := steps_gather (r := r) t i prior [] arrived
  rw [List.map_nil, List.nil_append, setStage_self h] at gathers
  have publishes := Step.publish (r := r) (i := i) 0 listings
    (t := t.setStage i (.gathering prior (listings.map some))) (if_pos rfl)
  obtain ⟨u, published, cleared⟩ : ∃ u, Step r (t.setStage i (.gathering prior
      (listings.map some))) u ∧ Clears r u i ∧ ∀ j, j ≠ i → u.refreshes j = t.refreshes j := by
    refine ⟨_, publishes, clears_of_published held (if_pos rfl), fun j other => ?_⟩
    rw [refreshes_setStage_of_ne _ _ other]
    exact refreshes_setStage_of_ne t _ other
  exact cleared.1.of_steps (gathers.tail published) cleared.2

/-- A refresh that has just taken the lock reads the current snapshot and gathers. -/
theorem clears_of_locked (held : t.holder = some i) (h : t.refreshes i = some .locked) :
    Clears r t i := by
  have reads := Step.readPrior (r := r) h
  have cleared : Clears r (t.setStage i (.gathering t.current
      (List.replicate r.clients.length none))) i := clears_of_gathering held (if_pos rfl)
  exact cleared.of_steps (.single reads) fun _ other => refreshes_setStage_of_ne t _ other

/-- The lock can always become free without any refresh being dropped. -/
theorem Guarded.clears (h : Guarded r t) (held : t.holder = some i) : Clears r t i := by
  obtain ⟨stage, present, within⟩ := (h.holder i).mp held
  cases stage with
  | waiting | ended => cases within
  | locked => exact clears_of_locked held present
  | gathering prior arrived => exact clears_of_gathering held present
  | published => exact clears_of_published held present

/-- Whoever waits for the lock can take it when it is free. -/
theorem step_lock (free : t.holder = none) (waits : t.refreshes i = some .waiting) :
    ∃ t', Step r t t' ∧ t'.refreshes i = some .locked :=
  ⟨_, .lock waits free, if_pos rfl⟩

/-- Whoever waits for the lock can have its turn. -/
theorem Guarded.steps_lock (h : Guarded r t) (waits : t.refreshes i = some .waiting) :
    ∃ t', Steps r t t' ∧ t'.refreshes i = some .locked := by
  cases held : t.holder with
  | none =>
    obtain ⟨t', step, locked⟩ := step_lock held waits
    exact ⟨t', .single step, locked⟩
  | some k =>
    have other : i ≠ k := by
      rintro rfl
      have within := (within_iff waits).mp ((h.holder i).mp held)
      cases within
    obtain ⟨u, steps, free, same⟩ := h.clears held
    obtain ⟨t', step, locked⟩ := step_lock free ((same i other).trans waits)
    exact ⟨t', steps.tail step, locked⟩

/-! ## Whole interleavings -/

/-- Whatever has happened since the start, the lock is guarded, the record whole, and readers have
seen nothing else. -/
theorem Steps.invariants (run : Steps r {} t) : Guarded r t ∧ Recorded r t ∧ Observed t := by
  induction run with
  | refl => exact ⟨guarded_start r, recorded_start r, fun _ _ mem => (nomatch mem), fun _ => .nil⟩
  | tail _ s ih =>
    obtain ⟨guarded, recorded, observed⟩ := ih
    exact ⟨s.guarded guarded, s.recorded guarded recorded, s.observed recorded observed⟩

/--
What any interleaving of any number of refreshes and readers comes to. Each published snapshot is
computed from the one that it replaced and a listing for each client; the generations count up from
zero without gap or repetition, one for each refresh that reaches publication. A refresh may be
dropped wherever it waits, and that changes nothing but that the lock is free if it had it; whoever
waits for a free lock can take it at once, and whoever waits at all can have its turn. What a reader
has loaded are published snapshots, whose generations never go back.
-/
theorem overlapping_rounds (r : Registry) {t : Turns} (run : Steps r {} t) :
    (t.history.head? = some t.current ∧ t.history.getLast? = some {}
      ∧ t.history.IsChain fun newer older =>
          ∃ now listings, r.Covers listings ∧ newer = r.next older now listings)
    ∧ ((∃ publishers, Trace r publishers t) ∧ ∀ publishers, Trace r publishers t →
        publishers.Nodup
        ∧ t.history.map Snapshot.generation = (List.range (publishers.length + 1)).reverse)
    ∧ (∀ i, t.Waits i → (∃ t', Step r t t' ∧ t'.refreshes i = some .ended)
        ∧ ∀ t', Step r t t' → t'.refreshes i = some .ended →
          t'.current = t.current ∧ t'.history = t.history ∧ t'.loaded = t.loaded
          ∧ (∀ j, j ≠ i → t'.refreshes j = t.refreshes j)
          ∧ (∀ j, t'.holder = some j ↔ t.holder = some j ∧ j ≠ i))
    ∧ (∀ i, t.refreshes i = some .waiting →
        (t.holder = none → ∃ t', Step r t t' ∧ t'.refreshes i = some .locked)
        ∧ ∃ t', Steps r t t' ∧ t'.refreshes i = some .locked)
    ∧ ∀ reader, (∀ s ∈ t.loaded reader, s ∈ t.history)
        ∧ (t.loaded reader).Pairwise fun newer older => older.generation ≤ newer.generation := by
  obtain ⟨guarded, recorded, observed⟩ := run.invariants
  refine ⟨⟨recorded.current, recorded.first, recorded.chain⟩,
    ⟨run.exists_trace, fun publishers trace => ?_⟩, fun i waits => ⟨?_, fun t' s ended => ?_⟩,
    fun i waits => ⟨fun free => step_lock free waits, guarded.steps_lock waits⟩,
    fun reader => ⟨observed.published reader, observed.ascending reader⟩⟩
  · have counted := trace.counted
    rw [← counted.count]
    exact ⟨counted.once, recorded.generations⟩
  · exact ⟨_, guarded.step_drop waits, if_pos rfl⟩
  · obtain rfl := s.eq_drop guarded waits ended
    refine ⟨rfl, rfl, rfl, fun j other => refreshes_setStage_of_ne _ _ other, fun j => ?_⟩
    by_cases here : j = i
    · subst here
      exact ⟨fun held => absurd held (holder_unlock_self t j), fun held => absurd rfl held.2⟩
    · exact (holder_unlock_of_ne t here).trans ⟨fun held => ⟨held, here⟩, And.left⟩

/-- A refresh is dropped while it gathers, and the next one publishes the first generation. -/
theorem second_round_after_drop :
    let r : Registry := { clients := [⟨.jan, false⟩], pins := [] }
    ∃ t, Steps r {} t ∧ t.refreshes 0 = some .ended ∧ t.refreshes 1 = some .published
      ∧ t.history.map Snapshot.generation = [1, 0]
      ∧ (t.loaded 0).map Snapshot.generation = [1, 0] := by
  intro r
  have run : Steps r {} _ := ((((((((((Steps.refl {}).tail
    (.begin (i := 0) rfl)).tail (.begin (i := 1) rfl)).tail (.lock (i := 0) rfl rfl)).tail
    (.readPrior (i := 0) rfl)).tail (.load 0)).tail (.dropGathering (i := 0) rfl)).tail
    (.lock (i := 1) rfl rfl)).tail (.readPrior (i := 1) rfl)).tail
    (.arrive (i := 1) 0 (.ok []) rfl rfl)).tail (.publish (i := 1) 0 [.ok []] rfl)
  obtain ⟨t, loaded, dropped, published, two, seen⟩ : ∃ t, Steps r {} t
      ∧ t.refreshes 0 = some .ended ∧ t.refreshes 1 = some .published ∧ t.history.length = 2
      ∧ (t.loaded 0).map Snapshot.generation = [1, 0] :=
    ⟨_, run.tail (.load 0), rfl, rfl, rfl, rfl⟩
  obtain ⟨-, ⟨⟨publishers, trace⟩, counts⟩, -⟩ := overlapping_rounds r loaded
  have counted := (counts publishers trace).2
  -- two snapshots were ever current, so that one refresh has published
  have one : publishers.length + 1 = 2 := by
    simpa [two] using congrArg List.length counted.symm
  rw [one] at counted
  exact ⟨t, loaded, dropped, published, counted, seen⟩

end Turns

end InferenceGateway.Registry
