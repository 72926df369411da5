import Mathlib
import InferenceGateway.Proofs.Registry.Merging
import InferenceGateway.Registry.Timing

/-!
# The registry over whole runs

What a registry knows after any number of rounds, in each of which every provider may list models,
fail, or take too long, whatever it did before.

* `Round`, `Registry.after`: the rounds, and the snapshot that they lead to.
* `lastListed`: the models of a provider's latest successful listing, which is what should be
  retained of it.
* `Registry.History`: the invariant that ties a snapshot to the rounds so far; `history_round` is
  its step and `history_after` the run.
* `Registry.reachable_after`: what holds of all reachable snapshots holds of these.
* `Registry.after_rounds`: the state after the last of any number of rounds, and its result.
-/

namespace InferenceGateway

/-- A round: when it ends, and how each provider answers. -/
structure Round where
  ended : Nat
  answer : Provider → ListingAnswer

/-- The models that an answer brings within a time limit, unless it fails or takes too long. -/
def ListingAnswer.models? (limit : Nat) (a : ListingAnswer) : Option (List ModelInfo) :=
  match a.delay, a.result with
  | some d, .ok models => if d ≤ limit then some models else none
  | _, _ => none

/-- The models of the latest of some rounds in which a provider has listed any; none if it has
never succeeded. -/
def lastListed (limit : Nat) (p : Provider) (rounds : List Round) : List ModelInfo :=
  (rounds.reverse.findSome? fun x => (x.answer p).models? limit).getD []

/-- A round counts if the provider lists its models in it, and else the rounds before it. -/
theorem lastListed_concat (limit : Nat) (p : Provider) (rounds : List Round) (x : Round) :
    lastListed limit p (rounds ++ [x])
      = ((x.answer p).models? limit).getD (lastListed limit p rounds) := by
  unfold lastListed
  rw [List.reverse_append, List.reverse_singleton, List.singleton_append, List.findSome?_cons]
  cases (x.answer p).models? limit <;> rfl

/-- An answer comes to models exactly if it brings them within the limit. -/
theorem ListingAnswer.within_eq_ok_iff {limit : Nat} {a : ListingAnswer}
    {models : List ModelInfo} :
    (a.within limit).2 = .ok models ↔ a.models? limit = some models := by
  obtain ⟨delay, result⟩ := a
  unfold within models?
  cases delay with
  | none => simp
  | some d => by_cases h : d ≤ limit <;> cases result <;> simp [h, Except.mapError]

/-- An answer that brings no models within the limit is a failure. -/
theorem ListingAnswer.within_of_models?_eq_none {limit : Nat} {a : ListingAnswer}
    (h : a.models? limit = none) : ∃ e, (a.within limit).2 = .error e := by
  cases eq : (a.within limit).2 with
  | error e => exact ⟨e, rfl⟩
  | ok models => rw [within_eq_ok_iff, h] at eq; cases eq

/-- What is put into a table for each of some providers is found there, and nothing else. -/
theorem Provider.Table.get_foldl_set {α β : Type} (ps : List Provider) (g : Provider → β)
    (v : Provider → β → α) (t : Provider.Table α) (q : Provider) :
    ((ps.map fun p => (p, g p)).foldl (fun t l => t.set l.1 (v l.1 l.2)) t).get q
      = if q ∈ ps then v q (g q) else t.get q := by
  induction ps generalizing t with
  | nil => rfl
  | cons p rest ih =>
    rw [List.map_cons, List.foldl_cons, ih, get_set]
    by_cases hq : q ∈ rest
    · rw [if_pos hq, if_pos (List.mem_cons_of_mem p hq)]
    · by_cases hp : p = q
      · subst hp
        rw [if_neg hq, if_pos rfl, if_pos List.mem_cons_self]
      · have out : q ∉ p :: rest := by
          rw [List.mem_cons, not_or]
          exact ⟨Ne.symm hp, hq⟩
        rw [if_neg hq, if_neg hp, if_neg out]

section

variable {α β : Type} {v : Provider → β → α} {p : Provider}

/-- What is put into a table for others is not found. -/
theorem Provider.Table.get_foldl_set_of_not_mem {listings : List (Provider × β)}
    (other : p ∉ listings.map Prod.fst) (t : Provider.Table α) :
    (listings.foldl (fun t l => t.set l.1 (v l.1 l.2)) t).get p = t.get p := by
  induction listings generalizing t with
  | nil => rfl
  | cons l rest ih =>
    rw [List.map_cons, List.mem_cons, not_or] at other
    rw [List.foldl_cons, ih other.2, get_set, if_neg (Ne.symm other.1)]

/-- What is put into a table once is found there. -/
theorem Provider.Table.get_foldl_set_of_mem {listings : List (Provider × β)}
    (distinct : (listings.map Prod.fst).Nodup) {b : β} (mem : (p, b) ∈ listings)
    (t : Provider.Table α) :
    (listings.foldl (fun t l => t.set l.1 (v l.1 l.2)) t).get p = v p b := by
  induction listings generalizing t with
  | nil => cases mem
  | cons l rest ih =>
    obtain ⟨new, distinct⟩ := List.nodup_cons.mp distinct
    rw [List.foldl_cons]
    rcases List.mem_cons.mp mem with rfl | mem
    · rw [get_foldl_set_of_not_mem new, get_set, if_pos rfl]
    · exact ih distinct mem _

end

namespace Registry

/-- A round of all clients after a snapshot: its result, and the next snapshot. -/
def playRound (r : Registry) (limit : Nat) (prior : Snapshot) (x : Round) :
    Except RegistryError Unit × Snapshot :=
  r.refresh limit prior x.ended (r.providers.map fun p => (p, x.answer p))

/-- The snapshot after some rounds. -/
def after (r : Registry) (limit : Nat) (rounds : List Round) : Snapshot :=
  rounds.foldl (fun s x => (r.playRound limit s x).2) {}

theorem after_concat (r : Registry) (limit : Nat) (rounds : List Round) (x : Round) :
    r.after limit (rounds ++ [x]) = (r.playRound limit (r.after limit rounds) x).2 := by
  unfold after
  rw [List.foldl_append]
  rfl

/-! ## One round -/

variable {r : Registry} {limit : Nat} {prior : Snapshot} {x : Round} {p : Provider}

/-- A round takes the listing of each provider within the limit. -/
theorem roundListings_eq (limit : Nat) (ps : List Provider) (x : Round) :
    roundListings limit (ps.map fun p => (p, x.answer p))
      = ps.map fun p => (p, ((x.answer p).within limit).2) := by
  unfold roundListings
  rw [List.map_map]
  rfl

theorem generation_playRound :
    (r.playRound limit prior x).2.generation = prior.generation + 1 := rfl

theorem catalog_playRound : (r.playRound limit prior x).2.catalog
    = r.merge (r.playRound limit prior x).2.retained := rfl

/-- What a round retains of a provider depends on its own answer. -/
theorem retained_playRound : (r.playRound limit prior x).2.retained.get p
    = if p ∈ r.providers then retainedAfter prior p ((x.answer p).within limit).2 else [] := by
  simp only [playRound, refresh, next, roundListings_eq]
  rw [Provider.Table.get_foldl_set, Provider.Table.get_const]

/-- So does its health. -/
theorem health_playRound : (r.playRound limit prior x).2.health.get p
    = if p ∈ r.providers then
        some (healthAfter prior x.ended p ((x.answer p).within limit).2)
      else none := by
  simp only [playRound, refresh, next, roundListings_eq]
  rw [Provider.Table.get_foldl_set (v := fun p l => some (healthAfter prior x.ended p l)),
    Provider.Table.get_const]

section

variable {listings : List (Provider × Listing)} {l : Listing}

/-- Where each provider is listed once, its own listing says what is retained of it. -/
theorem retained_next_of_mem (r : Registry) (prior : Snapshot) (now : Nat)
    (distinct : (listings.map Prod.fst).Nodup) (mem : (p, l) ∈ listings) :
    (r.next prior now listings).retained.get p = retainedAfter prior p l :=
  Provider.Table.get_foldl_set_of_mem (v := retainedAfter prior) distinct mem (.const [])

/-- Where each provider is listed once, its own listing says how it fares. -/
theorem health_next_of_mem (r : Registry) (prior : Snapshot) (now : Nat)
    (distinct : (listings.map Prod.fst).Nodup) (mem : (p, l) ∈ listings) :
    (r.next prior now listings).health.get p = some (healthAfter prior now p l) :=
  Provider.Table.get_foldl_set_of_mem (v := fun p l => some (healthAfter prior now p l)) distinct
    mem (.const none)

end

/-- A listing that succeeds replaces the earlier one, a failed one leaves it. -/
theorem retainedAfter_within (a : ListingAnswer) :
    retainedAfter prior p (a.within limit).2
      = ((a.models? limit).map (·.map (ModelEntry.ofListing p))).getD (prior.retained.get p) := by
  cases found : a.models? limit with
  | some models => rw [ListingAnswer.within_eq_ok_iff.mpr found]; rfl
  | none =>
    obtain ⟨e, eq⟩ := ListingAnswer.within_of_models?_eq_none found
    rw [eq]
    rfl

/-- A provider is healthy exactly if its models were listed in time, and else there is an error. -/
theorem healthAfter_within (now : Nat) (a : ListingAnswer) :
    ((healthAfter prior now p (a.within limit).2).healthy = true ↔ (a.models? limit).isSome)
      ∧ ((healthAfter prior now p (a.within limit).2).lastError.isSome
          ↔ a.models? limit = none) := by
  cases found : a.models? limit with
  | some models => simp [ListingAnswer.within_eq_ok_iff.mpr found, healthAfter]
  | none =>
    obtain ⟨e, eq⟩ := ListingAnswer.within_of_models?_eq_none found
    simp [eq, healthAfter]

/-! ## The result of a round -/

theorem failures_length_le (listings : List (Provider × Listing)) :
    (failures listings).length ≤ listings.length :=
  List.length_filterMap_le _ _

/-- As many listings failed as there are exactly if each of them failed. -/
theorem failures_length_eq_iff (listings : List (Provider × Listing)) :
    (failures listings).length = listings.length ↔ ∀ l ∈ listings, ∃ e, l.2 = .error e := by
  -- A listing that succeeded leaves fewer failures than listings, however many fail behind it.
  induction listings with
  | nil => simp [failures]
  | cons l rest ih =>
    obtain ⟨p, listing⟩ := l
    rw [List.forall_mem_cons]
    cases listing with
    | error e =>
      rw [← ih]
      simp [failures]
    | ok models =>
      have le := failures_length_le rest
      have eq : failures ((p, .ok models) :: rest) = failures rest := rfl
      rw [eq, List.length_cons]
      constructor
      · intro h
        omega
      · rintro ⟨⟨e, h⟩, -⟩
        cases h

theorem length_roundListings (r : Registry) (limit : Nat) (x : Round) :
    (roundListings limit (r.providers.map fun p => (p, x.answer p))).length
      = r.clients.length := by
  simp [roundListings, providers]

/-- The listings of a round have all failed exactly if no client lists its models in time. -/
theorem failures_playRound_iff (r : Registry) (limit : Nat) (x : Round) :
    (failures (roundListings limit (r.providers.map fun p => (p, x.answer p)))).length
        = r.clients.length
      ↔ ∀ p ∈ r.providers, (x.answer p).models? limit = none := by
  rw [← length_roundListings r limit x, failures_length_eq_iff, roundListings_eq,
    List.forall_mem_map]
  refine forall₂_congr fun p _ => ?_
  cases found : (x.answer p).models? limit with
  | some models => simp [ListingAnswer.within_eq_ok_iff.mpr found]
  | none => simpa using ListingAnswer.within_of_models?_eq_none found

/-- A round fails if there are clients and none of them lists its models in time. -/
theorem playRound_fails (manned : r.clients ≠ [])
    (silent : ∀ p ∈ r.providers, (x.answer p).models? limit = none) :
    ∃ failures, (r.playRound limit prior x).1 = .error (.allFailed failures) := by
  have all := (failures_playRound_iff r limit x).mpr silent
  refine ⟨failures (roundListings limit (r.providers.map fun p => (p, x.answer p))), ?_⟩
  show r.verdict _ = _
  unfold verdict
  rw [if_pos (by simp [all, manned])]

/-- A round succeeds if there are no clients or one of them lists its models in time. -/
theorem playRound_succeeds
    (h : r.clients = [] ∨ ∃ p ∈ r.providers, (x.answer p).models? limit ≠ none) :
    (r.playRound limit prior x).1 = .ok () := by
  show r.verdict _ = _
  unfold verdict
  -- a failed round has clients, and they are all silent
  refine if_neg fun both => ?_
  rw [Bool.and_eq_true, beq_iff_eq, failures_playRound_iff] at both
  rcases h with none | ⟨p, hp, listed⟩
  · simp [none] at both
  · exact listed (both.2 p hp)

/-! ## Any number of rounds -/

/-- What a snapshot holds after the rounds of the past. -/
structure History (r : Registry) (limit : Nat) (past : List Round) (s : Snapshot) : Prop where
  generation : s.generation = past.length
  retained : ∀ p, s.retained.get p =
    if p ∈ r.providers then (lastListed limit p past).map (ModelEntry.ofListing p) else []
  catalog : s.catalog = if past = [] then [] else r.merge s.retained

/-- Before the first round nothing is retained. -/
theorem history_start (r : Registry) (limit : Nat) : History r limit [] {} where
  generation := rfl
  retained p := by
    show (Provider.Table.const []).get p = _
    rw [Provider.Table.get_const]
    split <;> rfl
  catalog := rfl

/-- A round adds one to the generation, and what it lists to the history. -/
theorem history_round {past : List Round} (h : History r limit past prior) (x : Round) :
    History r limit (past ++ [x]) (r.playRound limit prior x).2 where
  generation := by
    rw [generation_playRound, h.generation, List.length_append, List.length_singleton]
  retained p := by
    rw [retained_playRound]
    -- A provider without a client is not asked, and nothing is retained of it.
    by_cases hp : p ∈ r.providers
    · rw [if_pos hp, if_pos hp, retainedAfter_within, h.retained, if_pos hp, lastListed_concat]
      cases (x.answer p).models? limit <;> rfl
    · rw [if_neg hp, if_neg hp]
  catalog := by
    rw [catalog_playRound, if_neg (by simp)]

/-- So do all rounds, one after the other. -/
theorem history_foldl {past : List Round} {s : Snapshot} (h : History r limit past s)
    (rounds : List Round) : History r limit (past ++ rounds)
      (rounds.foldl (fun s x => (r.playRound limit s x).2) s) := by
  induction rounds generalizing past s with
  | nil => simpa using h
  | cons x rest ih =>
    have step := ih (history_round h x)
    rwa [List.append_assoc] at step

/-- Whatever rounds there were, the snapshot holds what they say. -/
theorem history_after (r : Registry) (limit : Nat) (rounds : List Round) :
    History r limit rounds (r.after limit rounds) :=
  history_foldl (history_start r limit) rounds

/-- The snapshots after any number of rounds are those that rounds can lead to. -/
theorem reachable_after (r : Registry) (limit : Nat) (rounds : List Round) :
    r.Reachable (r.after limit rounds) := by
  -- the run grows at its end, so the induction is on the rounds in reverse
  suffices h : ∀ rounds : List Round, r.Reachable (r.after limit rounds.reverse) by
    simpa using h rounds.reverse
  intro rounds
  induction rounds with
  | nil => exact .start
  | cons x earlier ih =>
    rw [List.reverse_cons, after_concat]
    refine .round x.ended _ ih ?_
    show (roundListings limit (r.providers.map fun p => (p, x.answer p))).map (·.1) = r.providers
    rw [roundListings_eq, List.map_map]
    exact List.map_id _

/-- If no client lists its models in time, a round leaves all listings as they were. -/
theorem History.retained_of_silent {past : List Round} (h : History r limit past prior)
    (silent : ∀ p ∈ r.providers, (x.answer p).models? limit = none) :
    (r.playRound limit prior x).2.retained = prior.retained := by
  refine Provider.Table.ext_get fun p => ?_
  rw [retained_playRound]
  by_cases hp : p ∈ r.providers
  · rw [if_pos hp, retainedAfter_within, silent p hp]
    rfl
  · rw [if_neg hp, h.retained, if_neg hp]

/--
The registry over whole runs. Before the first round nothing is listed and nothing is resolved,
whatever the pins. After any past and one more round `x` the generation is the number of rounds;
of each configured provider the entries of its latest successful listing are retained and its
health is that of round `x`; the catalog is merged from the retained listings. The round fails
exactly if there is a client and none listed its models in time. It publishes its snapshot then
too: the listings stay as they were and, from the second round on, so does the catalog.
-/
theorem after_rounds (order : List Provider) (pins : List ModelPin) (clients : List Client)
    (limit : Nat) :
    let r := Registry.new order pins clients
    let configured := clients.map Client.provider
    ((r.after limit []).catalog = [] ∧ ∀ id, (r.after limit []).resolve id = none)
    ∧ ∀ (past : List Round) (x : Round),
      let prior := r.after limit past
      let result := (r.playRound limit prior x).1
      let s := r.after limit (past ++ [x])
      (r.playRound limit prior x).2 = s
      ∧ s.generation = past.length + 1
      ∧ (∀ p ∈ configured,
          s.retained.get p
            = (lastListed limit p (past ++ [x])).map (ModelEntry.ofListing p)
          ∧ ∃ health, s.health.get p = some health
            ∧ (health.healthy = true ↔ ((x.answer p).models? limit).isSome)
            ∧ (health.lastError.isSome ↔ (x.answer p).models? limit = none)
            ∧ health.modelCount = (s.retained.get p).length)
      ∧ s.catalog = r.merge s.retained
      ∧ ((∃ failures, result = .error (.allFailed failures))
          ↔ clients ≠ [] ∧ ∀ p ∈ configured, (x.answer p).models? limit = none)
      ∧ ((∀ failures, result ≠ .error (.allFailed failures)) → result = .ok ())
      ∧ ((∀ p ∈ configured, (x.answer p).models? limit = none) →
          s.retained = prior.retained ∧ (past ≠ [] → s.catalog = prior.catalog)) := by
  intro r configured
  have same : ∀ {p}, p ∈ r.providers ↔ p ∈ configured := mem_providers_new
  have empty : r.clients = [] ↔ clients = [] := by
    rw [← List.length_eq_zero_iff, (clients_new order pins clients).1.length_eq,
      List.length_eq_zero_iff]
  refine ⟨⟨rfl, fun id => rfl⟩, fun past x => ?_⟩
  intro prior result s
  have next : (r.playRound limit prior x).2 = s := (after_concat r limit past x).symm
  have before : History r limit past prior := history_after r limit past
  have now : History r limit (past ++ [x]) s := history_after r limit (past ++ [x])
  -- The registry sorts its clients, which changes neither their providers nor whether there are
  -- any.
  have fails : clients ≠ [] ∧ (∀ p ∈ configured, (x.answer p).models? limit = none) →
      ∃ failures, result = .error (.allFailed failures) := fun h =>
    playRound_fails (fun none => h.1 (empty.mp none)) fun p hp => h.2 p (same.mp hp)
  have succeeds : ¬(clients ≠ [] ∧ ∀ p ∈ configured, (x.answer p).models? limit = none) →
      result = .ok () := by
    intro h
    refine playRound_succeeds ?_
    by_cases none : r.clients = []
    · exact .inl none
    · right
      have listed : ¬∀ p ∈ configured, (x.answer p).models? limit = .none := fun silent =>
        h ⟨fun eq => none (empty.mpr eq), silent⟩
      obtain ⟨p, hp⟩ := Classical.not_forall.mp listed
      obtain ⟨mem, found⟩ := Classical.not_imp.mp hp
      exact ⟨p, same.mpr mem, found⟩
  refine ⟨next, ?_, fun p hp => ⟨?_, ?_⟩, ?_, ⟨fun failed => ?_, fails⟩, ?_, fun silent => ?_⟩
  · rw [now.generation, List.length_append, List.length_singleton]
  · rw [now.retained, if_pos (same.mpr hp)]
  · refine ⟨healthAfter prior x.ended p ((x.answer p).within limit).2, ?_, ?_, ?_, ?_⟩
    · rw [← next, health_playRound, if_pos (same.mpr hp)]
    · exact (healthAfter_within x.ended (x.answer p)).1
    · exact (healthAfter_within x.ended (x.answer p)).2
    · rw [← next, retained_playRound, if_pos (same.mpr hp)]
      rfl
  · rw [now.catalog, if_neg (by simp)]
  · -- a round that fails cannot be one that succeeds
    refine Classical.byContradiction fun ok => ?_
    obtain ⟨failures, eq⟩ := failed
    rw [succeeds ok] at eq
    cases eq
  · intro notFailed
    refine succeeds fun all => ?_
    obtain ⟨failures, eq⟩ := fails all
    exact notFailed failures eq
  · have kept : s.retained = prior.retained := by
      rw [← next]
      exact before.retained_of_silent fun p hp => silent p (same.mp hp)
    refine ⟨kept, fun earlier => ?_⟩
    rw [now.catalog, if_neg (by simp), kept, before.catalog, if_neg earlier]

end Registry

end InferenceGateway
