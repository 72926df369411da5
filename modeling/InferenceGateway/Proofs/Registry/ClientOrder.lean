import Mathlib
import InferenceGateway.Proofs.Registry.Merging
import InferenceGateway.Proofs.Registry.Overlap

/-!
# Clients in any order

A registry sorts its clients by priority, and takes the listings of a round in that order, however
they arrive. So neither the order in which clients are configured nor that of arrival shows.

* `Priority.sort_eq_of_perm`: sorting by an order that holds every provider forgets the order
  before.
* `Turns.Publication`, `Turns.Chronicle`: interleavings of refreshes with what they have gathered.
* `Turns.Chronicle.history_eq`: the snapshots of an interleaving are those of its publications,
  taken one after the other.
* `Snapshot.Alike`: two snapshots that differ in nothing but when they were made.
* `Registry.client_order_hidden`: two gateways with the same clients show the same.
-/

namespace InferenceGateway

/-! ## Sorting -/

/-- In an order that holds them, two providers do not share a place. -/
theorem Priority.eq_of_place_eq {order : List Provider} {p q : Provider} (hp : p ∈ order)
    (hq : q ∈ order) (same : place order p = place order q) : p = q := by
  have found : ∀ {p}, p ∈ order → order[place order p]? = some p := by
    intro p mem
    have within : place order p < order.length :=
      List.findIdx_lt_length_of_exists ⟨p, mem, beq_self_eq_true p⟩
    have here : (order[place order p] == p) = true :=
      List.findIdx_getElem (p := (· == p)) (w := within)
    rw [List.getElem?_eq_getElem within, beq_iff_eq.mp here]
  have one := found hp
  rw [same, found hq] at one
  exact (Option.some.inj one).symm

/-- Whatever order things of different providers come in, sorting them leads to one and the same. -/
theorem Priority.sort_eq_of_perm {α : Type} {order : List Provider} {provider : α → Provider}
    {xs ys : List α} (total : ∀ p, p ∈ order) (distinct : (xs.map provider).Nodup)
    (perm : ys.Perm xs) : sort order provider ys = sort order provider xs := by
  have back : ∀ {zs : List α} {a}, zs.Perm xs → a ∈ sort order provider zs → a ∈ xs :=
    fun same mem => same.mem_iff.mp ((perm_sort order provider _).mem_iff.mp mem)
  refine List.Perm.eq_of_pairwise (fun a b ha hb le ge => ?_) (pairwise_sort order provider ys)
    (pairwise_sort order provider xs) ?_
  · -- two things at the same place are of the same provider, and so they are one
    have same : provider a = provider b :=
      eq_of_place_eq (total _) (total _) (Nat.le_antisymm le ge)
    exact List.inj_on_of_nodup_map distinct (back perm ha) (back (.refl _) hb) same
  · exact (perm_sort order provider ys).trans (perm.trans (perm_sort order provider xs).symm)

/-- Pairs with the same first parts in the same order, which are all different, are the same. -/
theorem eq_of_perm_of_map_fst_eq {α β : Type} {xs ys : List (α × β)} (perm : ys.Perm xs)
    (keys : ys.map Prod.fst = xs.map Prod.fst) (distinct : (xs.map Prod.fst).Nodup) : ys = xs := by
  induction xs generalizing ys with
  | nil => exact perm.eq_nil
  | cons x rest ih =>
    cases ys with
    | nil => cases keys
    | cons y others =>
      obtain ⟨first, later⟩ := List.cons.inj keys
      obtain ⟨new, apart⟩ := List.nodup_cons.mp distinct
      have same : y = x := by
        rcases List.mem_cons.mp (perm.mem_iff.mp List.mem_cons_self) with same | mem
        · exact same
        · exact absurd (first ▸ List.mem_map_of_mem mem) new
      subst same
      rw [ih perm.cons_inv later apart]

namespace Registry

theorem new_eq_of_perm {order : List Provider} (pins : List ModelPin) {clients clients' : List Client}
    (total : ∀ p, p ∈ order) (distinct : (clients.map Client.provider).Nodup)
    (perm : clients'.Perm clients) : new order pins clients' = new order pins clients := by
  unfold new
  rw [Priority.sort_eq_of_perm total distinct perm]

theorem nodup_providers_new {order : List Provider} {pins : List ModelPin} {clients : List Client}
    (distinct : (clients.map Client.provider).Nodup) :
    (new order pins clients).providers.Nodup :=
  ((clients_new order pins clients).1.map Client.provider).nodup_iff.mpr distinct

end Registry

/-! ## Snapshots without their times -/

/-- The same without the time of the listing. -/
def Health.undated (h : Health) : Health :=
  { h with checkedAt := 0 }

/-- Two snapshots differ in nothing but when they were made. -/
structure Snapshot.Alike (s s' : Snapshot) : Prop where
  generation : s.generation = s'.generation
  catalog : s.catalog = s'.catalog
  retained : s.retained = s'.retained
  health : ∀ p, (s.health.get p).map Health.undated = (s'.health.get p).map Health.undated

namespace Registry

theorem retainedAfter_congr {s s' : Snapshot} (same : s.retained = s'.retained) :
    retainedAfter s = retainedAfter s' := by
  funext p listing
  cases listing with
  | ok models => rfl
  | error e =>
    show s.retained.get p = s'.retained.get p
    rw [same]

theorem undated_healthAfter {s s' : Snapshot} (same : s.retained = s'.retained) (now now' : Nat)
    (p : Provider) (listing : Listing) :
    (healthAfter s now p listing).undated = (healthAfter s' now' p listing).undated := by
  unfold healthAfter Health.undated
  rw [retainedAfter_congr same]

/-- The same listings after alike snapshots lead to alike ones, whenever they come. -/
theorem alike_next (r : Registry) {s s' : Snapshot} (h : s.Alike s') (now now' : Nat)
    (listings : List (Provider × Listing)) : (r.next s now listings).Alike (r.next s' now' listings) := by
  have retained : (r.next s now listings).retained = (r.next s' now' listings).retained := by
    unfold next
    rw [retainedAfter_congr h.retained]
  refine ⟨congrArg (· + 1) h.generation, congrArg r.merge retained, retained, ?_⟩
  -- the tables of health are filled in side by side
  have fill : ∀ (listings : List (Provider × Listing)) (t t' : Provider.Table (Option Health)),
      (∀ p, (t.get p).map Health.undated = (t'.get p).map Health.undated) → ∀ p,
        ((listings.foldl (fun t l => t.set l.1 (some (healthAfter s now l.1 l.2))) t).get p).map
            Health.undated
          = ((listings.foldl (fun t l => t.set l.1 (some (healthAfter s' now' l.1 l.2))) t').get p).map
            Health.undated := by
    intro listings
    induction listings with
    | nil => exact fun t t' same => same
    | cons l rest ih =>
      intro t t' same
      refine ih _ _ fun p => ?_
      rw [Provider.Table.get_set, Provider.Table.get_set]
      split
      · exact congrArg some (undated_healthAfter h.retained now now' l.1 l.2)
      · exact same p
  exact fill listings _ _ fun p => rfl

namespace Turns

variable {r : Registry} {t : Turns}

/-! ## What is published -/

/-- What a refresh has gathered when it publishes. -/
structure Publication where
  time : Nat
  /-- The listing of each client. -/
  listings : List (Provider × Listing)

/-- What a refresh comes to for the one who asked for it. -/
def Publication.result (r : Registry) (x : Publication) : Except RegistryError Unit :=
  r.verdict x.listings

/-- Interleavings, with what was published in them, the latest first. -/
inductive Chronicle (r : Registry) : List Publication → Turns → Prop where
  | start : Chronicle r [] {}
  | publish {past t i prior} (now : Nat) (listings : List Listing) (h : Chronicle r past t)
    (gathers : t.refreshes i = some (.gathering prior (listings.map some))) :
    Chronicle r ({ time := now, listings := r.providers.zip listings } :: past)
      ((t.publish (r.next prior now (r.providers.zip listings))).setStage i .published)
  | other {past t t'} (h : Chronicle r past t) (s : Step r t t') (silent : t'.history = t.history) :
    Chronicle r past t'

/-- Every interleaving has a chronicle. -/
theorem Steps.exists_chronicle (run : Steps r {} t) : ∃ published, Chronicle r published t := by
  induction run with
  | refl => exact ⟨[], .start⟩
  | tail _ s ih =>
    obtain ⟨past, chronicle⟩ := ih
    rcases s.publishes_or_keeps with ⟨i, prior, now, listings, gathers, rfl⟩ | ⟨history, -⟩
    · exact ⟨_, chronicle.publish now listings gathers⟩
    · exact ⟨past, chronicle.other s history⟩

theorem Chronicle.steps {published : List Publication} (h : Chronicle r published t) :
    Steps r {} t := by
  induction h with
  | start => exact .refl _
  | publish now listings _ gathers ih => exact ih.tail (.publish now listings gathers)
  | other _ s _ ih => exact ih.tail s

/-- Each publication has a listing for each client. -/
theorem Chronicle.covers {published : List Publication} (h : Chronicle r published t) :
    ∀ x ∈ published, r.Covers x.listings := by
  induction h with
  | start => nofun
  | @publish past t i prior now listings earlier gathers ih =>
    intro x mem
    rcases List.mem_cons.mp mem with rfl | mem
    · have all := (earlier.steps.invariants.1.fresh i prior _ gathers).2
      rw [List.length_map] at all
      exact covers_zip r all
    · exact ih x mem
  | other _ _ _ ih => exact ih

/-- The snapshot after some publications, of which the first in the list is the latest. -/
def latest (r : Registry) : List Publication → Snapshot
  | [] => {}
  | x :: past => r.next (latest r past) x.time x.listings

/-- The snapshots of an interleaving are those that its publications lead to one by one. -/
theorem Chronicle.history_eq {published : List Publication} (h : Chronicle r published t) :
    t.history = published.tails.map (latest r) := by
  induction h with
  | start => rfl
  | @publish past t i prior now listings earlier gathers ih =>
    obtain ⟨guarded, recorded, -⟩ := earlier.steps.invariants
    -- what is current is the head of the history, and what the refresh has read before it
    have current : t.current = latest r past := by
      have head := recorded.current
      rw [ih] at head
      cases past <;> exact (Option.some.inj head).symm
    obtain ⟨rfl, -⟩ := guarded.fresh i prior _ gathers
    show r.next t.current now (r.providers.zip listings) :: t.history = _
    rw [ih, current]
    rfl
  | other _ _ silent ih => rw [silent, ih]

/-- What is current is what the publications so far lead to. -/
theorem Chronicle.current_eq {published : List Publication} (h : Chronicle r published t) :
    t.current = latest r published := by
  have head := h.steps.invariants.2.1.current
  rw [h.history_eq] at head
  cases published <;> exact (Option.some.inj head).symm

/-! ## The same listings -/

/-- Two chronicles tell of the same listings, round by round and provider by provider. -/
def SameListings (published published' : List Publication) : Prop :=
  List.Forall₂ (fun x x' => x'.listings.Perm x.listings) published published'

/-- Listings of the same clients that are the same are so in order too. -/
theorem SameListings.eq {published published' : List Publication}
    (h : SameListings published published') (distinct : r.providers.Nodup)
    (covers : ∀ x ∈ published, r.Covers x.listings)
    (covers' : ∀ x ∈ published', r.Covers x.listings) :
    published'.map Publication.listings = published.map Publication.listings := by
  induction h with
  | nil => rfl
  | @cons x x' past past' perm _ ih =>
    obtain ⟨own, covers⟩ := List.forall_mem_cons.mp covers
    obtain ⟨own', covers'⟩ := List.forall_mem_cons.mp covers'
    have keys : x.listings.map Prod.fst = r.providers := own
    have keys' : x'.listings.map Prod.fst = r.providers := own'
    have same : x'.listings = x.listings := by
      refine eq_of_perm_of_map_fst_eq perm (keys'.trans keys.symm) ?_
      rw [keys]
      exact distinct
    rw [List.map_cons, List.map_cons, same, ih covers covers']

theorem alike_latest {published published' : List Publication}
    (same : published'.map Publication.listings = published.map Publication.listings) :
    (latest r published').Alike (latest r published) := by
  induction published generalizing published' with
  | nil =>
    rw [List.map_eq_nil_iff.mp same]
    exact ⟨rfl, rfl, rfl, fun p => rfl⟩
  | cons x past ih =>
    cases published' with
    | nil => cases same
    | cons x' past' =>
      obtain ⟨own, earlier⟩ := List.cons.inj same
      unfold latest
      rw [own]
      exact alike_next r (ih earlier) x'.time x.time x.listings

/-- The same listings lead to alike snapshots all along. -/
theorem alike_tails {published published' : List Publication}
    (same : published'.map Publication.listings = published.map Publication.listings) :
    List.Forall₂ Snapshot.Alike (published'.tails.map (latest r))
      (published.tails.map (latest r)) := by
  induction published generalizing published' with
  | nil =>
    rw [List.map_eq_nil_iff.mp same]
    exact .cons (alike_latest rfl) .nil
  | cons x past ih =>
    cases published' with
    | nil => cases same
    | cons x' past' =>
      obtain ⟨own, earlier⟩ := List.cons.inj same
      rw [List.tails_cons, List.tails_cons, List.map_cons, List.map_cons]
      exact .cons (alike_latest same) (ih earlier)

theorem eq_of_listings_of_times {published published' : List Publication}
    (listings : published'.map Publication.listings = published.map Publication.listings)
    (times : published'.map Publication.time = published.map Publication.time) :
    published' = published := by
  induction published generalizing published' with
  | nil => exact List.map_eq_nil_iff.mp listings
  | cons x past ih =>
    cases published' with
    | nil => cases listings
    | cons x' past' =>
      obtain ⟨own, listings⟩ := List.cons.inj listings
      obtain ⟨time, times⟩ := List.cons.inj times
      have same : x' = x := by
        cases x
        cases x'
        cases own
        cases time
        rfl
      rw [same, ih listings times]

end Turns

/--
Two gateways are configured with the same clients, each of a provider of its own, in different
orders, and with the same pins and the same priority, which holds every provider. Then they have the
same providers in the same order. Take any interleaving of refreshes and readers in each of them,
where the listings may arrive in any order: if each round gathers the same listing of each provider,
all refreshes have the same results, and the published snapshots differ in nothing but when they
were made; if they are made at the same times, they are the same.
-/
theorem client_order_hidden {order : List Provider} {pins : List ModelPin}
    {clients clients' : List Client} (total : ∀ p, p ∈ order)
    (distinct : (clients.map Client.provider).Nodup) (perm : clients'.Perm clients) :
    let r := Registry.new order pins clients
    let r' := Registry.new order pins clients'
    r'.providers = r.providers
    ∧ (∀ t, Turns.Steps r {} t → ∃ published, Turns.Chronicle r published t)
    ∧ (∀ t, Turns.Steps r' {} t → ∃ published, Turns.Chronicle r' published t)
    ∧ ∀ published published' t t', Turns.Chronicle r published t →
        Turns.Chronicle r' published' t' → Turns.SameListings published published' →
        published'.map (Turns.Publication.result r') = published.map (Turns.Publication.result r)
        ∧ List.Forall₂ Snapshot.Alike t'.history t.history
        ∧ (published'.map Turns.Publication.time = published.map Turns.Publication.time →
            t'.history = t.history) := by
  intro r r'
  have same : r' = r := new_eq_of_perm pins total distinct perm
  refine ⟨congrArg providers same, fun t run => run.exists_chronicle,
    fun t run => run.exists_chronicle, ?_⟩
  rw [same]
  intro published published' t t' chronicle chronicle' gathered
  -- both registries are one, so that each round has its listings in one and the same order
  have listings := gathered.eq (nodup_providers_new distinct) chronicle.covers chronicle'.covers
  rw [chronicle.history_eq, chronicle'.history_eq]
  refine ⟨?_, Turns.alike_tails listings, fun times => ?_⟩
  · have results : ∀ published : List Turns.Publication,
        published.map (Turns.Publication.result r)
          = (published.map Turns.Publication.listings).map r.verdict := by
      intro published
      rw [List.map_map]
      rfl
    rw [results, results, listings]
  · rw [Turns.eq_of_listings_of_times listings times]

/-- Two clients fail, the one first that is last by priority, and the message does not show it. -/
theorem late_failure_hidden :
    let order : List Provider := [.gemini, .jan, .openRouter]
    let r := Registry.new order [] [⟨.jan, false⟩, ⟨.gemini, true⟩]
    let r' := Registry.new order [] [⟨.gemini, true⟩, ⟨.jan, false⟩]
    ∃ x x' t t', Turns.Chronicle r [x] t ∧ Turns.Chronicle r' [x'] t' ∧ t'.history = t.history
      ∧ x'.result r' = x.result r
      ∧ x.result r = .error (.allFailed [(.gemini, "down"), (.jan, "late")]) := by
  intro order r r'
  have begun : ∀ r : Registry, r.clients.length = 2 → ∃ t, Turns.Chronicle r [] t
      ∧ t.refreshes 0 = some (.gathering {} [none, none]) := by
    intro r two
    have waits := Turns.Chronicle.start.other (Turns.Step.begin (r := r) (i := 0) rfl) rfl
    have locks := waits.other (.lock (i := 0) rfl rfl) rfl
    refine ⟨_, locks.other (.readPrior (i := 0) rfl) rfl, ?_⟩
    show some (RefreshStage.gathering {} (List.replicate r.clients.length none)) = _
    rw [two]
    rfl
  obtain ⟨t, early, gathers⟩ := begun r (clients_new _ _ _).1.length_eq
  obtain ⟨t', early', gathers'⟩ := begun r' (clients_new _ _ _).1.length_eq
  -- in the one gateway the listing that is first by priority arrives first, in the other one last
  have one := ((early.other (.arrive 0 (.error "down") gathers rfl) rfl).other
    (.arrive (i := 0) 1 (.error "late") rfl rfl) rfl).publish 5 (i := 0)
      [.error "down", .error "late"] rfl
  have two := ((early'.other (.arrive 1 (.error "late") gathers' rfl) rfl).other
    (.arrive (i := 0) 0 (.error "down") rfl rfl) rfl).publish 5 (i := 0)
      [.error "down", .error "late"] rfl
  have total : ∀ p, p ∈ order := by
    intro p
    cases p <;> decide
  obtain ⟨providers, -, -, hidden⟩ := @client_order_hidden order [] [⟨.jan, false⟩, ⟨.gemini, true⟩]
    [⟨.gemini, true⟩, ⟨.jan, false⟩] total (by decide) (.swap _ _ [])
  obtain ⟨results, -, same⟩ := hidden _ _ _ _ one two (.cons (by rw [providers]) .nil)
  refine ⟨_, _, _, _, one, two, same rfl, (List.cons.inj results).1, ?_⟩
  cbv

end Registry

end InferenceGateway
