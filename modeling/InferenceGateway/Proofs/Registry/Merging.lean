import Mathlib
import InferenceGateway.Registry.Basic

/-!
# What merging makes of listings and pins

`Registry.merge` is two loops over one map: the listings of all clients fill in the ids that are
still missing, and then the pins override. This file says what the map holds in the end.

* `Catalog.Ascending`: the order of the entries, which no insertion breaks.
* `Registry.find?_merge`: the entry of an id. The last pin for it whose provider has a client
  decides; without one, the first client in order whose listing has the id.
* `Registry.Published`: listings that hold nothing but what their own provider has published; for
  such listings `Registry.configured_of_mem_merge` and `Registry.owned_of_mem_merge` say where the
  entries come from.
* `Registry.merged_catalog`: all of it, for the clients and pins that a registry is made of.
-/

namespace InferenceGateway

/-! ## Sorting -/

namespace Priority

variable {α : Type}

theorem perm_sort (order : List Provider) (provider : α → Provider) (xs : List α) :
    (sort order provider xs).Perm xs :=
  List.mergeSort_perm xs _

/-- The comparison that sorts is total and transitive. -/
theorem place_le_total (order : List Provider) (provider : α → Provider) (a b : α) :
    (decide (place order (provider a) ≤ place order (provider b))
      || decide (place order (provider b) ≤ place order (provider a))) = true := by
  simp only [Bool.or_eq_true, decide_eq_true_eq]
  omega

theorem place_le_trans (order : List Provider) (provider : α → Provider) (a b c : α) :
    decide (place order (provider a) ≤ place order (provider b)) = true →
    decide (place order (provider b) ≤ place order (provider c)) = true →
    decide (place order (provider a) ≤ place order (provider c)) = true := by
  simp only [decide_eq_true_eq]
  omega

/-- What is sorted stands in the order of the places of its providers. -/
theorem pairwise_sort (order : List Provider) (provider : α → Provider) (xs : List α) :
    (sort order provider xs).Pairwise fun a b =>
      place order (provider a) ≤ place order (provider b) :=
  (List.pairwise_mergeSort (place_le_trans order provider) (place_le_total order provider) xs).imp
    of_decide_eq_true

/-- What stands in order stays in order. -/
theorem pair_sublist_sort {order : List Provider} {provider : α → Provider} {xs : List α} {a b : α}
    (le : place order (provider a) ≤ place order (provider b)) (sub : [a, b].Sublist xs) :
    [a, b].Sublist (sort order provider xs) :=
  List.pair_sublist_mergeSort (place_le_trans order provider) (place_le_total order provider)
    (decide_eq_true le) sub

end Priority

/-! ## Catalogs in order -/

namespace Catalog

/-- Every entry's id is less than those of all later ones. -/
def Ascending (c : Catalog) : Prop :=
  c.Pairwise fun d e => d.id < e.id

theorem lt_of_not_lt_of_ne {a b : String} (h : ¬a < b) (ne : a ≠ b) : b < a :=
  Std.lt_of_le_of_ne (String.not_lt.mp h) ne.symm

/-- An insertion brings in nothing but its entry. -/
theorem mem_insert {e d : ModelEntry} {c : Catalog} (h : d ∈ Catalog.insert e c) :
    d = e ∨ d ∈ c := by
  induction c with
  | nil => simpa [insert] using h
  | cons a rest ih =>
    unfold insert at h
    split at h
    · simpa using h
    · split at h
      · rcases List.mem_cons.mp h with rfl | h
        · exact .inl rfl
        · exact .inr (List.mem_cons_of_mem a h)
      · rcases List.mem_cons.mp h with rfl | h
        · exact .inr List.mem_cons_self
        · exact (ih h).imp_right (List.mem_cons_of_mem a)

/-- An insertion keeps the order. -/
theorem Ascending.insert {c : Catalog} (h : Ascending c) (e : ModelEntry) :
    Ascending (Catalog.insert e c) := by
  induction c with
  | nil => exact List.pairwise_singleton _ e
  | cons a rest ih =>
    obtain ⟨least, ordered⟩ := List.pairwise_cons.mp h
    unfold Catalog.insert
    split
    · next lt =>
      refine List.pairwise_cons.mpr ⟨fun d hd => ?_, h⟩
      rcases List.mem_cons.mp hd with rfl | hd
      · exact lt
      · exact String.lt_trans lt (least d hd)
    · next notLt =>
      split
      · next eq =>
        refine List.pairwise_cons.mpr ⟨fun d hd => ?_, ordered⟩
        rw [eq]
        exact least d hd
      · next ne =>
        refine List.pairwise_cons.mpr ⟨fun d hd => ?_, ih ordered⟩
        rcases mem_insert hd with rfl | hd
        · exact lt_of_not_lt_of_ne notLt ne
        · exact least d hd

/-- Neither does filling in. -/
theorem mem_addMissing {e d : ModelEntry} {c : Catalog} (h : d ∈ Catalog.addMissing c e) :
    d = e ∨ d ∈ c := by
  unfold addMissing at h
  split at h
  · exact .inr h
  · exact mem_insert h

/-- Filling in keeps the order too. -/
theorem Ascending.addMissing {c : Catalog} (h : Ascending c) (e : ModelEntry) :
    Ascending (Catalog.addMissing c e) := by
  unfold Catalog.addMissing
  split
  · exact h
  · exact h.insert e

/-- In a catalog in order, looking an id up finds the entry that has it. -/
theorem Ascending.find?_eq_some_iff {c : Catalog} (h : Ascending c) {id : String}
    {e : ModelEntry} : Catalog.find? id c = some e ↔ e ∈ c ∧ e.id = id := by
  constructor
  · intro found
    exact ⟨List.mem_of_find?_eq_some found, by simpa using List.find?_some found⟩
  · rintro ⟨mem, rfl⟩
    induction c with
    | nil => cases mem
    | cons a rest ih =>
      obtain ⟨least, ordered⟩ := List.pairwise_cons.mp h
      rcases List.mem_cons.mp mem with rfl | mem
      · simp [find?]
      · have ne : a.id ≠ e.id := fun eq => String.lt_irrefl e.id (eq ▸ least e mem)
        have skip : (a.id == e.id) = false := by simpa using ne
        simpa [find?, skip] using ih ordered mem

/-! ## The two loops -/

/-- Filling in leaves what is there and adds the first entry of each missing id. -/
theorem find?_foldl_addMissing (entries : List ModelEntry) (c : Catalog) (id : String) :
    Catalog.find? id (entries.foldl addMissing c)
      = (Catalog.find? id c).or (entries.find? fun e => e.id == id) := by
  -- What an entry has brought in is there for all later ones, so the first one of an id stays.
  induction entries generalizing c with
  | nil => simp
  | cons e rest ih =>
    rw [List.foldl_cons, ih, find?_addMissing, Option.or_assoc, List.find?_cons]
    by_cases h : e.id = id
    · simp [h]
    · have skip : (e.id == id) = false := by simpa using h
      simp [h, skip]

/-- Of entries that override, the last one of an id counts. -/
theorem find?_foldl_insert (entries : List ModelEntry) (c : Catalog) (id : String) :
    Catalog.find? id (entries.foldl (fun c e => Catalog.insert e c) c)
      = ((entries.filter fun e => e.id = id).getLast?).or (Catalog.find? id c) := by
  induction entries generalizing c with
  | nil => simp
  | cons e rest ih =>
    -- Later entries override this one; it counts if none of them is of its id.
    rw [List.foldl_cons, ih, find?_insert]
    by_cases h : e.id = id
    · rw [if_pos h, List.filter_cons_of_pos (by simpa using h), List.getLast?_cons]
      cases (rest.filter fun e => e.id = id).getLast? <;> simp
    · rw [if_neg h, List.filter_cons_of_neg (by simpa using h)]

end Catalog

namespace Registry

/-! ## The merged catalog -/

variable (r : Registry) (retained : Provider.Table (List ModelEntry))

/-- The pin that decides about an id: the last one for it whose provider has a client. -/
def decidingPin (id : String) : Option ModelPin :=
  (r.activePins.filter fun pin => pin.model = id).getLast?

/-- The first entry of an id in the listing of the first client that lists it. -/
def firstListed (id : String) : Option ModelEntry :=
  r.providers.findSome? fun p => (retained.get p).find? fun e => e.id == id

/-- Listings are filled in client by client, so the first one that lists an id gets it. -/
theorem find?_listed (id : String) :
    Catalog.find? id (r.listed retained) = r.firstListed retained id := by
  unfold listed firstListed
  rw [Catalog.find?_foldl_addMissing, List.find?_flatMap]
  rfl

/-- Merging is to insert what the pins say into what is listed. -/
theorem merge_eq : r.merge retained
    = (r.activePins.map (pinned retained)).foldl (fun c e => Catalog.insert e c)
        (r.listed retained) := by
  rw [List.foldl_map]
  rfl

/-- The entry of an id after merging. -/
theorem find?_merge (id : String) :
    Catalog.find? id (r.merge retained)
      = ((r.decidingPin id).map (pinned retained)).or (r.firstListed retained id) := by
  rw [merge_eq, Catalog.find?_foldl_insert, find?_listed, List.filter_map, List.getLast?_map]
  rfl

/-- Both loops keep the order, and the second one starts from what the first one leaves. -/
theorem ascending_merge : Catalog.Ascending (r.merge retained) := by
  unfold merge listed
  refine List.foldlRecOn _ _ ?_ fun c h pin _ => h.insert _
  exact List.foldlRecOn _ _ List.Pairwise.nil fun c h e _ => h.addMissing e

/-- What holds of all listed entries of the clients and of all active pins holds of every entry
after merging. -/
theorem forall_mem_merge {holds : ModelEntry → Prop}
    (listings : ∀ p ∈ r.providers, ∀ e ∈ retained.get p, holds e)
    (pins : ∀ pin ∈ r.activePins, holds (pinned retained pin)) :
    ∀ e ∈ r.merge retained, holds e := by
  unfold merge listed
  refine List.foldlRecOn (motive := fun c => ∀ e ∈ c, holds e) _ _ ?_ fun c h pin hpin e he => ?_
  · refine List.foldlRecOn (motive := fun c => ∀ e ∈ c, holds e) _ _ (by simp)
      fun c h d hd e he => ?_
    obtain ⟨p, hp, hd⟩ := List.mem_flatMap.mp hd
    rcases Catalog.mem_addMissing he with rfl | he
    · exact listings p hp e hd
    · exact h e he
  · rcases Catalog.mem_insert he with rfl | he
    · exact pins pin hpin
    · exact h e he

/-! ## Clients and providers -/

variable {r retained}

theorem client?_isSome_iff {p : Provider} : (r.client? p).isSome ↔ p ∈ r.providers := by
  simp [client?, providers, List.find?_isSome]

theorem mem_activePins {pin : ModelPin} :
    pin ∈ r.activePins ↔ pin ∈ r.pins ∧ pin.provider ∈ r.providers := by
  rw [activePins, List.mem_filter, client?_isSome_iff]

/-! ## What providers have published -/

/-- Every provider's entries are those of some models that it has published. -/
def Published (retained : Provider.Table (List ModelEntry)) : Prop :=
  ∀ p, ∃ models : List ModelInfo, retained.get p = models.map (ModelEntry.ofListing p)

/-- A provider publishes models under its own name only. -/
theorem Published.provider_eq (h : Published retained) {p : Provider} {e : ModelEntry}
    (he : e ∈ retained.get p) : e.provider = p := by
  obtain ⟨models, eq⟩ := h p
  rw [eq] at he
  obtain ⟨m, -, rfl⟩ := List.mem_map.mp he
  rfl

theorem id_ne_empty (p : Provider) : p.id ≠ "" := by
  cases p <;> decide

/-- A model without an owner is owned by its provider, whose name is never empty. -/
theorem Published.owned (h : Published retained) {p : Provider} {e : ModelEntry}
    (he : e ∈ retained.get p) : e.ownedBy ≠ "" := by
  obtain ⟨models, eq⟩ := h p
  rw [eq] at he
  obtain ⟨m, -, rfl⟩ := List.mem_map.mp he
  show (if m.ownedBy.isEmpty then p.id else m.ownedBy) ≠ ""
  split
  · exact id_ne_empty p
  · next hne => exact fun eq => hne (by rw [eq]; rfl)

/-- The owner of a pinned model is copied from what its provider publishes, or is the provider. -/
theorem Published.pinned_owned (h : Published retained) (pin : ModelPin) :
    (pinned retained pin).ownedBy ≠ "" := by
  show ((((retained.get pin.provider).find? fun e => e.providerId == pin.providerId).map
    ModelEntry.ownedBy).getD pin.provider.id) ≠ ""
  cases found : (retained.get pin.provider).find? fun e => e.providerId == pin.providerId with
  | none => exact id_ne_empty pin.provider
  | some e => exact h.owned (List.mem_of_find?_eq_some found)

/-- Entries come from clients or from pins whose providers have one. -/
theorem configured_of_mem_merge (h : Published retained) :
    ∀ e ∈ r.merge retained, e.provider ∈ r.providers := by
  refine forall_mem_merge r retained (fun p hp e he => ?_) fun pin hpin => ?_
  · rw [h.provider_eq he]
    exact hp
  · exact (mem_activePins.mp hpin).2

/-- Listed or pinned, every entry has an owner. -/
theorem owned_of_mem_merge (h : Published retained) :
    ∀ e ∈ r.merge retained, e.ownedBy ≠ "" :=
  forall_mem_merge r retained (fun _ _ _ he => h.owned he) fun pin _ => h.pinned_owned pin

/-- A round keeps what was published, or replaces it by what is published now. -/
theorem published_next {s : Snapshot} (h : Published s.retained) (now : Nat)
    (listings : List (Provider × Listing)) : Published (r.next s now listings).retained := by
  unfold next
  refine List.foldlRecOn (motive := Published) _ _ ?_ fun t ht l _ q => ?_
  · exact fun p => ⟨[], by rw [Provider.Table.get_const]; rfl⟩
  · rw [Provider.Table.get_set]
    split
    · next eq =>
      subst eq
      unfold retainedAfter
      cases l.2 with
      | ok models => exact ⟨models, rfl⟩
      | error e => exact h l.1
    · exact ht q

/-- A reachable snapshot holds published listings, and its catalog is empty or made from them. -/
theorem Reachable.published {s : Snapshot} (h : r.Reachable s) :
    Published s.retained ∧ (s.catalog = [] ∨ s.catalog = r.merge s.retained) := by
  induction h with
  | start => exact ⟨fun p => ⟨[], by cases p <;> rfl⟩, .inl rfl⟩
  | round now listings _ _ ih => exact ⟨published_next ih.1 now listings, .inr rfl⟩

/-! ## The order of the clients -/

/-- The clients of a registry are those that it is made of, sorted by their place in the order of
priority; clients with the same place keep their order. -/
theorem clients_new (order : List Provider) (pins : List ModelPin) (clients : List Client) :
    let sorted := (Registry.new order pins clients).clients
    sorted.Perm clients
      ∧ sorted.Pairwise (fun a b =>
          Priority.place order a.provider ≤ Priority.place order b.provider)
      ∧ ∀ a b, [a, b].Sublist clients →
          Priority.place order a.provider ≤ Priority.place order b.provider →
          [a, b].Sublist sorted := by
  intro sorted
  exact ⟨Priority.perm_sort order Client.provider clients,
    Priority.pairwise_sort order Client.provider clients,
    fun a b sub le => Priority.pair_sublist_sort le sub⟩

theorem mem_providers_new {order : List Provider} {pins : List ModelPin} {clients : List Client}
    {p : Provider} :
    p ∈ (Registry.new order pins clients).providers ↔ p ∈ clients.map Client.provider :=
  ((clients_new order pins clients).1.map Client.provider).mem_iff

end Registry

/-! ## Catalogs that clients can rely on -/

/-- What the catalog of a snapshot promises where some providers are configured. -/
structure Snapshot.Sound (configured : List Provider) (s : Snapshot) : Prop where
  /-- The entries are in order, and no id has two. -/
  ascending : s.catalog.Pairwise fun d e => d.id < e.id
  /-- Exactly the listed ids are resolved, each as its entry says. -/
  resolves : ∀ id b, s.resolve id = some b ↔ ∃ e ∈ s.catalog,
    e.id = id ∧ b = { publicId := id, provider := e.provider, providerId := e.providerId }
  configured : ∀ e ∈ s.catalog, e.provider ∈ configured
  owned : ∀ e ∈ s.catalog, e.ownedBy ≠ ""

/-- Which providers are configured matters, not in which order. -/
theorem Snapshot.Sound.of_mem_iff {ps qs : List Provider} {s : Snapshot} (h : s.Sound ps)
    (same : ∀ p, p ∈ ps ↔ p ∈ qs) : s.Sound qs :=
  { h with configured := fun e he => (same _).mp (h.configured e he) }

/-- In a catalog in order an id is resolved to the binding of its entry. -/
theorem Catalog.Ascending.resolve_eq_some_iff {s : Snapshot} (h : Catalog.Ascending s.catalog)
    {id : String} {b : Binding} : s.resolve id = some b ↔ ∃ e ∈ s.catalog,
      e.id = id ∧ b = { publicId := id, provider := e.provider, providerId := e.providerId } := by
  unfold Snapshot.resolve
  rw [Option.map_eq_some_iff]
  constructor
  · rintro ⟨e, found, rfl⟩
    obtain ⟨mem, rfl⟩ := h.find?_eq_some_iff.mp found
    exact ⟨e, mem, rfl, rfl⟩
  · rintro ⟨e, mem, rfl, rfl⟩
    exact ⟨e, h.find?_eq_some_iff.mpr ⟨mem, rfl⟩, rfl⟩

namespace Registry

variable {r : Registry} {retained : Provider.Table (List ModelEntry)}

/-- Merging what was published makes a sound catalog. -/
theorem Published.sound (h : Published retained) {s : Snapshot}
    (merged : s.catalog = r.merge retained) : s.Sound r.providers where
  ascending := merged ▸ ascending_merge r retained
  resolves _ _ := Catalog.Ascending.resolve_eq_some_iff (merged ▸ ascending_merge r retained)
  configured := merged ▸ configured_of_mem_merge h
  owned := merged ▸ owned_of_mem_merge h

/-- Every snapshot that rounds lead to is sound, the first one too. -/
theorem Reachable.sound {s : Snapshot} (h : r.Reachable s) : s.Sound r.providers := by
  -- The first snapshot was not made by merging; it is sound because its catalog is empty.
  obtain ⟨published, empty | merged⟩ := h.published
  · have nothing : Catalog.Ascending s.catalog := by rw [empty]; exact List.Pairwise.nil
    refine ⟨nothing, fun id b => nothing.resolve_eq_some_iff, ?_, ?_⟩
    · simp [empty]
    · simp [empty]
  · exact published.sound merged

/-- Sorting does not change which providers have clients, so the pins that count stay the same. -/
theorem decidingPin_new (order : List Provider) (pins : List ModelPin) (clients : List Client)
    (id : String) : (Registry.new order pins clients).decidingPin id
    = (pins.filter fun pin =>
        pin.model = id ∧ pin.provider ∈ clients.map Client.provider).getLast? := by
  unfold decidingPin activePins
  rw [List.filter_filter]
  congr 1
  refine List.filter_congr fun pin _ => ?_
  rw [Bool.decide_and, Bool.eq_iff_iff, Bool.and_eq_true, Bool.and_eq_true, decide_eq_true_iff,
    decide_eq_true_iff, client?_isSome_iff, mem_providers_new]

/--
What merging makes of listings and pins. An id goes to the last pin for it whose provider is
configured; its owner and time are those of the first model that the provider lists under the
pinned name. Without such a pin it goes to the first entry of that id in the listing of the first
client that lists it, where the clients are sorted by priority; without a listing it has no entry.
Hence catalogs of published listings, and those of all reachable snapshots, are sound.
-/
theorem merged_catalog (order : List Provider) (pins : List ModelPin) (clients : List Client) :
    let r := Registry.new order pins clients
    let configured := clients.map Client.provider
    (∀ (retained : Provider.Table (List ModelEntry)) (id : String),
      (∀ pin, (pins.filter fun pin => pin.model = id ∧ pin.provider ∈ configured).getLast?
          = some pin →
        let listed := (retained.get pin.provider).find? fun e => e.providerId == pin.providerId
        Catalog.find? id (r.merge retained) = some
          { id := id
            provider := pin.provider
            providerId := pin.providerId
            ownedBy := listed.elim pin.provider.id ModelEntry.ownedBy
            created := listed.elim 0 ModelEntry.created })
      ∧ ((∀ pin ∈ pins, pin.model = id → pin.provider ∉ configured) →
        Catalog.find? id (r.merge retained)
          = r.providers.findSome? fun p => (retained.get p).find? fun e => e.id == id))
    ∧ (r.clients.Perm clients
      ∧ r.clients.Pairwise (fun a b =>
          Priority.place order a.provider ≤ Priority.place order b.provider)
      ∧ ∀ a b, [a, b].Sublist clients →
          Priority.place order a.provider ≤ Priority.place order b.provider →
          [a, b].Sublist r.clients)
    ∧ (∀ retained (s : Snapshot), Published retained → s.catalog = r.merge retained →
        s.Sound configured)
    ∧ ∀ s, r.Reachable s → s.Sound configured := by
  intro r configured
  have same : ∀ p, p ∈ r.providers ↔ p ∈ configured := fun p => mem_providers_new
  refine ⟨fun retained id => ⟨fun pin last => ?_, fun none => ?_⟩, clients_new order pins clients,
    fun retained s published merged => (published.sound merged).of_mem_iff same,
    fun s h => h.sound.of_mem_iff same⟩
  -- A deciding pin exists; its provider's listing is asked for the owner and the time.
  · have model : pin.model = id := by
      have mem := List.mem_of_getLast? last
      exact (of_decide_eq_true (List.mem_filter.mp mem).2).1
    intro listed
    rw [find?_merge, decidingPin_new, last, Option.map_some, Option.some_or]
    subst model
    show some (pinned retained pin) = _
    unfold pinned
    cases h : (retained.get pin.provider).find? fun e => e.providerId == pin.providerId <;>
      simp [listed, h]
  · have nothing : (pins.filter fun pin => pin.model = id ∧ pin.provider ∈ configured) = [] := by
      refine List.filter_eq_nil_iff.mpr fun pin mem => ?_
      rw [decide_eq_true_eq]
      exact fun both => none pin mem both.1 both.2
    rw [find?_merge, decidingPin_new, nothing]
    rfl

/-- A pin may name a model that its provider does not list; one without a client does not count. -/
example :
    ((Registry.new [.gemini] [⟨"m", .jan, "far"⟩, ⟨"m", .openRouter, "near"⟩]
      [⟨.jan, false⟩, ⟨.gemini, true⟩]).merge
        ⟨[.ofListing .jan ⟨"n", "model", 1, ""⟩], [], [.ofListing .gemini ⟨"n", "model", 2, "g"⟩]⟩)
      = [⟨"m", .jan, "far", "jan", 0⟩, ⟨"n", .gemini, "n", "g", 2⟩] := by
  cbv

end Registry

end InferenceGateway
