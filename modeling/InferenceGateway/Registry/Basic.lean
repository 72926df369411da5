import InferenceGateway.Registry.Priority
import InferenceGateway.Registry.Snapshot

/-!
# The model registry

Which clients there are, which models they serve, and what a round of listings does.

* `Registry.new`: the clients in order of priority.
* `Registry.merge`: one catalog from all listings. The first provider in order wins a public id;
  pins win over every provider.
* `Registry.next`, `Registry.verdict`: the snapshot and the result of a round.
* `Registry.Reachable`: the snapshots that rounds can lead to.
-/

namespace InferenceGateway

/-- A client of a provider, as far as the registry is concerned. -/
structure Client where
  provider : Provider
  /-- Whether it is never called without a key. -/
  requiresKey : Bool
  deriving DecidableEq, Repr

/-- The clients in order of priority, and the pins. -/
structure Registry where
  clients : List Client
  pins : List ModelPin
  deriving DecidableEq, Repr

/-- What a listing comes to: models, or the text of an error. -/
abbrev Listing := Except String (List ModelInfo)

/-- The place of a provider in an order; providers that it does not hold come last. -/
def Priority.place (order : List Provider) (p : Provider) : Nat :=
  order.findIdx (· == p)

/-- Sorts by the place of a provider; what has the same place keeps its order. -/
def Priority.sort (order : List Provider) (provider : α → Provider) (xs : List α) : List α :=
  xs.mergeSort fun a b => Priority.place order (provider a) ≤ Priority.place order (provider b)

namespace Registry

/-- A registry of clients under an order of priority. -/
def new (order : List Provider) (pins : List ModelPin) (clients : List Client) : Registry where
  clients := Priority.sort order Client.provider clients
  pins := pins

/-- The client of a provider. -/
def client? (r : Registry) (p : Provider) : Option Client :=
  r.clients.find? fun c => c.provider == p

/-- The configured providers in order of priority. -/
def providers (r : Registry) : List Provider :=
  r.clients.map Client.provider

/-! ## Merging -/

/-- The catalog of what providers publish. -/
def listed (r : Registry) (retained : Provider.Table (List ModelEntry)) : Catalog :=
  (r.providers.flatMap retained.get).foldl Catalog.addMissing []

/-- The entry of a pin; what its provider publishes under the same id says whose it is. -/
def pinned (retained : Provider.Table (List ModelEntry)) (pin : ModelPin) : ModelEntry :=
  let published := (retained.get pin.provider).find? fun e => e.providerId == pin.providerId
  { id := pin.model
    provider := pin.provider
    providerId := pin.providerId
    ownedBy := (published.map ModelEntry.ownedBy).getD pin.provider.id
    created := (published.map ModelEntry.created).getD 0 }

/-- The pins whose provider has a client. -/
def activePins (r : Registry) : List ModelPin :=
  r.pins.filter fun pin => (r.client? pin.provider).isSome

/-- The catalog of what providers publish and of the pins; of pins for one model the last counts. -/
def merge (r : Registry) (retained : Provider.Table (List ModelEntry)) : Catalog :=
  r.activePins.foldl (fun c pin => Catalog.insert (pinned retained pin) c) (r.listed retained)

/-! ## Rounds -/

/-- A provider's own entries after a listing; a failed one leaves the earlier entries. -/
def retainedAfter (prior : Snapshot) (p : Provider) : Listing → List ModelEntry
  | .ok models => models.map (ModelEntry.ofListing p)
  | .error _ => prior.retained.get p

/-- How a provider is doing after a listing. -/
def healthAfter (prior : Snapshot) (now : Nat) (p : Provider) (listing : Listing) : Health where
  healthy := match listing with | .ok _ => true | .error _ => false
  lastError := match listing with | .ok _ => none | .error e => some e
  checkedAt := now
  modelCount := (retainedAfter prior p listing).length

/-- The snapshot that a round leads to. -/
def next (r : Registry) (prior : Snapshot) (now : Nat) (listings : List (Provider × Listing)) :
    Snapshot :=
  let retained : Provider.Table (List ModelEntry) :=
    listings.foldl (fun t l => t.set l.1 (retainedAfter prior l.1 l.2)) (.const [])
  { generation := prior.generation + 1
    catalog := r.merge retained
    retained := retained
    health := listings.foldl (fun t l => t.set l.1 (some (healthAfter prior now l.1 l.2)))
      (.const none) }

/-- The failed listings of a round. -/
def failures (listings : List (Provider × Listing)) : List (Provider × String) :=
  listings.filterMap fun l =>
    match l.2 with
    | .ok _ => none
    | .error e => some (l.1, e)

/-- The result of a round: it fails if there are clients and every listing failed. -/
def verdict (r : Registry) (listings : List (Provider × Listing)) : Except RegistryError Unit :=
  if !r.clients.isEmpty && (failures listings).length == r.clients.length then
    .error (.allFailed (failures listings))
  else .ok ()

/-- A listing for each client, in order. -/
def Covers (r : Registry) (listings : List (Provider × Listing)) : Prop :=
  listings.map (·.1) = r.providers

/-- The snapshots that any number of rounds can lead to. -/
inductive Reachable (r : Registry) : Snapshot → Prop where
  | start : Reachable r {}
  | round {s : Snapshot} (now : Nat) (listings : List (Provider × Listing))
    (h : Reachable r s) (covers : r.Covers listings) : Reachable r (r.next s now listings)

end Registry

end InferenceGateway
