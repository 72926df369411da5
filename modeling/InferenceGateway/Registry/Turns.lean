import InferenceGateway.Registry.Basic

/-!
# Rounds that take turns

Any number of refreshes run side by side. Each takes the one lock, reads the snapshot, gathers the
listings of all clients in any order, publishes and releases the lock. While it waits, for the lock
or for listings, it may be dropped. Readers load the snapshot at any time.

* `Turns`: the snapshot, the lock, and how far each refresh has come.
* `Turns.Step`: one step of one refresh or reader; `Turns.Steps` any number of them.
-/

namespace InferenceGateway.Registry

/-- How far a refresh has come. -/
inductive RefreshStage where
  /-- It waits for the lock. -/
  | waiting
  /-- It has the lock. -/
  | locked
  /-- It has read the prior snapshot; `arrived` holds a place for the listing of each client. -/
  | gathering (prior : Snapshot) (arrived : List (Option Listing))
  /-- Its snapshot is published. -/
  | published
  /-- It has released the lock, or was dropped. -/
  | ended

/-- All refreshes and readers. -/
structure Turns where
  current : Snapshot := {}
  /-- All snapshots that were ever current, the latest first. -/
  history : List Snapshot := [{}]
  /-- The refresh that has the lock. -/
  holder : Option Nat := none
  /-- How far each refresh has come that has begun. -/
  refreshes : Nat → Option RefreshStage := fun _ => none
  /-- What each reader has loaded, the latest first. -/
  loaded : Nat → List Snapshot := fun _ => []

namespace Turns

/-- The same with one refresh at another stage. -/
def setStage (t : Turns) (i : Nat) (stage : RefreshStage) : Turns :=
  { t with refreshes := fun j => if j = i then some stage else t.refreshes j }

/-- The same without the lock, if it was held by the refresh. -/
def unlock (t : Turns) (i : Nat) : Turns :=
  { t with holder := if t.holder = some i then none else t.holder }

/-- The same with a new current snapshot. -/
def publish (t : Turns) (s : Snapshot) : Turns :=
  { t with current := s, history := s :: t.history }

/-- The same after a reader has loaded the current snapshot. -/
def load (t : Turns) (reader : Nat) : Turns :=
  { t with loaded := fun j => if j = reader then t.current :: t.loaded j else t.loaded j }

/-- One step. -/
inductive Step (r : Registry) : Turns → Turns → Prop where
  | begin {t i} (h : t.refreshes i = none) : Step r t (t.setStage i .waiting)
  | lock {t i} (h : t.refreshes i = some .waiting) (free : t.holder = none) :
    Step r t ({ t with holder := some i }.setStage i .locked)
  | readPrior {t i} (h : t.refreshes i = some .locked) :
    Step r t (t.setStage i (.gathering t.current (List.replicate r.clients.length none)))
  | arrive {t i prior arrived} (place : Nat) (listing : Listing)
    (h : t.refreshes i = some (.gathering prior arrived)) (absent : arrived[place]? = some none) :
    Step r t (t.setStage i (.gathering prior (arrived.set place (some listing))))
  | publish {t i prior} (now : Nat) (listings : List Listing)
    (h : t.refreshes i = some (.gathering prior (listings.map some))) :
    Step r t ((t.publish (r.next prior now (r.providers.zip listings))).setStage i .published)
  | release {t i} (h : t.refreshes i = some .published) : Step r t ((t.unlock i).setStage i .ended)
  | dropWaiting {t i} (h : t.refreshes i = some .waiting) : Step r t (t.setStage i .ended)
  | dropGathering {t i prior arrived} (h : t.refreshes i = some (.gathering prior arrived)) :
    Step r t ((t.unlock i).setStage i .ended)
  | load {t} (reader : Nat) : Step r t (t.load reader)

/-- Any number of steps. -/
inductive Steps (r : Registry) : Turns → Turns → Prop where
  | refl (t : Turns) : Steps r t t
  | tail {a b c} (h : Steps r a b) (s : Step r b c) : Steps r a c

end Turns

end InferenceGateway.Registry
