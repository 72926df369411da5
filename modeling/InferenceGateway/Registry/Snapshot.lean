import InferenceGateway.Provider.Table
import InferenceGateway.Registry.Catalog

/-!
# Snapshots of the registry

What one round of listings leads to: the catalog that clients see, each provider's own listing,
which a failed round does not take away, and how each provider is doing. A snapshot never changes;
the next round makes a new one.
-/

namespace InferenceGateway

/-- How a provider's last listing went. -/
structure Health where
  healthy : Bool
  lastError : Option String
  /-- When the round of the listing ended, in milliseconds. -/
  checkedAt : Nat
  modelCount : Nat
  deriving DecidableEq, Repr

/-- The state of the registry between two rounds. -/
structure Snapshot where
  /-- How many rounds there have been. -/
  generation : Nat := 0
  catalog : Catalog := []
  /-- Each provider's own entries. -/
  retained : Provider.Table (List ModelEntry) := .const []
  health : Provider.Table (Option Health) := .const none
  deriving DecidableEq, Repr

/-- Where a public id is served from. -/
def Snapshot.resolve (s : Snapshot) (id : String) : Option Binding :=
  (Catalog.find? id s.catalog).map ModelEntry.binding

end InferenceGateway
