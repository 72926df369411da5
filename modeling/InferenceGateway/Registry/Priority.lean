import InferenceGateway.Provider.Basic
import InferenceGateway.Text.Fields

/-!
# The order of priority

Which provider serves a model that several of them publish. The order is configured as a list of
names; the providers it does not name come last, in their default order, so that every order holds
each provider once.

* `Priority.names`: the names in a configured text.
* `Priority.ofNames`: the order that names mean.
-/

namespace InferenceGateway.Priority

/-- The names between commas, trimmed and in lower case; blank ones are left out. -/
def names (s : String) : List String :=
  ((Text.fields ',' s).map fun field => Text.lowerAscii (Text.trim field)).filter fun name =>
    !name.isEmpty

/-- Puts a provider at the end of an order that does not hold it. -/
def append (order : List Provider) (p : Provider) : List Provider :=
  if p ∈ order then order else order ++ [p]

/-- The order that names mean; else the first name of no provider. -/
def ofNames (names : List String) : Except String (List Provider) := do
  let named ← names.mapM Provider.ofText
  return (named ++ Provider.all).foldl append []

end InferenceGateway.Priority
