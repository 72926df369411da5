import InferenceGateway.Text.Fields

/-!
# Routes

Which paths and methods are served. A path has to match as a whole, to the letter.
-/

namespace InferenceGateway.Server

/-- The routes that are open only to callers with a key. -/
inductive Guarded where
  | completions
  | models
  | providers
  deriving DecidableEq, Repr

/-- The routes. -/
inductive Route where
  | health
  /-- The description of all routes. -/
  | description
  | guarded (route : Guarded)
  deriving DecidableEq, Repr

/-- The route of a path. -/
def Route.ofPath? (path : String) : Option Route :=
  if path == "/v1/health" then some .health
  else if path == "/api-docs/openapi.json" then some .description
  else if path == "/v1/chat/completions" then some (.guarded .completions)
  else if path == "/v1/models" then some (.guarded .models)
  else if path == "/v1/models/providers" then some (.guarded .providers)
  else none

/-- The methods that a route is served for. What can be read can be asked about with `HEAD`. -/
def Route.methods : Route → List String
  | guarded .completions => ["POST"]
  | _ => ["GET", "HEAD"]

/-- Whether a route is served for a method. -/
def Route.serves (route : Route) (method : String) : Bool :=
  route.methods.contains method

/-- The methods of a route in one text. -/
def Route.allowed (route : Route) : String :=
  Text.join "," route.methods

end InferenceGateway.Server
