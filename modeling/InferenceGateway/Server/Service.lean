import InferenceGateway.Calendar
import InferenceGateway.Dispatch.Call
import InferenceGateway.Dispatch.Summary
import InferenceGateway.Registry.Timing
import InferenceGateway.Server.Bearer
import InferenceGateway.Server.Description
import InferenceGateway.Server.Route
import InferenceGateway.Server.Site

/-!
# Serving clients

The gateway as its clients see it: one request leads to one answer, and perhaps to requests to
providers.

* `State`: what changes while the gateway runs; `refresh` lists the models anew.
* `launch`: the site and the state that settings lead to.
* `complete`: a completion for a caller.
* `handle`: the answer to a request. Guarded routes see no request without a caller.
-/

namespace InferenceGateway.Server

/-- What changes while the gateway runs. -/
structure State where
  snapshot : Snapshot := {}
  /-- The requests to providers so far. -/
  traffic : Http.Traffic := {}
  /-- The last number drawn for an id. -/
  lastId : UInt64 := 0

/-- When a request arrives and when it is answered, in nanoseconds since 1970. -/
structure Times where
  arrival : Nat
  answer : Nat
  deriving DecidableEq, Repr

/-- A time in whole seconds. -/
def inSeconds (nanoseconds : Nat) : Int := (nanoseconds / 1000000000 : Nat)

/-- A time in whole milliseconds. -/
def inMilliseconds (nanoseconds : Nat) : Nat := nanoseconds / 1000000

/-- A time as a date and a time of day, from milliseconds. -/
def dateText (milliseconds : Nat) : String := Calendar.text (milliseconds / 1000 : Nat)

/-! ## Listings -/

/-- Asks providers for their models, each at the same time. -/
def listAll (site : Site) (peer : Http.Peer) :
    List Provider → Http.Sending (List (Provider × ListingAnswer))
  | [], t => ([], t)
  | p :: rest, t =>
    match site.remote? p with
    | none => listAll site peer rest t
    | some c =>
      let key := site.gateway.rules.processDefault p
      let (result, after) := c.models peer key { t with elapsed := 0 }
      let (answers, t) := listAll site peer rest { t with sent := after.sent }
      ((p, { delay := some after.elapsed, result }) :: answers, t)

/-- Lists the models of all providers anew, beginning at a time. -/
def refresh (site : Site) (peer : Http.Peer) (now : Nat) (st : State) :
    Except RegistryError Unit × State :=
  let registry := site.gateway.registry
  let (answers, traffic) := listAll site peer registry.providers st.traffic
  let stop := roundEnd site.listingLimit (inMilliseconds now) (answers.map (·.2))
  let (result, snapshot) := registry.refresh site.listingLimit st.snapshot stop answers
  (result, { st with snapshot, traffic })

/-- The site of settings, and its state once all models were listed, whatever came of that. -/
def launch (s : Config.Settings) (peer : Http.Peer) (now : Nat) :
    Except SetupError (Site × State) := do
  let site ← Site.ofSettings s
  let (_, st) := refresh site peer now {}
  return (site, st)

/-! ## Completions -/

/-- Makes an attempt, and after a pause another one if the first failed in a way that may pass. -/
def twice (attempt : Http.Sending (Except ProviderError α)) :
    Http.Sending (Except GatewayError α) :=
  fun t =>
    match attempt t with
    | (.ok a, t) => (.ok a, t)
    | (.error e, t) =>
      if e.isRetriable then
        let (second, t) := attempt (t.wait retryPause)
        (second.mapError .ofProvider, t)
      else (.error (.ofProvider e), t)

/-- A completion on its way to the client, with its id. -/
inductive Completion where
  | whole (id : String) (response : ChatResponse)
  | opened (id : String) (p : Provider) (stream : Stream.Idle)

/-- The completion that an accepted request leads to. -/
def completeBy (c : Client.Remote) (peer : Http.Peer) (times : Times) (accepted : Accepted)
    (r : ChatRequest) (st : State) : Except GatewayError Completion × State :=
  let p := accepted.binding.provider
  let number := CompletionId.draw (UInt64.ofNat times.arrival) st.lastId
  let id := CompletionId.text p number
  if r.isStream then
    let (result, traffic) :=
      twice (c.stream peer accepted.key (outgoing .streamed accepted.binding r)) st.traffic
    (result.map (.opened id p), { st with traffic, lastId := number })
  else
    let stamp : Client.Stamp :=
      { number := CompletionId.draw (UInt64.ofNat times.answer) number
        time := inSeconds times.answer }
    let (result, traffic) :=
      twice (c.chat peer stamp accepted.key (outgoing .buffered accepted.binding r)) st.traffic
    let isStamped := match c, result with
      | .gemini _, .ok _ => true
      | _, _ => false
    (result.map fun a => .whole id (a.served accepted.binding),
      { st with traffic, lastId := if isStamped then stamp.number else number })

/-- A completion for a caller. -/
def complete (site : Site) (peer : Http.Peer) (times : Times) (caller : Caller) (r : ChatRequest)
    (st : State) : Except GatewayError Completion × State :=
  match site.gateway.accept st.snapshot caller r with
  | .error e => (.error e, st)
  | .ok accepted =>
    let p := accepted.binding.provider
    match site.remote? p with
    | none => (.error (.providerUnavailable p "provider is not configured"), st)
    | some c => completeBy c peer times accepted r st

/-- The header that carries the id of a completion. -/
def idHeader : String := "x-request-id"

/-- The answer with a completion. -/
def Completion.answer : Completion → Answer
  | whole id response => (Answer.json 200 response.toJson).withHeader idHeader id
  | opened id p stream =>
    { status := 200
      headers := [("content-type", "text/event-stream"), ("cache-control", "no-cache"),
        ("connection", "keep-alive"), (idHeader, id)]
      body := .stream p { inner := stream } }

/-- The greatest number of bytes in the body of a request. -/
def bodyLimit : Nat := 2 * 1024 * 1024

/-- Answers a request for a completion. -/
def answerCompletion (site : Site) (peer : Http.Peer) (times : Times) (caller : Caller)
    (body : List UInt8) (st : State) : Answer × State :=
  if bodyLimit < body.length then
    (.text 413 "Failed to buffer the request body: length limit exceeded", st)
  else
    match ChatRequest.parse body with
    | .error e =>
      (.ofError (.invalidRequest
        ("request body is not a valid chat completion request: " ++ e.message body)), st)
    | .ok r =>
      match complete site peer times caller r st with
      | (.error e, st) => (.ofError e, st)
      | (.ok completion, st) => (completion.answer, st)

/-! ## Requests -/

/-- What the gateway says about its own health. -/
def healthJson : Json :=
  Json.ofPairs [("status", .string "ok"), ("version", .string "0.0.0")]

/-- Answers a caller at a guarded route. -/
def serve (site : Site) (peer : Http.Peer) (times : Times) (route : Guarded) (caller : Caller)
    (r : Request) (st : State) : Answer × State :=
  match route with
  | .completions => answerCompletion site peer times caller r.body st
  | .models => (.json 200 (listingJson (st.snapshot.catalog.map ModelEntry.toJson)), st)
  | .providers =>
    (.json 200 (listingJson
      ((site.gateway.summaries st.snapshot).map (ProviderSummary.toJson dateText))), st)

/-- The answer for a method that a route is not served for. -/
def methodNotAllowed : Answer where
  status := 405

/-- Answers a request at a route, without regard to headers about methods. -/
def answerAt (site : Site) (peer : Http.Peer) (times : Times) (route : Route) (r : Request)
    (st : State) : Answer × State :=
  match route with
  | .health => (if route.serves r.method then .json 200 healthJson else methodNotAllowed, st)
  | .description => (if route.serves r.method then .json 200 description else methodNotAllowed, st)
  | .guarded g =>
    match identify site.authenticator (inSeconds times.arrival) r with
    | .error e => (.ofError e, st)
    | .ok caller =>
      if route.serves r.method then serve site peer times g caller r st else (methodNotAllowed, st)

/--
Answers a request. Whatever the answer to a method that is not served, it says which ones are, and
the answer to `HEAD` has no body.
-/
def handle (site : Site) (peer : Http.Peer) (times : Times) (r : Request) (st : State) :
    Answer × State :=
  match Route.ofPath? r.path with
  | none => ({ status := 404 }, st)
  | some route =>
    let (answer, st) := answerAt site peer times route r st
    let answer :=
      if route.serves r.method then answer else answer.withHeader "allow" route.allowed
    (if r.method == "HEAD" then answer.withoutBody else answer, st)

end InferenceGateway.Server
