import InferenceGateway.CompletionId
import InferenceGateway.Dispatch.Call
import InferenceGateway.Registry.Timing
import InferenceGateway.Stream.Relay

/-!
# A gateway over scripted providers

Providers that follow scripts, behind the gateway's own registry and dispatch, on a clock that
stands still while anything can be done and then jumps to the next time at which something is due.
Times are milliseconds since the start.

* `Script`: how one provider answers.
* `World`: the gateway, the scripts, and all that is under way.
* `World.runUntil`: lets time pass until a condition holds.
* `World.beginRefresh`, `World.beginCall`, `World.startTask`, `World.shutdown`, `World.nextItem`:
  what can be asked of the gateway.
* `Running.outcome?`: what the client of a call gets.
-/

namespace InferenceGateway.Rehearsal

/-! ## Scripts -/

/-- What a call gets that succeeds. -/
inductive Payload where
  | answer (r : ChatResponse)
  | stream (script : List (Stream.Event ProviderError))

/-- What the client gets of it: an answer has the public id of its model. -/
def Payload.served (b : Binding) : Payload → Payload
  | answer r => answer (r.served b)
  | stream script => stream script

/-- How one provider answers: its listing, and its replies to the next calls. -/
structure Script where
  client : Client
  listing : ListingAnswer
  replies : List (Answer Payload) := []

/-- What a provider without a reply answers. -/
def defaultAnswer (delivery : Delivery) (r : ChatRequest) : Answer Payload where
  result := .ok (match delivery with
    | .buffered => .answer { id := "default", model := r.model }
    | .streamed => .stream [])

/-- A call that a provider has received. -/
inductive ProviderCall where
  | listing (p : Provider) (key : Option String)
  | chat (p : Provider) (delivery : Delivery) (key : String) (request : ChatRequest)

/-! ## The world -/

/-- Who asked for a refresh. -/
inductive Asker where
  | visitor
  | task
  deriving DecidableEq, Repr

/-- A refresh under way. Until it has its turn it has no round. -/
structure Refresh where
  asker : Asker
  /-- When the round ends, and with which listings. -/
  round : Option (Nat × List (Provider × Listing)) := none

/-- The task of periodic refreshes. -/
structure Task where
  interval : Nat
  /-- When the next refresh is due. -/
  due : Nat
  /-- Whether a refresh of the task is under way. -/
  busy : Bool := false

/-- A call for a completion under way. -/
structure Running where
  id : Option String
  requestId : String
  delivery : Delivery
  accepted : Accepted
  /-- The request as the provider gets it. -/
  request : ChatRequest
  begun : Nat
  call : Call Payload

/-- When a call for a completion has ended, and what its client gets. -/
def Running.outcome? (r : Running) : Option (Nat × Except GatewayError Payload) :=
  match r.call with
  | .over time result => some (time, result.map (Payload.served r.accepted.binding))
  | _ => none

/-- A stream that a client reads. -/
abbrev OpenStream := Stream.Relay (Stream.Source ProviderError)

/-- The gateway, the scripts, and all that is under way. -/
structure World where
  gateway : Gateway
  /-- The scripts, in the order of the registry's clients. -/
  scripts : List Script
  /-- The time that a listing may take. -/
  limit : Nat
  snapshot : Snapshot := {}
  now : Nat := 0
  /-- The last number drawn for an id. -/
  lastId : UInt64 := 0
  /-- When the gateway was shut down. -/
  stopped : Option Nat := none
  /-- The calls that providers have received. -/
  log : List ProviderCall := []
  /-- The refreshes under way; the first has its turn. -/
  refreshes : List Refresh := []
  /-- When the last refresh of the visitor ended, and how. -/
  refreshed : Option (Nat × Except RegistryError Unit) := none
  task : Option Task := none
  running : List Running := []
  streams : List (String × OpenStream) := []

namespace World

/-- A world with scripts for the clients of a gateway under an order of priority. -/
def new (order : List Provider) (pins : List ModelPin) (rules : CredentialRules) (limit : Nat)
    (scripts : List Script) : World where
  gateway := { registry := .new order pins (scripts.map Script.client), rules }
  scripts := Priority.sort order (·.client.provider) scripts
  limit := limit

/-! ## Scripts in the world -/

/-- Changes the first element with a property. -/
def modifyFirst (p : α → Bool) (f : α → α) : List α → List α
  | [] => []
  | a :: rest => if p a then f a :: rest else a :: modifyFirst p f rest

/-- Changes the script of a provider. -/
def script (w : World) (p : Provider) (f : Script → Script) : World :=
  { w with scripts := modifyFirst (·.client.provider == p) f w.scripts }

/-- The next reply of a provider, taken from its script. -/
def takeReply (w : World) (p : Provider) (delivery : Delivery) (r : ChatRequest) :
    Answer Payload × World :=
  match (w.scripts.find? fun s => s.client.provider == p).bind fun s => s.replies.head? with
  | some reply => (reply, w.script p fun s => { s with replies := s.replies.drop 1 })
  | none => (defaultAnswer delivery r, w)

/-- Notes a call that a provider receives. -/
def note (w : World) (call : ProviderCall) : World :=
  { w with log := w.log ++ [call] }

/-! ## Refreshes -/

/-- Begins the round of the first refresh, if it has not begun. -/
def beginRound (w : World) : World :=
  match w.refreshes with
  | { asker, round := none } :: rest =>
    let answers := w.scripts.map fun s => (s.client.provider, s.listing)
    let calls := w.gateway.registry.providers.map fun p =>
      ProviderCall.listing p (w.gateway.rules.processDefault p)
    let round := (roundEnd w.limit w.now (answers.map (·.2)), roundListings w.limit answers)
    { w with log := w.log ++ calls, refreshes := { asker, round := some round } :: rest }
  | _ => w

/-- A refresh is asked for; it waits for its turn. -/
def enqueue (w : World) (asker : Asker) : World :=
  beginRound { w with refreshes := w.refreshes ++ [{ asker }] }

/-- The visitor asks for a refresh. -/
def beginRefresh (w : World) : World :=
  enqueue { w with refreshed := none } .visitor

/-- The first refresh publishes its listings, and the next one has its turn. -/
def endRound (w : World) : World :=
  match w.refreshes with
  | { asker, round := some (_, listings) } :: rest =>
    let registry := w.gateway.registry
    let w : World :=
      { w with
        snapshot := registry.next w.snapshot w.now listings
        refreshes := rest }
    let w : World := match asker with
      | .visitor => { w with refreshed := some (w.now, registry.verdict listings) }
      | .task => { w with task := w.task.map fun t => { t with busy := false } }
    w.beginRound
  | _ => w

/-- The task asks for its next refresh. -/
def tick (w : World) : World :=
  match w.task with
  | some t =>
    enqueue { w with task := some { t with due := t.due + t.interval, busy := true } } .task
  | none => w

/-- Ends the task; a refresh of it that is under way is dropped. -/
def endTask (w : World) : World :=
  beginRound
    { w with
      task := none
      refreshes := w.refreshes.filter fun r => r.asker != .task }

/-- Starts the task of periodic refreshes, in place of an earlier one. -/
def startTask (w : World) (interval : Nat) : World :=
  let w := w.endTask
  if interval = 0 then w else { w with task := some { interval, due := w.now + interval } }

/-! ## Calls -/

/-- Nanoseconds of the clock that ids are made from. -/
def clock (w : World) : UInt64 :=
  UInt64.ofNat (w.now * 1000000)

/-- Sends an accepted request to its provider; `state` is where its answer puts the call. -/
def launch (w : World) (id : Option String) (delivery : Delivery) (accepted : Accepted)
    (r : ChatRequest) (state : Answer Payload → Call Payload) : World :=
  let n := CompletionId.draw w.clock w.lastId
  let w : World := { w with lastId := n }
  let p := accepted.binding.provider
  let request := outgoing delivery accepted.binding r
  let (answer, w) := w.takeReply p delivery request
  let w := w.note (.chat p delivery accepted.key request)
  let running : Running :=
    { id, requestId := CompletionId.text p n, delivery, accepted, request, begun := w.now
      call := state answer }
  { w with running := w.running ++ [running] }

/-- Begins a call for a completion, or says why it is refused. -/
def beginCall (w : World) (id : Option String) (delivery : Delivery) (caller : Caller)
    (r : ChatRequest) : Except GatewayError World := do
  let accepted ← w.gateway.accept w.snapshot caller r
  if w.stopped.isSome then throw .canceled
  return w.launch id delivery accepted r (.trying .first w.now)

/--
Begins a call after a shutdown that is noticed only once the first attempt is made. Whether it is
noticed before, as `beginCall` has it, or then is not determined.
-/
def beginLate (w : World) (id : Option String) (delivery : Delivery) (caller : Caller)
    (r : ChatRequest) : Except GatewayError World := do
  let accepted ← w.gateway.accept w.snapshot caller r
  return w.launch id delivery accepted r (.late w.now)

/-- Lets one call under way go on. -/
def stepCall (w : World) (place : Nat) (r : Running) : World :=
  let p := r.accepted.binding.provider
  let put (w : World) (answer : Answer Payload) : World :=
    { w with running := w.running.set place { r with call := r.call.step w.now answer } }
  if r.call.isPausing then
    let (answer, w) := w.takeReply p r.delivery r.request
    put (w.note (.chat p r.delivery r.accepted.key r.request)) answer
  else put w (defaultAnswer r.delivery r.request)

/-- Shuts the gateway down: calls under way are canceled, and there are no more refreshes. -/
def shutdown (w : World) : World :=
  endTask
    { w with
      stopped := some (w.stopped.getD w.now)
      running := w.running.map fun r => { r with call := r.call.cancel w.now } }

/-! ## Time -/

/-- Something that is due. -/
inductive Due where
  | round
  | tick
  | call (place : Nat) (r : Running)

/-- All that is due, each with its time. -/
def agenda (w : World) : List (Nat × Due) :=
  let round := match w.refreshes with
    | { round := some (time, _), .. } :: _ => [(time, Due.round)]
    | _ => []
  let tick := match w.task with
    | some t => if t.busy then [] else [(t.due, Due.tick)]
    | none => []
  let calls := w.running.zipIdx.filterMap fun (r, place) =>
    r.call.wake.map fun time => (time, Due.call place r)
  round ++ tick ++ calls

/-- The first of what is due soonest. -/
def soonest : List (Nat × Due) → Option (Nat × Due)
  | [] => none
  | d :: rest =>
    match soonest rest with
    | some e => if e.1 < d.1 then some e else some d
    | none => some d

/-- Does what is due, at its time. -/
def perform (w : World) (time : Nat) (due : Due) : World :=
  let w : World := { w with now := max w.now time }
  match due with
  | .round => w.endRound
  | .tick => w.tick
  | .call place r => w.stepCall place r

/-- Does what is due, one after the other, until a condition holds or `limit` has come. -/
def runWithin (holds : World → Bool) (limit : Nat) : Nat → World → World
  | 0, w => { w with now := max w.now limit }
  | fuel + 1, w =>
    if holds w then w
    else
      match soonest w.agenda with
      | some (time, due) =>
        if time ≤ limit then runWithin holds limit fuel (w.perform time due)
        else { w with now := max w.now limit }
      | none => { w with now := max w.now limit }

/--
How often something can be due up to a limit: a call goes on at most three times, and a round for
the visitor and those of the task begin and end once, where the task has at most one a millisecond.
-/
def budget (w : World) (limit : Nat) : Nat :=
  let ticks := match w.task with
    | some t => limit + 1 - t.due
    | none => 0
  4 * w.running.length + 2 * w.refreshes.length + 2 * ticks + 4

/-- Lets time pass until a condition holds, at the latest until `limit`. -/
def runUntil (holds : World → Bool) (limit : Nat) (w : World) : World :=
  runWithin holds limit (w.budget limit) w

/-- Lets time pass until `time`. -/
def runTo (time : Nat) (w : World) : World :=
  w.runUntil (fun _ => false) time

/-- The last call under an id. -/
def call? (w : World) (id : Option String) : Option Running :=
  w.running.reverse.find? fun r => r.id == id

/-- The world without the last call under an id. -/
def dropCall (w : World) (id : Option String) : World :=
  { w with running := (w.running.reverse.eraseP fun r => r.id == id).reverse }

/-- Whether the last call under an id is over. -/
def isOver (id : Option String) (w : World) : Bool :=
  match w.call? id with
  | some r =>
    match r.call with
    | .over .. => true
    | _ => false
  | none => false

/-! ## Streams -/

/-- Keeps a stream that a client reads. -/
def keepStream (w : World) (id : String) (script : List (Stream.Event ProviderError)) : World :=
  { w with streams := (id, { inner := { script } }) :: w.streams.filter (·.1 != id) }

/-- Drops a stream; also says whether there was one. -/
def closeStream (w : World) (id : String) : Bool × World :=
  ((List.lookup id w.streams).isSome, { w with streams := w.streams.filter (·.1 != id) })

/-- Waits for the next item of a stream, for a bounded time. -/
def nextItem (w : World) (id : String) (patience : Nat) :
    Option (Stream.Ending ProviderError) × World :=
  match List.lookup id w.streams with
  | none => (none, w)
  | some stream =>
    let ((time, ending), stream) :=
      Stream.await (Stream.Relay.look Stream.Source.look w.stopped) (w.now + patience) w.now stream
    let w := w.runTo time
    (some ending, { w with streams := (id, stream) :: w.streams.filter (·.1 != id) })

end World

end InferenceGateway.Rehearsal
