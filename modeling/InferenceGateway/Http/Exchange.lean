import InferenceGateway.Http.Address
import InferenceGateway.Http.Fault
import InferenceGateway.Json.Basic
import InferenceGateway.Stream.Source

/-!
# Exchanges with providers

A request as it is sent, and what may come of it: no connection, silence, or a reply whose body
arrives piece by piece. Times are milliseconds since the request was sent.

* `Request`: what is sent; `isHeaderValue` says which texts a header can carry.
* `Outcome`: what comes of a request; `Outcome.head` is the reply, if it begins in time.
* `wholeBody`, `partialBody`: the bytes of a body, all of them or those that arrive in time.
* `Peer`: what comes of every request, which may depend on the requests before it.
* `Sending`: an action that sends requests; `Traffic` is what it leaves behind.
-/

namespace InferenceGateway.Http

/-- The methods of requests to providers. -/
inductive Method where
  | get
  | post
  deriving DecidableEq, Repr

/-- A request as it is sent. -/
structure Request where
  method : Method
  address : String
  /-- Names and values behind the address. -/
  query : List (String × String) := []
  headers : List (String × String) := []
  body : Option Json := none

/-- Whether a header can carry a text: no control characters but the tab. -/
def isHeaderValue (s : String) : Bool :=
  s.toList.all fun c => c == '\t' || (0x20 ≤ c.toNat && c.toNat != 0x7F)

/-- A reply. Its body is a script whose delays follow one another. -/
structure Reply where
  status : Nat
  body : List (Stream.Event Fault)
  deriving DecidableEq, Repr

/-- Whether a status is a success. -/
def isSuccess (status : Nat) : Bool :=
  200 ≤ status && status ≤ 299

/-- What comes of a request. -/
inductive Outcome where
  /-- There is no connection. -/
  | refused (after : Nat)
  /-- The reply never begins. -/
  | silent
  | replied (after : Nat) (reply : Reply)
  deriving DecidableEq, Repr

/-- The reply, if it begins within `limit`, and when this is known. -/
def Outcome.head (limit : Nat) : Outcome → Except Fault Reply × Nat
  | refused after => if after ≤ limit then (.error .unreachable, after) else (.error .timedOut, limit)
  | silent => (.error .timedOut, limit)
  | replied after reply => if after ≤ limit then (.ok reply, after) else (.error .timedOut, limit)

/-! ## Bodies -/

/--
The bytes of a body that is read from `now` on and must be complete at `limit`, and when reading
ends.
-/
def wholeBody (limit : Nat) : Nat → List (Stream.Event Fault) → Except Fault (List UInt8) × Nat
  | now, [] => (.ok [], now)
  | now, e :: rest =>
    if limit < now + e.delay then (.error .timedOut, limit)
    else
      match e.occurrence with
      | .never => (.error .timedOut, limit)
      | .failure fault => (.error fault, now + e.delay)
      | .chunk bytes =>
        let (more, stop) := wholeBody limit (now + e.delay) rest
        (more.map (bytes ++ ·), stop)

/--
The bytes of a body that arrive until it ends, breaks off or `limit` comes, and when reading ends.
Nothing more is read once there are `room` bytes.
-/
def partialBody (limit : Nat) : Nat → Nat → List (Stream.Event Fault) → List UInt8 × Nat
  | _, now, [] => ([], now)
  | room, now, e :: rest =>
    if room = 0 then ([], now)
    else if limit < now + e.delay then ([], limit)
    else
      match e.occurrence with
      | .never => ([], limit)
      | .failure _ => ([], now + e.delay)
      | .chunk bytes =>
        let (more, stop) := partialBody limit (room - bytes.length) (now + e.delay) rest
        (bytes ++ more, stop)

/-! ## Peers -/

/-- What comes of a request, given all that were sent before it. -/
abbrev Peer := List Request → Request → Outcome

/-- A network in which nothing can be reached. -/
def unreachablePeer : Peer := fun _ _ => .refused 0

/-- The requests that were sent, and how long all exchanges took together. -/
structure Traffic where
  sent : List Request := []
  elapsed : Nat := 0

/-- Time passes. -/
def Traffic.wait (t : Traffic) (time : Nat) : Traffic :=
  { t with elapsed := t.elapsed + time }

/-- An action that exchanges requests for replies. -/
abbrev Sending (α : Type) := Traffic → α × Traffic

/--
Sends a request. Says which reply begins within `limit`, and when this is known. Nothing is sent to
what is no address.
-/
def send (peer : Peer) (limit : Nat) (r : Request) : Sending (Except Fault Reply × Nat) :=
  fun t =>
    if isAddress r.address then ((peer t.sent r).head limit, { t with sent := t.sent ++ [r] })
    else ((.error .badAddress, 0), t)

end InferenceGateway.Http
