import InferenceGateway.Http.Exchange
import InferenceGateway.Stream.Idle
import InferenceGateway.Text.Utf8

/-!
# Clients of providers

What all clients share: time limits, and how replies are taken. A reply that is no success becomes
a refusal that carries what arrives of its body within bounds, whatever happens to the rest of it.
-/

namespace InferenceGateway.Client

/-- How long exchanges may take, in milliseconds. -/
structure Limits where
  request : Nat
  streamHeader : Nat
  streamIdle : Nat
  deriving DecidableEq, Repr

/-- The greatest number of bytes of a refusal after which no more is read. -/
def refusalBytes : Nat := 64 * 1024

/--
The reply if it is a success, else a refusal, and when this is known. Reading the body of a refusal
ends `limit` after it began, and no later than `deadline`.
-/
def success (p : Provider) (limit : Nat) (deadline : Option Nat) (began : Nat) (r : Http.Reply) :
    Except ProviderError Http.Reply × Nat :=
  if Http.isSuccess r.status then (.ok r, began)
  else
    let stop := min (began + limit) (deadline.getD (began + limit))
    let (bytes, time) := Http.partialBody stop refusalBytes began r.body
    (.error (.ofRefusal p r.status (Text.decodeLossy bytes)), time)

/-- The header that says what a body is. -/
def jsonHeader : String × String := ("content-type", "application/json")

/-- The base of addresses, without the slashes at its end. -/
def baseOf (address : String) : String := Text.dropEndRun '/' address

/-- The whole body of a reply to a request that may take `limit`, and when it is known. -/
def readWhole (p : Provider) (limit : Nat) (during : String) (began : Nat) (r : Http.Reply) :
    Except ProviderError (List UInt8) × Nat :=
  match success p limit (some limit) began r with
  | (.error e, time) => (.error e, time)
  | (.ok r, _) =>
    let (bytes, time) := Http.wholeBody limit began r.body
    (bytes.mapError (.ofFault p during), time)

/-- The message about a listing that cannot be read. -/
def unreadableListing : String :=
  "failed to parse model list: " ++ Http.Fault.brokenBody.message

/--
A listing read from the body of a reply, and when it is known; all that is wrong with it counts
alike.
-/
def readListing (p : Provider) (limit : Nat) (parse : List UInt8 → Except Json.Error α)
    (began : Nat) (r : Http.Reply) : Except ProviderError α × Nat :=
  match success p limit (some limit) began r with
  | (.error e, time) => (.error e, time)
  | (.ok r, _) =>
    let unreadable := ProviderError.unreadable p unreadableListing
    let (bytes, time) := Http.wholeBody limit began r.body
    ((bytes.mapError fun _ => unreadable).bind fun bytes =>
      (parse bytes).mapError fun _ => unreadable, time)

/--
Sends a request that may take `limit`, and reads what comes of it. `read` also says when it is
done.
-/
def exchange (peer : Http.Peer) (p : Provider) (limit : Nat) (during : String) (r : Http.Request)
    (read : Nat → Http.Reply → Except ProviderError α × Nat) :
    Http.Sending (Except ProviderError α) :=
  fun t =>
    match Http.send peer limit r t with
    | ((.error fault, time), t) => (.error (.ofFault p during fault), t.wait time)
    | ((.ok reply, began), t) =>
      let (result, time) := read began reply
      (result, t.wait time)

end InferenceGateway.Client
