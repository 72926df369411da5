import InferenceGateway.Gateway.Error
import InferenceGateway.Json.Printer
import InferenceGateway.Stream.Idle
import InferenceGateway.Stream.Relay
import InferenceGateway.Text.Case
import InferenceGateway.Text.Utf8

/-!
# Requests and answers of clients

What a client sends to the gateway, and the answer that it gets. The body of an answer is known at
once or is a stream that the provider still sends.
-/

namespace InferenceGateway.Server

/-- A request of a client. -/
structure Request where
  method : String
  /-- The path, perhaps with a query behind it. -/
  target : String
  /-- Names and values, in the order in which they were sent. -/
  headers : List (String × List UInt8) := []
  body : List UInt8 := []
  deriving DecidableEq, Repr

/-- The path of a request without its query. -/
def Request.path (r : Request) : String :=
  String.ofList (r.target.toList.takeWhile fun c => c != '?' && c != '#')

/-- The value of the first header with a name. -/
def Request.header? (r : Request) (name : String) : Option (List UInt8) :=
  (r.headers.find? fun h => Text.equalsIgnoringCase h.1 name).map (·.2)

/-- The body of an answer. -/
inductive Body where
  | whole (bytes : List UInt8)
  | stream (p : Provider) (relay : Stream.Relay Stream.Idle)
  deriving DecidableEq, Repr

/-- An answer. -/
structure Answer where
  status : Nat
  headers : List (String × String) := []
  body : Body := .whole []
  deriving DecidableEq, Repr

namespace Answer

/-- An answer with a JSON value. -/
def json (status : Nat) (value : Json) : Answer where
  status := status
  headers := [("content-type", "application/json")]
  body := .whole (Text.bytesOf value.render)

/-- An answer with a text. -/
def text (status : Nat) (s : String) : Answer where
  status := status
  headers := [("content-type", "text/plain; charset=utf-8")]
  body := .whole (Text.bytesOf s)

/-- The answer that tells of an error. -/
def ofError (e : GatewayError) : Answer :=
  json e.status e.envelope

/-- The answer with one more header. -/
def withHeader (a : Answer) (name value : String) : Answer :=
  { a with headers := a.headers ++ [(name, value)] }

/-- The answer without its body. -/
def withoutBody (a : Answer) : Answer :=
  { a with body := .whole [] }

end Answer

end InferenceGateway.Server
