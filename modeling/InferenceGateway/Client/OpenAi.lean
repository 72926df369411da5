import InferenceGateway.Chat.Model
import InferenceGateway.Chat.Request
import InferenceGateway.Chat.Response
import InferenceGateway.Client.Basic

/-!
# Clients of providers with the common format

Jan and OpenRouter speak the format of the gateway's own clients. Requests are sent as they are,
but for the flag that asks for a stream, and the bytes of streamed answers are passed on unread.
-/

namespace InferenceGateway.Client

/-- A client of a provider with the common format. -/
structure OpenAi where
  provider : Provider
  baseUrl : String
  chatPath : String
  modelsPath : String
  requiresKey : Bool
  limits : Limits
  deriving DecidableEq, Repr

namespace OpenAi

/-- Jan has its version in the path, and may be called without a key. -/
def jan (baseUrl : String) (limits : Limits) : OpenAi where
  provider := .jan
  baseUrl := baseUrl
  chatPath := "/v1/chat/completions"
  modelsPath := "/v1/models"
  requiresKey := false
  limits := limits

/-- OpenRouter has its version in the base address. -/
def openRouter (baseUrl : String) (limits : Limits) : OpenAi where
  provider := .openRouter
  baseUrl := baseUrl
  chatPath := "/chat/completions"
  modelsPath := "/models"
  requiresKey := true
  limits := limits

/-- The header that carries a key; none for an empty key. -/
def keyHeader (c : OpenAi) (key : Option String) :
    Except ProviderError (List (String × String)) :=
  match key.filter fun k => !k.isEmpty with
  | none => .ok []
  | some k =>
    if Http.isHeaderValue k then .ok [("authorization", "Bearer " ++ k)]
    else .error (.unsendableKey c.provider "failed to parse header value")

/-- The header that asks for a stream. -/
def streamHeader : Delivery → List (String × String)
  | .buffered => []
  | .streamed => [("accept", "text/event-stream")]

/-- The body of a request: the stream flag says how the answer is wanted. -/
def body (delivery : Delivery) (r : ChatRequest) : Json :=
  { r with stream := some (delivery == Delivery.streamed) }.toJson

/-- A request for a completion. -/
def chatRequest (c : OpenAi) (delivery : Delivery) (key : String) (r : ChatRequest) :
    Except ProviderError Http.Request := do
  let keyHeader ← c.keyHeader (some key)
  return {
    method := .post
    address := baseOf c.baseUrl ++ c.chatPath
    headers := jsonHeader :: streamHeader delivery ++ keyHeader
    body := some (body delivery r) }

/-- A request for the models. -/
def modelsRequest (c : OpenAi) (key : Option String) : Except ProviderError Http.Request := do
  let keyHeader ← c.keyHeader key
  return {
    method := .get
    address := baseOf c.baseUrl ++ c.modelsPath
    headers := jsonHeader :: keyHeader }

/-- A completion read from bytes. -/
def readCompletion (p : Provider) (bytes : List UInt8) : Except ProviderError ChatResponse :=
  (ChatResponse.parse bytes).mapError fun e =>
    .unreadable p ("failed to parse completion: " ++ e.message bytes)

/-- Sends a request that could be made. -/
def sending (request : Except ProviderError Http.Request)
    (send : Http.Request → Http.Sending (Except ProviderError α)) :
    Http.Sending (Except ProviderError α) :=
  match request with
  | .error e => fun t => (.error e, t)
  | .ok r => send r

/-- Asks for a buffered completion. -/
def chat (c : OpenAi) (peer : Http.Peer) (key : String) (r : ChatRequest) :
    Http.Sending (Except ProviderError ChatResponse) :=
  sending (c.chatRequest .buffered key r) fun request =>
    exchange peer c.provider c.limits.request "completion response" request fun began reply =>
      let (bytes, time) := readWhole c.provider c.limits.request "completion body" began reply
      (bytes.bind (readCompletion c.provider), time)

/-- Asks for a streamed completion; the stream opens when its reply begins. -/
def stream (c : OpenAi) (peer : Http.Peer) (key : String) (r : ChatRequest) :
    Http.Sending (Except ProviderError Stream.Idle) :=
  sending (c.chatRequest .streamed key r) fun request =>
    exchange peer c.provider c.limits.streamHeader "stream response headers" request
      fun began reply =>
        let (reply, time) := success c.provider c.limits.streamHeader none began reply
        (reply.map fun r => .start began c.limits.streamIdle { script := r.body }, time)

/-- Asks for the models. -/
def models (c : OpenAi) (peer : Http.Peer) (key : Option String) :
    Http.Sending (Except ProviderError (List ModelInfo)) :=
  sending (c.modelsRequest key) fun request =>
    exchange peer c.provider c.limits.request "model list" request fun began reply =>
      let (listing, time) :=
        readListing c.provider c.limits.request ModelListing.parse began reply
      (listing.map (·.data), time)

end OpenAi

end InferenceGateway.Client
