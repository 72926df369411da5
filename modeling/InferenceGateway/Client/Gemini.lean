import InferenceGateway.Client.Basic
import InferenceGateway.Gemini.Models
import InferenceGateway.Gemini.Request
import InferenceGateway.Gemini.Response

/-!
# The client of Gemini

Requests and replies are translated to and from Gemini's form, the key is part of the address, and
there are no streams. Listings come in pages, of which a bounded number is followed.
-/

namespace InferenceGateway.Client

/-- The client of Gemini. -/
structure Gemini where
  baseUrl : String
  limits : Limits
  deriving DecidableEq, Repr

namespace Gemini

/-- The greatest number of pages that are followed in one listing. -/
def pageLimit : Nat := 10

/-- A request for a completion. -/
def chatRequest (c : Gemini) (key : String) (r : ChatRequest) : Http.Request where
  method := .post
  address := baseOf c.baseUrl ++ "/models/"
    ++ Text.withoutStart InferenceGateway.Gemini.resourceName r.model ++ ":generateContent"
  query := [("key", key)]
  headers := [jsonHeader]
  body := some (InferenceGateway.Gemini.Request.ofChat r).toJson

/-- A reply read from bytes. -/
def readReply (bytes : List UInt8) : Except ProviderError InferenceGateway.Gemini.Reply :=
  (InferenceGateway.Gemini.Reply.parse bytes).mapError fun e =>
    .unreadable .gemini ("failed to parse generateContent response: " ++ e.message bytes)

/-- Asks for a buffered completion. -/
def chat (c : Gemini) (peer : Http.Peer) (key : String) (r : ChatRequest) :
    Http.Sending (Except ProviderError InferenceGateway.Gemini.Reply) :=
  exchange peer .gemini c.limits.request "completion response" (c.chatRequest key r)
    fun began reply =>
      let (bytes, time) := readWhole .gemini c.limits.request "completion body" began reply
      (bytes.bind readReply, time)

/-- There are no streamed completions. -/
def noStreams : ProviderError :=
  .unsupported .gemini "streaming chat completions"

/-- There is no listing without a key. -/
def noListingKey : ProviderError :=
  .unsendableKey .gemini "model listing needs an API key"

/-- A request for a page of the models; the first page has no token. -/
def pageRequest (c : Gemini) (key : String) (token : Option String) : Http.Request where
  method := .get
  address := baseOf c.baseUrl ++ "/models"
  query := ("key", key) :: (token.toList.map fun t => ("pageToken", t))

/-- Asks for a page of the models. -/
def page (c : Gemini) (peer : Http.Peer) (key : String) (token : Option String) :
    Http.Sending (Except ProviderError InferenceGateway.Gemini.ModelPage) :=
  exchange peer .gemini c.limits.request "model list" (c.pageRequest key token)
    (readListing .gemini c.limits.request InferenceGateway.Gemini.ModelPage.parse)

/-- Follows at most so many pages from a token on. -/
def pages (c : Gemini) (peer : Http.Peer) (key : String) :
    Nat → Option String → Http.Sending (Except ProviderError (List ModelInfo))
  | 0, _, t => (.ok [], t)
  | left + 1, token, t =>
    match c.page peer key token t with
    | (.error e, t) => (.error e, t)
    | (.ok page, t) =>
      match page.next? with
      | none => (.ok page.models, t)
      | some next =>
        let (rest, t) := pages c peer key left (some next) t
        (rest.map (page.models ++ ·), t)

/-- Asks for the models. -/
def models (c : Gemini) (peer : Http.Peer) (key : Option String) :
    Http.Sending (Except ProviderError (List ModelInfo)) :=
  match key with
  | none => fun t => (.error noListingKey, t)
  | some key => c.pages peer key pageLimit none

end Gemini

end InferenceGateway.Client
