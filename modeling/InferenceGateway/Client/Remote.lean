import InferenceGateway.Client.Gemini
import InferenceGateway.Client.OpenAi
import InferenceGateway.CompletionId
import InferenceGateway.Registry.Basic

/-!
# A client of any provider

One interface to all clients. Completions of Gemini have no id and time of their own and get those
of a stamp, which is made when the reply is translated.
-/

namespace InferenceGateway.Client

/-- The number of an id, and a time in seconds. -/
structure Stamp where
  number : UInt64
  time : Int
  deriving DecidableEq, Repr

/-- A client of any provider. -/
inductive Remote where
  | openAi (c : OpenAi)
  | gemini (c : Gemini)
  deriving DecidableEq, Repr

namespace Remote

/-- The provider of a client. -/
def provider : Remote → Provider
  | openAi c => c.provider
  | gemini _ => .gemini

/-- Whether a client is never called without a key. -/
def requiresKey : Remote → Bool
  | openAi c => c.requiresKey
  | gemini _ => true

/-- A client as far as the registry is concerned. -/
def toClient (c : Remote) : InferenceGateway.Client where
  provider := c.provider
  requiresKey := c.requiresKey

/-- A reply of Gemini as a completion under a stamp. -/
def stamped (stamp : Stamp) (model : String) (r : InferenceGateway.Gemini.Reply) : ChatResponse :=
  r.toChat (CompletionId.text .gemini stamp.number) stamp.time model

/-- Asks for a buffered completion. -/
def chat (c : Remote) (peer : Http.Peer) (stamp : Stamp) (key : String) (r : ChatRequest) :
    Http.Sending (Except ProviderError ChatResponse) :=
  match c with
  | openAi c => c.chat peer key r
  | gemini c => fun t =>
    let (result, t) := c.chat peer key r t
    (result.map (stamped stamp r.model), t)

/-- Asks for a streamed completion. -/
def stream (c : Remote) (peer : Http.Peer) (key : String) (r : ChatRequest) :
    Http.Sending (Except ProviderError Stream.Idle) :=
  match c with
  | openAi c => c.stream peer key r
  | gemini _ => fun t => (.error Gemini.noStreams, t)

/-- Asks for the models. -/
def models (c : Remote) (peer : Http.Peer) (key : Option String) :
    Http.Sending (Except ProviderError (List ModelInfo)) :=
  match c with
  | openAi c => c.models peer key
  | gemini c => c.models peer key

end Remote

end InferenceGateway.Client
