import InferenceGateway.Chat.Model
import InferenceGateway.Chat.Request
import InferenceGateway.Chat.Response
import InferenceGateway.Json.Printer
import InferenceGateway.Provider.Error
import InferenceGateway.Text.Blank
import InferenceGateway.Text.Fields

/-!
# A stand-in for a provider

A provider that answers every request from one template, fails as often as it is told to before it
succeeds again, and keeps the calls it has received.
-/

namespace InferenceGateway.Rehearsal

/-- What a stand-in answers. -/
structure Template where
  content : String
  /-- The payloads of a streamed answer. -/
  frames : List String
  deriving DecidableEq, Repr

/-- A word of a streamed answer. -/
def frameOf (word : String) : String :=
  (Json.ofPairs
    [("object", .string "chat.completion.chunk"),
     ("choices", .array
      [Json.ofPairs
        [("index", .integer 0), ("delta", Json.ofPairs [("content", .string word)])]])]).render

/-- A template that streams its content field by field. -/
def Template.ofContent (content : String) : Template where
  content := content
  frames := (Text.fields ' ' content).map frameOf

/-- A call that a stand-in has received. -/
structure ReceivedCall where
  key : String
  request : ChatRequest

/-- A stand-in for a provider. -/
structure StandIn where
  provider : Provider
  listing : Except ProviderError (List ModelInfo)
  template : Template := Template.ofContent "1. 2. 3."
  /-- The errors of the next calls. -/
  failures : List ProviderError := []
  calls : List ReceivedCall := []
  /-- How many buffered answers have been given. -/
  answered : Nat := 0

namespace StandIn

/-- When the models of a stand-in were made, in seconds since 1970. -/
def modelsCreated : Int := 1762544256

/-- The models with the given ids. -/
def modelsOf (p : Provider) (ids : List String) : List ModelInfo :=
  ids.map fun id => { id, object := "model", created := modelsCreated, ownedBy := p.id }

/-- A stand-in that publishes models. -/
def new (p : Provider) (ids : List String) : StandIn where
  provider := p
  listing := .ok (modelsOf p ids)

/-- Whether calls without a key are refused beforehand. -/
def requiresKey (s : StandIn) : Bool :=
  s.provider != .jan

/-- The stand-in after one more call. -/
def received (s : StandIn) (key : String) (request : ChatRequest) : StandIn :=
  { s with calls := s.calls ++ [{ key, request }] }

/-- The number of words of a content. -/
def tokens (content : String) : Int :=
  ((Text.words content).length : Nat)

/-- The buffered answer to a request, at a time in seconds. -/
def answer (s : StandIn) (now : Int) (model : String) : ChatResponse where
  id := "mock-" ++ s.provider.id ++ "-" ++ toString s.answered
  object := "chat.completion"
  created := now
  model := model
  choices :=
    [{ index := 0
       message := { role := "assistant", content := some s.template.content }
       finishReason := some "stop" }]
  usage := some
    { promptTokens := 1
      completionTokens := tokens s.template.content
      totalTokens := 1 + tokens s.template.content }

/-- A call for a buffered answer. -/
def chat (s : StandIn) (now : Int) (key : String) (request : ChatRequest) :
    Except ProviderError ChatResponse × StandIn :=
  let s := s.received key request
  match s.failures with
  | e :: rest => (.error e, { s with failures := rest })
  | [] => (.ok (s.answer now request.model), { s with answered := s.answered + 1 })

/-- A payload as an event of a stream. -/
def eventOf (frame : String) : String :=
  "data: " ++ frame ++ "\n\n"

/-- A call for a streamed answer. -/
def stream (s : StandIn) (key : String) (request : ChatRequest) :
    Except ProviderError (List String) × StandIn :=
  let s := s.received key request
  match s.failures with
  | e :: rest => (.error e, { s with failures := rest })
  | [] => (.ok (s.template.frames.map eventOf ++ [eventOf "[DONE]"]), s)

end StandIn

end InferenceGateway.Rehearsal
