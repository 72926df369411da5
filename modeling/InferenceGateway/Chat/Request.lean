import InferenceGateway.Chat.Message

/-!
# Chat completion requests

The fields that the gateway acts on have a type of their own; all other members are kept in
`extra` and written back unchanged.

* `ChatRequest.read`, `ChatRequest.parse`, `ChatRequest.toJson`: from and to JSON.
* `ChatRequest.isStream`: whether the answer is asked for as a stream.
* `Delivery`: the two ways in which an answer is given.
-/

namespace InferenceGateway

/-- How an answer is given. -/
inductive Delivery where
  | buffered
  | streamed
  deriving DecidableEq, Repr

/-- Texts at which a completion stops: one, or a list of them. -/
inductive StopTexts where
  | one (s : String)
  | many (texts : List String)
  deriving DecidableEq, Repr

namespace StopTexts

/-- The texts as a list. -/
def toList : StopTexts → List String
  | .one s => [s]
  | .many texts => texts

/-- The texts as they are written. -/
def toJson : StopTexts → Json
  | .one s => .string s
  | .many texts => Json.ofStrings texts

/-- A text, or a list of nothing but texts. -/
def ofJson? : Json → Option StopTexts
  | .string s => some (.one s)
  | .array items => (items.mapM Json.string?).map .many
  | _ => none

/-- Reads stop texts. -/
def read (node : Json.Node) : Except Json.Error StopTexts := do
  match ofJson? (← node.take) with
  | some stop => return stop
  | none => throw (Json.Cause.noVariant "StopSequences").unplaced

end StopTexts

/-- A request for a chat completion. -/
structure ChatRequest where
  model : String := ""
  messages : List ChatMessage := []
  temperature : Option Double := none
  topP : Option Double := none
  maxTokens : Option Int := none
  stop : Option StopTexts := none
  stream : Option Bool := none
  /-- The members without a meaning here. -/
  extra : Json.Members := []
  deriving DecidableEq, Repr

namespace ChatRequest

/-- A request under construction. -/
@[ext]
structure Draft where
  model : Option String := none
  messages : Option (List ChatMessage) := none
  temperature : Option (Option Double) := none
  topP : Option (Option Double) := none
  maxTokens : Option (Option Int) := none
  stop : Option (Option StopTexts) := none
  stream : Option (Option Bool) := none
  extra : Json.Members := []

/-- What the member under a key does. -/
def slot (d : Draft) (key : String) : Json.Slot Draft :=
  match key with
  | "model" => .field d.model (·.readString) fun v => { d with model := some v }
  | "messages" =>
    .field d.messages (·.readList ChatMessage.read) fun v => { d with messages := some v }
  | "temperature" =>
    .field d.temperature (·.readOptional (·.readDouble)) fun v => { d with temperature := some v }
  | "top_p" => .field d.topP (·.readOptional (·.readDouble)) fun v => { d with topP := some v }
  | "max_tokens" =>
    .field d.maxTokens (·.readOptional (·.readInteger)) fun v => { d with maxTokens := some v }
  | "stop" => .field d.stop (·.readOptional StopTexts.read) fun v => { d with stop := some v }
  | "stream" => .field d.stream (·.readOptional (·.readBool)) fun v => { d with stream := some v }
  | _ => .fill fun node =>
    node.take.map fun v => { d with extra := Json.Members.insert key v d.extra }

/-- How a request is read; every field may be missing. -/
def shape : Json.Shape Draft ChatRequest where
  name := "struct ChatCompletionRequest"
  fields := []
  fromList := false
  empty := {}
  slot := slot
  finish d := .ok
    { model := d.model.getD ""
      messages := d.messages.getD []
      temperature := d.temperature.join
      topP := d.topP.join
      maxTokens := d.maxTokens.join
      stop := d.stop.join
      stream := d.stream.join
      extra := d.extra }

/-- Reads a request. -/
def read (node : Json.Node) : Except Json.Error ChatRequest :=
  node.readRecord shape

/-- Reads a request from a text that holds nothing else. -/
def parse (text : List UInt8) : Except Json.Error ChatRequest :=
  Json.readText read text

/-- The members that have a field, those that are absent left out. -/
def knownMembers (r : ChatRequest) : List (String × Json) :=
  [("model", .string r.model), ("messages", .array (r.messages.map ChatMessage.toJson))]
    ++ Json.optional "temperature" (r.temperature.map .float)
    ++ Json.optional "top_p" (r.topP.map .float)
    ++ Json.optional "max_tokens" (r.maxTokens.map .integer)
    ++ Json.optional "stop" (r.stop.map StopTexts.toJson)
    ++ Json.optional "stream" (r.stream.map .bool)

/-- The request as a JSON object. -/
def toJson (r : ChatRequest) : Json :=
  .object (Json.Members.union (Json.Members.ofList r.knownMembers) r.extra)

/-- Whether the answer is asked for as a stream. -/
def isStream (r : ChatRequest) : Bool :=
  r.stream.getD false

end ChatRequest

end InferenceGateway
