import InferenceGateway.Json.Decode

/-!
# Chat completion responses

The answer of a provider, with the members that have no meaning here kept at every level.

* `ChatResponse.read`, `ChatResponse.parse`, `ChatResponse.toJson`: from and to JSON.
-/

namespace InferenceGateway

/-- The message of an answer. -/
structure AnswerMessage where
  role : String
  content : Option String := none
  extra : Json.Members := []
  deriving DecidableEq, Repr

namespace AnswerMessage

/-- A message under construction. -/
@[ext]
structure Draft where
  role : Option String := none
  content : Option (Option String) := none
  extra : Json.Members := []

/-- How the message of an answer is read. -/
def shape : Json.Shape Draft AnswerMessage where
  name := "struct ChatResponseMessage"
  fields := []
  fromList := false
  empty := {}
  slot d key :=
    match key with
    | "role" => .field d.role (·.readString) fun v => { d with role := some v }
    | "content" =>
      .field d.content (·.readOptional (·.readString)) fun v => { d with content := some v }
    | _ => .fill fun node =>
      node.take.map fun v => { d with extra := Json.Members.insert key v d.extra }
  finish d := do
    let role ← Json.required "role" d.role
    return { role, content := d.content.join, extra := d.extra }

/-- The message as a JSON object; a missing content is null. -/
def toJson (m : AnswerMessage) : Json :=
  .object (Json.Members.union
    (Json.Members.ofList
      [("role", .string m.role), ("content", Json.ofOption (m.content.map .string))]) m.extra)

end AnswerMessage

/-- One of the answers to a request. -/
structure Choice where
  index : Int
  message : AnswerMessage
  finishReason : Option String := none
  extra : Json.Members := []
  deriving DecidableEq, Repr

namespace Choice

/-- A choice under construction. -/
@[ext]
structure Draft where
  index : Option Int := none
  message : Option AnswerMessage := none
  finishReason : Option (Option String) := none
  extra : Json.Members := []

/-- How a choice is read. -/
def shape : Json.Shape Draft Choice where
  name := "struct ChatChoice"
  fields := []
  fromList := false
  empty := {}
  slot d key :=
    match key with
    | "index" => .field d.index (·.readInteger) fun v => { d with index := some v }
    | "message" =>
      .field d.message (·.readRecord AnswerMessage.shape) fun v => { d with message := some v }
    | "finish_reason" =>
      .field d.finishReason (·.readOptional (·.readString)) fun v =>
        { d with finishReason := some v }
    | _ => .fill fun node =>
      node.take.map fun v => { d with extra := Json.Members.insert key v d.extra }
  finish d := do
    let index ← Json.required "index" d.index
    let message ← Json.required "message" d.message
    return { index, message, finishReason := d.finishReason.join, extra := d.extra }

/-- The choice as a JSON object; a missing finish reason is null. -/
def toJson (c : Choice) : Json :=
  .object (Json.Members.union
    (Json.Members.ofList
      [("index", .integer c.index), ("message", c.message.toJson),
       ("finish_reason", Json.ofOption (c.finishReason.map .string))]) c.extra)

end Choice

/-- The numbers of tokens that a completion took. -/
structure Usage where
  promptTokens : Int := 0
  completionTokens : Int := 0
  totalTokens : Int := 0
  extra : Json.Members := []
  deriving DecidableEq, Repr

namespace Usage

/-- Token counts under construction. -/
@[ext]
structure Draft where
  promptTokens : Option Int := none
  completionTokens : Option Int := none
  totalTokens : Option Int := none
  extra : Json.Members := []

/-- How token counts are read; a missing count is zero. -/
def shape : Json.Shape Draft Usage where
  name := "struct Usage"
  fields := []
  fromList := false
  empty := {}
  slot d key :=
    match key with
    | "prompt_tokens" =>
      .field d.promptTokens (·.readInteger) fun v => { d with promptTokens := some v }
    | "completion_tokens" =>
      .field d.completionTokens (·.readInteger) fun v => { d with completionTokens := some v }
    | "total_tokens" =>
      .field d.totalTokens (·.readInteger) fun v => { d with totalTokens := some v }
    | _ => .fill fun node =>
      node.take.map fun v => { d with extra := Json.Members.insert key v d.extra }
  finish d := .ok
    { promptTokens := d.promptTokens.getD 0
      completionTokens := d.completionTokens.getD 0
      totalTokens := d.totalTokens.getD 0
      extra := d.extra }

/-- The counts as a JSON object. -/
def toJson (u : Usage) : Json :=
  .object (Json.Members.union
    (Json.Members.ofList
      [("prompt_tokens", .integer u.promptTokens),
       ("completion_tokens", .integer u.completionTokens),
       ("total_tokens", .integer u.totalTokens)]) u.extra)

end Usage

/-- The answer to a request for a chat completion. -/
structure ChatResponse where
  id : String
  object : String := "chat.completion"
  created : Int := 0
  model : String
  choices : List Choice := []
  usage : Option Usage := none
  extra : Json.Members := []
  deriving DecidableEq, Repr

namespace ChatResponse

/-- An answer under construction. -/
@[ext]
structure Draft where
  id : Option String := none
  object : Option String := none
  created : Option Int := none
  model : Option String := none
  choices : Option (List Choice) := none
  usage : Option (Option Usage) := none
  extra : Json.Members := []

/-- How an answer is read. -/
def shape : Json.Shape Draft ChatResponse where
  name := "struct ChatCompletionResponse"
  fields := []
  fromList := false
  empty := {}
  slot d key :=
    match key with
    | "id" => .field d.id (·.readString) fun v => { d with id := some v }
    | "object" => .field d.object (·.readString) fun v => { d with object := some v }
    | "created" => .field d.created (·.readInteger) fun v => { d with created := some v }
    | "model" => .field d.model (·.readString) fun v => { d with model := some v }
    | "choices" =>
      .field d.choices (·.readList (·.readRecord Choice.shape)) fun v =>
        { d with choices := some v }
    | "usage" =>
      .field d.usage (·.readOptional (·.readRecord Usage.shape)) fun v => { d with usage := some v }
    | _ => .fill fun node =>
      node.take.map fun v => { d with extra := Json.Members.insert key v d.extra }
  finish d := do
    let id ← Json.required "id" d.id
    let model ← Json.required "model" d.model
    return {
      id
      object := d.object.getD "chat.completion"
      created := d.created.getD 0
      model
      choices := d.choices.getD []
      usage := d.usage.join
      extra := d.extra }

/-- Reads an answer. -/
def read (node : Json.Node) : Except Json.Error ChatResponse :=
  node.readRecord shape

/-- Reads an answer from a text that holds nothing else. -/
def parse (text : List UInt8) : Except Json.Error ChatResponse :=
  Json.readText read text

/-- The answer as a JSON object; absent token counts are left out. -/
def toJson (r : ChatResponse) : Json :=
  .object (Json.Members.union
    (Json.Members.ofList
      ([("id", .string r.id), ("object", .string r.object), ("created", .integer r.created),
        ("model", .string r.model), ("choices", .array (r.choices.map Choice.toJson))]
        ++ Json.optional "usage" (r.usage.map Usage.toJson))) r.extra)

end ChatResponse

end InferenceGateway
