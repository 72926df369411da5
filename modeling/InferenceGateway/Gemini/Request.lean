import InferenceGateway.Chat.Request

/-!
# Requests in Gemini's form

A chat request as the body of a `generateContent` call. Instructions are gathered apart from the
conversation, the other messages keep their order, and the sampling settings that are set go into
one object. The model, the stream flag and unknown members have no place in the body.
-/

namespace InferenceGateway.Gemini

/-- A turn of the conversation. -/
structure Turn where
  role : String
  text : String
  deriving DecidableEq, Repr

/-- Sampling settings. -/
structure Sampling where
  temperature : Option Double
  topP : Option Double
  maxOutputTokens : Option Int
  stopSequences : Option (List String)
  deriving DecidableEq, Repr

/-- The body of a `generateContent` call. -/
structure Request where
  contents : List Turn
  /-- The texts of the instructions, if there are any. -/
  systemInstruction : Option (List String)
  /-- The settings, if any is set. -/
  sampling : Option Sampling
  deriving DecidableEq, Repr

/-- The turn of a message that is no instruction. -/
def turnOf (m : ChatMessage) : Turn where
  role := if m.isAssistant then "model" else "user"
  text := m.text

/-- A list, unless it is empty. -/
def nonempty? (items : List α) : Option (List α) :=
  if items.isEmpty then none else some items

/-- The settings of a chat request, if any is set. -/
def samplingOf (r : ChatRequest) : Option Sampling :=
  if r.temperature.isSome || r.topP.isSome || r.maxTokens.isSome || r.stop.isSome then
    some {
      temperature := r.temperature
      topP := r.topP
      maxOutputTokens := r.maxTokens
      stopSequences := r.stop.map StopTexts.toList }
  else none

/-- The body for a chat request. -/
def Request.ofChat (r : ChatRequest) : Request where
  contents := (r.messages.filter fun m => !m.isSystem).map turnOf
  systemInstruction := nonempty? ((r.messages.filter ChatMessage.isSystem).map ChatMessage.text)
  sampling := samplingOf r

/-- A text as a part of a content. -/
def partJson (text : String) : Json :=
  Json.ofPairs [("text", .string text)]

/-- A turn as JSON. -/
def Turn.toJson (t : Turn) : Json :=
  Json.ofPairs [("role", .string t.role), ("parts", .array [partJson t.text])]

/-- The settings as JSON; unset ones are left out. -/
def Sampling.toJson (s : Sampling) : Json :=
  Json.ofPairs
    (Json.optional "temperature" (s.temperature.map .float)
      ++ Json.optional "topP" (s.topP.map .float)
      ++ Json.optional "maxOutputTokens" (s.maxOutputTokens.map .integer)
      ++ Json.optional "stopSequences" (s.stopSequences.map Json.ofStrings))

/-- The body as JSON. -/
def Request.toJson (r : Request) : Json :=
  Json.ofPairs
    ([("contents", .array (r.contents.map Turn.toJson))]
      ++ Json.optional "systemInstruction"
        (r.systemInstruction.map fun texts => Json.ofPairs [("parts", .array (texts.map partJson))])
      ++ Json.optional "generationConfig" (r.sampling.map Sampling.toJson))

end InferenceGateway.Gemini
