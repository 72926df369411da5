import InferenceGateway.Chat.Response

/-!
# Answers in Gemini's form

A `generateContent` answer, and the chat answer made of it. Of all candidates and parts only the
first counts; a missing one gives an empty content.

* `Gemini.Reply.parse`: an answer from JSON text.
* `Gemini.Reply.toChat`: the chat answer.
* `Gemini.finishReason`: the chat format's word for a reason to stop.
-/

namespace InferenceGateway.Gemini

/-- A candidate answer: the texts of its parts, if it has a content, and why it ended. -/
structure Candidate where
  parts : Option (List (Option String)) := none
  finishReason : Option String := none
  deriving DecidableEq, Repr

/-- Token counts. -/
structure Counts where
  prompt : Int := 0
  candidates : Int := 0
  total : Int := 0
  deriving DecidableEq, Repr

/-- An answer. -/
structure Reply where
  candidates : List Candidate := []
  usage : Option Counts := none
  /-- What is said about the prompt: the reason to block it, if there is one. -/
  promptFeedback : Option (Option String) := none
  deriving DecidableEq, Repr

/-! ## Reading -/

/-- How a part of a content is read. -/
def partShape : Json.Shape (Option (Option String)) (Option String) where
  name := "struct GeminiPart"
  fields := [("text", false)]
  fromList := true
  empty := none
  slot d key :=
    match key with
    | "text" => .field d (·.readOptional (·.readString)) some
    | _ => .ignore d
  finish d := .ok d.join

/-- A content under construction. -/
structure ContentDraft where
  role : Option String := none
  parts : Option (List (Option String)) := none

/-- How a content is read; its role does not matter. -/
def contentShape : Json.Shape ContentDraft (List (Option String)) where
  name := "struct GeminiContent"
  fields := [("role", true), ("parts", true)]
  fromList := true
  empty := {}
  slot d key :=
    match key with
    | "role" => .field d.role (·.readString) fun v => { d with role := some v }
    | "parts" =>
      .field d.parts (·.readList (·.readRecord partShape)) fun v => { d with parts := some v }
    | _ => .ignore d
  finish d := .ok (d.parts.getD [])

/-- A candidate under construction. -/
structure CandidateDraft where
  parts : Option (Option (List (Option String))) := none
  finishReason : Option (Option String) := none

/-- How a candidate is read. -/
def candidateShape : Json.Shape CandidateDraft Candidate where
  name := "struct GeminiCandidate"
  fields := [("content", true), ("finishReason", true)]
  fromList := true
  empty := {}
  slot d key :=
    match key with
    | "content" =>
      .field d.parts (·.readOptional (·.readRecord contentShape)) fun v => { d with parts := some v }
    | "finishReason" =>
      .field d.finishReason (·.readOptional (·.readString)) fun v =>
        { d with finishReason := some v }
    | _ => .ignore d
  finish d := .ok { parts := d.parts.join, finishReason := d.finishReason.join }

/-- Token counts under construction. -/
structure CountsDraft where
  prompt : Option Int := none
  candidates : Option Int := none
  total : Option Int := none

/-- How token counts are read; a missing count is zero. -/
def countsShape : Json.Shape CountsDraft Counts where
  name := "struct GeminiUsageMetadata"
  fields := [("promptTokenCount", true), ("candidatesTokenCount", true), ("totalTokenCount", true)]
  fromList := true
  empty := {}
  slot d key :=
    match key with
    | "promptTokenCount" => .field d.prompt (·.readInteger) fun v => { d with prompt := some v }
    | "candidatesTokenCount" =>
      .field d.candidates (·.readInteger) fun v => { d with candidates := some v }
    | "totalTokenCount" => .field d.total (·.readInteger) fun v => { d with total := some v }
    | _ => .ignore d
  finish d := .ok
    { prompt := d.prompt.getD 0, candidates := d.candidates.getD 0, total := d.total.getD 0 }

/-- How feedback on the prompt is read. -/
def feedbackShape : Json.Shape (Option (Option String)) (Option String) where
  name := "struct GeminiPromptFeedback"
  fields := [("blockReason", true)]
  fromList := true
  empty := none
  slot d key :=
    match key with
    | "blockReason" => .field d (·.readOptional (·.readString)) some
    | _ => .ignore d
  finish d := .ok d.join

/-- An answer under construction. -/
structure ReplyDraft where
  candidates : Option (List Candidate) := none
  usage : Option (Option Counts) := none
  promptFeedback : Option (Option (Option String)) := none

/-- How an answer is read. -/
def replyShape : Json.Shape ReplyDraft Reply where
  name := "struct GeminiResponse"
  fields := [("candidates", true), ("usageMetadata", true), ("promptFeedback", true)]
  fromList := true
  empty := {}
  slot d key :=
    match key with
    | "candidates" =>
      .field d.candidates (·.readList (·.readRecord candidateShape)) fun v =>
        { d with candidates := some v }
    | "usageMetadata" =>
      .field d.usage (·.readOptional (·.readRecord countsShape)) fun v => { d with usage := some v }
    | "promptFeedback" =>
      .field d.promptFeedback (·.readOptional (·.readRecord feedbackShape)) fun v =>
        { d with promptFeedback := some v }
    | _ => .ignore d
  finish d := .ok
    { candidates := d.candidates.getD []
      usage := d.usage.join
      promptFeedback := d.promptFeedback.join }

/-- Reads an answer from a text that holds nothing else. -/
def Reply.parse (text : List UInt8) : Except Json.Error Reply :=
  Json.readText (·.readRecord replyShape) text

/-! ## The chat answer -/

/-- The chat format's word for a reason to stop. -/
def finishReason (reason : String) : String :=
  match reason with
  | "MAX_TOKENS" => "length"
  | "SAFETY" | "RECITATION" | "BLOCKLIST" | "PROHIBITED_CONTENT" | "SPII" => "content_filter"
  | _ => "stop"

/-- The text of the first part of a candidate; empty if anything on the way is missing. -/
def Candidate.text (c : Candidate) : String :=
  match c.parts with
  | some (some s :: _) => s
  | _ => ""

/-- Whether a reason to block the prompt is given. -/
def Reply.isBlocked (r : Reply) : Bool :=
  r.promptFeedback.join.isSome

/-- The content and the finish reason of the chat answer. -/
def Reply.answer (r : Reply) : String × String :=
  match r.candidates with
  | c :: _ => (c.text, (c.finishReason.map finishReason).getD "stop")
  | [] => ("", if r.isBlocked then "content_filter" else "stop")

/-- The chat answer, under an id and the time of its creation in seconds. -/
def Reply.toChat (r : Reply) (id : String) (created : Int) (model : String) : ChatResponse where
  id := id
  object := "chat.completion"
  created := created
  model := model
  choices :=
    [{ index := 0
       message := { role := "assistant", content := some r.answer.1 }
       finishReason := some r.answer.2 }]
  usage := r.usage.map fun u =>
    { promptTokens := u.prompt, completionTokens := u.candidates, totalTokens := u.total }

end InferenceGateway.Gemini
