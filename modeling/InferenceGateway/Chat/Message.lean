import InferenceGateway.Json.Decode
import InferenceGateway.Json.Printer
import InferenceGateway.Text.Case

/-!
# Chat messages

A message has a role and perhaps a content; all else that a client puts into it is kept, so that
a provider that speaks the same format gets the message as it was sent. A content of null counts
as none.

* `ChatMessage.read`, `ChatMessage.toJson`: from and to JSON.
* `ChatMessage.text`: the content as plain text.
-/

namespace InferenceGateway

/-- A message of a conversation. -/
structure ChatMessage where
  role : String
  content : Option Json := none
  /-- The members without a meaning here. -/
  extra : Json.Members := []
  deriving DecidableEq, Repr

namespace ChatMessage

/-- A message under construction. -/
@[ext]
structure Draft where
  role : Option String := none
  content : Option (Option Json) := none
  extra : Json.Members := []

/-- How a message is read. -/
def shape : Json.Shape Draft ChatMessage where
  name := "struct ChatMessage"
  fields := [("role", false), ("content", true)]
  fromList := false
  empty := {}
  slot d key :=
    if key = "role" then .field d.role (·.readString) fun v => { d with role := some v }
    else if key = "content" then
      .field d.content (·.readOptional (·.take)) fun v => { d with content := some v }
    else .fill fun node =>
      node.take.map fun v => { d with extra := Json.Members.insert key v d.extra }
  finish d := do
    let role ← Json.required "role" d.role
    return { role, content := d.content.join, extra := d.extra }

/-- Reads a message. -/
def read (node : Json.Node) : Except Json.Error ChatMessage :=
  node.readRecord shape

/-- The message as a JSON object. -/
def toJson (m : ChatMessage) : Json :=
  .object (Json.Members.union
    (Json.Members.ofList ([("role", .string m.role)] ++ Json.optional "content" m.content)) m.extra)

/-- Whether the message instructs the model; the case of the role does not matter. -/
def isSystem (m : ChatMessage) : Bool :=
  Text.equalsIgnoringCase m.role "system"

/-- Whether the message is the model's; the case of the role does not matter. -/
def isAssistant (m : ChatMessage) : Bool :=
  Text.equalsIgnoringCase m.role "assistant"

/-- The text of a part of a content, if it has one. -/
def partText? (part : Json) : Option String :=
  (part.member? "text").bind Json.string?

/--
The content as plain text: a text as it stands, the texts of the parts of a list on lines of their
own, and any other value as JSON text.
-/
def text (m : ChatMessage) : String :=
  match m.content with
  | none | some .null => ""
  | some (.string s) => s
  | some (.array parts) => "\n".intercalate (parts.filterMap partText?)
  | some other => other.render

end ChatMessage

end InferenceGateway
