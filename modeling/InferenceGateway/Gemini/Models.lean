import InferenceGateway.Chat.Model
import InferenceGateway.Text.Case

/-!
# Model listings in Gemini's form

A listing comes in pages. Models that say what they can do, and do not name `generateContent`,
are left out; the others lose the resource name before their id.

* `Gemini.ModelPage.parse`: a page from JSON text.
* `Gemini.ModelPage.models`: the models of a page in the common form.
-/

namespace InferenceGateway.Gemini

/-- A model in a page of the listing. -/
structure Model where
  name : String
  methods : List String := []
  deriving DecidableEq, Repr

/-- A page of the listing. -/
structure ModelPage where
  entries : List Model := []
  nextPageToken : Option String := none
  deriving DecidableEq, Repr

/-- A model under construction. -/
structure ModelDraft where
  name : Option String := none
  methods : Option (List String) := none

/-- How a model is read. -/
def modelShape : Json.Shape ModelDraft Model where
  name := "struct GeminiModel"
  fields := [("name", false), ("supportedGenerationMethods", true)]
  fromList := true
  empty := {}
  slot d key :=
    match key with
    | "name" => .field d.name (·.readString) fun v => { d with name := some v }
    | "supportedGenerationMethods" =>
      .field d.methods (·.readList (·.readString)) fun v => { d with methods := some v }
    | _ => .ignore d
  finish d := do
    let name ← Json.required "name" d.name
    return { name, methods := d.methods.getD [] }

/-- A page under construction. -/
structure PageDraft where
  entries : Option (List Model) := none
  nextPageToken : Option (Option String) := none

/-- How a page is read. -/
def pageShape : Json.Shape PageDraft ModelPage where
  name := "struct GeminiModelList"
  fields := [("models", true), ("nextPageToken", true)]
  fromList := true
  empty := {}
  slot d key :=
    match key with
    | "models" =>
      .field d.entries (·.readList (·.readRecord modelShape)) fun v => { d with entries := some v }
    | "nextPageToken" =>
      .field d.nextPageToken (·.readOptional (·.readString)) fun v =>
        { d with nextPageToken := some v }
    | _ => .ignore d
  finish d := .ok { entries := d.entries.getD [], nextPageToken := d.nextPageToken.join }

/-- Reads a page from a text that holds nothing else. -/
def ModelPage.parse (text : List UInt8) : Except Json.Error ModelPage :=
  Json.readText (·.readRecord pageShape) text

/-- The resource name that stands before the id of a model. -/
def resourceName : String := "models/"

/-- Whether a model completes chats, as far as it says. -/
def Model.completes (m : Model) : Bool :=
  m.methods.isEmpty || m.methods.contains "generateContent"

/-- A model in the common form. -/
def Model.toInfo (m : Model) : ModelInfo where
  id := Text.withoutStart resourceName m.name
  object := "model"
  created := 0
  ownedBy := "google"

/-- The models of a page that complete chats, in order. -/
def ModelPage.models (page : ModelPage) : List ModelInfo :=
  (page.entries.filter Model.completes).map Model.toInfo

/-- The token of the next page, if there is one; an empty token is none. -/
def ModelPage.next? (page : ModelPage) : Option String :=
  page.nextPageToken.filter fun t => !t.isEmpty

end InferenceGateway.Gemini
