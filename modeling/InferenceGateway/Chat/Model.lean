import InferenceGateway.Json.Decode

/-!
# Model listings

The models that a provider publishes, as its listing names them. Members without a meaning here
are dropped.
-/

namespace InferenceGateway

/-- A model in the listing of a provider. -/
structure ModelInfo where
  id : String
  object : String := "model"
  created : Int := 0
  ownedBy : String := ""
  deriving DecidableEq, Repr

namespace ModelInfo

/-- A model under construction. -/
structure Draft where
  id : Option String := none
  object : Option String := none
  created : Option Int := none
  ownedBy : Option String := none

/-- How a model is read. -/
def shape : Json.Shape Draft ModelInfo where
  name := "struct ModelInfo"
  fields := [("id", false), ("object", true), ("created", true), ("owned_by", true)]
  fromList := true
  empty := {}
  slot d key :=
    match key with
    | "id" => .field d.id (·.readString) fun v => { d with id := some v }
    | "object" => .field d.object (·.readString) fun v => { d with object := some v }
    | "created" => .field d.created (·.readInteger) fun v => { d with created := some v }
    | "owned_by" => .field d.ownedBy (·.readString) fun v => { d with ownedBy := some v }
    | _ => .ignore d
  finish d := do
    let id ← Json.required "id" d.id
    return {
      id
      object := d.object.getD "model"
      created := d.created.getD 0
      ownedBy := d.ownedBy.getD "" }

/-- Reads a model. -/
def read (node : Json.Node) : Except Json.Error ModelInfo :=
  node.readRecord shape

/-- The model as a JSON object. -/
def toJson (m : ModelInfo) : Json :=
  Json.ofPairs
    [("id", .string m.id), ("object", .string m.object), ("created", .integer m.created),
     ("owned_by", .string m.ownedBy)]

end ModelInfo

/-- A listing of models. -/
structure ModelListing where
  object : String := ""
  data : List ModelInfo := []
  deriving DecidableEq, Repr

namespace ModelListing

/-- A listing under construction. -/
structure Draft where
  object : Option String := none
  data : Option (List ModelInfo) := none

/-- How a listing is read. -/
def shape : Json.Shape Draft ModelListing where
  name := "struct ModelsResponse"
  fields := [("object", true), ("data", true)]
  fromList := true
  empty := {}
  slot d key :=
    match key with
    | "object" => .field d.object (·.readString) fun v => { d with object := some v }
    | "data" => .field d.data (·.readList ModelInfo.read) fun v => { d with data := some v }
    | _ => .ignore d
  finish d := .ok { object := d.object.getD "", data := d.data.getD [] }

/-- Reads a listing from a text that holds nothing else. -/
def parse (text : List UInt8) : Except Json.Error ModelListing :=
  Json.readText (·.readRecord shape) text

/-- The listing as a JSON object. -/
def toJson (l : ModelListing) : Json :=
  Json.ofPairs
    [("object", .string l.object), ("data", .array (l.data.map ModelInfo.toJson))]

end ModelListing

end InferenceGateway
