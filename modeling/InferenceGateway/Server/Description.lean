import InferenceGateway.Json.Basic

/-!
# The description of the routes

The gateway describes its routes, and the shape of what they take and give, in the OpenAPI format.
-/

namespace InferenceGateway.Server

open Json (ofPairs ofStrings)

/-! ## Shapes -/

/-- The shape of a named component. -/
def refTo (name : String) : Json :=
  ofPairs [("$ref", .string ("#/components/schemas/" ++ name))]

/-- A shape of a basic type. -/
def basic (type : String) (more : List (String × Json)) : Json :=
  ofPairs (("type", .string type) :: more)

/-- The shape of a value of a basic type that may be null. -/
def nullable (type : String) (more : List (String × Json)) : Json :=
  ofPairs (("type", ofStrings [type, "null"]) :: more)

/-- Members that say how a number is stored. -/
def format (name : String) : List (String × Json) :=
  [("format", .string name)]

/-- Members with a sentence about a shape. -/
def about (s : String) : List (String × Json) :=
  [("description", .string s)]

/-- The shape of a list of named components. -/
def listOf (name : String) : Json :=
  ofPairs [("type", .string "array"), ("items", refTo name)]

/-- A member of a shape of objects. -/
structure Field where
  name : String
  shape : Json
  required : Bool := true

/-- The shape of objects. -/
def objectShape (fields : List Field) (more : List (String × Json)) : Json :=
  ofPairs
    ([("type", .string "object"),
      ("required", ofStrings ((fields.filter (·.required)).map (·.name))),
      ("properties", ofPairs (fields.map fun f => (f.name, f.shape)))] ++ more)

/-- A required text. -/
def textField (name : String) (more : List (String × Json)) : Field :=
  { name, shape := basic "string" more }

/-- A required whole number. -/
def numberField (name : String) : Field :=
  { name, shape := basic "integer" (format "int64") }

/-- A member of a basic type that may be absent. -/
def optionalField (name type : String) (more : List (String × Json)) : Field :=
  { name, shape := nullable type more, required := false }

/-- A member with any JSON value. -/
def anyField (name : String) : Field :=
  { name, shape := basic "object" [] }

/-- A member with a component. -/
def componentField (name component : String) : Field :=
  { name, shape := refTo component }

/-- A member with a list of components. -/
def listField (name component : String) : Field :=
  { name, shape := listOf component }

/-- The shapes of everything that is taken and given. -/
def schemas : Json :=
  ofPairs
    [("ErrorDetail", objectShape
      [textField "message" [], textField "type" [], optionalField "param" "string" [],
        optionalField "code" "string" []] []),
     ("ErrorResponse", objectShape [componentField "error" "ErrorDetail"] []),
     ("ModelObject", objectShape
      [textField "id" [], textField "object" [], numberField "created", textField "owned_by" [],
        textField "provider" (about "Provider serving this model")]
      (about "A model in the OpenAI `/v1/models` listing")),
     ("ModelListResponse", objectShape [textField "object" [], listField "data" "ModelObject"] []),
     ("ProviderSummaryResponse", objectShape
      [textField "provider" [], textField "name" [],
        { name := "active", shape := basic "boolean" [] },
        { name := "model_count", shape := basic "integer" [("minimum", .integer 0)] },
        optionalField "last_error" "string" [],
        optionalField "checked_at" "string" (format "date-time"),
        optionalField "api_key_hint" "string"
          (about "Masked process-level API key, if one is configured")]
      (about "Status of one upstream provider")),
     ("ProviderListResponse", objectShape
      [textField "object" [], listField "data" "ProviderSummaryResponse"] []),
     ("Message", objectShape
      [textField "role" (about "`system`, `user`, `assistant` or `tool`"), anyField "content"] []),
     ("ChatCompletionRequest", objectShape
      [textField "model" [], listField "messages" "Message",
        optionalField "temperature" "number" (format "double"),
        optionalField "top_p" "number" (format "double"),
        optionalField "max_tokens" "integer" (format "int64"), anyField "stop",
        optionalField "stream" "boolean"
          (about "When true the response is an SSE stream ending with `data: [DONE]`")]
      (about "OpenAI chat completion request; extra fields are forwarded unchanged")),
     ("ChatChoice", objectShape
      [numberField "index", componentField "message" "Message",
        optionalField "finish_reason" "string" []] []),
     ("Usage", objectShape
      [numberField "prompt_tokens", numberField "completion_tokens",
        numberField "total_tokens"] []),
     ("ChatCompletionResponse", objectShape
      [textField "id" [], textField "object" [], numberField "created",
        textField "model" (about "Public model id, as requested"),
        listField "choices" "ChatChoice",
        { name := "usage", required := false
          shape := ofPairs [("oneOf", .array [basic "null" [], refTo "Usage"])] }] []),
     ("HealthResponse", objectShape
      [textField "status" (about "Service status"),
        optionalField "version" "string" (about "Service version (optional)")]
      (about "Health check response"))]

/-! ## Routes -/

/-- The content of a body in the shape of a named component. -/
def contentOf (name : String) : Json :=
  ofPairs [("application/json", ofPairs [("schema", refTo name)])]

/-- What a status means, and the component that comes with it. -/
def reply (status meaning component : String) : String × Json :=
  (status, ofPairs (about meaning ++ [("content", contentOf component)]))

/-- A reply that tells of an error. -/
def errorReply (status meaning : String) : String × Json :=
  reply status meaning "ErrorResponse"

/-- A route with its tag, name, summary and description. -/
def operation (tag name summary description : String) (replies : List (String × Json))
    (more : List (String × Json)) : Json :=
  ofPairs
    ([("tags", ofStrings [tag]), ("operationId", .string name), ("summary", .string summary),
      ("description", .string description), ("responses", ofPairs replies)] ++ more)

/-- The member that asks for a key. -/
def guardedBy : List (String × Json) :=
  [("security", .array [ofPairs [("api_key", .array [])]])]

/-- The routes. -/
def paths : Json :=
  ofPairs
    [("/v1/chat/completions", ofPairs [("post",
      operation "Chat" "chat_completions" "Create chat completion"
        "Routes the request to the provider that serves `model`. With\n`stream: true` the upstream SSE bytes are relayed unchanged."
        [reply "200" "Completion, or an SSE stream when `stream` is true"
            "ChatCompletionResponse",
          errorReply "400" "Invalid request", errorReply "401" "Unauthenticated",
          errorReply "404" "Unknown model", errorReply "501" "Provider cannot stream",
          errorReply "502" "Upstream failure or missing credential",
          errorReply "504" "Upstream timeout"]
        (("requestBody",
          ofPairs [("content", contentOf "ChatCompletionRequest"), ("required", .bool true)])
          :: guardedBy))]),
     ("/v1/models", ofPairs [("get",
      operation "Models" "list_models" "List models"
        "Returns the merged model catalog of every configured provider. Public\nids are unique; on collisions the higher priority provider wins."
        [reply "200" "Aggregated model list" "ModelListResponse",
          errorReply "401" "Unauthenticated"] guardedBy)]),
     ("/v1/models/providers", ofPairs [("get",
      operation "Models" "list_providers" "List providers"
        "Per-provider status from the last registry refresh."
        [reply "200" "Provider summaries" "ProviderListResponse",
          errorReply "401" "Unauthenticated"] guardedBy)]),
     ("/v1/health", ofPairs [("get",
      operation "Health" "health_check" "Health check endpoint"
        "Requires no authentication; meant for load balancers."
        [reply "200" "Service is healthy" "HealthResponse"] [])])]

/-- The whole description. -/
def description : Json :=
  ofPairs
    [("openapi", .string "3.1.0"),
     ("info", ofPairs
      [("title", .string "LLM Gateway API"),
       ("description", .string
        "OpenAI-compatible gateway in front of Jan, OpenRouter and Gemini.\n\n## Authentication\n\nSend a gateway API key as `Authorization: Bearer sk-<key>`."),
       ("contact", ofPairs [("name", .string "support@jan.ai")]),
       ("license", ofPairs [("name", .string "MIT")]),
       ("version", .string "1.0.0")]),
     ("paths", paths),
     ("components", ofPairs
      [("schemas", schemas),
       ("securitySchemes", ofPairs
        [("api_key", ofPairs
          [("type", .string "http"), ("scheme", .string "bearer"),
           ("bearerFormat", .string "sk-...")])])])]

end InferenceGateway.Server
