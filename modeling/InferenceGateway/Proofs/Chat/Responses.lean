import Mathlib
import InferenceGateway.Chat.Response
import InferenceGateway.Proofs.Json.Records

/-!
# What answers are read as

Each part of an answer is read exactly from the objects that mean it: the fields from their members,
and all else as it is. What is written again is told by the key.

* `AnswerMessage.MeantBy`, `Choice.MeantBy`, `Usage.MeantBy`, `ChatResponse.MeantBy`: what the
  members of an object mean.
* `AnswerMessage.reads`, `Choice.reads`, `Usage.reads`, `ChatResponse.reads`: what is read.
* `MeantBy.find?_field`: what is looked up in each of them when it is written.
-/

namespace InferenceGateway

open Json (Members Reads Given Needed Defaulted)

/-! ## Messages -/

namespace AnswerMessage

/-- The fields of a message. -/
inductive Known where
  | role
  | content

/-- The keys of the fields. -/
def keys : List String := ["role", "content"]

/-- Where a message under construction has what is read of it. -/
def layout : shape.Layout Known where
  field
    | .role =>
      { key := "role", get := Draft.role, put := fun v d => { d with role := some v }
        read := (·.readString), means := fun j s => j = .string s }
    | .content =>
      { key := "content", get := Draft.content, put := fun v d => { d with content := some v }
        read := (·.readOptional (·.readString)), means := Json.Nullable fun j s => j = .string s }
  all := [.role, .content]
  extra := Draft.extra
  keep ms d := { d with extra := ms }
  reads f := by
    cases f
    exacts [Reads.string, Reads.string.nullable]
  slot_other key other d := by
    simp only [shape]
    split <;> first | rfl | simp at other
  ext d e same extra := Draft.ext (same .role) (same .content) extra

/-- The members of an object mean a message. -/
structure MeantBy (m : AnswerMessage) (ms : Members) : Prop where
  ordered : ms.Ascending
  role : Needed (fun j s => j = .string s) (Members.find? "role" ms) m.role
  content : Given (fun j s => j = .string s) (Members.find? "content" ms) m.content
  extra : m.extra = ms.without keys

/-- An object means a message. -/
def Means (j : Json) (m : AnswerMessage) : Prop :=
  ∃ ms, j = .object ms ∧ m.MeantBy ms

/-- What is read of the message of an answer is what its members mean. -/
theorem reads : Reads (·.readRecord shape) Means := by
  refine layout.reads_record.congr fun j m => ?_
  constructor
  · rintro ⟨ms, d, rfl, fills, finished⟩
    obtain ⟨role, found, made⟩ := bind_eq_ok_iff.mp finished
    cases made
    refine ⟨ms, rfl, fills.ordered, ?_, ?_, fills.extra⟩
    · exact Json.needed_iff.mpr ⟨d.role, fills.fields .role, found⟩
    · exact Json.given_iff.mpr ⟨d.content, fills.fields .content, rfl⟩
  · rintro ⟨ms, rfl, meant⟩
    obtain ⟨role, filledRole, found⟩ := Json.needed_iff.mp meant.role
    obtain ⟨content, filledContent, joined⟩ := Json.given_iff.mp meant.content
    refine ⟨ms, { role, content, extra := m.extra }, rfl, ⟨meant.ordered, ?_, meant.extra⟩, ?_⟩
    · rintro (_ | _)
      exacts [filledRole, filledContent]
    · refine bind_eq_ok_iff.mpr ⟨m.role, found, ?_⟩
      simp only [joined]
      rfl

/-- The members of a message that have a field. -/
def knownMembers (m : AnswerMessage) : List (String × Json) :=
  [("role", .string m.role), ("content", Json.ofOption (m.content.map .string))]

/-- The members of a message that is written. -/
def members (m : AnswerMessage) : Members :=
  Members.union (Members.ofList m.knownMembers) m.extra

theorem toJson_eq (m : AnswerMessage) : m.toJson = .object m.members := rfl

/-- What is written under the key of a field. -/
def written (m : AnswerMessage) : Known → Json
  | .role => .string m.role
  | .content => Json.ofOption (m.content.map .string)

theorem keys_knownMembers (m : AnswerMessage) : (m.knownMembers.map Prod.fst).Sublist keys :=
  .refl keys

theorem MeantBy.find?_field {m : AnswerMessage} {ms : Members} (h : m.MeantBy ms) (f : Known) :
    Members.find? (layout.field f).key m.members = some (m.written f) := by
  unfold members
  rw [h.extra]
  refine (layout.find?_field h.ordered m.keys_knownMembers f).trans ?_
  cases f <;> rfl

end AnswerMessage

/-! ## Choices -/

namespace Choice

/-- The fields of a choice. -/
inductive Known where
  | index
  | message
  | finishReason

/-- The keys of the fields. -/
def keys : List String := ["index", "message", "finish_reason"]

/-- Where a choice under construction has what is read of it. -/
def layout : shape.Layout Known where
  field
    | .index =>
      { key := "index", get := Draft.index, put := fun v d => { d with index := some v }
        read := (·.readInteger), means := Json.IsInteger }
    | .message =>
      { key := "message", get := Draft.message, put := fun v d => { d with message := some v }
        read := (·.readRecord AnswerMessage.shape), means := AnswerMessage.Means }
    | .finishReason =>
      { key := "finish_reason", get := Draft.finishReason
        put := fun v d => { d with finishReason := some v }
        read := (·.readOptional (·.readString)), means := Json.Nullable fun j s => j = .string s }
  all := [.index, .message, .finishReason]
  extra := Draft.extra
  keep ms d := { d with extra := ms }
  reads f := by
    cases f
    exacts [Reads.integer, AnswerMessage.reads, Reads.string.nullable]
  slot_other key other d := by
    simp only [shape]
    split <;> first | rfl | simp at other
  ext d e same extra := Draft.ext (same .index) (same .message) (same .finishReason) extra

/-- The members of an object mean a choice. -/
structure MeantBy (c : Choice) (ms : Members) : Prop where
  ordered : ms.Ascending
  index : Needed Json.IsInteger (Members.find? "index" ms) c.index
  message : Needed AnswerMessage.Means (Members.find? "message" ms) c.message
  finishReason : Given (fun j s => j = .string s) (Members.find? "finish_reason" ms) c.finishReason
  extra : c.extra = ms.without keys

/-- An object means a choice. -/
def Means (j : Json) (c : Choice) : Prop :=
  ∃ ms, j = .object ms ∧ c.MeantBy ms

/-- What is read of a choice is what its members mean. -/
theorem reads : Reads (·.readRecord shape) Means := by
  refine layout.reads_record.congr fun j c => ?_
  constructor
  · rintro ⟨ms, d, rfl, fills, finished⟩
    obtain ⟨index, foundIndex, finished⟩ := bind_eq_ok_iff.mp finished
    obtain ⟨message, foundMessage, made⟩ := bind_eq_ok_iff.mp finished
    cases made
    refine ⟨ms, rfl, fills.ordered, ?_, ?_, ?_, fills.extra⟩
    · exact Json.needed_iff.mpr ⟨d.index, fills.fields .index, foundIndex⟩
    · exact Json.needed_iff.mpr ⟨d.message, fills.fields .message, foundMessage⟩
    · exact Json.given_iff.mpr ⟨d.finishReason, fills.fields .finishReason, rfl⟩
  · rintro ⟨ms, rfl, meant⟩
    obtain ⟨index, filledIndex, foundIndex⟩ := Json.needed_iff.mp meant.index
    obtain ⟨message, filledMessage, foundMessage⟩ := Json.needed_iff.mp meant.message
    obtain ⟨finishReason, filledReason, joined⟩ := Json.given_iff.mp meant.finishReason
    refine ⟨ms, { index, message, finishReason, extra := c.extra }, rfl,
      ⟨meant.ordered, ?_, meant.extra⟩, ?_⟩
    · rintro (_ | _)
      exacts [filledIndex, filledMessage, filledReason]
    · refine bind_eq_ok_iff.mpr ⟨c.index, foundIndex, ?_⟩
      refine bind_eq_ok_iff.mpr ⟨c.message, foundMessage, ?_⟩
      simp only [joined]
      rfl

/-- The members of a choice that have a field. -/
def knownMembers (c : Choice) : List (String × Json) :=
  [("index", .integer c.index), ("message", c.message.toJson),
   ("finish_reason", Json.ofOption (c.finishReason.map .string))]

/-- The members of a choice that is written. -/
def members (c : Choice) : Members :=
  Members.union (Members.ofList c.knownMembers) c.extra

theorem toJson_eq (c : Choice) : c.toJson = .object c.members := rfl

/-- What is written under the key of a field. -/
def written (c : Choice) : Known → Json
  | .index => .integer c.index
  | .message => c.message.toJson
  | .finishReason => Json.ofOption (c.finishReason.map .string)

theorem keys_knownMembers (c : Choice) : (c.knownMembers.map Prod.fst).Sublist keys :=
  .refl keys

theorem MeantBy.find?_field {c : Choice} {ms : Members} (h : c.MeantBy ms) (f : Known) :
    Members.find? (layout.field f).key c.members = some (c.written f) := by
  unfold members
  rw [h.extra]
  refine (layout.find?_field h.ordered c.keys_knownMembers f).trans ?_
  cases f <;> rfl

end Choice

/-! ## Token counts -/

namespace Usage

/-- The fields of token counts. -/
inductive Known where
  | promptTokens
  | completionTokens
  | totalTokens

/-- The keys of the fields. -/
def keys : List String := ["prompt_tokens", "completion_tokens", "total_tokens"]

/-- Where token counts under construction have what is read of them. -/
def layout : shape.Layout Known where
  field
    | .promptTokens =>
      { key := "prompt_tokens", get := Draft.promptTokens
        put := fun v d => { d with promptTokens := some v }
        read := (·.readInteger), means := Json.IsInteger }
    | .completionTokens =>
      { key := "completion_tokens", get := Draft.completionTokens
        put := fun v d => { d with completionTokens := some v }
        read := (·.readInteger), means := Json.IsInteger }
    | .totalTokens =>
      { key := "total_tokens", get := Draft.totalTokens
        put := fun v d => { d with totalTokens := some v }
        read := (·.readInteger), means := Json.IsInteger }
  all := [.promptTokens, .completionTokens, .totalTokens]
  extra := Draft.extra
  keep ms d := { d with extra := ms }
  reads f := by
    cases f
    exacts [Reads.integer, Reads.integer, Reads.integer]
  slot_other key other d := by
    simp only [shape]
    split <;> first | rfl | simp at other
  ext d e same extra :=
    Draft.ext (same .promptTokens) (same .completionTokens) (same .totalTokens) extra

/-- The members of an object mean token counts. -/
structure MeantBy (u : Usage) (ms : Members) : Prop where
  ordered : ms.Ascending
  promptTokens : Defaulted Json.IsInteger 0 (Members.find? "prompt_tokens" ms) u.promptTokens
  completionTokens :
    Defaulted Json.IsInteger 0 (Members.find? "completion_tokens" ms) u.completionTokens
  totalTokens : Defaulted Json.IsInteger 0 (Members.find? "total_tokens" ms) u.totalTokens
  extra : u.extra = ms.without keys

/-- An object means token counts. -/
def Means (j : Json) (u : Usage) : Prop :=
  ∃ ms, j = .object ms ∧ u.MeantBy ms

/-- What is read of token counts is what its members mean. -/
theorem reads : Reads (·.readRecord shape) Means := by
  refine layout.reads_record.congr fun j u => ?_
  constructor
  · rintro ⟨ms, d, rfl, fills, finished⟩
    -- all counts have a default, so that nothing has to be there
    cases finished
    refine ⟨ms, rfl, fills.ordered, ?_, ?_, ?_, fills.extra⟩
    · exact Json.defaulted_iff.mpr ⟨d.promptTokens, fills.fields .promptTokens, rfl⟩
    · exact Json.defaulted_iff.mpr ⟨d.completionTokens, fills.fields .completionTokens, rfl⟩
    · exact Json.defaulted_iff.mpr ⟨d.totalTokens, fills.fields .totalTokens, rfl⟩
  · rintro ⟨ms, rfl, meant⟩
    obtain ⟨promptTokens, filledPrompt, promptEq⟩ := Json.defaulted_iff.mp meant.promptTokens
    obtain ⟨completionTokens, filledCompletion, completionEq⟩ :=
      Json.defaulted_iff.mp meant.completionTokens
    obtain ⟨totalTokens, filledTotal, totalEq⟩ := Json.defaulted_iff.mp meant.totalTokens
    refine ⟨ms, { promptTokens, completionTokens, totalTokens, extra := u.extra }, rfl,
      ⟨meant.ordered, ?_, meant.extra⟩, ?_⟩
    · rintro (_ | _)
      exacts [filledPrompt, filledCompletion, filledTotal]
    · simp only [shape, promptEq, completionEq, totalEq]

/-- The members of token counts that have a field. -/
def knownMembers (u : Usage) : List (String × Json) :=
  [("prompt_tokens", .integer u.promptTokens),
   ("completion_tokens", .integer u.completionTokens),
   ("total_tokens", .integer u.totalTokens)]

/-- The members of token counts that are written. -/
def members (u : Usage) : Members :=
  Members.union (Members.ofList u.knownMembers) u.extra

theorem toJson_eq (u : Usage) : u.toJson = .object u.members := rfl

/-- What is written under the key of a field. -/
def written (u : Usage) : Known → Json
  | .promptTokens => .integer u.promptTokens
  | .completionTokens => .integer u.completionTokens
  | .totalTokens => .integer u.totalTokens

theorem keys_knownMembers (u : Usage) : (u.knownMembers.map Prod.fst).Sublist keys :=
  .refl keys

theorem MeantBy.find?_field {u : Usage} {ms : Members} (h : u.MeantBy ms) (f : Known) :
    Members.find? (layout.field f).key u.members = some (u.written f) := by
  unfold members
  rw [h.extra]
  refine (layout.find?_field h.ordered u.keys_knownMembers f).trans ?_
  cases f <;> rfl

end Usage

/-! ## Answers -/

namespace ChatResponse

/-- The fields of an answer. -/
inductive Known where
  | id
  | object
  | created
  | model
  | choices
  | usage

/-- The keys of the fields. -/
def keys : List String := ["id", "object", "created", "model", "choices", "usage"]

/-- Where an answer under construction has what is read of it. -/
def layout : shape.Layout Known where
  field
    | .id =>
      { key := "id", get := Draft.id, put := fun v d => { d with id := some v }
        read := (·.readString), means := fun j s => j = .string s }
    | .object =>
      { key := "object", get := Draft.object, put := fun v d => { d with object := some v }
        read := (·.readString), means := fun j s => j = .string s }
    | .created =>
      { key := "created", get := Draft.created, put := fun v d => { d with created := some v }
        read := (·.readInteger), means := Json.IsInteger }
    | .model =>
      { key := "model", get := Draft.model, put := fun v d => { d with model := some v }
        read := (·.readString), means := fun j s => j = .string s }
    | .choices =>
      { key := "choices", get := Draft.choices, put := fun v d => { d with choices := some v }
        read := (·.readList (·.readRecord Choice.shape)), means := Json.Listed Choice.Means }
    | .usage =>
      { key := "usage", get := Draft.usage, put := fun v d => { d with usage := some v }
        read := (·.readOptional (·.readRecord Usage.shape)), means := Json.Nullable Usage.Means }
  all := [.id, .object, .created, .model, .choices, .usage]
  extra := Draft.extra
  keep ms d := { d with extra := ms }
  reads f := by
    cases f
    exacts [Reads.string, Reads.string, Reads.integer, Reads.string, Choice.reads.list,
      Usage.reads.nullable]
  slot_other key other d := by
    simp only [shape]
    split <;> first | rfl | simp at other
  ext d e same extra := Draft.ext (same .id) (same .object) (same .created) (same .model)
    (same .choices) (same .usage) extra

/-- The members of an object mean an answer. -/
structure MeantBy (r : ChatResponse) (ms : Members) : Prop where
  ordered : ms.Ascending
  id : Needed (fun j s => j = .string s) (Members.find? "id" ms) r.id
  object :
    Defaulted (fun j s => j = .string s) "chat.completion" (Members.find? "object" ms) r.object
  created : Defaulted Json.IsInteger 0 (Members.find? "created" ms) r.created
  model : Needed (fun j s => j = .string s) (Members.find? "model" ms) r.model
  choices : Defaulted (Json.Listed Choice.Means) [] (Members.find? "choices" ms) r.choices
  usage : Given Usage.Means (Members.find? "usage" ms) r.usage
  extra : r.extra = ms.without keys

/-- An object means an answer. -/
def Means (j : Json) (r : ChatResponse) : Prop :=
  ∃ ms, j = .object ms ∧ r.MeantBy ms

/-- What is read of an answer is what its members mean. -/
theorem reads : Reads read Means := by
  refine layout.reads_record.congr fun j r => ?_
  constructor
  · rintro ⟨ms, d, rfl, fills, finished⟩
    obtain ⟨id, foundId, finished⟩ := bind_eq_ok_iff.mp finished
    obtain ⟨model, foundModel, made⟩ := bind_eq_ok_iff.mp finished
    cases made
    refine ⟨ms, rfl, fills.ordered, ?_, ?_, ?_, ?_, ?_, ?_, fills.extra⟩
    · exact Json.needed_iff.mpr ⟨d.id, fills.fields .id, foundId⟩
    · exact Json.defaulted_iff.mpr ⟨d.object, fills.fields .object, rfl⟩
    · exact Json.defaulted_iff.mpr ⟨d.created, fills.fields .created, rfl⟩
    · exact Json.needed_iff.mpr ⟨d.model, fills.fields .model, foundModel⟩
    · exact Json.defaulted_iff.mpr ⟨d.choices, fills.fields .choices, rfl⟩
    · exact Json.given_iff.mpr ⟨d.usage, fills.fields .usage, rfl⟩
  · rintro ⟨ms, rfl, meant⟩
    obtain ⟨id, filledId, foundId⟩ := Json.needed_iff.mp meant.id
    obtain ⟨object, filledObject, objectEq⟩ := Json.defaulted_iff.mp meant.object
    obtain ⟨created, filledCreated, createdEq⟩ := Json.defaulted_iff.mp meant.created
    obtain ⟨model, filledModel, foundModel⟩ := Json.needed_iff.mp meant.model
    obtain ⟨choices, filledChoices, choicesEq⟩ := Json.defaulted_iff.mp meant.choices
    obtain ⟨usage, filledUsage, usageEq⟩ := Json.given_iff.mp meant.usage
    refine ⟨ms, { id, object, created, model, choices, usage, extra := r.extra }, rfl,
      ⟨meant.ordered, ?_, meant.extra⟩, ?_⟩
    · rintro (_ | _)
      exacts [filledId, filledObject, filledCreated, filledModel, filledChoices, filledUsage]
    · refine bind_eq_ok_iff.mpr ⟨r.id, foundId, ?_⟩
      refine bind_eq_ok_iff.mpr ⟨r.model, foundModel, ?_⟩
      simp only [objectEq, createdEq, choicesEq, usageEq]
      rfl

/-- The members of an answer that have a field, absent token counts left out. -/
def knownMembers (r : ChatResponse) : List (String × Json) :=
  [("id", .string r.id), ("object", .string r.object), ("created", .integer r.created),
    ("model", .string r.model), ("choices", .array (r.choices.map Choice.toJson))]
    ++ Json.optional "usage" (r.usage.map Usage.toJson)

/-- The members of an answer that is written. -/
def members (r : ChatResponse) : Members :=
  Members.union (Members.ofList r.knownMembers) r.extra

theorem toJson_eq (r : ChatResponse) : r.toJson = .object r.members := rfl

/-- What is written under the key of a field. -/
def written (r : ChatResponse) : Known → Option Json
  | .id => some (.string r.id)
  | .object => some (.string r.object)
  | .created => some (.integer r.created)
  | .model => some (.string r.model)
  | .choices => some (.array (r.choices.map Choice.toJson))
  | .usage => r.usage.map Usage.toJson

theorem keys_knownMembers (r : ChatResponse) : (r.knownMembers.map Prod.fst).Sublist keys := by
  unfold knownMembers
  rw [List.map_append]
  exact (List.Sublist.refl ["id", "object", "created", "model", "choices"]).append
    (Members.map_fst_optional "usage" _)

theorem MeantBy.find?_field {r : ChatResponse} {ms : Members} (h : r.MeantBy ms) (f : Known) :
    Members.find? (layout.field f).key r.members = r.written f := by
  unfold members
  rw [h.extra]
  refine (layout.find?_field h.ordered r.keys_knownMembers f).trans ?_
  unfold knownMembers
  rw [Members.find?_append, Members.find?_optional]
  cases f <;> simp [Members.find?_cons, layout, written]

end ChatResponse

end InferenceGateway
