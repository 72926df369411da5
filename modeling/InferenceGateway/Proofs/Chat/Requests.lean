import Mathlib
import InferenceGateway.Chat.Request
import InferenceGateway.Proofs.Chat.Messages

/-!
# What requests are read as

* `StopTexts.ofJson?_eq_some_iff`: stop texts are written as they were read, one or a list.
* `ChatRequest.layout`, `ChatRequest.MeantBy`: what the members of an object mean as a request.
* `ChatRequest.reads`: requests are read exactly from the objects that mean them.
* `ChatRequest.find?_field`, `ChatRequest.find?_other`: what is looked up in a request that is
  written.
-/

namespace InferenceGateway

open Json (Members Reads Given Defaulted)

namespace StopTexts

/-- What is read of a request is what its members mean. -/
theorem reads : Reads read fun j s => ofJson? j = some s where
  taken {node s} ok := by
    obtain ⟨j, taken, ok⟩ := bind_eq_ok_iff.mp ok
    refine ⟨j, taken, ?_⟩
    cases found : ofJson? j with
    | none =>
      rw [found] at ok
      cases ok
    | some s' =>
      rw [found] at ok
      cases ok
      rfl
  reads {node j s} _ taken meant := by
    refine bind_eq_ok_iff.mpr ⟨j, taken, ?_⟩
    rw [meant]
    rfl

theorem mapM_string?_eq_some_iff {items : List Json} {texts : List String} :
    items.mapM Json.string? = some texts ↔ items = texts.map .string := by
  induction items generalizing texts with
  | nil => simp [eq_comm]
  | cons item rest ih =>
    simp only [List.mapM_cons, Option.bind_eq_bind, Option.bind_eq_some_iff, Option.pure_def,
      Option.some.injEq, Json.string?_eq_some_iff, ih]
    constructor
    · rintro ⟨s, rfl, others, rfl, rfl⟩
      rfl
    · intro eq
      obtain ⟨s, others, rfl, rfl, rfl⟩ := List.map_eq_cons_iff.mp eq.symm
      exact ⟨s, rfl, others, rfl, rfl⟩

/-- Stop texts are written as they were read: one text stays one text, and a list a list. -/
theorem ofJson?_eq_some_iff {j : Json} {s : StopTexts} : ofJson? j = some s ↔ s.toJson = j := by
  cases j with
  | string text => cases s <;> simp [ofJson?, toJson, Json.ofStrings, eq_comm]
  | array items =>
    simp only [ofJson?, Option.map_eq_some_iff, mapM_string?_eq_some_iff]
    constructor
    · rintro ⟨texts, rfl, rfl⟩
      rfl
    · intro written
      cases s with
      | one text => cases written
      | many texts =>
        cases written
        exact ⟨texts, rfl, rfl⟩
  | _ => cases s <;> simp [ofJson?, toJson, Json.ofStrings]

end StopTexts

namespace ChatRequest

/-- The fields of a request. -/
inductive Known where
  | model
  | messages
  | temperature
  | topP
  | maxTokens
  | stop
  | stream

/-- The keys of the fields. -/
def keys : List String :=
  ["model", "messages", "temperature", "top_p", "max_tokens", "stop", "stream"]

/-- Where a request under construction has what is read of it. -/
def layout : shape.Layout Known where
  field
    | .model =>
      { key := "model", get := Draft.model, put := fun v d => { d with model := some v }
        read := (·.readString), means := fun j s => j = .string s }
    | .messages =>
      { key := "messages", get := Draft.messages, put := fun v d => { d with messages := some v }
        read := (·.readList ChatMessage.read), means := Json.Listed ChatMessage.Means }
    | .temperature =>
      { key := "temperature", get := Draft.temperature
        put := fun v d => { d with temperature := some v }
        read := (·.readOptional (·.readDouble)), means := Json.Nullable Json.IsDouble }
    | .topP =>
      { key := "top_p", get := Draft.topP, put := fun v d => { d with topP := some v }
        read := (·.readOptional (·.readDouble)), means := Json.Nullable Json.IsDouble }
    | .maxTokens =>
      { key := "max_tokens", get := Draft.maxTokens
        put := fun v d => { d with maxTokens := some v }
        read := (·.readOptional (·.readInteger)), means := Json.Nullable Json.IsInteger }
    | .stop =>
      { key := "stop", get := Draft.stop, put := fun v d => { d with stop := some v }
        read := (·.readOptional StopTexts.read)
        means := Json.Nullable fun j s => StopTexts.ofJson? j = some s }
    | .stream =>
      { key := "stream", get := Draft.stream, put := fun v d => { d with stream := some v }
        read := (·.readOptional (·.readBool)), means := Json.Nullable fun j b => j = .bool b }
  all := [.model, .messages, .temperature, .topP, .maxTokens, .stop, .stream]
  extra := Draft.extra
  keep ms d := { d with extra := ms }
  reads f := by
    cases f
    exacts [Reads.string, ChatMessage.reads.list, Reads.double.nullable, Reads.double.nullable,
      Reads.integer.nullable, StopTexts.reads.nullable, Reads.bool.nullable]
  slot_other key other d := by
    show slot d key = _
    unfold slot
    split <;> first | rfl | simp at other
  ext d e same extra := Draft.ext (same .model) (same .messages) (same .temperature) (same .topP)
    (same .maxTokens) (same .stop) (same .stream) extra

/-- The members of an object mean a request. -/
structure MeantBy (r : ChatRequest) (ms : Members) : Prop where
  ordered : ms.Ascending
  model : Defaulted (fun j s => j = .string s) "" (Members.find? "model" ms) r.model
  messages :
    Defaulted (Json.Listed ChatMessage.Means) [] (Members.find? "messages" ms) r.messages
  temperature : Given Json.IsDouble (Members.find? "temperature" ms) r.temperature
  topP : Given Json.IsDouble (Members.find? "top_p" ms) r.topP
  maxTokens : Given Json.IsInteger (Members.find? "max_tokens" ms) r.maxTokens
  stop : Given (fun j s => StopTexts.ofJson? j = some s) (Members.find? "stop" ms) r.stop
  stream : Given (fun j b => j = .bool b) (Members.find? "stream" ms) r.stream
  extra : r.extra = ms.without keys

/-- An object means a request. -/
def Means (j : Json) (r : ChatRequest) : Prop :=
  ∃ ms, j = .object ms ∧ r.MeantBy ms

/-- What is read of a request is what its members mean. -/
theorem reads : Reads read Means := by
  refine layout.reads_record.congr fun j r => ?_
  constructor
  · rintro ⟨ms, d, rfl, fills, finished⟩
    cases finished
    refine ⟨ms, rfl, fills.ordered, ?_, ?_, ?_, ?_, ?_, ?_, ?_, fills.extra⟩
    -- the model and the messages have defaults, all other fields may be missing or null
    · exact Json.defaulted_iff.mpr ⟨d.model, fills.fields .model, rfl⟩
    · exact Json.defaulted_iff.mpr ⟨d.messages, fills.fields .messages, rfl⟩
    · exact Json.given_iff.mpr ⟨d.temperature, fills.fields .temperature, rfl⟩
    · exact Json.given_iff.mpr ⟨d.topP, fills.fields .topP, rfl⟩
    · exact Json.given_iff.mpr ⟨d.maxTokens, fills.fields .maxTokens, rfl⟩
    · exact Json.given_iff.mpr ⟨d.stop, fills.fields .stop, rfl⟩
    · exact Json.given_iff.mpr ⟨d.stream, fills.fields .stream, rfl⟩
  · rintro ⟨ms, rfl, meant⟩
    obtain ⟨model, filledModel, modelEq⟩ := Json.defaulted_iff.mp meant.model
    obtain ⟨messages, filledMessages, messagesEq⟩ := Json.defaulted_iff.mp meant.messages
    obtain ⟨temperature, filledTemperature, temperatureEq⟩ := Json.given_iff.mp meant.temperature
    obtain ⟨topP, filledTopP, topPEq⟩ := Json.given_iff.mp meant.topP
    obtain ⟨maxTokens, filledMaxTokens, maxTokensEq⟩ := Json.given_iff.mp meant.maxTokens
    obtain ⟨stop, filledStop, stopEq⟩ := Json.given_iff.mp meant.stop
    obtain ⟨stream, filledStream, streamEq⟩ := Json.given_iff.mp meant.stream
    refine ⟨ms, { model, messages, temperature, topP, maxTokens, stop, stream, extra := r.extra },
      rfl, ⟨meant.ordered, ?_, meant.extra⟩, ?_⟩
    · rintro (_ | _)
      exacts [filledModel, filledMessages, filledTemperature, filledTopP, filledMaxTokens,
        filledStop, filledStream]
    · simp only [shape, modelEq, messagesEq, temperatureEq, topPEq, maxTokensEq, stopEq, streamEq]

/-! ## Writing -/

/-- The members of a request that is written. -/
def members (r : ChatRequest) : Members :=
  Members.union (Members.ofList r.knownMembers) r.extra

theorem toJson_eq (r : ChatRequest) : r.toJson = .object r.members := rfl

variable {r : ChatRequest} {ms : Members}

theorem keys_knownMembers (r : ChatRequest) : (r.knownMembers.map Prod.fst).Sublist keys := by
  simp only [knownMembers, List.map_append]
  -- Each field that may be missing has its place in the order of the keys.
  have optional := Members.map_fst_optional
  exact (((((List.Sublist.refl ["model", "messages"]).append (optional "temperature" _)).append
    (optional "top_p" _)).append (optional "max_tokens" _)).append (optional "stop" _)).append
    (optional "stream" _)

/-- What is written under the key of a field. -/
def written (r : ChatRequest) : Known → Option Json
  | .model => some (.string r.model)
  | .messages => some (.array (r.messages.map ChatMessage.toJson))
  | .temperature => r.temperature.map .float
  | .topP => r.topP.map .float
  | .maxTokens => r.maxTokens.map .integer
  | .stop => r.stop.map StopTexts.toJson
  | .stream => r.stream.map .bool

theorem find?_knownMembers (r : ChatRequest) (f : Known) :
    Members.find? (layout.field f).key r.knownMembers = r.written f := by
  unfold knownMembers
  simp only [Members.find?_append, Members.find?_cons, Members.find?_optional]
  cases f <;> simp [layout, written]

/-- What is looked up in a request that is written, under the key of a field. -/
theorem find?_field (ordered : ms.Ascending) (extra : r.extra = ms.without keys) (f : Known) :
    Members.find? (layout.field f).key r.members = r.written f := by
  unfold members
  rw [extra]
  exact (layout.find?_field ordered r.keys_knownMembers f).trans (r.find?_knownMembers f)

/-- What is looked up in a request that is written, under another key. -/
theorem find?_other (ordered : ms.Ascending) (extra : r.extra = ms.without keys) {key : String}
    (other : key ∉ keys) : Members.find? key r.members = Members.find? key ms := by
  unfold members
  rw [extra]
  exact layout.find?_other ordered r.keys_knownMembers other

end ChatRequest

end InferenceGateway
