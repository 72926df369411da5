import Mathlib
import InferenceGateway.Client.Gemini
import InferenceGateway.Proofs.Chat.Requests
import InferenceGateway.Proofs.Text.Names

/-!
# Conversations in Gemini's form

A chat request is split in two: each message that instructs the model becomes a part of the
instruction, each other one a turn of the conversation, and both keep the order of the messages.
The settings that are set go along, and nothing else does.

* `ChatMessage.PlainText`: the text of a content, for every kind of JSON value.
* `Splits`: how messages become parts of the instruction and turns, one message at a time.
* `Sets`: the settings of a request as members of one object.
* `Translates`: all that the body of a call holds.
* `translates_conversation`: this is the body that is sent, and the model, the stream flag and
  unknown members have no part in it.
-/

namespace InferenceGateway

open Json (Members)

/-! ## Texts of contents -/

namespace ChatMessage

/-- A part of a content that has a text: an object with a text under its key. -/
def HasText (part : Json) (s : String) : Prop :=
  ∃ ms, part = .object ms ∧ Members.find? "text" ms = some (.string s)

/-- The texts of the parts that have one, in order. -/
inductive PartTexts : List Json → List String → Prop where
  | nil : PartTexts [] []
  | text {part : Json} {s : String} {parts : List Json} {texts : List String}
    (has : HasText part s) (rest : PartTexts parts texts) :
    PartTexts (part :: parts) (s :: texts)
  | other {part : Json} {parts : List Json} {texts : List String}
    (hasNone : ∀ s, ¬HasText part s) (rest : PartTexts parts texts) :
    PartTexts (part :: parts) texts

/-- The text of a content. -/
inductive PlainText : Option Json → String → Prop where
  | absent : PlainText none ""
  | null : PlainText (some .null) ""
  | text (s : String) : PlainText (some (.string s)) s
  | parts {parts : List Json} {texts : List String} (each : PartTexts parts texts) :
    PlainText (some (.array parts)) ("\n".intercalate texts)
  /-- Any other value stands as JSON text. -/
  | other {j : Json} (notNull : j ≠ .null) (noText : ∀ s, j ≠ .string s)
    (noParts : ∀ parts, j ≠ .array parts) : PlainText (some j) j.render

/-- The text of a part is read just where it has one. -/
theorem partText?_eq_some_iff {part : Json} {s : String} :
    partText? part = some s ↔ HasText part s := by
  unfold partText? HasText
  simp only [Option.bind_eq_some_iff, Json.member?_eq_some_iff, Json.string?_eq_some_iff,
    exists_eq_right]

/-- Parts without a text are left out, and the others keep their order. -/
theorem partTexts_filterMap (parts : List Json) :
    PartTexts parts (parts.filterMap partText?) := by
  induction parts with
  | nil => exact .nil
  | cons part rest ih =>
    rw [List.filterMap_cons]
    cases found : partText? part with
    | some s => exact .text (partText?_eq_some_iff.mp found) ih
    | none =>
      refine .other (fun s has => ?_) ih
      rw [partText?_eq_some_iff.mpr has] at found
      cases found

/-- The text of a message is that of its content. -/
theorem plainText (m : ChatMessage) : PlainText m.content m.text := by
  unfold text
  split
  · next none => exact none ▸ .absent
  · next null => exact null ▸ .null
  · next s text => exact text ▸ .text s
  · next parts list => exact list ▸ .parts (partTexts_filterMap parts)
  · next j notNull noText noParts content =>
    rw [content]
    exact .other notNull noText noParts

theorem isSystem_iff (m : ChatMessage) :
    m.isSystem = true ↔ Text.SameButCase m.role "system" :=
  Text.equalsIgnoringCase_iff

theorem isAssistant_iff (m : ChatMessage) :
    m.isAssistant = true ↔ Text.SameButCase m.role "assistant" :=
  Text.equalsIgnoringCase_iff

end ChatMessage

/-! ## Optional members -/

namespace Json

/-- The members under the keys of those fields that have a value. -/
def present (fields : List (String × Option Json)) : Members :=
  Members.ofList (fields.flatMap fun f => Json.optional f.1 f.2)

variable {fields : List (String × Option Json)}

/-- The members that are there stand under keys of fields, each under its own. -/
theorem map_fst_present (fields : List (String × Option Json)) :
    ((fields.flatMap fun f => Json.optional f.1 f.2).map Prod.fst).Sublist
      (fields.map Prod.fst) := by
  induction fields with
  | nil => exact .slnil
  | cons f rest ih =>
    rw [List.flatMap_cons, List.map_append, List.map_cons]
    exact (Members.map_fst_optional f.1 f.2).append ih

/-- What is present is the value of a field with the key. -/
theorem find?_present_eq_some_iff (once : (fields.map Prod.fst).Nodup) {key : String} {v : Json} :
    Members.find? key (present fields) = some v ↔ (key, some v) ∈ fields := by
  unfold present
  have onceEach := (map_fst_present fields).nodup once
  rw [Members.find?_ofList_of_nodup onceEach, Members.find?_eq_some_iff_of_nodup onceEach,
    List.mem_flatMap]
  constructor
  · rintro ⟨⟨k, value⟩, mem, has⟩
    cases value with
    | none => cases has
    | some v' =>
      cases List.mem_singleton.mp has
      exact mem
  · intro mem
    exact ⟨_, mem, List.mem_singleton_self _⟩

/-- Under the key of a field stands its value, if it has one. -/
theorem find?_present (once : (fields.map Prod.fst).Nodup) {key : String} {value : Option Json}
    (mem : (key, value) ∈ fields) : Members.find? key (present fields) = value := by
  refine Option.ext fun v => ?_
  rw [find?_present_eq_some_iff once]
  constructor
  · intro other
    have same := List.inj_on_of_nodup_map once mem other rfl
    exact congrArg Prod.snd same
  · rintro rfl
    exact mem

/-- Under any other key there is nothing. -/
theorem find?_present_of_not_mem {key : String} (other : key ∉ fields.map Prod.fst) :
    Members.find? key (present fields) = none := by
  unfold present
  rw [Members.find?_ofList, Members.find?_eq_none_iff]
  rintro m mem rfl
  have listed := List.mem_map_of_mem (f := Prod.fst) (List.mem_reverse.mp mem)
  exact other ((map_fst_present fields).subset listed)

end Json

namespace Gemini

/-! ## The conversation -/

/-- A part with a text, and nothing else. -/
def textPart (s : String) : Json :=
  .object [("text", .string s)]

/-- A turn of one part. -/
def turnObject (role s : String) : Json :=
  .object [("parts", .array [textPart s]), ("role", .string role)]

/-- Who speaks in the turn of a message: the model, or its user. -/
inductive Speaks (m : ChatMessage) : String → Prop where
  | model (assistant : Text.SameButCase m.role "assistant") : Speaks m "model"
  | user (other : ¬Text.SameButCase m.role "assistant") : Speaks m "user"

/-- The parts of the instruction and the turns that messages are split into. -/
inductive Splits : List ChatMessage → List Json → List Json → Prop where
  | nil : Splits [] [] []
  | instruction {m : ChatMessage} {s : String} {messages : List ChatMessage}
    {parts turns : List Json} (system : Text.SameButCase m.role "system")
    (text : ChatMessage.PlainText m.content s) (rest : Splits messages parts turns) :
    Splits (m :: messages) (textPart s :: parts) turns
  | turn {m : ChatMessage} {role s : String} {messages : List ChatMessage}
    {parts turns : List Json} (other : ¬Text.SameButCase m.role "system") (speaks : Speaks m role)
    (text : ChatMessage.PlainText m.content s) (rest : Splits messages parts turns) :
    Splits (m :: messages) parts (turnObject role s :: turns)

/-- The assistant speaks as the model, and all others as its user, whatever their roles. -/
theorem speaks_turnOf (m : ChatMessage) : Speaks m (turnOf m).role := by
  unfold turnOf
  dsimp only
  split
  · next assistant => exact .model (m.isAssistant_iff.mp assistant)
  · next other => exact .user fun assistant => other (m.isAssistant_iff.mpr assistant)

theorem partJson_eq (s : String) : partJson s = textPart s := rfl

theorem toJson_turn (t : Turn) : t.toJson = turnObject t.role t.text := by
  have before : "parts" < "role" := by decide
  simp [Turn.toJson, turnObject, partJson_eq, Json.ofPairs, Members.ofList, Members.insert, before]

/-- Messages are split one at a time, each by its role. -/
theorem splits_messages (messages : List ChatMessage) :
    Splits messages
      ((messages.filter ChatMessage.isSystem).map fun m => partJson m.text)
      ((messages.filter fun m => !m.isSystem).map fun m => (turnOf m).toJson) := by
  induction messages with
  | nil => exact .nil
  | cons m rest ih =>
    -- two filters take the messages apart: each message passes one of them
    cases system : m.isSystem with
    | true =>
      simp only [List.filter_cons, system, Bool.not_true, Bool.false_eq_true, if_true, if_false,
        List.map_cons]
      exact .instruction (m.isSystem_iff.mp system) m.plainText ih
    | false =>
      have other : ¬m.isSystem = true := by simp [system]
      simp only [List.filter_cons, system, Bool.not_false, Bool.false_eq_true, if_true, if_false,
        List.map_cons, toJson_turn] at ih ⊢
      exact .turn (fun same => other (m.isSystem_iff.mpr same)) (speaks_turnOf m) m.plainText ih

/-! ## The settings -/

/-- The stop texts as a list, whether they were one text or a list. -/
def stopList : StopTexts → List Json
  | .one s => [.string s]
  | .many texts => texts.map .string

/-- The keys of the settings. -/
def settingKeys : List String :=
  ["temperature", "topP", "maxOutputTokens", "stopSequences"]

/-- The settings that a request sets, as members of one object. -/
structure Sets (r : ChatRequest) (settings : Members) : Prop where
  temperature : Members.find? "temperature" settings = r.temperature.map .float
  topP : Members.find? "topP" settings = r.topP.map .float
  maxTokens : Members.find? "maxOutputTokens" settings = r.maxTokens.map .integer
  stop : Members.find? "stopSequences" settings = r.stop.map fun stop => .array (stopList stop)
  /-- There is nothing else. -/
  others : ∀ key ∉ settingKeys, Members.find? key settings = none

/-- A request that sets nothing. -/
def SetsNothing (r : ChatRequest) : Prop :=
  r.temperature = none ∧ r.topP = none ∧ r.maxTokens = none ∧ r.stop = none

/-! ## The body -/

/-- The instruction of some parts, unless there is none. -/
def instruction : List Json → Option Json
  | [] => none
  | part :: parts => some (.object [("parts", .array (part :: parts))])

/-- The keys of the body of a call. -/
def bodyKeys : List String :=
  ["contents", "systemInstruction", "generationConfig"]

/-- What the body of a call holds for a chat request. -/
structure Translates (r : ChatRequest) (body : Members) : Prop where
  ordered : body.Ascending
  split : ∃ parts turns, Splits r.messages parts turns
    ∧ Members.find? "contents" body = some (.array turns)
    ∧ Members.find? "systemInstruction" body = instruction parts
  unset : SetsNothing r → Members.find? "generationConfig" body = none
  set : ¬SetsNothing r →
    ∃ settings, Members.find? "generationConfig" body = some (.object settings) ∧ Sets r settings
  /-- There is nothing else. -/
  others : ∀ key ∉ bodyKeys, Members.find? key body = none

/-- Two requests that differ at most in the model, the stream flag and unknown members. -/
structure SayTheSame (r r' : ChatRequest) : Prop where
  messages : List.Forall₂ (fun m m' => m.role = m'.role ∧ m.content = m'.content)
    r.messages r'.messages
  temperature : r.temperature = r'.temperature
  topP : r.topP = r'.topP
  maxTokens : r.maxTokens = r'.maxTokens
  stop : r.stop = r'.stop

/-! ## What is sent -/

theorem stopList_toList (stop : StopTexts) :
    Json.ofStrings stop.toList = .array (stopList stop) := by
  cases stop <;> rfl

/-- The settings of a request as fields. -/
def settingFields (r : ChatRequest) : List (String × Option Json) :=
  [("temperature", r.temperature.map .float), ("topP", r.topP.map .float),
   ("maxOutputTokens", r.maxTokens.map .integer),
   ("stopSequences", r.stop.map fun stop => .array (stopList stop))]

/-- The settings of a request that sets any hold what it sets. -/
theorem sets_sampling {r : ChatRequest} {s : Sampling} (set : samplingOf r = some s) :
    ∃ settings, s.toJson = .object settings ∧ Sets r settings := by
  obtain ⟨-, rfl⟩ : _ ∧ _ = s := by simpa [samplingOf] using set
  have once : ((settingFields r).map Prod.fst).Nodup := (by decide : settingKeys.Nodup)
  have written : ∀ key value, (key, value) ∈ settingFields r →
      Members.find? key (Json.present (settingFields r)) = value :=
    fun _ _ => Json.find?_present once
  refine ⟨Json.present (settingFields r), ?_, ?_⟩
  · simp [Sampling.toJson, Json.ofPairs, Json.present, settingFields, Function.comp_def,
      stopList_toList]
  · constructor
    case temperature => exact written _ _ (by simp [settingFields])
    case topP => exact written _ _ (by simp [settingFields])
    case maxTokens => exact written _ _ (by simp [settingFields])
    case stop => exact written _ _ (by simp [settingFields])
    case others => exact fun key other => Json.find?_present_of_not_mem other

theorem samplingOf_eq_none_iff {r : ChatRequest} : samplingOf r = none ↔ SetsNothing r := by
  simp [samplingOf, SetsNothing, and_assoc]

/-- There is an instruction just if a message gives one. -/
theorem instruction_map (messages : List ChatMessage) :
    (nonempty? (messages.map ChatMessage.text)).map
        (fun texts => Json.ofPairs [("parts", .array (texts.map partJson))])
      = instruction (messages.map fun m => partJson m.text) := by
  cases messages with
  | nil => rfl
  | cons m rest => simp [nonempty?, instruction, Json.ofPairs, Members.ofList, Members.insert]

/-- The body for a chat request as fields, from its two parts. -/
def bodyFields (r : ChatRequest) (parts turns : List Json) : List (String × Option Json) :=
  [("contents", some (.array turns)), ("systemInstruction", instruction parts),
   ("generationConfig", (samplingOf r).map Sampling.toJson)]

/-- The two parts of a chat request make up its body. -/
theorem exists_toJson_ofChat (r : ChatRequest) :
    ∃ parts turns, Splits r.messages parts turns
      ∧ (Request.ofChat r).toJson = .object (Json.present (bodyFields r parts turns)) := by
  refine ⟨_, _, splits_messages r.messages, ?_⟩
  have written := instruction_map (r.messages.filter ChatMessage.isSystem)
  unfold Request.toJson Request.ofChat
  dsimp only
  rw [written]
  simp [Json.ofPairs, Json.present, bodyFields, Json.optional, Function.comp_def]

/-- The body for a chat request holds what the request says. -/
theorem translates_ofChat (r : ChatRequest) :
    ∃ body, (Request.ofChat r).toJson = .object body ∧ Translates r body := by
  obtain ⟨parts, turns, split, eq⟩ := exists_toJson_ofChat r
  have once : ((bodyFields r parts turns).map Prod.fst).Nodup := (by decide : bodyKeys.Nodup)
  -- no two fields have one key, so that each is found as it was written
  have written : ∀ key value, (key, value) ∈ bodyFields r parts turns →
      Members.find? key (Json.present (bodyFields r parts turns)) = value :=
    fun _ _ => Json.find?_present once
  have settings : Members.find? "generationConfig" (Json.present (bodyFields r parts turns))
      = (samplingOf r).map Sampling.toJson := written _ _ (by simp [bodyFields])
  refine ⟨_, eq, ?_⟩
  constructor
  case ordered => exact Members.ascending_ofList _
  case split =>
    refine ⟨parts, turns, split, ?_, ?_⟩
    · exact written _ _ (by simp [bodyFields])
    · exact written _ _ (by simp [bodyFields])
  case unset =>
    intro nothing
    rw [settings, samplingOf_eq_none_iff.mpr nothing]
    rfl
  case set =>
    intro something
    cases sampled : samplingOf r with
    | none => exact absurd (samplingOf_eq_none_iff.mp sampled) something
    | some s =>
      obtain ⟨members, object, sets⟩ := sets_sampling sampled
      refine ⟨members, ?_, sets⟩
      rw [settings, sampled, ← object]
      rfl
  case others => exact fun key other => Json.find?_present_of_not_mem other

/-- Messages with the same roles and contents make the same turns, whatever else they hold. -/
theorem contents_congr {messages messages' : List ChatMessage}
    (same : List.Forall₂ (fun m m' => m.role = m'.role ∧ m.content = m'.content)
      messages messages') :
    (messages.filter fun m => !m.isSystem).map turnOf
        = (messages'.filter fun m => !m.isSystem).map turnOf
      ∧ (messages.filter ChatMessage.isSystem).map ChatMessage.text
        = (messages'.filter ChatMessage.isSystem).map ChatMessage.text := by
  induction same with
  | nil => exact ⟨rfl, rfl⟩
  | @cons m m' rest rest' first _ ih =>
    obtain ⟨role, content⟩ := first
    have system : m.isSystem = m'.isSystem := by simp only [ChatMessage.isSystem, role]
    have text : m.text = m'.text := by simp only [ChatMessage.text, content]
    have assistant : m.isAssistant = m'.isAssistant := by
      simp only [ChatMessage.isAssistant, role]
    have turn : turnOf m = turnOf m' := by simp only [turnOf, assistant, text]
    simp only [List.filter_cons, system]
    cases m'.isSystem with
    | true => exact ⟨ih.1, by simp [text, ih.2]⟩
    | false => exact ⟨by simp [turn, ih.1], ih.2⟩

/-- Requests that differ in nothing else are translated alike. -/
theorem SayTheSame.ofChat_eq {r r' : ChatRequest} (same : SayTheSame r r') :
    Request.ofChat r' = Request.ofChat r := by
  obtain ⟨contents, instructions⟩ := contents_congr same.messages
  have sampling : samplingOf r' = samplingOf r := by
    simp only [samplingOf, same.temperature, same.topP, same.maxTokens, same.stop]
  simp only [Request.ofChat, contents, instructions, sampling]

/--
What is sent for a chat request. The body holds one part of the instruction for each message that
instructs the model and one turn for each other message, both in order and each with the text of
its message, and the settings that are set, but nothing else. Requests that differ at most in the
model, the stream flag and unknown members have the same body.
-/
theorem translates_conversation (r : ChatRequest) :
    ∃ body, Translates r body
      ∧ ∀ (c : Client.Gemini) (key : String),
        (c.chatRequest key r).body = some (.object body)
        ∧ ∀ r', SayTheSame r r' → (c.chatRequest key r').body = (c.chatRequest key r).body := by
  obtain ⟨body, object, translates⟩ := translates_ofChat r
  refine ⟨body, translates, fun c key => ⟨congrArg some object, fun r' same => ?_⟩⟩
  show some (Request.ofChat r').toJson = some (Request.ofChat r).toJson
  rw [same.ofChat_eq]

end Gemini

end InferenceGateway
