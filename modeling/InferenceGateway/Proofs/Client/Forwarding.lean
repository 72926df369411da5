import Mathlib
import InferenceGateway.Dispatch.Call
import InferenceGateway.Proofs.Chat.Requests
import InferenceGateway.Proofs.Client.Upshots

/-!
# Bodies that are passed on

A provider with the common format gets the object that the client sent: the model and the stream
flag are the gateway's, a field that was null is left out, and all else is there as it was.

* `Forwards`: what is passed on of the members of a request.
* `forwards_body`: what is written of a request is passed on so.
* `passes_on`: from the text of a client to the request that a provider gets.
-/

namespace InferenceGateway.Client.OpenAi

open Json (Members Given)

/-- What is passed on of the members of a request; each member that is sent is one of these. -/
structure Forwards (delivery : Delivery) (providerId : String) (ms sent : Members) : Prop where
  ordered : sent.Ascending
  model : Members.find? "model" sent = some (.string providerId)
  stream : Members.find? "stream" sent = some (.bool (delivery == .streamed))
  messages : ∃ messages : List Members,
    (Members.find? "messages" ms = some (.array (messages.map .object))
      ∨ Members.find? "messages" ms = none ∧ messages = [])
    ∧ Members.find? "messages" sent
      = some (.array (messages.map fun m => .object (ChatMessage.withoutNull m)))
  temperature : ∃ x, Given Json.IsDouble (Members.find? "temperature" ms) x
    ∧ Members.find? "temperature" sent = x.map .float
  topP : ∃ x, Given Json.IsDouble (Members.find? "top_p" ms) x
    ∧ Members.find? "top_p" sent = x.map .float
  maxTokens : Given Eq (Members.find? "max_tokens" ms) (Members.find? "max_tokens" sent)
  stop : Given Eq (Members.find? "stop" ms) (Members.find? "stop" sent)
  others : ∀ key ∉ ChatRequest.keys, Members.find? key sent = Members.find? key ms

/-- Messages are written as the objects that mean them, but for contents of null. -/
theorem exists_objects {items : List Json} {messages : List ChatMessage}
    (each : List.Forall₂ ChatMessage.Means items messages) :
    ∃ objects : List Members, items = objects.map .object
      ∧ messages.map ChatMessage.toJson
        = objects.map fun m => .object (ChatMessage.withoutNull m) := by
  induction each with
  | nil => exact ⟨[], rfl, rfl⟩
  | cons first _ ih =>
    obtain ⟨m, rfl, meant⟩ := first
    obtain ⟨objects, rfl, written⟩ := ih
    refine ⟨m :: objects, rfl, ?_⟩
    rw [List.map_cons, List.map_cons, meant.toJson_eq, written]

theorem exists_messages {o : Option Json} {messages : List ChatMessage}
    (meant : Json.Defaulted (Json.Listed ChatMessage.Means) [] o messages) :
    ∃ objects : List Members,
      (o = some (.array (objects.map .object)) ∨ o = none ∧ objects = [])
      ∧ messages.map ChatMessage.toJson
        = objects.map fun m => .object (ChatMessage.withoutNull m) := by
  cases meant with
  | missing => exact ⟨[], .inr ⟨rfl, rfl⟩, rfl⟩
  | given listed =>
    obtain ⟨each⟩ := listed
    obtain ⟨objects, rfl, written⟩ := exists_objects each
    exact ⟨objects, .inl rfl, written⟩

/-- A value that is written as it was read is there as it was. -/
theorem given_eq_of_given {α : Type} {means : Json → α → Prop} {write : α → Json}
    (same : ∀ j a, means j a → write a = j) {o : Option Json} {a : Option α}
    (h : Given means o a) : Given Eq o (a.map write) := by
  cases h with
  | missing => exact .missing
  | null => exact .null
  | value present meant => exact .value present (same _ _ meant).symm

/-- What is written of a request is the members that the client gave, each in its way. -/
theorem forwards_body {r : ChatRequest} {ms : Members} (meant : r.MeantBy ms) (delivery : Delivery)
    (binding : Binding) :
    ∃ sent, body delivery (outgoing delivery binding r) = .object sent
      ∧ Forwards delivery binding.providerId ms sent := by
  -- The gateway sets the model and the client the stream flag, before the request is written.
  let written : ChatRequest :=
    { r with model := binding.providerId, stream := some (delivery == .streamed) }
  have field := written.find?_field meant.ordered meant.extra
  refine ⟨written.members, rfl, ?_⟩
  constructor
  case ordered => exact Members.ascending_union_ofList _ _
  case model => exact field .model
  case stream => exact field .stream
  case messages =>
    obtain ⟨objects, given, toJson⟩ := exists_messages meant.messages
    refine ⟨objects, given, (field .messages).trans ?_⟩
    rw [← toJson]
    rfl
  case temperature => exact ⟨r.temperature, meant.temperature, field .temperature⟩
  case topP => exact ⟨r.topP, meant.topP, field .topP⟩
  case maxTokens =>
    have given : Given Eq (Members.find? "max_tokens" ms) (r.maxTokens.map .integer) :=
      given_eq_of_given (fun j n meant => meant.1.symm) meant.maxTokens
    exact (field .maxTokens) ▸ given
  case stop =>
    have given : Given Eq (Members.find? "stop" ms) (r.stop.map StopTexts.toJson) :=
      given_eq_of_given (fun j s meant => StopTexts.ofJson?_eq_some_iff.mp meant) meant.stop
    exact (field .stop) ▸ given
  case others => exact fun key other => written.find?_other meant.ordered meant.extra other

/-- The requests that have been sent once a completion has been asked for. -/
def sentBy (c : OpenAi) (delivery : Delivery) (peer : Http.Peer) (key : String) (r : ChatRequest)
    (t : Http.Traffic) : List Http.Request :=
  match delivery with
  | .buffered => (c.chat peer key r t).2.sent
  | .streamed => (c.stream peer key r t).2.sent

theorem sentBy_eq {c : OpenAi} {delivery : Delivery} {key : String} {r : ChatRequest}
    {q : Http.Request} (made : c.chatRequest delivery key r = .ok q)
    (address : Http.isAddress q.address = true) (peer : Http.Peer) (t : Http.Traffic) :
    c.sentBy delivery peer key r t = t.sent ++ [q] := by
  cases delivery with
  | buffered => exact (Remote.attempts_chat (c := .openAi c) peer ⟨0, 0⟩ made address).sends t
  | streamed => exact (Remote.attempts_stream peer made address).sends t

/--
From the text of a client, a provider with the common format gets the object that the text holds:
with the id that the provider knows the model by, with the stream flag of the delivery, and with
every other member as it was, apart from nulls in the fields of the gateway.
-/
theorem passes_on {text : List UInt8} {r : ChatRequest} (parsed : ChatRequest.parse text = .ok r) :
    ∃ ms, Json.parse text = .ok (.object ms) ∧ ∀ delivery (binding : Binding), ∃ sent,
      Forwards delivery binding.providerId ms sent
      ∧ ∀ (c : OpenAi) key,
        (∀ q, c.chatRequest delivery key (outgoing delivery binding r) = .ok q →
          q.body = some (.object sent) ∧ (Http.isAddress q.address = true → ∀ peer t,
            c.sentBy delivery peer key (outgoing delivery binding r) t = t.sent ++ [q]))
        ∧ (key = "" ∨ Http.isHeaderValue key = true →
          ∃ q, c.chatRequest delivery key (outgoing delivery binding r) = .ok q) := by
  obtain ⟨_, parsedJson, ms, rfl, meant⟩ := ChatRequest.reads.of_readText parsed
  refine ⟨ms, parsedJson, fun delivery binding => ?_⟩
  obtain ⟨sent, written, forwards⟩ := forwards_body meant delivery binding
  refine ⟨sent, forwards, fun c key => ⟨fun q made => ⟨?_, fun address peer t => ?_⟩, ?_⟩⟩
  · obtain ⟨headers, -, request⟩ := bind_eq_ok_iff.mp made
    cases request
    exact congrArg some written
  · exact sentBy_eq made address peer t
  · intro sendable
    obtain ⟨q, made, -⟩ := c.exists_chatRequest delivery sendable (outgoing delivery binding r)
    exact ⟨q, made⟩

/-- A request with a member given twice, a null and no stop texts, that is sent for a stream. -/
theorem passes_on_last_member :
    let text := Text.bytesOf
      "\x7b\"seed\":1,\"stream\":false,\"stop\":[],\"seed\":2,\"top_p\":null\x7d"
    let c := jan "http://h" ⟨1, 1, 1⟩
    ∃ r sent q, ChatRequest.parse text = .ok r
      ∧ c.chatRequest .streamed "" (outgoing .streamed ⟨"m", .jan, "up"⟩ r) = .ok q
      ∧ q.body = some (.object sent)
      ∧ (∀ peer t, c.sentBy .streamed peer "" (outgoing .streamed ⟨"m", .jan, "up"⟩ r) t
        = t.sent ++ [q])
      ∧ Members.find? "seed" sent = some (.integer 2)
      ∧ Members.find? "stream" sent = some (.bool true)
      ∧ Members.find? "stop" sent = some (.array []) ∧ Members.find? "top_p" sent = none := by
  intro text c
  have value : (Json.parse text).toOption = some (.object [("seed", .integer 2),
      ("stop", .array []), ("stream", .bool false), ("top_p", .null)]) := by decide +kernel
  have isOk : (ChatRequest.parse text).isOk = true := by decide +kernel
  cases parsed : ChatRequest.parse text with
  | error e =>
    rw [parsed] at isOk
    cases isOk
  | ok r =>
    obtain ⟨ms, parsedJson, passed⟩ := passes_on parsed
    rw [parsedJson] at value
    obtain rfl := Json.object.inj (Option.some.inj value)
    obtain ⟨sent, forwards, sends⟩ := passed .streamed ⟨"m", .jan, "up"⟩
    obtain ⟨q, made⟩ := (sends c "").2 (.inl rfl)
    obtain ⟨body, asked⟩ := (sends c "").1 q made
    have reachable : Http.isAddress (baseOf c.baseUrl ++ c.chatPath) = true := by decide +kernel
    have address : Http.isAddress q.address = true := by
      cases made
      exact reachable
    -- No stop texts are still stop texts, while a null is as good as nothing.
    have stop : Given Eq (some (.array [])) (Members.find? "stop" sent) := forwards.stop
    refine ⟨r, sent, q, rfl, made, body, asked address, forwards.others "seed" (by decide),
      forwards.stream, ?_, ?_⟩
    · generalize Members.find? "stop" sent = o at stop
      cases stop with
      | value _ same => rw [← same]
    · obtain ⟨x, given, eq⟩ := forwards.topP
      have given : Given Json.IsDouble (some .null) x := given
      rw [eq]
      cases given with
      | null => rfl
      | value present _ => exact absurd rfl present

end InferenceGateway.Client.OpenAi
