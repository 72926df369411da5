import Mathlib
import InferenceGateway.Chat.Message
import InferenceGateway.Proofs.Json.Records

/-!
# Messages as they are handed on

A provider that speaks the common format is to get each message as the client sent it. It gets all
of it, whatever members the message has, unless the content is null: then there is no content.

* `ChatMessage.layout`, `ChatMessage.MeantBy`: what the members of an object mean as a message.
* `ChatMessage.reads`: messages are read exactly from the objects that mean them.
* `ChatMessage.withoutNull`: the members that are handed on.
* `ChatMessage.hands_on_but_null`: what is handed on of a message, and which objects are messages.
* `ChatMessage.null_content_is_dropped`: a message that is not handed on as it was sent.
-/

namespace InferenceGateway.ChatMessage

open Json (Members Reads Given Needed)

/-- The fields of a message. -/
inductive Known where
  | role
  | content

/-- The keys of the fields. -/
def keys : List String := ["role", "content"]

/-- Where a message under construction has what is read of it. -/
def layout : shape.Layout Known where
  field
    | .role =>
      { key := "role", get := Draft.role, put := fun v d => { d with role := some v }
        read := (·.readString), means := fun j s => j = .string s }
    | .content =>
      { key := "content", get := Draft.content, put := fun v d => { d with content := some v }
        read := (·.readOptional (·.take)), means := Json.Nullable Eq }
  all := [.role, .content]
  extra := Draft.extra
  keep ms d := { d with extra := ms }
  reads f := by
    cases f
    exacts [Reads.string, Reads.take.nullable]
  slot_other key other d := by
    simp only [List.map_cons, List.map_nil, List.mem_cons, List.not_mem_nil, or_false,
      not_or] at other
    simp only [shape, if_neg other.1, if_neg other.2]
  ext d e same extra := Draft.ext (same .role) (same .content) extra

/-- The members of an object mean a message. -/
structure MeantBy (m : ChatMessage) (ms : Members) : Prop where
  ordered : ms.Ascending
  role : Needed (fun j s => j = .string s) (Members.find? "role" ms) m.role
  content : Given Eq (Members.find? "content" ms) m.content
  extra : m.extra = ms.without keys

/-- An object means a message. -/
def Means (j : Json) (m : ChatMessage) : Prop :=
  ∃ ms, j = .object ms ∧ m.MeantBy ms

/-- What is read of a message is what its members mean. -/
theorem reads : Reads read Means := by
  refine layout.reads_record.congr fun j m => ?_
  constructor
  · rintro ⟨ms, d, rfl, fills, finished⟩
    obtain ⟨role, found, made⟩ := bind_eq_ok_iff.mp finished
    cases made
    refine ⟨ms, rfl, fills.ordered, ?_, ?_, fills.extra⟩
    · exact Json.needed_iff.mpr ⟨d.role, fills.fields .role, found⟩
    · exact Json.given_iff.mpr ⟨d.content, fills.fields .content, rfl⟩
  · rintro ⟨ms, rfl, meant⟩
    obtain ⟨role, filledRole, found⟩ := Json.needed_iff.mp meant.role
    obtain ⟨content, filledContent, joined⟩ := Json.given_iff.mp meant.content
    refine ⟨ms, { role, content, extra := m.extra }, rfl, ⟨meant.ordered, ?_, meant.extra⟩, ?_⟩
    · rintro (_ | _)
      exacts [filledRole, filledContent]
    · refine bind_eq_ok_iff.mpr ⟨m.role, found, ?_⟩
      simp only [joined]
      rfl

/-! ## Writing -/

/-- The members of a message that have a field, an absent content left out. -/
def knownMembers (m : ChatMessage) : List (String × Json) :=
  [("role", .string m.role)] ++ Json.optional "content" m.content

/-- The members of a message that is written. -/
def members (m : ChatMessage) : Members :=
  Members.union (Members.ofList m.knownMembers) m.extra

theorem toJson_eq (m : ChatMessage) : m.toJson = .object m.members := rfl

/-- What is written under the key of a field. -/
def written (m : ChatMessage) : Known → Option Json
  | .role => some (.string m.role)
  | .content => m.content

variable {m : ChatMessage} {ms : Members}

theorem keys_knownMembers (m : ChatMessage) : (m.knownMembers.map Prod.fst).Sublist keys := by
  unfold knownMembers
  rw [List.map_append]
  exact (List.Sublist.refl ["role"]).append (Members.map_fst_optional "content" _)

theorem MeantBy.find?_field (h : m.MeantBy ms) (f : Known) :
    Members.find? (layout.field f).key m.members = m.written f := by
  unfold members
  rw [h.extra]
  refine (layout.find?_field h.ordered m.keys_knownMembers f).trans ?_
  unfold knownMembers
  rw [Members.find?_append, Members.find?_optional]
  cases f <;> simp [Members.find?_cons, layout, written]

theorem MeantBy.find?_other (h : m.MeantBy ms) {key : String} (other : key ∉ keys) :
    Members.find? key m.members = Members.find? key ms := by
  unfold members
  rw [h.extra]
  exact layout.find?_other h.ordered m.keys_knownMembers other

/-- All but the content is looked up in a message that is written as in the object it was. -/
theorem MeantBy.find?_members (h : m.MeantBy ms) (key : String) :
    Members.find? key m.members = if key = "content" then m.content else Members.find? key ms := by
  by_cases known : key ∈ keys
  · obtain ⟨f, rfl⟩ := (layout.mem_keys key).mp known
    rw [h.find?_field]
    cases f with
    | role =>
      obtain ⟨_, role, rfl⟩ := h.role
      exact role.symm
    | content => rfl
  · have ne : key ≠ "content" := fun same => known (same ▸ by decide)
    rw [h.find?_other known, if_neg ne]

/-- The members of a message that are handed on: all, but for a content of null. -/
def withoutNull (ms : Members) : Members :=
  match Members.find? "content" ms with
  | some .null => ms.without ["content"]
  | _ => ms

theorem withoutNull_of_null {ms : Members} (null : Members.find? "content" ms = some .null) :
    withoutNull ms = ms.without ["content"] := by
  unfold withoutNull
  rw [null]

/-- A content that is not null is left where it is. -/
theorem withoutNull_of_ne {ms : Members} (ne : Members.find? "content" ms ≠ some .null) :
    withoutNull ms = ms := by
  unfold withoutNull
  split
  · next null => exact absurd null ne
  · rfl

/-- A message is written as the object that it was read from, but for a content of null. -/
theorem MeantBy.toJson_eq (h : m.MeantBy ms) : m.toJson = .object (withoutNull ms) := by
  have content := h.content
  rw [m.toJson_eq]
  refine congrArg Json.object ?_
  -- a content that is read as none is not written, be it null or missing
  by_cases null : Members.find? "content" ms = some .null
  · rw [withoutNull_of_null null]
    refine Members.ext (Members.ascending_union_ofList _ _) (h.ordered.without _) fun key => ?_
    rw [h.find?_members, Members.find?_without]
    by_cases isContent : key = "content"
    · subst isContent
      rw [null] at content
      generalize m.content = c at content ⊢
      cases content with
      | null => simp
      | value present _ => exact absurd rfl present
    · simp [isContent]
  · rw [withoutNull_of_ne null]
    refine Members.ext (Members.ascending_union_ofList _ _) h.ordered fun key => ?_
    rw [h.find?_members]
    by_cases isContent : key = "content"
    · subst isContent
      rw [if_pos rfl]
      generalize m.content = c at content ⊢
      generalize Members.find? "content" ms = o at content null ⊢
      cases content with
      | missing => rfl
      | null => exact absurd rfl null
      | value _ same => rw [same]
    · exact if_neg isContent

/-- An object is a message if its role is a text; nothing else about it matters. -/
theorem exists_means_iff (ordered : Members.Ascending ms) :
    (∃ m, Means (.object ms) m) ↔ ∃ role, Members.find? "role" ms = some (.string role) := by
  constructor
  · rintro ⟨m, _, ⟨⟩, meant⟩
    obtain ⟨_, role, rfl⟩ := meant.role
    exact ⟨m.role, role⟩
  · rintro ⟨role, found⟩
    have meantRole : Needed (fun j s => j = .string s) (Members.find? "role" ms) role :=
      ⟨_, found, rfl⟩
    -- The content may be anything: nothing, null, or a value of any kind.
    have anyContent : ∃ content, Given Eq (Members.find? "content" ms) content := by
      cases Members.find? "content" ms with
      | none => exact ⟨none, .missing⟩
      | some j =>
        by_cases null : j = .null
        · exact ⟨none, null ▸ .null⟩
        · exact ⟨some j, .value null rfl⟩
    obtain ⟨content, meantContent⟩ := anyContent
    exact ⟨{ role, content, extra := ms.without keys }, ms, rfl,
      ordered, meantRole, meantContent, rfl⟩

/--
A message is handed on with the members that the client gave it, all of them and no others, except
that a content of null is left out; so it is handed on as it was sent exactly if its content is not
null. A message is any object that gives no key twice and has a text as its role.
-/
theorem hands_on_but_null (node : Json.Node) :
    (∀ m, read node = .ok m → ∃ ms, node.take = .ok (.object ms)
      ∧ m.toJson = .object (withoutNull ms)
      ∧ (m.toJson = .object ms ↔ Members.find? "content" ms ≠ some .null))
    ∧ ∀ ms, node.Plain → node.take = .ok (.object ms) →
      ((∃ m, read node = .ok m) ↔ ∃ role, Members.find? "role" ms = some (.string role)) := by
  constructor
  · intro m ok
    obtain ⟨_, taken, ms, rfl, meant⟩ := reads.taken ok
    refine ⟨ms, taken, meant.toJson_eq, ?_⟩
    rw [meant.toJson_eq]
    constructor
    · intro same null
      have kept : withoutNull ms = ms := Json.object.inj same
      rw [withoutNull_of_null null] at kept
      have gone := Members.find?_without_of_mem (List.mem_singleton_self "content") ms
      rw [kept, null] at gone
      cases gone
    · intro ne
      rw [withoutNull_of_ne ne]
  · intro ms plain taken
    have ordered : Members.Ascending ms := by
      cases Json.Node.take_eq_ok_iff.mp taken with
      | object depth ended within => exact Members.ascending_ofList _
    rw [← exists_means_iff ordered]
    constructor
    · rintro ⟨m, ok⟩
      obtain ⟨j, taken', meant⟩ := reads.taken ok
      rw [taken] at taken'
      cases taken'
      exact ⟨m, meant⟩
    · rintro ⟨m, meant⟩
      exact ⟨m, reads.reads plain taken meant⟩

/-- A message that calls a tool and has a list of parts is handed on as it was sent. -/
theorem tool_call_is_handed_on :
    let ms : Members := [("content", .array [.string "a", .null]), ("role", .string "assistant"),
      ("tool_calls", .array [.object [("id", .integer 1)]])]
    ∃ m, read (.ofJson (.object ms)) = .ok m ∧ m.toJson = .object ms := by
  intro ms
  have taken : (Json.Node.ofJson (.object ms)).take = .ok (.object ms) := rfl
  have parts : (Json.Node.ofJson (.array [.string "a", .null])).Plain := by
    refine .list ?_
    simp only [Json.nodesOfItems, List.forall_mem_cons]
    exact ⟨.string .., .null .., fun _ none => nomatch none⟩
  have calls : (Json.Node.ofJson (.array [.object [("id", .integer 1)]])).Plain := by
    refine .list ?_
    simp only [Json.nodesOfItems, List.forall_mem_cons]
    refine ⟨.object (by simp [Json.nodesOfMembers]) ?_, fun _ none => nomatch none⟩
    simp only [Json.nodesOfMembers, List.forall_mem_cons]
    exact ⟨.number .., fun _ none => nomatch none⟩
  have plain : (Json.Node.ofJson (.object ms)).Plain := by
    refine .object (by simp [ms, Json.nodesOfMembers]) ?_
    simp only [ms, Json.nodesOfMembers, List.forall_mem_cons]
    exact ⟨parts, .string .., calls, fun _ none => nomatch none⟩
  obtain ⟨m, ok⟩ := ((hands_on_but_null _).2 ms plain taken).mpr ⟨"assistant", by decide⟩
  obtain ⟨ms', taken', -, same⟩ := (hands_on_but_null _).1 m ok
  rw [taken] at taken'
  cases taken'
  exact ⟨m, ok, same.mpr (by decide)⟩

/-- A message whose content is null is handed on without it. -/
theorem null_content_is_dropped :
    let sent : Members := [("content", .null), ("role", .string "assistant")]
    ∃ m, read (.ofJson (.object sent)) = .ok m
      ∧ m.toJson = .object [("role", .string "assistant")] ∧ m.toJson ≠ .object sent :=
  ⟨{ role := "assistant" }, rfl, by decide, by decide⟩

end InferenceGateway.ChatMessage
