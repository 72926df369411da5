import Mathlib
import InferenceGateway.Proofs.Chat.Responses
import InferenceGateway.Proofs.CompletionId
import InferenceGateway.Proofs.Server.Answers

/-!
# The two ids of a Gemini completion

The id of a completion is drawn before its provider is called, and goes into a header of the answer.
Replies of Gemini have no id; one is drawn for the body when a reply is translated. This is a second
draw from the same numbers, so the body never has the id of the header.

* `Inscribed`: answers with an id in the header and an id in the body.
* `DrawnInTurn`: two numbers, the second of which is only asked for when the first is there.
* `completed`: the answer for a number of the gateway and a stamp of the translation.
* `body_has_later_id`: the ids of all buffered completions of Gemini, with other calls in between
  and without.
-/

namespace InferenceGateway

open Client (Remote Stamp)
open CompletionId (Board Run)
open Http (Peer Traffic)
open Json (Members)

namespace Server

/-! ## Ids of answers -/

/-- An answer with a completion: one id is in the header, and one in the object of the body. -/
structure Inscribed (a : Answer) (header body : String) : Prop where
  success : a.status = 200
  header : a.headers.lookup idHeader = some header
  body : ∃ ms : Members, a.body = .whole (Text.bytesOf (Json.object ms).render)
    ∧ Members.find? "id" ms = some (.string body)

/-- The id in a body is that of the response. -/
theorem find?_id {response : ChatResponse} (known : response.extra = []) :
    Members.find? "id" response.members = some (.string response.id) := by
  have once : (response.knownMembers.map Prod.fst).Nodup :=
    List.Nodup.sublist response.keys_knownMembers (by decide)
  unfold ChatResponse.members
  rw [known]
  exact Members.find?_ofList_of_nodup once "id"

/-- An answer without a completion, or with one whose body does not have the id of its header. -/
def Disagrees (a : Answer) (number stamped : UInt64) : Prop :=
  (∃ e, a = .ofError e)
  ∨ Inscribed a (CompletionId.text .gemini number) (CompletionId.text .gemini stamped)
    ∧ CompletionId.text .gemini stamped ≠ CompletionId.text .gemini number

/-- Errors have no id. -/
theorem Disagrees.inscribed {a : Answer} {number stamped : UInt64} {id : String}
    (h : Disagrees a number stamped) (given : a.headers.lookup idHeader = some id) :
    Inscribed a (CompletionId.text .gemini number) (CompletionId.text .gemini stamped)
      ∧ CompletionId.text .gemini stamped ≠ CompletionId.text .gemini number := by
  obtain ⟨e, rfl⟩ | inscribed := h
  · cases given
  · exact inscribed

/-- A result is answered with its error or with what it holds. -/
theorem answerOf_cases {α : Type} (good : α → Answer) (x : Except GatewayError α) :
    (∃ e, answerOf good x = .ofError e) ∨ ∃ a, x = .ok a ∧ answerOf good x = good a := by
  cases x with
  | error e => exact .inl ⟨e, rfl⟩
  | ok a => exact .inr ⟨a, rfl, rfl⟩

/-- The result of two attempts is that of one of them. -/
theorem exists_attempt_of_twice {α : Type} {attempt : Http.Sending (Except ProviderError α)}
    {t : Traffic} {a : α} (h : (twice attempt t).1 = .ok a) : ∃ t, (attempt t).1 = .ok a := by
  unfold twice at h
  split at h
  · next a' after first =>
    cases h
    exact ⟨t, by rw [first]⟩
  · next e after first =>
    split at h
    · exact ⟨_, mapError_eq_ok_iff.mp h⟩
    · cases h

/-! ## Calls of Gemini -/

/-- The number of the gateway and the one of the translation of a reply, in the company of any calls
for numbers: the second is asked for when the first is there. -/
def DrawnInTurn (number stamped : UInt64) : Prop :=
  ∃ between after i j, Run {} between ∧ Run between after
    ∧ between.calls i = .returned number ∧ between.calls j = .idle
    ∧ after.calls j = .returned stamped

theorem DrawnInTurn.lt {number stamped : UInt64} (h : DrawnInTurn number stamped) :
    number < stamped := by
  obtain ⟨between, after, i, j, start, run, first, idle, second⟩ := h
  have past : between.last < stamped := run.lt_returned (fun _ => idle ▸ nofun) second
  exact Std.lt_of_le_of_lt ((start.issued CompletionId.issued_start).le_last i _ first) past

/-- The answer to a buffered completion of Gemini, from the number that the gateway has drawn and
the stamp that is put on a reply. -/
def completed (c : Client.Gemini) (peer : Peer) (number : UInt64) (stamp : Stamp)
    (accepted : Accepted) (chat : ChatRequest) (t : Traffic) : Answer :=
  let id := CompletionId.text accepted.binding.provider number
  let attempt := (Remote.gemini c).chat peer stamp accepted.key
    (outgoing .buffered accepted.binding chat)
  answerOf (fun a => (Completion.whole id (a.served accepted.binding)).answer) (twice attempt t).1

/-- A completion has the ids of its two numbers, so these disagree if the second is larger. -/
theorem disagrees_completed {accepted : Accepted} (gemini : accepted.binding.provider = .gemini)
    {number : UInt64} {stamp : Stamp} (later : number < stamp.number) (c : Client.Gemini)
    (peer : Peer) (chat : ChatRequest) (t : Traffic) :
    Disagrees (completed c peer number stamp accepted chat t) number stamp.number := by
  unfold completed
  rw [gemini]
  obtain failed | ⟨a, result, answered⟩ := answerOf_cases
    (fun a => (Completion.whole (CompletionId.text .gemini number)
      (a.served accepted.binding)).answer)
    (twice ((Remote.gemini c).chat peer stamp accepted.key
      (outgoing .buffered accepted.binding chat)) t).1
  · exact .inl failed
  · obtain ⟨t', attempted⟩ := exists_attempt_of_twice result
    rw [Remote.chat_gemini] at attempted
    dsimp only at attempted
    obtain ⟨reply, -, rfl⟩ := map_eq_ok_iff.mp attempted
    refine .inr ⟨?_, fun same => ?_⟩
    · rw [answered]
      exact ⟨rfl, rfl, _, rfl, find?_id rfl⟩
    · have equal : stamp.number = number := (CompletionId.text_injective same).2
      exact absurd later (equal ▸ UInt64.lt_irrefl _)

variable {site : Site} {times : Times} {r : Request} {st : State} {chat : ChatRequest}
  {accepted : Accepted} {c : Client.Gemini}

/-- Without other calls in between, a request is answered so under the numbers of its times. -/
theorem Poses.handle_eq_completed (poses : Poses site st times r chat accepted (.gemini c))
    (buffered : chat.isStream = false) (peer : Peer) :
    (handle site peer times r st).1
      = completed c peer (drawn times st) (stampOf times st) accepted chat st.traffic := by
  obtain ⟨lastId, completes⟩ :=
    completeBy_of_buffered buffered (.gemini c) peer times accepted st
  rw [poses.handle_eq peer, completes]
  dsimp only
  rw [answerOf_map]
  rfl

theorem Poses.provider_eq (poses : Poses site st times r chat accepted (.gemini c)) :
    accepted.binding.provider = .gemini := by
  have found := List.find?_some poses.client
  exact (eq_of_beq found).symm

theorem Poses.disagrees (poses : Poses site st times r chat accepted (.gemini c))
    (buffered : chat.isStream = false) (next : (drawn times st).toNat + 1 < UInt64.size)
    (peer : Peer) :
    Disagrees (handle site peer times r st).1 (drawn times st) (stampOf times st).number := by
  rw [poses.handle_eq_completed buffered peer]
  exact disagrees_completed poses.provider_eq (CompletionId.lt_draw next _) c peer chat _

/--
No completion of Gemini that is buffered has the id of its header in its body. The header has the
number that the gateway drew before the call and the body a larger one, whatever Gemini replies,
whatever the clock says, and whatever calls draw numbers at the same time. So it is for a request
that is alone, too.
-/
theorem body_has_later_id (c : Client.Gemini) (peer : Peer) :
    (∀ number stamp accepted chat t, accepted.binding.provider = .gemini →
      DrawnInTurn number stamp.number →
      Disagrees (completed c peer number stamp accepted chat t) number stamp.number)
    ∧ ∀ site st times r chat accepted, Poses site st times r chat accepted (.gemini c) →
      chat.isStream = false → (drawn times st).toNat + 1 < UInt64.size →
      Disagrees (handle site peer times r st).1 (drawn times st) (stampOf times st).number := by
  constructor
  · intro number stamp accepted chat t gemini inTurn
    exact disagrees_completed gemini inTurn.lt c peer chat t
  · intro site st times r chat accepted poses buffered next
    exact poses.disagrees buffered next peer

/-! ## One request -/

/-- A gateway for one key of any text, with a client of Gemini. -/
def geminiSite : Site where
  authenticator := { secret := "s", store := fun _ => .ok (some ⟨{ id := "caller" }, true, none⟩) }
  remotes := [.gemini ⟨"http://h", ⟨1000, 1000, 1000⟩⟩]
  gateway :=
    { registry := { clients := [⟨.gemini, true⟩], pins := [] }
      rules := { organizations := fun _ _ => .ok none, process := [(.gemini, "k")] } }
  listingLimit := 1000

/-- A state in which Gemini has published a model. -/
def geminiState : State where
  snapshot := { catalog := [⟨"m", .gemini, "m", "google", 0⟩] }

/-- A request for a completion of this model. -/
def geminiRequest : Request where
  method := "POST"
  target := "/v1/chat/completions"
  headers := [("authorization", Text.bytesOf "Bearer sk-a")]
  body := Text.bytesOf "\x7b\"model\":\"m\",\"messages\":[\x7b\"role\":\"user\"\x7d]\x7d"

/-- An empty reply that is there at once. -/
def emptyReply : Peer := fun _ _ => .replied 1 ⟨200, Client.pieces [(1, Text.bytesOf "\x7b\x7d")]⟩

/-- Such a request arrives five nanoseconds into the clock, and is answered at the ninth. -/
theorem poses_geminiRequest :
    Poses geminiSite geminiState ⟨5, 9⟩ geminiRequest
      { model := "m", messages := [{ role := "user" }] }
      ⟨⟨"m", .gemini, "m"⟩, ⟨.gemini, true⟩, "k"⟩ (.gemini ⟨"http://h", ⟨1000, 1000, 1000⟩⟩) where
  method := rfl
  path := by decide
  fits := by decide +kernel
  parsed := Json.toOption_eq_some_iff.mp (by decide +kernel)
  accepts := ⟨{ id := "caller" }, Json.toOption_eq_some_iff.mp (by decide +kernel), by cbv⟩
  client := by decide
  carries := trivial
  reaches := by decide +kernel

/-- It is answered with a completion. -/
theorem header_of_emptyReply :
    (handle geminiSite emptyReply ⟨5, 9⟩ geminiRequest geminiState).1.headers.lookup idHeader
      = some "gemini-5" := by
  decide +kernel

/-- Two calls for a number, one after the other and in no company. -/
theorem drawnInTurn_five_nine : DrawnInTurn 5 9 := by
  obtain ⟨between, first, last, drawn, idle⟩ : ∃ b, Run {} b ∧ b.last = 5
      ∧ b.calls 0 = .returned 5 ∧ b.calls 1 = .idle :=
    ⟨_, (((Run.refl {}).tail
      (by decide) (.readClock (i := 0) 5 rfl)).tail
      (by decide) (.load (i := 0) rfl)).tail
      (by decide) (.exchange (i := 0) rfl), rfl, rfl, rfl⟩
  have next : between.HasNext := by
    unfold Board.HasNext
    rw [last]
    decide
  have nine : CompletionId.draw 9 between.last = 9 := by
    rw [last]
    decide
  exact ⟨between, _, 0, 1, first, (((Run.refl between).tail
    next (.readClock (i := 1) 9 idle)).tail
    next (.load (i := 1) rfl)).tail
    next (.exchange (i := 1) rfl), drawn, idle, congrArg CompletionId.Progress.returned nine⟩

/-- The header has the number of its arrival, and the body that of its answer. -/
theorem ids_of_emptyReply :
    let answer := (handle geminiSite emptyReply ⟨5, 9⟩ geminiRequest geminiState).1
    DrawnInTurn 5 9
      ∧ Inscribed answer (CompletionId.text .gemini 5) (CompletionId.text .gemini 9)
      ∧ CompletionId.text .gemini 9 ≠ CompletionId.text .gemini 5 := by
  obtain ⟨-, alone⟩ := body_has_later_id ⟨"http://h", ⟨1000, 1000, 1000⟩⟩ emptyReply
  have disagrees := alone _ _ _ _ _ _ poses_geminiRequest rfl (by decide)
  exact ⟨drawnInTurn_five_nine, disagrees.inscribed header_of_emptyReply⟩

/-- Not all completions of Gemini that are buffered have the id of their header in their body. -/
theorem some_body_has_other_id :
    ¬∀ c site peer times r st chat accepted header body,
      Poses site st times r chat accepted (.gemini c) → chat.isStream = false →
      Inscribed (handle site peer times r st).1 header body → body = header := by
  intro same
  obtain ⟨inscribed, other⟩ :=
    (poses_geminiRequest.disagrees rfl (by decide) emptyReply).inscribed header_of_emptyReply
  exact other (same _ _ _ _ _ _ _ _ _ _ poses_geminiRequest rfl inscribed)

end Server

end InferenceGateway
