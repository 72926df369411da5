import Mathlib
import InferenceGateway.Proofs.Client.Upshots
import InferenceGateway.Proofs.Json.Reading
import InferenceGateway.Proofs.Server.Entrance

/-!
# Answers to completions

An accepted request for a completion is sent to its provider, and once more if there was no
connection or the provider failed. The client is answered by what came of the last attempt alone: a
success that can be read is handed on, a refusal that blames the client keeps its status, and all
else is a failure of the gateway or of its provider, told in one envelope.

* `Upshot.isPassing`: the upshots after which there is another attempt.
* `Answered`: the answer to each upshot.
* `twice_of_attempts`: the requests that are sent, and the answer, of a call with two attempts.
* `answers_last_upshot`: the same for requests of clients, buffered and streamed.
-/

namespace InferenceGateway

open Client (Attempts Comes Remote Upshot Yields)
open Http (Peer Traffic)

/-- Whether what came of a request may pass: no connection, or a failure of the provider. -/
def Client.Upshot.isPassing {α : Type} : Upshot α → Bool
  | .unconnected => true
  | .refused status => 500 ≤ status
  | .late | .success _ => false

namespace Server

/-- The answer that tells of a failed call. -/
def failure (status : Nat) (message type code : String) : Answer where
  status := status
  headers := [("content-type", "application/json")]
  body := .whole (Text.bytesOf (Json.render (Json.ofPairs
    [("error", Json.ofPairs
      [("message", .string message), ("type", .string type), ("param", .null),
       ("code", .string code)])])))

variable {α : Type}

/-- How a client is answered when something has come of the last request on its behalf. -/
inductive Answered (good : α → Answer) : Upshot α → Answer → Prop where
  | success (a : α) : Answered good (.success (some a)) (good a)
  | unreadable (message : String) :
    Answered good (.success none) (failure 502 message "upstream_error" "UpstreamError")
  | blamed {status : Nat} (blames : 400 ≤ status ∧ status ≤ 499) (message : String) :
    Answered good (.refused status) (failure status message "upstream_error" "UpstreamError")
  | refused {status : Nat} (other : ¬(400 ≤ status ∧ status ≤ 499)) (message : String) :
    Answered good (.refused status) (failure 502 message "upstream_error" "UpstreamError")
  | unconnected (message : String) :
    Answered good .unconnected (failure 502 message "upstream_error" "UpstreamUnavailable")
  | late (message : String) :
    Answered good .late (failure 504 message "timeout_error" "Timeout")

/-- The answer with the result of a call. -/
def answerOf (good : α → Answer) : Except GatewayError α → Answer
  | .ok a => good a
  | .error e => .ofError e

theorem answerOf_map {β : Type} (good : β → Answer) (f : α → β) (x : Except GatewayError α) :
    answerOf good (x.map f) = answerOf (fun a => good (f a)) x := by
  cases x <;> rfl

theorem ofError_eq (e : GatewayError) :
    Answer.ofError e = failure e.status e.message e.type e.code := rfl

/-- The result of an attempt is answered by what came of it. -/
theorem answered_of_yields (good : α → Answer) {p : Provider} {u : Upshot α}
    {result : Except ProviderError α} (yields : Yields p u result) :
    Answered good u (answerOf good (result.mapError .ofProvider)) := by
  cases yields with
  | unconnected message => exact .unconnected _
  | late during => exact .late _
  | refused status snippet =>
    show Answered good _ (Answer.ofError (.providerFailed p status snippet))
    rw [ofError_eq]
    -- a status that blames the caller is passed on, any other becomes a bad gateway
    by_cases blames : 400 ≤ status ∧ status ≤ 499
    · have same : (GatewayError.providerFailed p status snippet).status = status := by
        simp [GatewayError.status, GatewayError.isClientError, blames]
      rw [same]
      exact .blamed blames _
    · have other : (GatewayError.providerFailed p status snippet).status = 502 := by
        simp only [GatewayError.status, GatewayError.isClientError]
        simp [blames]
      rw [other]
      exact .refused blames _
  | unreadable message => exact .unreadable _
  | success a => exact .success a

/-- An attempt may be made again exactly if what came of it may pass. -/
theorem isRetriable_of_yields {p : Provider} {u : Upshot α} {e : ProviderError}
    (yields : Yields p u (.error e)) : e.isRetriable = u.isPassing := by
  cases yields <;> rfl

theorem isPassing_of_yields_ok {p : Provider} {u : Upshot α} {a : α} (yields : Yields p u (.ok a)) :
    u.isPassing = false := by
  cases yields
  rfl

/-- What came of the last request. -/
def lastUpshot (first second : Upshot α) : Upshot α :=
  if first.isPassing then second else first

/-- The requests of a call, of which the first had this upshot. -/
def requestsOf (q : Http.Request) (first : Upshot α) : List Http.Request :=
  if first.isPassing then [q, q] else [q]

/-- A call with up to two attempts is answered by what came of the last one. -/
theorem twice_of_attempts {p : Provider} {peer : Peer} {q : Http.Request} {limit : Nat}
    {worth : Nat → List (Stream.Event Http.Fault) → Upshot α → Prop}
    {attempt : Http.Sending (Except ProviderError α)}
    (attempts : Attempts p peer q limit worth attempt) (good : α → Answer) {t : Traffic}
    {u₁ u₂ : Upshot α} (first : Comes limit worth (peer t.sent q) u₁)
    (second : Comes limit worth (peer (t.sent ++ [q]) q) u₂) :
    (twice attempt t).2.sent = t.sent ++ requestsOf q u₁
      ∧ Answered good (lastUpshot u₁ u₂) (answerOf good (twice attempt t).1) := by
  have sent := attempts.sends t
  -- Whether there is a second attempt depends on the first result alone.
  have result := attempts.yields t u₁ first
  have answered := answered_of_yields good result
  unfold twice
  generalize attempt t = x at sent result answered
  obtain ⟨outcome, after⟩ := x
  have sent : after.sent = t.sent ++ [q] := sent
  unfold requestsOf lastUpshot
  cases outcome with
  | ok a =>
    rw [isPassing_of_yields_ok result]
    exact ⟨sent, answered⟩
  | error e =>
    dsimp only
    rw [isRetriable_of_yields result]
    split
    · -- the second attempt is made after the first one has been sent
      have sentAgain := attempts.sends (after.wait retryPause)
      have resultAgain := attempts.yields (after.wait retryPause) u₂ (sent ▸ second)
      refine ⟨?_, answered_of_yields good resultAgain⟩
      refine sentAgain.trans ?_
      show after.sent ++ [q] = t.sent ++ [q, q]
      rw [sent, List.append_assoc]
      rfl
    · exact ⟨sent, answered⟩

/-! ## Requests of clients -/

/--
A request for a completion that is let in and accepted, and whose provider has a client that can
ask for it.
-/
structure Poses (site : Site) (st : State) (times : Times) (r : Request) (chat : ChatRequest)
    (accepted : Accepted) (c : Remote) : Prop where
  method : r.method = "POST"
  path : r.path = "/v1/chat/completions"
  fits : r.body.length ≤ bodyLimit
  parsed : ChatRequest.parse r.body = .ok chat
  accepts : ∃ caller, identify site.authenticator (inSeconds times.arrival) r = .ok caller
    ∧ site.gateway.accept st.snapshot caller chat = .ok accepted
  client : site.remote? accepted.binding.provider = some c
  carries : c.Carries accepted.key
  reaches : Http.isAddress (c.address accepted.binding.providerId) = true

variable {site : Site} {peer : Peer} {times : Times} {r : Request} {st : State}
  {chat : ChatRequest} {accepted : Accepted} {c : Remote}

/-- A request that is accepted is answered with its completion. -/
theorem Poses.handle_eq (h : Poses site st times r chat accepted c) (peer : Peer) :
    handle site peer times r st =
      (answerOf Completion.answer (completeBy c peer times accepted chat st).1,
        (completeBy c peer times accepted chat st).2) := by
  obtain ⟨caller, entered, accepts⟩ := h.accepts
  have guarded : r.For .completions r.headers := ⟨h.method, h.path, rfl⟩
  rw [handle_of_guarded guarded, entered]
  show answerCompletion site peer times caller r.body st = _
  have fits : ¬bodyLimit < r.body.length := Nat.not_lt.mpr h.fits
  have completes : complete site peer times caller chat st
      = completeBy c peer times accepted chat st := by
    unfold complete
    rw [accepts]
    dsimp only
    rw [h.client]
  unfold answerCompletion
  rw [if_neg fits, h.parsed]
  dsimp only
  rw [completes]
  rcases completeBy c peer times accepted chat st with ⟨_ | _, _⟩ <;> rfl

/-- The number of the completion for a request. -/
def drawn (times : Times) (st : State) : UInt64 :=
  CompletionId.draw (UInt64.ofNat times.arrival) st.lastId

/-- The id of the completion for a request. -/
def idOf (times : Times) (st : State) (p : Provider) : String :=
  CompletionId.text p (drawn times st)

/-- What a completion of Gemini is stamped with. -/
def stampOf (times : Times) (st : State) : Client.Stamp where
  number := CompletionId.draw (UInt64.ofNat times.answer) (drawn times st)
  time := inSeconds times.answer

/-- A buffered completion is posed, perhaps twice, and its model is replaced. -/
theorem completeBy_of_buffered (buffered : chat.isStream = false) (c : Remote) (peer : Peer)
    (times : Times) (accepted : Accepted) (st : State) :
    ∃ lastId, completeBy c peer times accepted chat st =
      let p := accepted.binding.provider
      let call := twice (c.chat peer (stampOf times st) accepted.key
        (outgoing .buffered accepted.binding chat)) st.traffic
      (call.1.map fun a => .whole (idOf times st p) (a.served accepted.binding),
        { st with traffic := call.2, lastId }) := by
  unfold completeBy
  rw [if_neg (by simp [buffered])]
  exact ⟨_, rfl⟩

/-- A streamed completion is posed, perhaps twice, and handed on as it comes. -/
theorem completeBy_of_streamed (streamed : chat.isStream = true) (c : Remote) (peer : Peer)
    (times : Times) (accepted : Accepted) (st : State) :
    completeBy c peer times accepted chat st =
      let p := accepted.binding.provider
      let call := twice (c.stream peer accepted.key
        (outgoing .streamed accepted.binding chat)) st.traffic
      (call.1.map (.opened (idOf times st p) p),
        { st with traffic := call.2, lastId := drawn times st }) := by
  unfold completeBy
  rw [if_pos streamed]
  rfl

/-- A request is answered by what came of the last of its requests to a provider. -/
structure AnswersLast (site : Site) (peer : Peer) (times : Times) (r : Request) (st : State)
    (q : Http.Request) (limit : Nat)
    (worth : Nat → List (Stream.Event Http.Fault) → Upshot α → Prop) (good : α → Answer) :
    Prop where
  /-- Something comes of both requests. -/
  outcomes : Client.Sound (peer st.traffic.sent q) →
    Client.Sound (peer (st.traffic.sent ++ [q]) q) →
    ∃ u₁ u₂, Comes limit worth (peer st.traffic.sent q) u₁
      ∧ Comes limit worth (peer (st.traffic.sent ++ [q]) q) u₂
  /-- The second request is sent if what came of the first may pass, and the last one counts. -/
  answers : ∀ u₁ u₂, Comes limit worth (peer st.traffic.sent q) u₁ →
    Comes limit worth (peer (st.traffic.sent ++ [q]) q) u₂ →
    (handle site peer times r st).2.traffic.sent = st.traffic.sent ++ requestsOf q u₁
      ∧ Answered good (lastUpshot u₁ u₂) (handle site peer times r st).1

/--
A request is answered by the last of its requests to a provider if it is answered with what a call
with two attempts gives.
-/
theorem answersLast_of_twice {p : Provider} {q : Http.Request} {limit : Nat}
    {worth : Nat → List (Stream.Event Http.Fault) → Upshot α → Prop}
    {attempt : Http.Sending (Except ProviderError α)} {good : α → Answer}
    (worthy : ∀ after body, Client.BreaksOff body → ∃ u, worth after body u)
    (attempts : Attempts p peer q limit worth attempt)
    (answer : (handle site peer times r st).1 = answerOf good (twice attempt st.traffic).1)
    (traffic : (handle site peer times r st).2.traffic = (twice attempt st.traffic).2) :
    AnswersLast site peer times r st q limit worth good where
  outcomes sound soundAgain := by
    obtain ⟨u₁, first⟩ := Client.exists_comes worthy sound
    obtain ⟨u₂, second⟩ := Client.exists_comes worthy soundAgain
    exact ⟨u₁, u₂, first, second⟩
  answers u₁ u₂ first second := by
    rw [answer, traffic]
    exact twice_of_attempts attempts good first second

/--
Whatever comes of the requests to its provider, a request for a completion that is accepted is
answered by the last of them, and there is a second one exactly if there was no connection for the
first or the provider failed. A buffered completion is handed on if its whole body can be read; a
stream is opened for any success.
-/
theorem answers_last_upshot (poses : Poses site st times r chat accepted c) :
    (chat.isStream = false →
      ∃ q, c.request .buffered accepted.key (outgoing .buffered accepted.binding chat) = .ok q
        ∧ ∀ peer, AnswersLast site peer times r st q c.limits.request
          (Client.WholeWorth c.limits.request
            (c.completion? (stampOf times st) accepted.binding.providerId))
          fun a => (Answer.json 200 (a.served accepted.binding).toJson).withHeader idHeader
            (idOf times st accepted.binding.provider))
    ∧ (chat.isStream = true → ∀ o, c = .openAi o →
      ∃ q, c.request .streamed accepted.key (outgoing .streamed accepted.binding chat) = .ok q
        ∧ ∀ peer, AnswersLast site peer times r st q o.limits.streamHeader
          (Client.OpenWorth o.limits.streamIdle)
          fun stream =>
            { status := 200
              headers := [("content-type", "text/event-stream"), ("cache-control", "no-cache"),
                ("connection", "keep-alive"),
                (idHeader, idOf times st accepted.binding.provider)]
              body := .stream accepted.binding.provider { inner := stream } }) := by
  constructor
  · intro buffered
    -- the request that is posed twice is the same, as it depends on what was accepted alone
    obtain ⟨q, made, address⟩ := Remote.exists_request poses.carries .buffered
      (outgoing .buffered accepted.binding chat)
    have reaches : Http.isAddress q.address = true := address ▸ poses.reaches
    refine ⟨q, made, fun peer => ?_⟩
    obtain ⟨lastId, completes⟩ := completeBy_of_buffered buffered c peer times accepted st
    have handled := poses.handle_eq peer
    rw [completes] at handled
    refine answersLast_of_twice (Client.exists_wholeWorth _ _)
      (Remote.attempts_chat peer (stampOf times st) made reaches) ?_ ?_
    · rw [handled, answerOf_map]
      rfl
    · rw [handled]
  · rintro streamed o rfl
    obtain ⟨q, made, address⟩ := Remote.exists_request poses.carries .streamed
      (outgoing .streamed accepted.binding chat)
    have reaches : Http.isAddress q.address = true := address ▸ poses.reaches
    refine ⟨q, made, fun peer => ?_⟩
    have handled := poses.handle_eq peer
    rw [completeBy_of_streamed streamed] at handled
    refine answersLast_of_twice (fun after body _ => Client.exists_openWorth _ after body)
      (Remote.attempts_stream peer made reaches) ?_ ?_
    · rw [handled, answerOf_map]
      rfl
    · rw [handled]

/-! ## Two attempts -/

/-- A gateway for one key of any text, with a client of Jan. -/
def janSite : Site where
  authenticator := { secret := "s", store := fun _ => .ok (some ⟨{ id := "caller" }, true, none⟩) }
  remotes := [.openAi (.jan "http://h" ⟨1000, 1000, 1000⟩)]
  gateway :=
    { registry := { clients := [⟨.jan, false⟩], pins := [] }
      rules := { organizations := fun _ _ => .ok none, process := [] } }
  listingLimit := 1000

/-- A state in which Jan has published a model. -/
def janState : State where
  snapshot := { catalog := [⟨"m", .jan, "up", "jan", 0⟩] }

/-- A request for a buffered completion of this model. -/
def janRequest : Request where
  method := "POST"
  target := "/v1/chat/completions"
  headers := [("authorization", Text.bytesOf "Bearer sk-a")]
  body := Text.bytesOf
    "\x7b\"model\":\"m\",\"messages\":[\x7b\"role\":\"user\"\x7d],\"seed\":7\x7d"

theorem poses_janRequest :
    Poses janSite janState ⟨0, 0⟩ janRequest
      { model := "m", messages := [{ role := "user" }], extra := [("seed", .integer 7)] }
      ⟨⟨"m", .jan, "up"⟩, ⟨.jan, false⟩, ""⟩ (.openAi (.jan "http://h" ⟨1000, 1000, 1000⟩)) where
  method := rfl
  path := by decide
  fits := by decide +kernel
  parsed := Json.toOption_eq_some_iff.mp (by decide +kernel)
  accepts := ⟨{ id := "caller" }, Json.toOption_eq_some_iff.mp (by decide +kernel), by cbv⟩
  client := by decide
  carries := .inl rfl
  reaches := by decide +kernel

/-- A call that finds no connection and is then answered by a success that cannot be read. -/
theorem unreadable_second_answer :
    let peer : Peer := fun sent _ =>
      if sent = [] then .refused 5 else .replied 1 ⟨200, Client.pieces [(1, Text.bytesOf "[]")]⟩
    let after := handle janSite peer ⟨0, 0⟩ janRequest janState
    ∃ q message, after.2.traffic.sent = [q, q]
      ∧ after.1 = failure 502 message "upstream_error" "UpstreamError" := by
  intro peer after
  obtain ⟨q, -, answers⟩ := (answers_last_upshot poses_janRequest).1 rfl
  have unreadable :
      (ChatResponse.parse (Client.content [(1, Text.bytesOf "[]")])).toOption = none := by
    decide +kernel
  obtain ⟨sent, answered⟩ := (answers peer).answers .unconnected (.success none)
    (.unconnected (by decide))
    (.success (by decide) rfl ⟨_, .whole [(1, Text.bytesOf "[]")] (by decide),
      congrArg Upshot.success unreadable.symm⟩)
  refine ⟨q, ?_⟩
  generalize (handle janSite peer ⟨0, 0⟩ janRequest janState).1 = answer at answered
  cases answered with
  | unreadable message => exact ⟨message, sent, rfl⟩

end Server

end InferenceGateway
