import Mathlib
import InferenceGateway.Proofs.Dispatch.Course
import InferenceGateway.Proofs.Rehearsal.Clock
import InferenceGateway.Proofs.Results

/-!
# What becomes of an accepted request

A request that is accepted goes to the one provider of its model, at most twice, with the key and
under the id that were found when it was accepted. Nothing that happens to the gateway meanwhile
has a part in that: no refresh, no other call, no provider that answers otherwise than before.

* `sentCall`: the call that the provider receives.
* `Served`: how the answers to the attempts of a call lead to further attempts and to its result.
* `OnCourse.served`: calls are served so, as long as the gateway does not shut down.
* `Gets`: what the client of a call gets; `Served.gets` says it of calls that are served.
* `delivers_accepted`: from the request to the end of its call.
-/

namespace InferenceGateway

/-! ## Acceptance -/

/-- What a request is served with once it is accepted. -/
theorem Gateway.of_accept_eq_ok {g : Gateway} {s : Snapshot} {caller : Caller} {r : ChatRequest}
    {accepted : Accepted} (h : g.accept s caller r = .ok accepted) :
    s.resolve r.model = some accepted.binding
      ∧ g.registry.client? accepted.binding.provider = some accepted.client
      ∧ g.keyFor caller accepted.client accepted.binding.provider = .ok accepted.key := by
  unfold accept at h
  simp only [bind_eq_ok_iff, elim_eq_ok_iff, pure_eq_ok_iff] at h
  obtain ⟨-, -, binding, resolved, client, found, key, keyed, rfl⟩ := h
  exact ⟨resolved, found, keyed⟩

/-- An entry stands under its own id. -/
theorem Snapshot.publicId_of_resolve {s : Snapshot} {id : String} {b : Binding}
    (h : s.resolve id = some b) : b.publicId = id := by
  obtain ⟨e, found, rfl⟩ := Option.map_eq_some_iff.mp h
  unfold Catalog.find? at found
  exact eq_of_beq (List.find?_some found :)

theorem Registry.provider_of_client? {r : Registry} {p : Provider} {c : Client}
    (h : r.client? p = some c) : c.provider = p := by
  unfold client? at h
  exact eq_of_beq (List.find?_some h :)

namespace Rehearsal

/-! ## Service -/

/-- The call that the provider of an accepted request receives. -/
def sentCall (accepted : Accepted) (delivery : Delivery) (r : ChatRequest) : ProviderCall :=
  .chat accepted.binding.provider delivery accepted.key
    { r with
      model := accepted.binding.providerId
      stream := if delivery = .streamed then some true else r.stream }

/-- The state of a call at a time, from its first attempt and the further ones. -/
structure Served (first : Contact) (further : List Contact) (now : Nat) (call : Call Payload) :
    Prop where
  atMostTwo : further.length ≤ 1
  same : ∀ y ∈ further, y.call = first.call
  /-- There is a second attempt only after an answer that may pass, 200 milliseconds later. -/
  onlyIf : ∀ y ∈ further, first.answer.mayPass = true ∧ y.time ≤ now
    ∧ ∃ d, first.answer.delay = some d ∧ y.time = first.time + d + 200
  /-- If the answer may pass, there is a second attempt. -/
  ifPassing : first.answer.mayPass = true → ∀ d, first.answer.delay = some d →
    first.time + d + 200 < now → further ≠ []
  /-- The call ends with the last answer. -/
  endsOnly : ∀ t result, call = .over t result → t ≤ now
      ∧ (first.answer.mayPass = true → further ≠ [])
      ∧ (further.getLastD first).answer.delay.map ((further.getLastD first).time + ·) = some t
      ∧ result = (further.getLastD first).answer.result.mapError .ofProvider
  /-- When the last answer has come, the call ends. -/
  ends : (first.answer.mayPass = true → further ≠ []) →
    ∀ d, (further.getLastD first).answer.delay = some d →
    (further.getLastD first).time + d < now →
    call = .over ((further.getLastD first).time + d)
      ((further.getLastD first).answer.result.mapError .ofProvider)

/-- What a provider sends, with a model of that name in an answer. -/
def Payload.named (model : String) : Payload → Payload
  | answer r => answer { r with model }
  | stream script => stream script

/-- What the client of a call gets, and when: the last answer, with the model that it has asked for.
-/
structure Gets (model : String) (first : Contact) (further : List Contact) (now : Nat)
    (r : Running) : Prop where
  /-- It gets nothing else, and nothing before. -/
  only : ∀ t outcome, r.outcome? = some (t, outcome) → t ≤ now
    ∧ (further.getLastD first).answer.delay.map ((further.getLastD first).time + ·) = some t
    ∧ outcome = ((further.getLastD first).answer.result.mapError .ofProvider).map (.named model)
  /-- When the last answer has come, it gets that. -/
  all : (first.answer.mayPass = true → further ≠ []) →
    ∀ d, (further.getLastD first).answer.delay = some d →
    (further.getLastD first).time + d < now →
    r.outcome? = some ((further.getLastD first).time + d,
      ((further.getLastD first).answer.result.mapError .ofProvider).map (.named model))

/-- The model that is put into an answer is the one that was asked for. -/
theorem Payload.served_eq {b : Binding} {model : String} (named : b.publicId = model) :
    Payload.served b = Payload.named model := by
  subst named
  funext payload
  cases payload <;> rfl

/-- The client of a call that is served gets what the call ends with. -/
theorem Served.gets {first : Contact} {further : List Contact} {now : Nat} {call : Call Payload}
    (h : Served first further now call) {model : String} {r : Running} (state : r.call = call)
    (named : r.accepted.binding.publicId = model) : Gets model first further now r where
  only t outcome got := by
    unfold Running.outcome? at got
    rw [state, Payload.served_eq named] at got
    match call with
    | .over time result =>
      obtain ⟨past, -, answered, rfl⟩ := h.endsOnly time result rfl
      cases got
      exact ⟨past, answered, rfl⟩
    | .trying .. => cases got
    | .pausing _ => cases got
  all again d answered late := by
    have ended := h.ends again d answered late
    unfold Running.outcome?
    rw [state, ended, Payload.served_eq named]

namespace World

variable {w : World}

/-- A call that its provider has received once is served. -/
theorem served_of_one {x : Contact} {now : Nat} {call : Call Payload}
    (waits : x.answer.mayPass = true → ∀ d, x.answer.delay = some d →
      now ≤ x.time + d + retryPause)
    (endsOnly : ∀ t result, call = .over t result → t ≤ now ∧ x.answer.mayPass ≠ true
      ∧ x.answer.delay.map (x.time + ·) = some t
      ∧ result = x.answer.result.mapError .ofProvider)
    (ends : x.answer.mayPass ≠ true → ∀ d, x.answer.delay = some d → x.time + d < now →
      call = .over (x.time + d) (x.answer.result.mapError .ofProvider)) :
    Served x [] now call where
  atMostTwo := Nat.zero_le 1
  same := List.forall_mem_nil _
  onlyIf := List.forall_mem_nil _
  ifPassing passing d answered late := absurd late (Nat.not_lt.mpr (waits passing d answered))
  endsOnly t result eq := by
    obtain ⟨past, final, answered, result⟩ := endsOnly t result eq
    exact ⟨past, fun passing => absurd passing final, answered, result⟩
  ends last := ends fun passing => last passing rfl

/-- A call that its provider has received twice is served. -/
theorem served_of_two {x y : Contact} {now d : Nat} {call : Call Payload}
    (answered : x.answer.delay = some d) (passing : x.answer.mayPass = true)
    (same : y.call = x.call) (later : y.time = x.time + d + retryPause) (past : y.time ≤ now)
    (endsOnly : ∀ t result, call = .over t result → t ≤ now
      ∧ y.answer.delay.map (y.time + ·) = some t
      ∧ result = y.answer.result.mapError .ofProvider)
    (ends : ∀ e, y.answer.delay = some e → y.time + e < now →
      call = .over (y.time + e) (y.answer.result.mapError .ofProvider)) :
    Served x [y] now call where
  atMostTwo := Nat.le_refl 1
  same := List.forall_mem_singleton.mpr same
  onlyIf := List.forall_mem_singleton.mpr ⟨passing, past, d, answered, later⟩
  ifPassing _ _ _ _ := List.cons_ne_nil _ _
  endsOnly t result eq := by
    obtain ⟨ended, answer⟩ := endsOnly t result eq
    exact ⟨ended, fun _ => List.cons_ne_nil _ _, answer⟩
  ends _ := ends

/-- A call on its course is served. -/
theorem OnCourse.served {r : Running} {x : Contact} {rest : List Contact} {call : Call Payload}
    (h : OnCourse r x rest call w) (going : w.stopped = none) : Served x rest w.now call := by
  have pending := h.pending
  have ended := h.ended
  have made := h.made
  rw [horizon_of_going going] at pending ended made
  cases h.course with
  | asked =>
    have waits : ∀ d, x.answer.delay = some d → w.now ≤ x.time + d :=
      fun d answered => pending _ (Call.wake_trying answered)
    refine served_of_one (fun _ d answered => ?_) nofun (fun _ d answered late => ?_)
    · exact (waits d answered).trans (Nat.le_add_right _ _)
    · exact absurd late (Nat.not_lt.mpr (waits d answered))
  | @settled d answered final =>
    have done : x.answer.mayPass ≠ true := Bool.eq_false_iff.mp final
    refine served_of_one (fun passing => absurd passing done) ?_ ?_
    · rintro t result ⟨⟩
      exact ⟨ended _ _ rfl, done, congrArg (Option.map _) answered, rfl⟩
    · intro _ e answered' _
      cases answered.symm.trans answered'
      rfl
  | @pausing d answered passing =>
    refine served_of_one (fun _ e answered' => ?_) nofun (fun final => absurd passing final)
    cases answered.symm.trans answered'
    exact pending _ rfl
  | @askedAgain d y answered passing same later =>
    have past := made y (List.mem_singleton_self y)
    refine served_of_two answered passing same later past nofun fun e answeredAgain late => ?_
    have early : w.now ≤ y.time + e := pending _ (Call.wake_trying answeredAgain)
    exact absurd late (Nat.not_lt.mpr early)
  | @settledAgain d e y answered passing same later answeredAgain =>
    have past := made y (List.mem_singleton_self y)
    refine served_of_two answered passing same later past ?_ ?_
    · rintro t result ⟨⟩
      exact ⟨ended _ _ rfl, congrArg (Option.map _) answeredAgain, rfl⟩
    · intro e' answeredAgain' _
      cases answeredAgain.symm.trans answeredAgain'
      rfl

/-- The first attempt of an accepted request. -/
theorem call_opening (w : World) (accepted : Accepted) (delivery : Delivery) (r : ChatRequest) :
    (w.opening accepted delivery r).call = sentCall accepted delivery r := by
  cases delivery <;> rfl

/-- The worlds that a gateway over scripted providers can come to. -/
def Reachable (w : World) : Prop :=
  ∃ order pins rules limit scripts past, Run (.new order pins rules limit scripts) past w

theorem Reachable.trans {a b : World} (h : a.Reachable) {contacts : List Contact}
    (k : Run a contacts b) : b.Reachable := by
  obtain ⟨order, pins, rules, limit, scripts, past, run⟩ := h
  exact ⟨order, pins, rules, limit, scripts, past ++ contacts, run.trans k⟩

theorem Reachable.ticking {w : World} (h : w.Reachable) : w.Ticking := by
  obtain ⟨order, pins, rules, limit, scripts, past, run⟩ := h
  exact run.ticking (ticking_of_no_task rfl)

/--
What becomes of a request that is accepted, as long as the gateway does not shut down. Its call
begins at once. Whatever happens meanwhile, in any order, its provider receives the call once or
twice, both times with the model, the provider and the key of the beginning; there is a second
attempt exactly after an answer that may pass, and the last answer is the result, which the client
gets with the model that it has asked for. The gateway can always go on to any time.
-/
theorem delivers_accepted {w : World} (reached : w.Reachable) (going : w.stopped = none)
    {caller : Caller} {r : ChatRequest} {accepted : Accepted}
    (accepts : w.gateway.accept w.snapshot caller r = .ok accepted) (id : Option String)
    (delivery : Delivery) :
    (w.snapshot.resolve r.model = some accepted.binding
      ∧ w.gateway.registry.client? accepted.binding.provider = some accepted.client
      ∧ accepted.client.provider = accepted.binding.provider
      ∧ w.gateway.keyFor caller accepted.client accepted.binding.provider = .ok accepted.key
      ∧ ∀ a : ChatResponse, a.served accepted.binding = { a with model := r.model })
    ∧ ∃ w₁, w.beginCall id delivery caller r = .ok w₁
      ∧ (∀ contacts w₂, Run w₁ contacts w₂ →
        w₂.chats = w.chats ++ sentCall accepted delivery r :: contacts.map Contact.call)
      ∧ (∀ contacts w₂, Run w₁ contacts w₂ → w₂.stopped = none →
        ∃ first call, first.call = sentCall accepted delivery r ∧ first.time = w.now
          ∧ first.answer = (w.takeReply accepted.binding.provider delivery
            (outgoing delivery accepted.binding r)).1
          ∧ w₂.running[w.running.length]? = some { w.opened id accepted delivery r with call }
          ∧ Served first (contacts.filter fun y => y.place = w.running.length) w₂.now call
          ∧ Gets r.model first (contacts.filter fun y => y.place = w.running.length) w₂.now
            { w.opened id accepted delivery r with call })
      ∧ ∀ time, Passes (fun _ => false) time w₁ (w₁.runTo time) := by
  obtain ⟨resolved, client, key⟩ := Gateway.of_accept_eq_ok accepts
  have named : accepted.binding.publicId = r.model := Snapshot.publicId_of_resolve resolved
  refine ⟨⟨resolved, client, Registry.provider_of_client? client, key, fun a => ?_⟩, ?_⟩
  · unfold ChatResponse.served
    rw [named]
  obtain ⟨scripts, begun⟩ := beginCall_eq_ok id accepts going
  refine ⟨_, begun, ?_, ?_, ?_⟩
  · intro contacts w₂ run
    have all := ((Run.single (.begin id delivery caller r accepts (.inl begun))).trans run).chats_eq
    rw [List.map_append, List.map_singleton, call_opening] at all
    exact all
  · intro contacts w₂ run still
    obtain ⟨call, onCourse⟩ := run.onCourse (onCourse_opening accepts begun)
    have present := onCourse.present
    rw [halt_of_going still] at present
    have served := onCourse.served still
    exact ⟨_, call, call_opening w accepted delivery r, rfl, rfl, present, served,
      served.gets rfl named⟩
  · intro time
    have began : Run w _ _ := .single (.begin id delivery caller r accepts (.inl begun))
    exact passes_runTo time (reached.trans began).ticking

/-- A gateway without a task may list all models at once. -/
theorem exists_run_refreshed (w : World) (idle : w.task = none) :
    ∃ contacts, Run w contacts (w.beginRefresh.runTo 0) := by
  have ticking : w.beginRefresh.Ticking := Step.ticking (.refresh w) (ticking_of_no_task idle)
  obtain ⟨contacts, run⟩ := (passes_runTo 0 ticking).run
  exact ⟨_, (Run.single (.refresh w)).trans run⟩

/-- A gateway whose one provider has listed a model, and will answer calls with `replies`. -/
def listed (replies : List (Answer Payload)) : World :=
  let jan : Script :=
    { client := ⟨.jan, false⟩, listing := { result := .ok [⟨"m", "model", 0, ""⟩] }, replies }
  (beginRefresh (.new [] [] ⟨OrganizationKeys.store [], []⟩ 1000 [jan])).runTo 0

theorem reachable_listed (replies : List (Answer Payload)) : (listed replies).Reachable := by
  obtain ⟨contacts, run⟩ := exists_run_refreshed (World.new ..) rfl
  exact ⟨_, _, _, _, _, contacts, run⟩

theorem stopped_listed (replies : List (Answer Payload)) : (listed replies).stopped = none := by
  cbv

theorem now_listed (replies : List (Answer Payload)) : (listed replies).now = 0 := by
  cbv

theorem running_listed (replies : List (Answer Payload)) : (listed replies).running = [] := by
  cbv

theorem accept_listed (replies : List (Answer Payload)) :
    (listed replies).gateway.accept (listed replies).snapshot { id := "caller" }
        { model := "m", messages := [{ role := "user" }] }
      = .ok ⟨⟨"m", .jan, "m"⟩, ⟨.jan, false⟩, ""⟩ := by
  cbv

theorem takeReply_listed (reply : Answer Payload) (rest : List (Answer Payload))
    (delivery : Delivery) (r : ChatRequest) :
    ((listed (reply :: rest)).takeReply .jan delivery r).1 = reply := by
  cbv

/-- A provider that could not be reached receives the call again. -/
theorem delivers_again_to_unreachable :
    let w := listed [{ delay := some 10, result := .error (.unreachable .jan "refused") }]
    let accepted : Accepted := ⟨⟨"m", .jan, "m"⟩, ⟨.jan, false⟩, ""⟩
    let r : ChatRequest := { model := "m", messages := [{ role := "user" }] }
    (w.Reachable ∧ w.stopped = none
      ∧ w.gateway.accept w.snapshot { id := "caller" } r = .ok accepted)
    ∧ ∃ w₁ contacts w₂, w.beginCall none .buffered { id := "caller" } r = .ok w₁
      ∧ Run w₁ contacts w₂
      ∧ ∃ y ∈ contacts, y.time = 210 ∧ y.call = sentCall accepted .buffered r := by
  intro w accepted r
  have reached : w.Reachable := reachable_listed _
  have going : w.stopped = none := stopped_listed _
  have accepts : w.gateway.accept w.snapshot { id := "caller" } r = .ok accepted := accept_listed _
  refine ⟨⟨reached, going, accepts⟩, ?_⟩
  obtain ⟨-, w₁, begun, -, served, passes⟩ :=
    delivers_accepted reached going accepts none .buffered
  -- time passes well beyond the pause, so that the second attempt has been made
  obtain ⟨⟨contacts, run⟩, stopped, met | ⟨now, -⟩⟩ := passes 1000
  · cases met
  have still : w₁.stopped = none := by
    obtain ⟨scripts, rfl⟩ := of_beginCall accepts begun
    exact going
  obtain ⟨first, call, sent, time, answer, -, serves, -⟩ :=
    served contacts _ run (stopped.trans still)
  replace time := time.trans (now_listed _)
  replace answer := answer.trans (takeReply_listed _ _ _ _)
  have passing : first.answer.mayPass = true := by rw [answer]; rfl
  have further : (contacts.filter fun y => y.place = w.running.length) ≠ [] := by
    refine serves.ifPassing passing 10 (by rw [answer]) ?_
    rw [now, time]
    exact Nat.lt_of_lt_of_le (by decide) (Nat.le_max_right _ 1000)
  obtain ⟨y, mem⟩ := List.exists_mem_of_ne_nil _ further
  obtain ⟨-, -, d, answered, later⟩ := serves.onlyIf y mem
  rw [answer] at answered
  cases answered
  refine ⟨w₁, contacts, _, begun, run, y, (List.mem_filter.mp mem).1, ?_, ?_⟩
  · rw [later, time]
  · rw [serves.same y mem, sent]

end World

end Rehearsal

end InferenceGateway
