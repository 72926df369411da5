import InferenceGateway.Proofs.Dispatch.Delivery
import InferenceGateway.Proofs.Rehearsal.Shutdown

/-!
# What a shutdown does to a call

A shutdown may come while a call waits for its first answer, during its pause, while it waits for
its second answer, or after its end. In each case the call ends as if nothing had happened, or
there and then.

* `Call.completion`: when a call ends that no shutdown cuts off.
* `CutOff`: how a call ends, whichever comes first.
* `cancels_calls_under_way`: the call of an accepted request and a shutdown at any time.
-/

namespace InferenceGateway

namespace Call

variable {α : Type}

/-- When a call that begins at a time ends by itself, if ever. -/
def completion (begin : Nat) (first second : Answer α) : Option Nat :=
  if first.mayPass then
    first.delay.bind fun d => second.delay.map (begin + d + 200 + ·)
  else first.delay.map (begin + ·)

theorem settle_over (second : Answer α) (fuel t : Nat) (result : Except GatewayError α) :
    settle second none fuel (.over t result) = .over t result := by
  cases fuel <;> rfl

theorem settle_of_wake (second : Answer α) (fuel : Nat) {c : Call α} {t : Nat}
    (wake : c.wake = some t) :
    settle second none (fuel + 1) c = settle second none fuel (c.step t second) := by
  simp only [settle, wake]

/-- The result that the answers lead to is the last one. -/
theorem conclude_eq (first second : Answer α) : conclude first.result second.result
    = (if first.mayPass then second.result else first.result).mapError .ofProvider := by
  obtain ⟨delay, result⟩ := first
  cases result with
  | ok a => rfl
  | error e =>
    show (if e.isRetriable then _ else _) = (if e.isRetriable then _ else _ : Except _ _).mapError _
    split <;> rfl

/-- A call that nothing cuts off ends in time, with the result of its answers. -/
theorem alone_of_completion {begin t : Nat} {first second : Answer α}
    (h : completion begin first second = some t) :
    alone begin first second none = .over t (conclude first.result second.result) := by
  unfold completion at h
  unfold alone
  rw [conclude_eq]
  by_cases passing : first.mayPass = true
  · rw [if_pos passing] at h ⊢
    obtain ⟨d, answered, h⟩ := Option.bind_eq_some_iff.mp h
    obtain ⟨e, answeredAgain, rfl⟩ := Option.map_eq_some_iff.mp h
    -- the first answer, the pause, and the second answer
    rw [settle_of_wake _ _ (wake_trying answered), step_first, if_pos passing,
      settle_of_wake _ _ rfl]
    dsimp only [step]
    rw [settle_of_wake _ _ (wake_trying answeredAgain), step_second]
    exact settle_over _ _ _ _
  · rw [if_neg passing] at h ⊢
    obtain ⟨d, answered, rfl⟩ := Option.map_eq_some_iff.mp h
    rw [settle_of_wake _ _ (wake_trying answered), step_first, if_neg passing]
    exact settle_over _ _ _ _

end Call

namespace Rehearsal

/-! ## When calls end -/

section

variable {first : Contact} {further : List Contact} {now : Nat} {call : Call Payload}
  {second : Answer Payload}

/-- A call that is served has made its one attempt, or both. -/
theorem Served.further_cases (h : Served first further now call) :
    further = [] ∨ ∃ y d, further = [y] ∧ first.answer.mayPass = true
      ∧ first.answer.delay = some d ∧ y.time = first.time + d + 200 := by
  have atMostTwo := h.atMostTwo
  have onlyIf := h.onlyIf
  match further with
  | [] => exact .inl rfl
  | [y] =>
    obtain ⟨passing, -, d, answered, later⟩ := onlyIf y (List.mem_singleton_self y)
    exact .inr ⟨y, d, rfl, passing, answered, later⟩
  | _ :: _ :: _ =>
    rw [List.length_cons, List.length_cons] at atMostTwo
    omega

/-- A call is over once the time has passed at which its answers end it. -/
theorem Served.over_of_completion (h : Served first further now call)
    (scripted : ∀ y ∈ further, y.answer = second) {t : Nat}
    (completes : Call.completion first.time first.answer second = some t) (late : t < now) :
    call = .over t (Call.conclude first.answer.result second.result) := by
  unfold Call.completion at completes
  rw [Call.conclude_eq]
  have ends := h.ends
  by_cases passing : first.answer.mayPass = true
  · rw [if_pos passing] at completes ⊢
    obtain ⟨d, answered, completes⟩ := Option.bind_eq_some_iff.mp completes
    obtain ⟨e, answeredAgain, rfl⟩ := Option.map_eq_some_iff.mp completes
    -- the pause has passed too, so the second attempt has been made
    have again : further ≠ [] := h.ifPassing passing d answered (by omega)
    obtain nothing | ⟨y, d', rfl, -, answered', later⟩ := h.further_cases
    · exact absurd nothing again
    · cases answered.symm.trans answered'
      have same : y.answer = second := scripted y (List.mem_singleton_self y)
      rw [← later] at late ⊢
      rw [← same] at answeredAgain ⊢
      exact ends (fun _ => again) e answeredAgain late
  · rw [if_neg passing] at completes ⊢
    obtain ⟨d, answered, rfl⟩ := Option.map_eq_some_iff.mp completes
    obtain rfl | ⟨_, _, -, passing', -⟩ := h.further_cases
    · exact ends (fun passing' => absurd passing' passing) d answered late
    · exact absurd passing' passing

/-- No call is over before its answers end it. -/
theorem Served.completion_of_over (h : Served first further now call)
    (scripted : ∀ y ∈ further, y.answer = second) {t : Nat} {result : Except GatewayError Payload}
    (eq : call = .over t result) :
    Call.completion first.time first.answer second = some t ∧ t ≤ now := by
  obtain ⟨past, again, answered, -⟩ := h.endsOnly t result eq
  refine ⟨?_, past⟩
  unfold Call.completion
  obtain rfl | ⟨y, d, rfl, passing, answeredFirst, later⟩ := h.further_cases
  · have final : first.answer.mayPass ≠ true := fun passing => again passing rfl
    rw [if_neg final]
    exact answered
  · have same : y.answer = second := scripted y (List.mem_singleton_self y)
    rw [if_pos passing, answeredFirst, Option.bind_some, ← same, ← later]
    exact answered

/-- The end of a call whose answers are given, where the gateway shuts down at `s`. -/
structure CutOff (begin s : Nat) (first second : Answer Payload) (call : Call Payload) : Prop where
  /-- A call that ends earlier ends as without the shutdown. -/
  finished : ∀ t, Call.completion begin first second = some t → t < s →
    call = .over t (Call.conclude first.result second.result)
      ∧ call = Call.alone begin first second none
  /-- A call that would end later, or never, is canceled at once. -/
  canceled : (∀ t, Call.completion begin first second = some t → s < t) →
    call = .over s (.error .canceled)

theorem Served.cutOff (h : Served first further now call)
    (scripted : ∀ y ∈ further, y.answer = second) :
    CutOff first.time now first.answer second (call.cancel now) where
  finished := by
    intro t completes early
    have eq := h.over_of_completion scripted completes early
    have ended : call.Ended := ⟨t, _, eq⟩
    -- the shutdown comes too late for a call that is over
    rw [ended.cancel_eq, eq]
    exact ⟨rfl, (Call.alone_of_completion completes).symm⟩
  canceled := by
    intro late
    refine Call.cancel_of_not_ended ?_ now
    rintro ⟨t, result, eq⟩
    obtain ⟨completes, past⟩ := h.completion_of_over scripted eq
    exact absurd past (Nat.not_le.mpr (late t completes))

end

namespace World

/-! ## Calls and shutdowns -/

/--
A request that is accepted, and a shutdown at any later time. Whatever else happens before and
afterwards, in any order, the call ends at its own time if that is before the shutdown, and is
canceled at the time of the shutdown if it is not. A second attempt is made only before the
shutdown, and then after its pause; afterwards the provider receives nothing of this call, whatever
it receives of requests that come later. A second shutdown changes nothing, and the snapshot stays
until a further round replaces it.
-/
theorem cancels_calls_under_way {w : World} (reached : w.Reachable) (going : w.stopped = none)
    {caller : Caller} {r : ChatRequest} {accepted : Accepted}
    (accepts : w.gateway.accept w.snapshot caller r = .ok accepted) (id : Option String)
    (delivery : Delivery) :
    ∃ w₁ first, w.beginCall id delivery caller r = .ok w₁
      ∧ first = (w.takeReply accepted.binding.provider delivery
          (outgoing delivery accepted.binding r)).1
      ∧ (∀ s, w.now ≤ s → ∃ before b, Run w₁ before b ∧ b.stopped = none ∧ b.now = s)
      ∧ ∀ before b, Run w₁ before b → b.stopped = none →
        (∀ y ∈ before, y.place = w.running.length → first.mayPass = true ∧ y.time ≤ b.now
          ∧ ∃ d, first.delay = some d ∧ y.time = w.now + d + 200)
        ∧ (∀ after w₂, Run b.shutdown after w₂ →
          (∀ y ∈ after, y.place ≠ w.running.length)
          ∧ w₂.chats = b.chats ++ after.map Contact.call
          ∧ ∀ second, (∀ y ∈ before, y.place = w.running.length → y.answer = second) →
            ∃ call, w₂.running[w.running.length]?
                = some { w.opened id accepted delivery r with call }
              ∧ CutOff w.now b.now first second call)
        ∧ b.shutdown.shutdown = b.shutdown
        ∧ (∀ after w₂, Run b.shutdown after w₂ → w₂.task = none → w₂.shutdown = w₂)
        ∧ b.shutdown.snapshot = b.snapshot
        ∧ (∀ after w₂, Run b.shutdown after w₂ →
          w₂.snapshot = b.snapshot ∨ b.snapshot.generation < w₂.snapshot.generation)
        ∧ ((∀ f ∈ b.refreshes, f.asker = .task) →
          ∀ time, (b.shutdown.runTo time).snapshot = b.snapshot) := by
  obtain ⟨scripts, begun⟩ := beginCall_eq_ok id accepts going
  have began := Run.single (.begin id delivery caller r accepts (.inl begun))
  refine ⟨_, _, begun, rfl, ?_, ?_⟩
  · intro s later
    have passes := passes_runTo s (reached.trans began).ticking
    obtain ⟨before, run⟩ := passes.run
    obtain met | ⟨now, -⟩ := passes.reached
    · cases met
    · exact ⟨before, _, run, passes.stopped.trans going, now.trans (Nat.max_eq_right later)⟩
  -- up to the shutdown the call is served as if there were none
  intro before b run still
  obtain ⟨call, onCourse⟩ := run.onCourse (onCourse_opening accepts begun)
  have served := onCourse.served still
  have halted : b.shutdown.Halted b.now := by
    have halted := halted_shutdown b
    rw [still] at halted
    exact halted
  refine ⟨?_, ?_, shutdown_shutdown b, ?_, snapshot_shutdown b, ?_, ?_⟩
  · intro y mem own
    exact served.onlyIf y (List.mem_filter.mpr ⟨mem, decide_eq_true own⟩)
  · intro after w₂ run₂
    obtain ⟨-, rests⟩ := run₂.halted halted
    have cut := onCourse.shutdown.present
    rw [halt_of_stopped halted.stopped] at cut
    refine ⟨fun y mem here => ?_, ?_, fun second scripted => ⟨call.cancel b.now, ?_, ?_⟩⟩
    · -- the place is taken already
      have taken := onCourse.shutdown.place_lt
      have free := rests.others y mem
      rw [here] at free
      exact absurd taken (Nat.not_lt_of_le free)
    · have kept : b.shutdown.chats = b.chats := (undisturbed_endTask _).chats
      rw [run₂.chats_eq, kept]
    · obtain ⟨later, same⟩ := rests.kept
      rw [← same]
      exact (List.getElem?_append_left onCourse.shutdown.place_lt).trans cut
    · refine served.cutOff fun y mem => ?_
      obtain ⟨mem, own⟩ := List.mem_filter.mp mem
      exact scripted y mem (of_decide_eq_true own)
  · intro after w₂ run₂ idle
    obtain ⟨halted₂, -⟩ := run₂.halted halted
    exact halted₂.shutdown_eq (run₂.invariant Step.orderly (orderly_endTask _)) idle
  · intro after w₂ run₂
    have kept := run₂.snapshot
    rw [snapshot_shutdown] at kept
    exact kept
  · intro unasked time
    rw [runTo_of_idle (agenda_shutdown unasked)]
    exact snapshot_shutdown b

/-- A call whose answer never comes ends with the shutdown. -/
theorem cancels_call_without_answer :
    let w := listed [{ delay := none, result := .ok (.stream []) }]
    let accepted : Accepted := ⟨⟨"m", .jan, "m"⟩, ⟨.jan, false⟩, ""⟩
    let r : ChatRequest := { model := "m", messages := [{ role := "user" }] }
    (w.Reachable ∧ w.stopped = none
      ∧ w.gateway.accept w.snapshot { id := "caller" } r = .ok accepted)
    ∧ ∃ w₁ before b, w.beginCall none .streamed { id := "caller" } r = .ok w₁
      ∧ Run w₁ before b ∧ b.now = 1000
      ∧ ∀ after w₂, Run b.shutdown after w₂ →
        w₂.running[0]?.map Running.call = some (.over 1000 (.error .canceled)) := by
  intro w accepted r
  have reached : w.Reachable := reachable_listed _
  have going : w.stopped = none := stopped_listed _
  have accepts : w.gateway.accept w.snapshot { id := "caller" } r = .ok accepted := accept_listed _
  refine ⟨⟨reached, going, accepts⟩, ?_⟩
  obtain ⟨w₁, first, begun, answer, times, cancels⟩ :=
    cancels_calls_under_way reached going accepts none .streamed
  replace answer := answer.trans (takeReply_listed _ _ _ _)
  obtain ⟨before, b, run, still, now⟩ := times 1000 (by rw [now_listed]; exact Nat.zero_le _)
  refine ⟨w₁, before, b, begun, run, now, fun after w₂ run₂ => ?_⟩
  obtain ⟨retries, cut, -⟩ := cancels before b run still
  -- a second attempt follows an answer only, and there has been none
  have alone : ∀ y ∈ before, y.place = w.running.length → y.answer = first := by
    intro y mem own
    have passing := (retries y mem own).1
    rw [answer] at passing
    cases passing
  obtain ⟨call, present, cutOff⟩ := (cut after w₂ run₂).2.2 first alone
  have never : Call.completion w.now first first = none := by rw [answer]; rfl
  have canceled : call = .over b.now (.error .canceled) := by
    refine cutOff.canceled fun t completes => ?_
    rw [never] at completes
    cases completes
  rw [running_listed] at present
  rw [List.length_nil] at present
  rw [present, Option.map_some, canceled, now]

end World

end Rehearsal

end InferenceGateway
