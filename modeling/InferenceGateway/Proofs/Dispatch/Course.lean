import InferenceGateway.Proofs.Rehearsal.Runs

/-!
# The course of a call

Where a call can be, from the moment its first attempt begins. Whatever else happens to the
gateway, the call goes through the same few states at times that its answers alone decide, and a
shutdown cuts it off where it is.

* `Answer.mayPass`: whether an answer leads to a second attempt.
* `Course`: the states of a call, by the attempts that it has made.
* `World.OnCourse`: a call under way is on its course; `World.OnCourse.step` says that every step
  keeps it there, and `World.Run.onCourse` says it of whole runs.
-/

namespace InferenceGateway

/-- Whether an answer is an error after which the same call may succeed. -/
def Answer.mayPass {α : Type} (a : Answer α) : Bool :=
  match a.result with
  | .error e => e.isRetriable
  | .ok _ => false

namespace Call

variable {α : Type}

/-- The first answer ends the call, unless it may pass. -/
theorem step_first (now begun : Nat) (a other : Answer α) :
    (trying .first begun a).step now other
      = if a.mayPass then pausing (now + retryPause)
        else .over now (a.result.mapError .ofProvider) := by
  obtain ⟨delay, result⟩ := a
  cases result with
  | ok a => rfl
  | error e =>
    show (if e.isRetriable then _ else _) = if e.isRetriable then _ else _
    rfl

/-- The second answer ends the call, whatever it is. -/
theorem step_second (now begun : Nat) (a other : Answer α) :
    (trying .second begun a).step now other = .over now (a.result.mapError .ofProvider) := by
  obtain ⟨delay, result⟩ := a
  cases result <;> rfl

theorem wake_trying {attempt : Attempt} {begun d : Nat} {a : Answer α}
    (answered : a.delay = some d) : (trying attempt begun a).wake = some (begun + d) :=
  congrArg (Option.map (begun + ·)) answered

/-- A canceled call does not go on by itself. -/
theorem wake_cancel (time : Nat) (c : Call α) : (c.cancel time).wake = none := by
  cases c <;> rfl

/-- Only the first cancellation counts. -/
theorem cancel_cancel (s t : Nat) (c : Call α) : (c.cancel s).cancel t = c.cancel s := by
  cases c <;> rfl

end Call

namespace Rehearsal

/-- The states of a call whose first attempt is `x`, by its further attempts. -/
inductive Course (x : Contact) : List Contact → Call Payload → Prop where
  /-- The first attempt is not answered yet. -/
  | asked : Course x [] (.trying .first x.time x.answer)
  /-- The first answer has ended the call. -/
  | settled {d : Nat} (answered : x.answer.delay = some d) (final : x.answer.mayPass = false) :
    Course x [] (.over (x.time + d) (x.answer.result.mapError .ofProvider))
  /-- The first answer may pass, and the second attempt is still to come. -/
  | pausing {d : Nat} (answered : x.answer.delay = some d) (passing : x.answer.mayPass = true) :
    Course x [] (.pausing (x.time + d + retryPause))
  /-- The second attempt is not answered yet. -/
  | askedAgain {d : Nat} {y : Contact} (answered : x.answer.delay = some d)
    (passing : x.answer.mayPass = true) (same : y.call = x.call)
    (later : y.time = x.time + d + retryPause) :
    Course x [y] (.trying .second y.time y.answer)
  /-- The second answer has ended the call. -/
  | settledAgain {d e : Nat} {y : Contact} (answered : x.answer.delay = some d)
    (passing : x.answer.mayPass = true) (same : y.call = x.call)
    (later : y.time = x.time + d + retryPause) (answeredAgain : y.answer.delay = some e) :
    Course x [y] (.over (y.time + e) (y.answer.result.mapError .ofProvider))

namespace World

/-! ## One call among all -/

/-- The time up to which calls go on; a shutdown ends it. -/
def horizon (w : World) : Nat :=
  w.stopped.getD w.now

/-- What becomes of a call at its place, if the gateway has shut down or not. -/
def halt (w : World) (call : Call Payload) : Call Payload :=
  match w.stopped with
  | none => call
  | some s => call.cancel s

variable {w : World} {s : Nat}

theorem horizon_of_going (going : w.stopped = none) : w.horizon = w.now := by
  unfold horizon
  rw [going]
  rfl

theorem horizon_of_stopped (stopped : w.stopped = some s) : w.horizon = s := by
  unfold horizon
  rw [stopped]
  rfl

theorem halt_of_going (going : w.stopped = none) (c : Call Payload) : w.halt c = c := by
  unfold halt
  rw [going]

theorem halt_of_stopped (stopped : w.stopped = some s) (c : Call Payload) :
    w.halt c = c.cancel s := by
  unfold halt
  rw [stopped]

/-- A call that can still go on is one that no shutdown has cut off. -/
theorem going_of_wake {c : Call Payload} {t : Nat} (wake : (w.halt c).wake = some t) :
    w.stopped = none := by
  rcases Option.eq_none_or_eq_some w.stopped with going | ⟨s, stopped⟩
  · exact going
  · rw [halt_of_stopped stopped, Call.wake_cancel] at wake
    cases wake

/-- The horizon never goes back. -/
theorem horizon_le_max (w : World) (time : Nat) :
    w.horizon ≤ { w with now := max w.now time }.horizon := by
  rcases Option.eq_none_or_eq_some w.stopped with going | ⟨s, stopped⟩
  · rw [horizon_of_going going, horizon_of_going (w := { w with now := max w.now time }) going]
    exact Nat.le_max_left w.now time
  · have still := horizon_of_stopped (w := { w with now := max w.now time }) stopped
    exact Nat.le_of_eq ((horizon_of_stopped stopped).trans still.symm)

/-- The call `r`, whose first attempt is `x`, has come to a state on its course, where nothing of
it is overdue. A shutdown has cut it off there. -/
structure OnCourse (r : Running) (x : Contact) (rest : List Contact) (call : Call Payload)
    (w : World) : Prop where
  sends : x.call = .chat r.accepted.binding.provider r.delivery r.accepted.key r.request
  present : w.running[x.place]? = some { r with call := w.halt call }
  course : Course x rest call
  pending : ∀ t, call.wake = some t → w.horizon ≤ t
  ended : ∀ t result, call = .over t result → t ≤ w.horizon
  made : ∀ y ∈ rest, y.time ≤ w.horizon

namespace OnCourse

variable {r : Running} {x : Contact} {rest : List Contact} {call : Call Payload} {a b : World}

/-- What changes neither the place of a call nor the time leaves the call on its course. -/
theorem of_same (h : OnCourse r x rest call a)
    (present : b.running[x.place]? = a.running[x.place]?) (now : b.now = a.now)
    (stopped : b.stopped = a.stopped) : OnCourse r x rest call b := by
  have horizon : b.horizon = a.horizon := by
    unfold World.horizon
    rw [stopped, now]
  have halt : b.halt call = a.halt call := by
    unfold World.halt
    rw [stopped]
  refine { h with present := ?_, pending := ?_, ended := ?_, made := ?_ }
  · rw [present, halt]
    exact h.present
  · rw [horizon]
    exact h.pending
  · rw [horizon]
    exact h.ended
  · rw [horizon]
    exact h.made

theorem undisturbed (h : OnCourse r x rest call a) (u : Undisturbed a b) :
    OnCourse r x rest call b :=
  h.of_same (by rw [u.running]) u.now u.stopped

theorem place_lt (h : OnCourse r x rest call a) : x.place < a.running.length :=
  (List.getElem?_eq_some_iff.mp h.present).1

/-- Time may pass until something is due, and that is not before the call is. -/
theorem wait (h : OnCourse r x rest call a) {time : Nat} (idle : ∀ d ∈ a.agenda, time ≤ d.1) :
    OnCourse r x rest call { a with now := max a.now time } := by
  refine { h with pending := fun t wake => ?_, ended := fun t result eq => ?_, made := ?_ }
  · -- the call is on the agenda, unless a shutdown has cut it off
    rcases Option.eq_none_or_eq_some a.stopped with going | ⟨s, stopped⟩
    · have present := h.present
      rw [halt_of_going going] at present
      have due : time ≤ t := idle _ (call_mem_agenda.mpr ⟨present, wake⟩)
      have notOver := h.pending t wake
      rw [horizon_of_going going] at notOver
      rw [horizon_of_going (w := { a with now := max a.now time }) going]
      exact Nat.max_le.mpr ⟨notOver, due⟩
    · have notOver := h.pending t wake
      rw [horizon_of_stopped stopped] at notOver
      rw [horizon_of_stopped (w := { a with now := max a.now time }) stopped]
      exact notOver
  · exact Nat.le_trans (h.ended t result eq) (horizon_le_max a time)
  · exact fun y hy => Nat.le_trans (h.made y hy) (horizon_le_max a time)

/-- A call that is put into its next state at its place stays on its course. -/
theorem put (h : OnCourse r x rest call a) (going : a.stopped = none) {rest' : List Contact}
    {call' : Call Payload} (course : Course x rest' call')
    (pending : ∀ t, call'.wake = some t → a.now ≤ t)
    (ended : ∀ t result, call' = .over t result → t ≤ a.now)
    (made : ∀ y ∈ rest', y.time ≤ a.now)
    (running : b.running = a.running.set x.place { r with call := call' })
    (now : b.now = a.now) (stopped : b.stopped = a.stopped) : OnCourse r x rest' call' b := by
  have going' : b.stopped = none := stopped.trans going
  refine ⟨h.sends, ?_, course, ?_, ?_, ?_⟩
  · rw [running, halt_of_going going', List.getElem?_set_self h.place_lt]
  · rw [horizon_of_going going', now]
    exact pending
  · rw [horizon_of_going going', now]
    exact ended
  · rw [horizon_of_going going', now]
    exact made

/-- A call that is due goes on along its course; after its pause it makes its second attempt. -/
theorem stepCall (h : OnCourse r x rest call a) (going : a.stopped = none)
    (due : call.wake = some a.now) :
    ∃ call', OnCourse r x
      (rest ++ if call.isPausing then [a.contact x.place r.accepted r.delivery r.request] else [])
      call' (a.stepCall x.place { r with call := call }) := by
  cases h.course with
  | asked =>
    obtain ⟨d, answered, eq⟩ := Option.map_eq_some_iff.mp due
    have none : ∀ y ∈ ([] : List Contact), y.time ≤ a.now := fun _ hy => nomatch hy
    rw [stepCall_of_not_pausing _ _ rfl]
    dsimp only
    rw [Call.step_first]
    by_cases passing : x.answer.mayPass = true
    · have course : Course x [] (.pausing (a.now + retryPause)) := eq ▸ .pausing answered passing
      rw [if_pos passing]
      refine ⟨_, h.put going course (fun t wake => ?_) (fun _ _ eq => nomatch eq) none
        rfl rfl rfl⟩
      cases wake
      exact Nat.le_add_right a.now retryPause
    · have final : x.answer.mayPass = false := by simpa using passing
      have course : Course x [] (.over a.now (x.answer.result.mapError .ofProvider)) :=
        eq ▸ .settled answered final
      rw [if_neg passing]
      refine ⟨_, h.put going course (fun _ wake => nomatch wake) (fun t result ended => ?_) none
        rfl rfl rfl⟩
      cases ended
      exact Nat.le_refl a.now
  | settled => cases due
  | @pausing d answered passing =>
    have eq : x.time + d + retryPause = a.now := Option.some.inj due
    obtain ⟨scripts, step⟩ := stepCall_of_pausing a x.place
      (r := { r with call := .pausing (x.time + d + retryPause) }) rfl
    rw [step]
    -- the provider receives the same call again, now
    have course : Course x [a.contact x.place r.accepted r.delivery r.request]
        (.trying .second a.now (a.contact x.place r.accepted r.delivery r.request).answer) :=
      .askedAgain answered passing h.sends.symm eq.symm
    refine ⟨_, h.put going course (fun t wake => ?_) (fun _ _ eq => nomatch eq)
      (fun y hy => ?_) rfl rfl rfl⟩
    · obtain ⟨e, -, rfl⟩ := Option.map_eq_some_iff.mp wake
      exact Nat.le_add_right a.now e
    · rw [List.mem_singleton.mp hy]
      exact Nat.le_refl a.now
  | @askedAgain d y answered passing same later =>
    obtain ⟨e, answeredAgain, eq⟩ := Option.map_eq_some_iff.mp due
    rw [stepCall_of_not_pausing _ _ rfl]
    dsimp only
    rw [Call.step_second]
    have course : Course x [y] (.over a.now (y.answer.result.mapError .ofProvider)) :=
      eq ▸ .settledAgain answered passing same later answeredAgain
    have made := h.made
    rw [horizon_of_going going] at made
    refine ⟨_, h.put going course (fun _ wake => nomatch wake) (fun t result ended => ?_) made
      rfl rfl rfl⟩
    cases ended
    exact Nat.le_refl a.now
  | settledAgain => cases due

/-- When something due is done, every call stays on its course. -/
theorem perform (h : OnCourse r x rest call a) {time : Nat} {due : Due}
    (listed : (time, due) ∈ a.agenda) (soonest : ∀ d ∈ a.agenda, time ≤ d.1) :
    ∃ call', OnCourse r x (rest ++ (a.contactsOf time due).filter fun y => y.place = x.place)
      call' (a.perform time due) := by
  have waited := h.wait soonest
  cases due with
  | round =>
    have ended := waited.undisturbed (undisturbed_endRound _)
    exact ⟨call, (List.append_nil rest).symm ▸ ended⟩
  | tick =>
    have ticked := waited.undisturbed (undisturbed_tick _)
    exact ⟨call, (List.append_nil rest).symm ▸ ticked⟩
  | call place r' =>
    obtain ⟨present, wake⟩ := call_mem_agenda.mp listed
    -- either the call itself goes on, or another one
    by_cases here : place = x.place
    · subst here
      have same : r' = { r with call := a.halt call } :=
        Option.some.inj (present.symm.trans h.present)
      subst same
      have going := going_of_wake wake
      rw [halt_of_going going] at wake ⊢
      have notOver := h.pending time wake
      rw [horizon_of_going going] at notOver
      have now : max a.now time = time := Nat.max_eq_right notOver
      obtain ⟨call', onward⟩ := waited.stepCall going (wake.trans (congrArg some now.symm))
      refine ⟨call', ?_⟩
      unfold World.contactsOf
      dsimp only
      by_cases pause : call.isPausing = true
      · rw [if_pos pause] at onward ⊢
        rw [List.filter_cons_of_pos (by exact decide_eq_true rfl), List.filter_nil]
        exact onward
      · rw [if_neg pause] at onward ⊢
        exact onward
    · refine ⟨call, ?_⟩
      have elsewhere : (a.contactsOf time (.call place r')).filter
          (fun y => y.place = x.place) = [] := by
        refine List.filter_eq_nil_iff.mpr fun y hy => ?_
        unfold World.contactsOf at hy
        dsimp only at hy
        split at hy
        · rw [List.mem_singleton.mp hy]
          exact fun eq => here (of_decide_eq_true eq)
        · cases hy
      rw [elsewhere, List.append_nil]
      exact waited.of_same (running_stepCall_of_ne _ r' here) (now_stepCall _ place r')
        (stopped_stepCall _ place r')

/-- A shutdown cuts every call off where it is, and a second one changes nothing. -/
theorem shutdown (h : OnCourse r x rest call a) : OnCourse r x rest call a.shutdown := by
  refine OnCourse.undisturbed ?_ (undisturbed_endTask _)
  have horizon : a.stopped.getD a.now = a.horizon := rfl
  refine { h with present := ?_, pending := h.pending, ended := h.ended, made := h.made }
  show (a.running.map _)[x.place]? = _
  rw [List.getElem?_map, h.present]
  rcases Option.eq_none_or_eq_some a.stopped with going | ⟨s, stopped⟩
  · rw [halt_of_going going]
    simp [halt, going]
  · rw [halt_of_stopped stopped]
    simp [halt, stopped, Call.cancel_cancel]

/-- Every step keeps a call on its course, and adds the attempts that it makes. -/
theorem step (h : OnCourse r x rest call a) {made : List Contact} (s : Step a made b) :
    ∃ call', OnCourse r x (rest ++ made.filter fun y => y.place = x.place) call' b := by
  cases s with
  | wait time idle => exact ⟨call, by simpa using h.wait idle⟩
  | perform listed soonest => exact h.perform listed soonest
  | script p f => exact ⟨call, by simpa using h.undisturbed (undisturbed_script a p f)⟩
  | refresh => exact ⟨call, by simpa using h.undisturbed (undisturbed_beginRefresh a)⟩
  | task interval => exact ⟨call, by simpa using h.undisturbed (undisturbed_startTask a interval)⟩
  | @begin _ accepted id delivery caller request accepts begun =>
    -- another call has a place of its own
    have elsewhere : a.running.length ≠ x.place := Nat.ne_of_gt h.place_lt
    have none : [a.opening accepted delivery request].filter (fun y => y.place = x.place) = [] :=
      List.filter_cons_of_neg fun eq => elsewhere (of_decide_eq_true eq)
    obtain ⟨scripts, other, rfl⟩ := begun.exists_began accepts
    refine ⟨call, ?_⟩
    rw [none, List.append_nil]
    exact h.of_same (List.getElem?_append_left h.place_lt) rfl rfl
  | shutdown => exact ⟨call, by simpa using h.shutdown⟩

end OnCourse

/-- However the gateway goes on, every call stays on its course. -/
theorem Run.onCourse {a b : World} {contacts : List Contact} (h : Run a contacts b) {r : Running}
    {x : Contact} {rest : List Contact} {call : Call Payload} (start : OnCourse r x rest call a) :
    ∃ call', OnCourse r x (rest ++ contacts.filter fun y => y.place = x.place) call' b := by
  induction h with
  | refl => exact ⟨call, by simpa using start⟩
  | tail _ s ih =>
    obtain ⟨call', onward⟩ := ih
    rw [List.filter_append, ← List.append_assoc]
    exact onward.step s

/-- A request that is accepted begins as a call on its course. -/
theorem onCourse_opening {w w' : World} {accepted : Accepted} {id : Option String}
    {delivery : Delivery} {caller : Caller} {r : ChatRequest}
    (accepts : w.gateway.accept w.snapshot caller r = .ok accepted)
    (begun : w.beginCall id delivery caller r = .ok w') :
    OnCourse (w.opened id accepted delivery r) (w.opening accepted delivery r) []
      (.trying .first w.now (w.opening accepted delivery r).answer) w' := by
  have going := going_of_beginCall accepts begun
  obtain ⟨scripts, rfl⟩ := of_beginCall accepts begun
  have still :
      (w.began id accepted delivery r scripts (w.opened id accepted delivery r).call).stopped
        = none := going
  refine ⟨rfl, ?_, .asked, fun t wake => ?_, (fun _ _ eq => nomatch eq), ?_⟩
  · rw [halt_of_going still]
    exact List.getElem?_concat_length
  · obtain ⟨d, -, rfl⟩ := Option.map_eq_some_iff.mp wake
    rw [horizon_of_going still]
    exact Nat.le_add_right w.now d
  · exact fun _ hy => nomatch hy

end World

end Rehearsal

end InferenceGateway
