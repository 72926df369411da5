import InferenceGateway.Proofs.Rehearsal.Runs

/-!
# Letting time pass

`World.runTo` does what is due up to a time, one thing after the other. How much that can be is
bounded: a call goes on at most three times, a refresh ends once, and the task asks for refreshes
some time apart. So the budget of `World.runTo` is never used up, and letting time pass is a run.

* `World.work`: how much can be done up to a limit; `World.work_perform` says that it gets less.
* `World.Passes`: what is due up to a limit is done, in a run.
* `World.passes_runUntil`: the budget is enough for that; `Run.ticking` says that its condition, a
  task whose refreshes are some time apart, always holds.
-/

namespace InferenceGateway

/-- How often a call can still go on. -/
def Call.remaining {α : Type} : Call α → Nat
  | trying .first .. => 3
  | pausing _ => 2
  | trying .second .. => 1
  | .over .. => 0

/-- A call goes on three times at most: its first attempt fails, it has paused, its second attempt
ends. -/
theorem Call.remaining_le {α : Type} (c : Call α) : c.remaining ≤ 3 := by
  match c with
  | .trying .first .. => exact Nat.le_refl 3
  | .pausing _ => simp [remaining]
  | .trying .second .. => simp [remaining]
  | .over .. => exact Nat.zero_le 3

/-- A call that goes on can go on less often. -/
theorem Call.remaining_step {α : Type} {c : Call α} {t : Nat} (wake : c.wake = some t) (now : Nat)
    (answer : Answer α) : (c.step now answer).remaining < c.remaining := by
  -- The cases are those in which a call can be, and what its attempt has come to.
  match c with
  | .trying .first begun ⟨delay, .ok a⟩ => simp [step, remaining]
  | .trying .first begun ⟨delay, .error e⟩ =>
    -- it pauses, or it ends
    show (if e.isRetriable then _ else _ : Call α).remaining < 3
    split <;> simp [remaining]
  | .pausing _ => simp [step, remaining]
  | .trying .second begun ⟨delay, result⟩ => cases result <;> simp [step, remaining]
  | .over .. => cases wake

namespace Rehearsal.World

/-! ## What is left to do -/

/-- How often all calls together can still go on. -/
def callWork : List Running → Nat
  | [] => 0
  | r :: rest => r.call.remaining + callWork rest

theorem callWork_cons (r : Running) (rest : List Running) :
    callWork (r :: rest) = r.call.remaining + callWork rest := rfl

theorem callWork_le (running : List Running) : callWork running ≤ 3 * running.length := by
  induction running with
  | nil => decide
  | cons r rest ih =>
    have first := r.call.remaining_le
    rw [callWork_cons, List.length_cons]
    omega

/-- It counts for all calls if one of them has less left to do. -/
theorem callWork_set {running : List Running} {place : Nat} {r r' : Running}
    (h : running[place]? = some r) (less : r'.call.remaining < r.call.remaining) :
    callWork (running.set place r') < callWork running := by
  induction running generalizing place with
  | nil => cases h
  | cons first rest ih =>
    cases place with
    | zero =>
      cases h
      exact Nat.add_lt_add_right less _
    | succ place => exact Nat.add_lt_add_left (ih h) _

/-- How often the task can ask for a refresh up to a limit. -/
def ticks (limit : Nat) (w : World) : Nat :=
  match w.task with
  | some t => limit + 1 - t.due
  | none => 0

/-- How much can be done up to a limit: a tick also brings a refresh, which has to end. -/
def work (limit : Nat) (w : World) : Nat :=
  callWork w.running + w.refreshes.length + 2 * w.ticks limit

/-- The budget is beyond what can be done. -/
theorem work_lt_budget (limit : Nat) (w : World) : w.work limit < w.budget limit := by
  have calls := callWork_le w.running
  have ticks : w.budget limit
      = 4 * w.running.length + 2 * w.refreshes.length + 2 * w.ticks limit + 4 := rfl
  unfold work
  omega

/-- The refreshes of the task are some time apart. -/
def Ticking (w : World) : Prop :=
  ∀ t, w.task = some t → 0 < t.interval

/-! ## Rounds -/

theorem task_beginRound (w : World) : w.beginRound.task = w.task := by
  unfold beginRound
  split <;> rfl

/-- A round is begun for a refresh that waits already. -/
theorem length_refreshes_beginRound (w : World) :
    w.beginRound.refreshes.length = w.refreshes.length := by
  unfold beginRound
  split
  · next eq =>
    rw [eq]
    rfl
  · rfl

/-- To begin a round is no progress; it is only over when it has ended. -/
theorem work_beginRound (limit : Nat) (w : World) : w.beginRound.work limit = w.work limit := by
  unfold work ticks
  rw [length_refreshes_beginRound, (undisturbed_beginRound w).running, task_beginRound]

/-- The end of a round leaves one refresh less. -/
theorem work_endRound (limit : Nat) {w : World} {asker : Asker} {rest : List Refresh}
    {round : Nat × List (Provider × Listing)}
    (h : w.refreshes = { asker, round := some round } :: rest) :
    w.endRound.work limit < w.work limit := by
  have more : w.refreshes.length = rest.length + 1 := by rw [h]; rfl
  unfold endRound
  rw [h]
  dsimp only
  rw [work_beginRound]
  unfold work ticks
  rw [more]
  cases asker with
  | visitor =>
    dsimp only
    omega
  | task =>
    -- the task is free again, and due when it was
    cases w.task with
    | none =>
      dsimp only [Option.map]
      omega
    | some t =>
      dsimp only [Option.map]
      omega

/-- A refresh of the task that is due before the limit uses up one of its times. -/
theorem work_tick {limit : Nat} {w : World} {t : Task} (h : w.task = some t)
    (early : t.due ≤ limit) (apart : 0 < t.interval) : w.tick.work limit < w.work limit := by
  unfold tick enqueue
  rw [h]
  dsimp only
  rw [work_beginRound]
  unfold work ticks
  rw [h]
  dsimp only
  rw [List.length_append, List.length_singleton]
  -- one refresh more against one tick less, which counts twice
  omega

/-- A call that goes on has less left to do. -/
theorem work_stepCall (limit : Nat) {w : World} {place time : Nat} {r : Running}
    (present : w.running[place]? = some r) (wake : r.call.wake = some time) :
    (w.stepCall place r).work limit < w.work limit := by
  obtain ⟨scripts, log, answer, eq⟩ := stepCall_eq w place r
  rw [eq]
  have less : callWork (w.running.set place { r with call := r.call.step w.now answer })
      < callWork w.running := callWork_set present (Call.remaining_step wake w.now answer)
  exact Nat.add_lt_add_right (Nat.add_lt_add_right less _) _

/-- Whatever is done before a limit, less is left to do. -/
theorem work_perform {limit time : Nat} {w : World} {due : Due} (listed : (time, due) ∈ w.agenda)
    (early : time ≤ limit) (ticking : w.Ticking) :
    (w.perform time due).work limit < w.work limit := by
  -- On the agenda are the end of a round, a tick of the task and calls that go on.
  rcases mem_agenda.mp listed with ⟨asker, listings, rest, refreshes, rfl⟩
    | ⟨t, task, -, rfl, rfl⟩ | ⟨place, r, present, wake, rfl⟩
  · exact work_endRound (w := { w with now := max w.now time }) limit refreshes
  · exact work_tick (w := { w with now := max w.now t.due }) task early (ticking t task)
  · exact work_stepCall (w := { w with now := max w.now time }) limit present wake

/-! ## The task -/

theorem Ticking.of_task_eq {a b : World} (h : a.Ticking) (task : b.task = a.task) : b.Ticking :=
  fun t eq => h t (task ▸ eq)

theorem ticking_of_no_task {w : World} (task : w.task = none) : w.Ticking :=
  fun _ eq => nomatch task ▸ eq

theorem Ticking.enqueue {w : World} (h : w.Ticking) (asker : Asker) : (w.enqueue asker).Ticking :=
  h.of_task_eq (task_beginRound _)

/-- The end of its round sets the task free, with the same interval as before. -/
theorem Ticking.endRound {w : World} (h : w.Ticking) : w.endRound.Ticking := by
  unfold World.endRound
  split
  · next asker _ _ _ _ =>
    cases asker with
    | visitor => exact h.of_task_eq (task_beginRound _)
    | task =>
      -- The round was one of the task; its time is set anew, and its interval is kept.
      intro t eq
      obtain ⟨t', task, rfl⟩ := Option.map_eq_some_iff.mp ((task_beginRound _).symm.trans eq)
      exact h t' task
  · exact h

/-- The task comes again after the same interval. -/
theorem Ticking.tick {w : World} (h : w.Ticking) : w.tick.Ticking := by
  unfold World.tick
  split
  · next t task =>
    refine Ticking.enqueue (fun t' eq => ?_) .task
    cases eq
    exact h t task
  · exact h

theorem Ticking.stepCall {w : World} (h : w.Ticking) (place : Nat) (r : Running) :
    (w.stepCall place r).Ticking := by
  obtain ⟨scripts, log, answer, eq⟩ := stepCall_eq w place r
  rw [eq]
  exact h

/-- Nothing that falls due changes the interval of the task. -/
theorem Ticking.perform {w : World} (h : w.Ticking) (time : Nat) (due : Due) :
    (w.perform time due).Ticking := by
  have later : { w with now := max w.now time }.Ticking := h
  cases due with
  | round => exact later.endRound
  | tick => exact later.tick
  | call place r => exact later.stepCall place r

theorem ticking_endTask (w : World) : w.endTask.Ticking :=
  ticking_of_no_task (task_beginRound _)

/-- A task without an interval is none. -/
theorem ticking_startTask (w : World) (interval : Nat) : (w.startTask interval).Ticking := by
  unfold startTask
  dsimp only
  split
  · exact ticking_endTask w
  · next positive =>
    intro t eq
    cases eq
    exact Nat.pos_of_ne_zero positive

/-- A task is only ever started with an interval. -/
theorem Step.ticking {a b : World} {made : List Contact} (s : Step a made b) (h : a.Ticking) :
    b.Ticking := by
  cases s with
  | wait => exact h
  | perform => exact h.perform _ _
  | script => exact h
  | refresh =>
    have asked : { a with refreshed := none }.Ticking := h
    exact asked.enqueue .visitor
  | task interval => exact ticking_startTask a interval
  | begin id delivery caller r accepts begun =>
    obtain ⟨scripts, call, rfl⟩ := begun.exists_began accepts
    exact h
  | shutdown => exact ticking_endTask _

/-- However a gateway has come about, the refreshes of its task are some time apart. -/
theorem Run.ticking {a b : World} {contacts : List Contact} (h : Run a contacts b)
    (start : a.Ticking) : b.Ticking :=
  h.invariant Step.ticking start

/-! ## Time -/

/-- Something is due first if anything is due. -/
theorem eq_nil_of_soonest_eq_none {agenda : List (Nat × Due)} (h : soonest agenda = none) :
    agenda = [] := by
  cases agenda with
  | nil => rfl
  | cons first rest =>
    unfold soonest at h
    split at h
    · split at h <;> cases h
    · cases h

/-- What is done first is due, and nothing is due sooner. -/
theorem of_soonest_eq_some {agenda : List (Nat × Due)} {d : Nat × Due}
    (h : soonest agenda = some d) : d ∈ agenda ∧ ∀ e ∈ agenda, d.1 ≤ e.1 := by
  induction agenda generalizing d with
  | nil => cases h
  | cons first rest ih =>
    unfold soonest at h
    -- at the same time what is listed first is done first
    cases later : soonest rest with
    | none =>
      rw [later] at h
      cases h
      rw [eq_nil_of_soonest_eq_none later]
      exact ⟨List.mem_cons_self, fun f hf => Nat.le_of_eq (by rw [List.mem_singleton.mp hf])⟩
    | some e =>
      obtain ⟨mem, least⟩ := ih later
      rw [later] at h
      dsimp only at h
      split at h
      · next sooner =>
        cases h
        refine ⟨List.mem_cons_of_mem _ mem, fun f hf => ?_⟩
        rcases List.mem_cons.mp hf with rfl | hf
        · exact Nat.le_of_lt sooner
        · exact least f hf
      · next notSooner =>
        cases h
        refine ⟨List.mem_cons_self, fun f hf => ?_⟩
        rcases List.mem_cons.mp hf with rfl | hf
        · exact Nat.le_refl _
        · exact Nat.le_trans (Nat.le_of_not_lt notSooner) (least f hf)

/-- The clock goes to where something falls due, and never back. -/
theorem now_perform (w : World) (time : Nat) (due : Due) :
    (w.perform time due).now = max w.now time := by
  cases due with
  | round => exact (undisturbed_endRound _).now
  | tick => exact (undisturbed_tick _).now
  | call place r => exact now_stepCall _ place r

/-- Nothing that falls due is a shutdown. -/
theorem stopped_perform (w : World) (time : Nat) (due : Due) :
    (w.perform time due).stopped = w.stopped := by
  cases due with
  | round => exact (undisturbed_endRound _).stopped
  | tick => exact (undisturbed_tick _).stopped
  | call place r => exact stopped_stepCall _ place r

/-- What is due is done, one after the other, until a condition holds or a limit has come. -/
structure Passes (holds : World → Bool) (limit : Nat) (a b : World) : Prop where
  run : ∃ contacts, Run a contacts b
  stopped : b.stopped = a.stopped
  reached : holds b = true ∨ b.now = max a.now limit ∧ ∀ d ∈ b.agenda, limit < d.1

/-- Where nothing is due up to the limit, time passes at once. -/
theorem passes_wait {holds : World → Bool} {limit : Nat} {w : World}
    (idle : ∀ d ∈ w.agenda, limit < d.1) :
    Passes holds limit w { w with now := max w.now limit } where
  run := ⟨[], .single (.wait limit fun d hd => Nat.le_of_lt (idle d hd))⟩
  stopped := rfl
  reached := .inr ⟨rfl, idle⟩

/-- What is due soonest may be done first. -/
theorem Passes.perform {holds : World → Bool} {limit time : Nat} {w w' : World} {due : Due}
    (listed : (time, due) ∈ w.agenda) (least : ∀ d ∈ w.agenda, time ≤ d.1) (early : time ≤ limit)
    (rest : Passes holds limit (w.perform time due) w') : Passes holds limit w w' where
  run := by
    obtain ⟨contacts, onward⟩ := rest.run
    exact ⟨_, (Run.single (.perform listed least)).trans onward⟩
  stopped := rest.stopped.trans (stopped_perform w time due)
  reached := by
    rcases rest.reached with met | ⟨now, done⟩
    · exact .inl met
    · rw [now_perform, Nat.max_assoc, Nat.max_eq_right early] at now
      exact .inr ⟨now, done⟩

/-- With enough fuel nothing is left undone. -/
theorem passes_runWithin (holds : World → Bool) {limit fuel : Nat} {w : World}
    (ticking : w.Ticking) (enough : w.work limit < fuel) :
    Passes holds limit w (runWithin holds limit fuel w) := by
  induction fuel generalizing w with
  | zero => cases enough
  | succ fuel ih =>
    unfold runWithin
    split
    · next met => exact ⟨⟨[], .refl w⟩, rfl, .inl met⟩
    · -- each thing done leaves less to do than there is fuel
      cases first : soonest w.agenda with
      | none =>
        have nothing := eq_nil_of_soonest_eq_none first
        exact passes_wait fun d hd => by rw [nothing] at hd; cases hd
      | some d =>
        obtain ⟨listed, least⟩ := of_soonest_eq_some first
        dsimp only
        split
        · next early =>
          have less := work_perform listed early ticking
          exact .perform listed least early (ih (ticking.perform _ _) (by omega))
        · next late =>
          exact passes_wait fun e he => Nat.lt_of_lt_of_le (Nat.lt_of_not_le late) (least e he)

/-- The budget is enough. -/
theorem passes_runUntil (holds : World → Bool) (limit : Nat) {w : World} (ticking : w.Ticking) :
    Passes holds limit w (w.runUntil holds limit) :=
  passes_runWithin holds ticking (work_lt_budget limit w)

/-- So time passes up to where it is let pass. -/
theorem passes_runTo (time : Nat) {w : World} (ticking : w.Ticking) :
    Passes (fun _ => false) time w (w.runTo time) :=
  passes_runUntil _ time ticking

end Rehearsal.World

end InferenceGateway
