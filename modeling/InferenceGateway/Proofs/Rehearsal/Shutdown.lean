import InferenceGateway.Proofs.Rehearsal.Clock

/-!
# After a shutdown

A shutdown ends every call that is not over, there and then, and afterwards no provider hears of
them again; what it may receive are the first attempts of requests that come later. Listings are
retained, refreshes that a visitor has asked for go on, and a second shutdown finds nothing to do.

* `World.Halted`: no call is under way any more; `Run.halted` says that it stays so, and that no
  provider receives anything of the calls before.
* `World.Orderly`: the invariant of the refreshes under way.
* `Halted.shutdown_eq`, `shutdown_shutdown`: what a second shutdown does.
* `Run.snapshot`: what may replace a snapshot.
-/

namespace InferenceGateway

namespace Call

variable {α : Type}

/-- Whether a call is over. -/
def Ended (c : Call α) : Prop :=
  ∃ t result, c = .over t result

/-- To cancel a call ends it, if it has not ended before. -/
theorem ended_cancel (s : Nat) (c : Call α) : (c.cancel s).Ended := by
  cases c <;> exact ⟨_, _, rfl⟩

/-- A call that is sent after the shutdown is over at once. -/
theorem ended_late (now : Nat) (answer : Answer α) : (late now answer).Ended := by
  unfold late
  split
  · exact ended_cancel _ _
  · exact ⟨now, _, rfl⟩

/-- A call that has ended is not canceled any more. -/
theorem Ended.cancel_eq {c : Call α} (h : c.Ended) (s : Nat) : c.cancel s = c := by
  obtain ⟨t, result, rfl⟩ := h
  rfl

theorem Ended.wake_eq {c : Call α} (h : c.Ended) : c.wake = none := by
  obtain ⟨t, result, rfl⟩ := h
  rfl

/-- A call that is not over is canceled. -/
theorem cancel_of_not_ended {c : Call α} (h : ¬c.Ended) (s : Nat) :
    c.cancel s = .over s (.error .canceled) := by
  match c with
  | .trying .. => rfl
  | .pausing _ => rfl
  | .over t result => exact absurd ⟨t, result, rfl⟩ h

end Call

namespace Rehearsal.World

/-! ## The end of all calls -/

/-- The gateway was shut down at a time, and all calls are over. -/
structure Halted (s : Nat) (w : World) : Prop where
  stopped : w.stopped = some s
  ended : ∀ r ∈ w.running, r.call.Ended

/-- A shutdown ends all calls, and the time of the first one is kept. -/
theorem halted_shutdown (w : World) : w.shutdown.Halted (w.stopped.getD w.now) where
  stopped := (undisturbed_endTask _).stopped
  ended := by
    intro r mem
    have running : w.shutdown.running
        = w.running.map fun r => { r with call := r.call.cancel w.now } :=
      (undisturbed_endTask _).running
    rw [running] at mem
    obtain ⟨r, -, rfl⟩ := List.mem_map.mp mem
    exact Call.ended_cancel w.now r.call

theorem Halted.undisturbed {s : Nat} {a b : World} (h : a.Halted s) (u : Undisturbed a b) :
    b.Halted s where
  stopped := u.stopped.trans h.stopped
  ended := u.running ▸ h.ended

/-- A further shutdown finds no call to cut off. -/
theorem Halted.running_cancel_eq {s : Nat} {w : World} (h : w.Halted s) :
    (w.running.map fun r => { r with call := r.call.cancel w.now }) = w.running := by
  refine (List.map_congr_left (g := id) fun r mem => ?_).trans (List.map_id _)
  rw [(h.ended r mem).cancel_eq]
  rfl

/-- A further shutdown touches no call. -/
theorem Halted.undisturbed_shutdown {s : Nat} {w : World} (h : w.Halted s) :
    Undisturbed w w.shutdown := by
  refine .trans ?_ (undisturbed_endTask _)
  refine ⟨h.running_cancel_eq, rfl, ?_, rfl⟩
  · show some (w.stopped.getD w.now) = w.stopped
    rw [h.stopped]
    rfl

/-- What has become of the calls of a world in which all are over: they stay as they are, and no
provider receives anything of them. -/
structure Rests (a b : World) (made : List Contact) : Prop where
  kept : a.running <+: b.running
  others : ∀ y ∈ made, a.running.length ≤ y.place

theorem Rests.of_undisturbed {a b : World} (u : Undisturbed a b) : Rests a b [] where
  kept := u.running ▸ List.prefix_rfl
  others := List.forall_mem_nil _

theorem Rests.trans {a b c : World} {made made' : List Contact} (h : Rests a b made)
    (k : Rests b c made') : Rests a c (made ++ made') where
  kept := h.kept.trans k.kept
  others y mem := (List.mem_append.mp mem).elim (h.others y)
    fun later => Nat.le_trans h.kept.length_le (k.others y later)

/-- Once all calls are over they rest. -/
theorem Step.halted {s : Nat} {a b : World} {made : List Contact} (step : Step a made b)
    (h : a.Halted s) : b.Halted s ∧ Rests a b made := by
  -- Only the shutdown and the calls themselves touch calls; the calls are over, and the shutdown
  -- leaves them so.
  cases step with
  | wait => exact ⟨⟨h.stopped, h.ended⟩, ⟨List.prefix_rfl, List.forall_mem_nil _⟩⟩
  | @perform time due listed least =>
    have later : { a with now := max a.now time }.Halted s := ⟨h.stopped, h.ended⟩
    cases due with
    | round =>
      have u := undisturbed_endRound { a with now := max a.now time }
      exact ⟨later.undisturbed u, ⟨u.running ▸ List.prefix_rfl, List.forall_mem_nil _⟩⟩
    | tick =>
      have u := undisturbed_tick { a with now := max a.now time }
      exact ⟨later.undisturbed u, ⟨u.running ▸ List.prefix_rfl, List.forall_mem_nil _⟩⟩
    | call place r =>
      -- no call is due any more
      obtain ⟨present, wake⟩ := call_mem_agenda.mp listed
      rw [(h.ended r (List.mem_of_getElem? present)).wake_eq] at wake
      cases wake
  | script p f =>
    have u := undisturbed_script a p f
    exact ⟨h.undisturbed u, .of_undisturbed u⟩
  | refresh =>
    have u := undisturbed_beginRefresh a
    exact ⟨h.undisturbed u, .of_undisturbed u⟩
  | task interval =>
    have u := undisturbed_startTask a interval
    exact ⟨h.undisturbed u, .of_undisturbed u⟩
  | begin id delivery caller r accepts begun =>
    rcases begun.cases accepts with ⟨scripts, going, -⟩ | ⟨scripts, -, rfl⟩
    · rw [h.stopped] at going
      cases going
    · -- a request that is sent yet has a place of its own, and its call is over
      refine ⟨⟨h.stopped, fun x mem => ?_⟩, ⟨List.prefix_append _ _, fun y mem => ?_⟩⟩
      · rcases List.mem_append.mp mem with before | now
        · exact h.ended x before
        · rw [List.mem_singleton.mp now]
          exact Call.ended_late _ _
      · rw [List.mem_singleton.mp mem]
        exact Nat.le_refl _
  | shutdown =>
    have u := h.undisturbed_shutdown
    exact ⟨h.undisturbed u, .of_undisturbed u⟩

/-- They do so in any run that follows. -/
theorem Run.halted {s : Nat} {a b : World} {contacts : List Contact} (run : Run a contacts b)
    (h : a.Halted s) : b.Halted s ∧ Rests a b contacts := by
  induction run with
  | refl => exact ⟨h, .of_undisturbed (.refl a)⟩
  | tail _ step ih =>
    obtain ⟨halted, rests⟩ := ih
    obtain ⟨halted', rests'⟩ := step.halted halted
    exact ⟨halted', rests.trans rests'⟩

/-! ## A second shutdown -/

/-- The refreshes under way are in order: the first one has its round, and there are none of a task
that has ended. -/
structure Orderly (w : World) : Prop where
  begun : ∀ r rest, w.refreshes = r :: rest → r.round.isSome
  owned : w.task = none → ∀ r ∈ w.refreshes, r.asker ≠ .task

/-- Where refreshes are in order there is no round to begin. -/
theorem Orderly.beginRound_eq {w : World} (h : w.Orderly) : w.beginRound = w := by
  unfold beginRound
  split
  · next eq =>
    have some := h.begun _ _ eq
    cases some
  · rfl

/-- To begin the first round puts refreshes in order. -/
theorem orderly_beginRound {w : World}
    (owned : w.task = none → ∀ r ∈ w.refreshes, r.asker ≠ .task) : w.beginRound.Orderly := by
  unfold beginRound
  split
  · next asker rest eq =>
    rw [eq] at owned
    constructor
    · rintro r rest ⟨⟩
      rfl
    · intro none r mem
      rcases List.mem_cons.mp mem with rfl | mem
      · exact owned none { asker } List.mem_cons_self
      · exact owned none r (List.mem_cons_of_mem _ mem)
  · next begun =>
    refine ⟨fun r rest eq => ?_, owned⟩
    obtain ⟨asker, none | round⟩ := r
    · exact absurd eq (begun asker rest)
    · rfl

/-- To end the task drops its refreshes, and another one may begin its round. -/
theorem orderly_endTask (w : World) : w.endTask.Orderly := by
  refine orderly_beginRound fun _ r mem => ?_
  simpa using (List.mem_filter.mp mem).2

/-- The end of a round lets the next refresh begin its own. -/
theorem Orderly.endRound {w : World} (h : w.Orderly) : w.endRound.Orderly := by
  unfold World.endRound
  split
  · next asker _ listings rest eq =>
    refine orderly_beginRound fun none r mem => ?_
    -- whatever waits after the round has waited during it
    have old : r ∈ w.refreshes := by
      rw [eq]
      cases asker <;> exact List.mem_cons_of_mem _ mem
    refine h.owned ?_ r old
    cases asker with
    | visitor => exact none
    | task => exact Option.map_eq_none_iff.mp none
  · exact h

theorem Orderly.tick {w : World} (h : w.Orderly) : w.tick.Orderly := by
  unfold World.tick
  split
  · exact orderly_beginRound fun none => nomatch none
  · exact h

/-- A refresh of a visitor is none of the task. -/
theorem Orderly.beginRefresh {w : World} (h : w.Orderly) : w.beginRefresh.Orderly := by
  refine orderly_beginRound fun none r mem => ?_
  rcases List.mem_append.mp mem with mem | mem
  · exact h.owned none r mem
  · rw [List.mem_singleton.mp mem]
    exact nofun

theorem orderly_startTask (w : World) (interval : Nat) : (w.startTask interval).Orderly := by
  unfold startTask
  dsimp only
  split
  · exact orderly_endTask w
  · exact ⟨(orderly_endTask w).begun, nofun⟩

theorem Orderly.stepCall {w : World} (h : w.Orderly) (place : Nat) (r : Running) :
    (w.stepCall place r).Orderly := by
  obtain ⟨scripts, log, answer, eq⟩ := stepCall_eq w place r
  rw [eq]
  exact ⟨h.begun, h.owned⟩

/-- Refreshes stay in order, whatever happens. -/
theorem Step.orderly {a b : World} {made : List Contact} (s : Step a made b) (h : a.Orderly) :
    b.Orderly := by
  cases s with
  | wait => exact ⟨h.begun, h.owned⟩
  | @perform time due =>
    have later : { a with now := max a.now time }.Orderly := ⟨h.begun, h.owned⟩
    cases due with
    | round => exact later.endRound
    | tick => exact later.tick
    | call place r => exact later.stepCall place r
  | script => exact ⟨h.begun, h.owned⟩
  | refresh => exact h.beginRefresh
  | task interval => exact orderly_startTask a interval
  | begin id delivery caller r accepts begun =>
    obtain ⟨scripts, call, rfl⟩ := begun.exists_began accepts
    exact ⟨h.begun, h.owned⟩
  | shutdown => exact orderly_endTask _

/-- A shutdown finds nothing to do where there has been one and no task has been started since. -/
theorem Halted.shutdown_eq {s : Nat} {w : World} (h : w.Halted s) (orderly : w.Orderly)
    (idle : w.task = none) : w.shutdown = w := by
  -- A shutdown writes four fields, each with what is there already.
  have same : ∀ {stopped running task refreshes}, stopped = w.stopped → running = w.running →
      task = w.task → refreshes = w.refreshes →
      { w with stopped, running, task, refreshes } = w := by
    rintro _ _ _ _ rfl rfl rfl rfl
    rfl
  have stopped : some (w.stopped.getD w.now) = w.stopped := by
    rw [h.stopped]
    rfl
  have refreshes : w.refreshes.filter (fun r => r.asker != .task) = w.refreshes :=
    List.filter_eq_self.mpr fun r mem => bne_iff_ne.mpr (orderly.owned idle r mem)
  unfold shutdown endTask
  dsimp only
  rw [same stopped h.running_cancel_eq idle.symm refreshes]
  exact orderly.beginRound_eq

theorem task_shutdown (w : World) : w.shutdown.task = none :=
  task_beginRound _

/-- Two shutdowns are one. -/
theorem shutdown_shutdown (w : World) : w.shutdown.shutdown = w.shutdown :=
  (halted_shutdown w).shutdown_eq (orderly_endTask _) (task_shutdown w)

/-! ## The snapshot -/

/-- A round that begins publishes nothing yet. -/
theorem snapshot_beginRound (w : World) : w.beginRound.snapshot = w.snapshot := by
  unfold beginRound
  split <;> rfl

theorem snapshot_shutdown (w : World) : w.shutdown.snapshot = w.snapshot :=
  snapshot_beginRound _

/-- Where nothing is due, time passes and nothing else happens. -/
theorem runTo_of_idle {w : World} (idle : w.agenda = []) (time : Nat) :
    w.runTo time = { w with now := max w.now time } := by
  unfold runTo runUntil budget
  simp only [runWithin, idle, soonest]
  rfl

/-- A shutdown leaves nothing due where nobody but the task waits for a refresh. -/
theorem agenda_shutdown {w : World} (unasked : ∀ r ∈ w.refreshes, r.asker = .task) :
    w.shutdown.agenda = [] := by
  have refreshes : w.shutdown.refreshes = [] := by
    have dropped : w.refreshes.filter (fun r => r.asker != .task) = [] := by
      refine List.filter_eq_nil_iff.mpr fun r mem => ?_
      rw [unasked r mem]
      exact Bool.false_ne_true
    have length : w.shutdown.refreshes.length
        = (w.refreshes.filter fun r => r.asker != .task).length := length_refreshes_beginRound _
    rw [dropped] at length
    exact List.eq_nil_of_length_eq_zero length
  -- no round is under way, there is no task, and no call goes on
  refine List.eq_nil_iff_forall_not_mem.mpr fun d mem => ?_
  rcases mem_agenda.mp mem with ⟨_, _, _, eq, -⟩ | ⟨_, eq, -⟩ | ⟨_, r, present, wake, -⟩
  · rw [refreshes] at eq
    cases eq
  · rw [task_shutdown] at eq
    cases eq
  · rw [((halted_shutdown w).ended r (List.mem_of_getElem? present)).wake_eq] at wake
    cases wake

/-- A snapshot is replaced by that of one more round, or not at all. -/
theorem snapshot_endRound (w : World) : w.endRound.snapshot = w.snapshot
    ∨ w.endRound.snapshot.generation = w.snapshot.generation + 1 := by
  unfold endRound
  split
  · next asker _ listings rest eq =>
    refine .inr ?_
    dsimp only
    rw [snapshot_beginRound]
    cases asker <;> rfl
  · exact .inl rfl

/-- Neither does a task that asks for a refresh. -/
theorem snapshot_tick (w : World) : w.tick.snapshot = w.snapshot := by
  unfold tick
  split
  · exact snapshot_beginRound _
  · rfl

theorem snapshot_startTask (w : World) (interval : Nat) :
    (w.startTask interval).snapshot = w.snapshot := by
  have ended : w.endTask.snapshot = w.snapshot := snapshot_beginRound _
  unfold startTask
  dsimp only
  split <;> exact ended

/-- Only the end of a round publishes a snapshot, of the next generation. -/
theorem Step.snapshot {a b : World} {made : List Contact} (s : Step a made b) :
    b.snapshot = a.snapshot ∨ b.snapshot.generation = a.snapshot.generation + 1 := by
  cases s with
  | wait => exact .inl rfl
  | @perform time due =>
    cases due with
    | round => exact snapshot_endRound { a with now := max a.now time }
    | tick => exact .inl (snapshot_tick _)
    | call place r =>
      obtain ⟨scripts, log, answer, eq⟩ := stepCall_eq { a with now := max a.now time } place r
      exact .inl (congrArg World.snapshot eq :)
  | script => exact .inl rfl
  | refresh => exact .inl (snapshot_beginRound _)
  | task interval => exact .inl (snapshot_startTask a interval)
  | begin id delivery caller r accepts begun =>
    obtain ⟨scripts, call, rfl⟩ := begun.exists_began accepts
    exact .inl rfl
  | shutdown => exact .inl (snapshot_shutdown a)

/-- A snapshot stays until a further round replaces it. -/
theorem Run.snapshot {a b : World} {contacts : List Contact} (h : Run a contacts b) :
    b.snapshot = a.snapshot ∨ a.snapshot.generation < b.snapshot.generation := by
  induction h with
  | refl => exact .inl rfl
  | tail _ s ih =>
    rcases s.snapshot with same | next
    · rw [same]
      exact ih
    · rcases ih with same | more
      · rw [next, same]
        exact .inr (Nat.lt_succ_self _)
      · rw [next]
        exact .inr (Nat.lt_succ_of_lt more)

end Rehearsal.World

end InferenceGateway
