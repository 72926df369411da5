import InferenceGateway.Registry.Task

/-!
# No stray refresh tasks

Starts and stops of the periodic refresh side by side, in any order of their steps. A start spawns
its task before it has the lock, so that for a while nothing but the call itself knows of it; and
between the exchange of the handles and the abort nothing but the call that has the lock knows of
the earlier task. These are the only live tasks besides the one whose handle is stored.

* `TaskBoard.Unstored`, `TaskBoard.Retiring`: the tasks that only a call knows of.
* `TaskBoard.Guarded`: only the call that has the lock is under way.
* `TaskBoard.Accounted`: the live tasks are those three kinds, and no task is of two of them.
* `TaskBoard.Trace`: the interleavings, with the calls that have taken the lock.
* `TaskBoard.no_stray_tasks`: all of it, with what is left when all calls have returned.
-/

namespace InferenceGateway.Registry

/-- Whether a call has the lock at a stage. -/
def TaskStage.holdsLock : TaskStage → Bool
  | begun | returned => false
  | locked | exchanged _ | settled => true

/-- Whether a call has stored or removed the handle at a stage. -/
def TaskStage.hasExchanged : TaskStage → Bool
  | begun | locked => false
  | exchanged _ | settled | returned => true

namespace TaskBoard

variable {b c : TaskBoard} {i task : Nat} {call : TaskCall} {stage : TaskStage}

@[simp] theorem calls_setStage (b : TaskBoard) (i : Nat) (call : TaskCall) (stage : TaskStage)
    (j : Nat) :
    (b.setStage i call stage).calls j = if j = i then some (call, stage) else b.calls j := rfl

@[simp] theorem stored_setStage (b : TaskBoard) (i : Nat) (call : TaskCall) (stage : TaskStage) :
    (b.setStage i call stage).stored = b.stored := rfl

@[simp] theorem holder_setStage (b : TaskBoard) (i : Nat) (call : TaskCall) (stage : TaskStage) :
    (b.setStage i call stage).holder = b.holder := rfl

@[simp] theorem live_setStage (b : TaskBoard) (i : Nat) (call : TaskCall) (stage : TaskStage) :
    (b.setStage i call stage).live = b.live := rfl

@[simp] theorem calls_setLive (b : TaskBoard) (task : Nat) (live : Bool) :
    (b.setLive task live).calls = b.calls := rfl

@[simp] theorem calls_abort (b : TaskBoard) (previous : Option Nat) :
    (b.abort previous).calls = b.calls := by
  cases previous <;> rfl

@[simp] theorem stored_abort (b : TaskBoard) (previous : Option Nat) :
    (b.abort previous).stored = b.stored := by
  cases previous <;> rfl

@[simp] theorem holder_abort (b : TaskBoard) (previous : Option Nat) :
    (b.abort previous).holder = b.holder := by
  cases previous <;> rfl

/-- Only the task whose handle is given is aborted. -/
theorem live_abort_iff (b : TaskBoard) (previous : Option Nat) (task : Nat) :
    (b.abort previous).live task = true ↔ b.live task = true ∧ previous ≠ some task := by
  cases previous with
  | none => simp [abort]
  | some other =>
    by_cases same : task = other
    · simp [abort, setLive, same]
    · simp [abort, setLive, same, Ne.symm same]

/-! ## The lock -/

/-- A call is between taking and releasing the lock. -/
def Within (b : TaskBoard) (i : Nat) : Prop :=
  ∃ call stage, b.calls i = some (call, stage) ∧ stage.holdsLock = true

/-- Whether a call has the lock is told by its stage. -/
theorem within_iff (h : b.calls i = some (call, stage)) : b.Within i ↔ stage.holdsLock = true := by
  constructor
  · rintro ⟨call', stage', present, holds⟩
    cases h.symm.trans present
    exact holds
  · intro holds
    exact ⟨call, stage, h, holds⟩

/-- A call that changes its stage does not take or release the lock for others. -/
theorem within_setStage (b : TaskBoard) (i : Nat) (call : TaskCall) (stage : TaskStage) (j : Nat) :
    (b.setStage i call stage).Within j ↔ if j = i then stage.holdsLock = true else b.Within j := by
  by_cases here : j = i
  · have present : (b.setStage i call stage).calls j = some (call, stage) := if_pos here
    rw [if_pos here, within_iff present]
  · simp [Within, here]

/-- The call that has the lock is the one between taking and releasing it. -/
def Guarded (b : TaskBoard) : Prop :=
  ∀ i, b.holder = some i ↔ b.Within i

theorem guarded_start : Guarded {} := by
  intro i
  simp [Within]

/-- A stage that has the lock if the one before it had leaves the lock guarded. -/
theorem Guarded.setStage (h : b.Guarded) (call : TaskCall) (stage : TaskStage)
    (same : b.Within i ↔ stage.holdsLock = true) : (b.setStage i call stage).Guarded := by
  intro j
  rw [within_setStage, holder_setStage, h j]
  by_cases here : j = i
  · rw [if_pos here, here, same]
  · rw [if_neg here]

/-- There is one at a time. -/
theorem Guarded.unique (h : b.Guarded) {j : Nat} (hi : b.Within i) (hj : b.Within j) : i = j :=
  Option.some.inj (((h i).mpr hi).symm.trans ((h j).mpr hj))

/-- A call that has not begun is not between taking and releasing the lock. -/
theorem not_within_of_new (new : b.calls i = none) : ¬b.Within i := by
  simp [Within, new]

/-- Every step leaves the lock guarded. -/
theorem Step.guarded (s : Step b c) (h : b.Guarded) : c.Guarded := by
  -- One case for each kind of step; only taking and releasing the lock change who has it.
  cases s with
  | @start i new =>
    have spawned : (b.setLive i true).Guarded := h
    exact spawned.setStage .start .begun (iff_of_false (not_within_of_new new) nofun)
  | @stop i new => exact h.setStage .stop .begun (iff_of_false (not_within_of_new new) nofun)
  | @lock i call begun free =>
    intro j
    rw [within_setStage, holder_setStage]
    by_cases here : j = i
    · simp [here, TaskStage.holdsLock]
    · -- nobody else was under way
      have nobody : ¬b.Within j := fun within => by simpa [free] using (h j).mpr within
      rw [if_neg here]
      exact iff_of_false (fun held => here (Option.some.inj held).symm) nobody
  | @exchange i call locked =>
    have stored : Guarded { b with stored := handleAfter i call } := h
    exact stored.setStage call (.exchanged b.stored) (iff_of_true ((within_iff locked).mpr rfl) rfl)
  | @abort i call previous exchanged =>
    have aborted : (b.abort previous).Guarded := by
      intro j
      simpa [Within] using h j
    have present : (b.abort previous).calls i = some (call, .exchanged previous) := by
      simpa using exchanged
    exact aborted.setStage call .settled (iff_of_true ((within_iff present).mpr rfl) rfl)
  | @release i call settled =>
    have within : b.Within i := (within_iff settled).mpr rfl
    intro j
    rw [within_setStage, holder_setStage]
    by_cases here : j = i
    · simp [here, TaskStage.holdsLock]
    · have nobody : ¬b.Within j := fun other => here (h.unique other within)
      rw [if_neg here]
      exact iff_of_false nofun nobody

/-! ## Tasks that only a call knows of -/

/-- A start has spawned the task, and has not yet stored its handle. -/
def Unstored (b : TaskBoard) (task : Nat) : Prop :=
  b.calls task = some (.start, .begun) ∨ b.calls task = some (.start, .locked)

/-- The call that has the lock has just replaced or removed the handle of the task, and aborts it
next. -/
def Retiring (b : TaskBoard) (task : Nat) : Prop :=
  ∃ i call, b.holder = some i ∧ b.calls i = some (call, .exchanged (some task))

/-- A start has spawned the task, and has stored its handle at some time or not. -/
def Spawned (b : TaskBoard) (task : Nat) (wasStored : Bool) : Prop :=
  ∃ stage, b.calls task = some (.start, stage) ∧ stage.hasExchanged = wasStored

/-- The two stages before a start exchanges the handles. -/
theorem unstored_iff (b : TaskBoard) (task : Nat) : b.Unstored task ↔ b.Spawned task false := by
  constructor
  · rintro (begun | locked)
    · exact ⟨_, begun, rfl⟩
    · exact ⟨_, locked, rfl⟩
  · rintro ⟨stage, spawned, notYet⟩
    cases stage with
    | begun => exact .inl spawned
    | locked => exact .inr spawned
    | exchanged | settled | returned => cases notYet

/-- What a call has spawned and stored is told by its stage. -/
theorem spawned_iff (h : b.calls i = some (call, stage)) (wasStored : Bool) :
    b.Spawned i wasStored ↔ call = .start ∧ stage.hasExchanged = wasStored := by
  constructor
  · rintro ⟨stage', spawned, same⟩
    cases h.symm.trans spawned
    exact ⟨rfl, same⟩
  · rintro ⟨rfl, same⟩
    exact ⟨stage, h, same⟩

/-- A call that changes its stage does not spawn or store anything for others. -/
theorem spawned_setStage (b : TaskBoard) (i : Nat) (call : TaskCall) (stage : TaskStage)
    (task : Nat) (wasStored : Bool) : (b.setStage i call stage).Spawned task wasStored
      ↔ if task = i then call = .start ∧ stage.hasExchanged = wasStored
        else b.Spawned task wasStored := by
  by_cases here : task = i
  · rw [if_pos here]
    subst here
    exact spawned_iff (if_pos rfl) wasStored
  · simp [Spawned, here]

/-- A change of stage that exchanges no handle leaves all tasks as they are. -/
theorem spawned_setStage_of_same (h : b.calls i = some (call, stage)) (next : TaskStage)
    (same : next.hasExchanged = stage.hasExchanged) (task : Nat) (wasStored : Bool) :
    (b.setStage i call next).Spawned task wasStored ↔ b.Spawned task wasStored := by
  rw [spawned_setStage]
  by_cases here : task = i
  · rw [if_pos here, here, spawned_iff h, same]
  · rw [if_neg here]

/-- Only the call that has the lock can retire a task. -/
theorem retiring_iff (held : b.holder = some i) (h : b.calls i = some (call, stage)) (task : Nat) :
    b.Retiring task ↔ stage = .exchanged (some task) := by
  simp [Retiring, held, h]

/-- Only the call that has the lock can begin to retire a task. -/
theorem retiring_setStage (held : b.holder = some i) (call : TaskCall) (stage : TaskStage)
    (task : Nat) : (b.setStage i call stage).Retiring task ↔ stage = .exchanged (some task) := by
  have present : (b.setStage i call stage).calls i = some (call, stage) := if_pos rfl
  exact retiring_iff (b := b.setStage i call stage) held present task

theorem not_retiring_of_free (free : b.holder = none) (task : Nat) : ¬b.Retiring task := by
  simp [Retiring, free]

/-- The live tasks are those whose handle is stored, those not yet stored, and the one that is
aborted next; a task whose handle was replaced or removed is never stored again. -/
structure Accounted (b : TaskBoard) : Prop where
  live : ∀ task, b.live task = true ↔ b.stored = some task ∨ b.Spawned task false ∨ b.Retiring task
  stored : ∀ task, b.stored = some task → b.Spawned task true
  retiring : ∀ task, b.Retiring task → b.Spawned task true ∧ b.stored ≠ some task

theorem accounted_start : Accounted {} where
  live task := by simp [Spawned, Retiring]
  stored task := nofun
  retiring task retiring := absurd retiring (not_retiring_of_free rfl task)

/-- A step that is none of a task leaves all accounted for. -/
theorem Accounted.of_same (h : b.Accounted) (live : c.live = b.live) (stored : c.stored = b.stored)
    (spawned : ∀ task wasStored, c.Spawned task wasStored ↔ b.Spawned task wasStored)
    (retiring : ∀ task, c.Retiring task ↔ b.Retiring task) : c.Accounted := by
  constructor
  · intro task
    rw [live, stored, spawned, retiring]
    exact h.live task
  · intro task
    rw [stored, spawned]
    exact h.stored task
  · intro task
    rw [stored, spawned, retiring]
    exact h.retiring task

/-! ## Calls that begin -/

/-- A call that begins spawns no task but its own. -/
theorem spawned_setStage_of_new (new : b.calls i = none) (call : TaskCall) {task : Nat}
    (other : call = .start → task ≠ i) (wasStored : Bool) :
    (b.setStage i call .begun).Spawned task wasStored ↔ b.Spawned task wasStored := by
  rw [spawned_setStage]
  by_cases here : task = i
  · rw [if_pos here, here]
    refine iff_of_false (fun begun => other begun.1 here) ?_
    simp [Spawned, new]
  · rw [if_neg here]

/-- A call that begins retires no task. -/
theorem retiring_setStage_of_new (new : b.calls i = none) (call : TaskCall) (task : Nat) :
    (b.setStage i call .begun).Retiring task ↔ b.Retiring task := by
  refine exists_congr fun j => exists_congr fun call' => and_congr_right fun _ => ?_
  by_cases here : j = i
  · simp [here, new]
  · simp [here]

/-- A task that is spawned is live, and not stored yet. -/
theorem Accounted.start (h : b.Accounted) (new : b.calls i = none) :
    ((b.setLive i true).setStage i .start .begun).Accounted := by
  have new' : (b.setLive i true).calls i = none := new
  have spawned : ∀ {task wasStored}, task ≠ i →
      (((b.setLive i true).setStage i .start .begun).Spawned task wasStored
        ↔ b.Spawned task wasStored) :=
    fun other => spawned_setStage_of_new new' .start (fun _ => other) _
  have retiring : ∀ task, ((b.setLive i true).setStage i .start .begun).Retiring task
      ↔ b.Retiring task := retiring_setStage_of_new new' .start
  -- what was spawned before is another task
  have other : ∀ {task}, b.Spawned task true → task ≠ i := by
    rintro task ⟨stage, present, -⟩ rfl
    cases new.symm.trans present
  refine ⟨fun task => ?_, fun task stored => ?_, fun task retires => ?_⟩
  -- The task itself becomes live, and all others stay as they were.
  · rw [retiring]
    by_cases here : task = i
    · subst here
      exact iff_of_true (if_pos rfl) (.inr (.inl ⟨.begun, if_pos rfl, rfl⟩))
    · rw [spawned here]
      show (if task = i then true else b.live task) = true ↔ b.stored = some task ∨ _
      rw [if_neg here, h.live task]
  · have before := h.stored task stored
    exact (spawned (other before)).mpr before
  · obtain ⟨before, notStored⟩ := h.retiring task ((retiring task).mp retires)
    exact ⟨(spawned (other before)).mpr before, notStored⟩

/-! ## The call that has the lock -/

/-- Only a start leaves a handle behind, that of its own task. -/
theorem handleAfter_eq_some_iff : handleAfter i call = some task ↔ call = .start ∧ task = i := by
  cases call with
  | start => simp [handleAfter, eq_comm]
  | stop => simp [handleAfter]

/-- When the handles are exchanged, the task of the earlier one becomes the one to be aborted. -/
theorem Accounted.exchange (h : b.Accounted) (held : b.holder = some i)
    (locked : b.calls i = some (call, .locked)) :
    ({ b with stored := handleAfter i call }.setStage i call (.exchanged b.stored)).Accounted := by
  have none : ∀ task, ¬b.Retiring task := by
    intro task
    rw [retiring_iff held locked]
    exact nofun
  have still : { b with stored := handleAfter i call }.holder = some i := held
  have retiring : ∀ task, ({ b with stored := handleAfter i call }.setStage i call
      (.exchanged b.stored)).Retiring task ↔ b.stored = some task := by
    intro task
    rw [retiring_setStage still, TaskStage.exchanged.injEq]
  have own : ∀ wasStored, b.Spawned i wasStored ↔ call = .start ∧ false = wasStored :=
    spawned_iff locked
  -- the call has not stored its handle before
  have other : ∀ {task}, b.stored = some task → task ≠ i := by
    rintro task stored rfl
    cases ((own true).mp (h.stored task stored)).2
  refine ⟨fun task => ?_, fun task stored => ?_, fun task retires => ?_⟩
  · rw [retiring, spawned_setStage]
    show b.live task = true ↔ handleAfter i call = some task ∨ _
    rw [h.live task, handleAfter_eq_some_iff]
    -- The new handle is that of the call itself, and the old one now belongs to a task that
    -- retires.
    by_cases here : task = i
    · subst here
      simp [own, none, TaskStage.hasExchanged, or_comm]
    · simp only [here, none, if_false, and_false, false_or, or_false]
      exact or_comm
  · obtain ⟨start, rfl⟩ := handleAfter_eq_some_iff.mp stored
    exact (spawned_setStage ..).mpr (by rw [if_pos rfl]; exact ⟨start, rfl⟩)
  · have stored : b.stored = some task := (retiring task).mp retires
    refine ⟨?_, fun again => other stored (handleAfter_eq_some_iff.mp again).2⟩
    rw [spawned_setStage, if_neg (other stored)]
    exact h.stored task stored

/-- When that task is aborted, only its handle is gone that is nowhere stored. -/
theorem Accounted.abort {previous : Option Nat} (h : b.Accounted) (held : b.holder = some i)
    (exchanged : b.calls i = some (call, .exchanged previous)) :
    ((b.abort previous).setStage i call .settled).Accounted := by
  have retiring : ∀ task, b.Retiring task ↔ previous = some task := by
    intro task
    rw [retiring_iff held exchanged, TaskStage.exchanged.injEq]
  have none : ∀ task, ¬((b.abort previous).setStage i call .settled).Retiring task := by
    intro task
    rw [retiring_setStage ((holder_abort b previous).trans held)]
    exact nofun
  have present : (b.abort previous).calls i = some (call, .exchanged previous) := by
    simpa using exchanged
  have spawned : ∀ task wasStored,
      ((b.abort previous).setStage i call .settled).Spawned task wasStored
        ↔ b.Spawned task wasStored := by
    intro task wasStored
    rw [spawned_setStage_of_same present .settled rfl]
    simp [Spawned]
  refine ⟨fun task => ?_, fun task stored => ?_, fun task retires => absurd retires (none task)⟩
  · rw [spawned, live_setStage, live_abort_iff, h.live task, stored_setStage, stored_abort]
    constructor
    · rintro ⟨stored | unstored | retires, kept⟩
      · exact .inl stored
      · exact .inr (.inl unstored)
      · exact absurd ((retiring task).mp retires) kept
    · intro known
      have kept : b.stored = some task ∨ b.Spawned task false :=
        known.imp_right fun rest => rest.resolve_right (none task)
      refine ⟨kept.imp_right .inl, fun aborted => ?_⟩
      -- the task that is aborted is neither stored again nor one that was never stored
      obtain ⟨was, notStored⟩ := h.retiring task ((retiring task).mpr aborted)
      rcases kept with stored | unstored
      · exact notStored stored
      · obtain ⟨stage, one, yes⟩ := was
        obtain ⟨stage', two, no⟩ := unstored
        cases one.symm.trans two
        cases yes.symm.trans no
  · rw [stored_setStage, stored_abort] at stored
    exact (spawned task true).mpr (h.stored task stored)

/-- Every step leaves the live tasks accounted for. -/
theorem Step.accounted (s : Step b c) (guarded : b.Guarded) (h : b.Accounted) : c.Accounted := by
  cases s with
  | @start i new => exact h.start new
  | @stop i new =>
    exact h.of_same rfl rfl (fun _ => spawned_setStage_of_new new .stop nofun)
      (retiring_setStage_of_new new .stop)
  | @lock i call begun free =>
    refine h.of_same rfl rfl (spawned_setStage_of_same begun .locked rfl) fun task => ?_
    -- the lock was free, and its new holder has exchanged nothing
    refine iff_of_false ?_ (not_retiring_of_free free task)
    rw [retiring_setStage rfl]
    exact nofun
  | @exchange i call locked =>
    exact h.exchange ((guarded i).mpr ((within_iff locked).mpr rfl)) locked
  | @abort i call previous exchanged =>
    exact h.abort ((guarded i).mpr ((within_iff exchanged).mpr rfl)) exchanged
  | @release i call settled =>
    have held : b.holder = some i := (guarded i).mpr ((within_iff settled).mpr rfl)
    refine h.of_same rfl rfl (spawned_setStage_of_same settled .returned rfl) fun task => ?_
    refine iff_of_false (not_retiring_of_free rfl task) ?_
    rw [retiring_iff held settled]
    exact nofun

/-! ## The last call to take the lock -/

/-- Interleavings, with the calls that have taken the lock, the latest first. -/
inductive Trace : List Nat → TaskBoard → Prop where
  | start : Trace [] {}
  | lock {takers b i call} (h : Trace takers b) (begun : b.calls i = some (call, .begun))
    (free : b.holder = none) :
    Trace (i :: takers) ({ b with holder := some i }.setStage i call .locked)
  | other {takers b c} (h : Trace takers b) (s : Step b c)
    (silent : ∀ i, c.holder = some i → b.holder = some i) : Trace takers c

/-- Nobody gets the lock except by taking it. -/
theorem Step.locks_or_keeps (s : Step b c) :
    (∃ i call, b.calls i = some (call, .begun) ∧ b.holder = none
      ∧ c = { b with holder := some i }.setStage i call .locked)
    ∨ ∀ i, c.holder = some i → b.holder = some i := by
  cases s with
  | @lock i call begun free => exact .inl ⟨i, call, begun, free, rfl⟩
  | start | stop | exchange => exact .inr fun i held => held
  | abort =>
    right
    intro i held
    simpa using held
  | release => exact .inr nofun

/-- Every interleaving is traced. -/
theorem Steps.exists_trace (run : Steps {} b) : ∃ takers, Trace takers b := by
  induction run with
  | refl => exact ⟨[], .start⟩
  | tail _ s ih =>
    obtain ⟨takers, trace⟩ := ih
    rcases s.locks_or_keeps with ⟨i, call, begun, free, rfl⟩ | silent
    · exact ⟨i :: takers, trace.lock begun free⟩
    · exact ⟨takers, trace.other s silent⟩

/-- What is traced is an interleaving. -/
theorem Trace.steps {takers : List Nat} (trace : Trace takers b) : Steps {} b := by
  induction trace with
  | start => exact .refl _
  | lock _ begun free ih => exact ih.tail (.lock begun free)
  | other _ s _ ih => exact ih.tail s

/-- The stored handle is what the last call to take the lock leaves behind, once it has come to
that. -/
structure Led (takers : List Nat) (b : TaskBoard) : Prop where
  holder : ∀ i, b.holder = some i → takers.head? = some i
  unstored : takers = [] → b.stored = none
  last : ∀ i, takers.head? = some i → ∃ call stage, b.calls i = some (call, stage)
    ∧ stage ≠ .begun ∧ (stage.hasExchanged = true → b.stored = handleAfter i call)

theorem led_start : Led [] {} where
  holder := nofun
  unstored _ := rfl
  last := nofun

/-- A call that begins is not the last one to take the lock. -/
theorem Led.begin {takers : List Nat} (h : Led takers b) (new : b.calls i = none)
    (call : TaskCall) : Led takers (b.setStage i call .begun) where
  holder := h.holder
  unstored := h.unstored
  last j head := by
    obtain ⟨call', stage, present, past⟩ := h.last j head
    have other : j ≠ i := by
      rintro rfl
      cases new.symm.trans present
    exact ⟨call', stage, (if_neg other).trans present, past⟩

/-- A step of the call that has the lock. -/
theorem Led.advance {takers : List Nat} (h : Led takers b) (held : b.holder = some i)
    (silent : ∀ j, c.holder = some j → b.holder = some j) (present : c.calls i = some (call, stage))
    (past : stage ≠ .begun) (left : stage.hasExchanged = true → c.stored = handleAfter i call) :
    Led takers c := by
  have head : takers.head? = some i := h.holder i held
  refine ⟨fun j holds => h.holder j (silent j holds), ?_, fun j last => ?_⟩
  · rintro rfl
    cases head
  · cases head.symm.trans last
    exact ⟨call, stage, present, past, left⟩

/-- Once the last call has exchanged the handles, nobody else does. -/
theorem Led.stored_eq {takers : List Nat} (h : Led takers b) (held : b.holder = some i)
    (present : b.calls i = some (call, stage)) (exchanged : stage.hasExchanged = true) :
    b.stored = handleAfter i call := by
  obtain ⟨call', stage', same, -, left⟩ := h.last i (h.holder i held)
  cases present.symm.trans same
  exact left exchanged

/-- No step but the one that takes the lock changes who leads, and only the leader exchanges the
handles. -/
theorem Step.led {takers : List Nat} (s : Step b c) (guarded : b.Guarded)
    (silent : ∀ i, c.holder = some i → b.holder = some i) (h : Led takers b) : Led takers c := by
  cases s with
  | @start i new =>
    have spawned : Led takers (b.setLive i true) := ⟨h.holder, h.unstored, h.last⟩
    exact spawned.begin new .start
  | @stop i new => exact h.begin new .stop
  | @lock i call begun free => cases free.symm.trans (silent i rfl)
  | @exchange i call locked =>
    have held : b.holder = some i := (guarded i).mpr ((within_iff locked).mpr rfl)
    exact h.advance held silent (if_pos rfl) nofun fun _ => rfl
  | @abort i call previous exchanged =>
    have held : b.holder = some i := (guarded i).mpr ((within_iff exchanged).mpr rfl)
    refine h.advance held silent (if_pos rfl) nofun fun _ => ?_
    rw [stored_setStage, stored_abort]
    exact h.stored_eq held exchanged rfl
  | @release i call settled =>
    have held : b.holder = some i := (guarded i).mpr ((within_iff settled).mpr rfl)
    exact h.advance held silent (if_pos rfl) nofun fun _ => h.stored_eq held settled rfl

/-! ## Whole interleavings -/

/-- Whatever has happened since the start, the lock is guarded and the live tasks are accounted
for. -/
theorem Steps.invariants (run : Steps {} b) : b.Guarded ∧ b.Accounted := by
  induction run with
  | refl => exact ⟨guarded_start, accounted_start⟩
  | tail _ s ih => exact ⟨s.guarded ih.1, s.accounted ih.1 ih.2⟩

/-- Whoever has taken the lock last decides what is stored. -/
theorem Trace.led {takers : List Nat} (trace : Trace takers b) : Led takers b := by
  induction trace with
  | start => exact led_start
  | @lock takers b i call earlier begun free ih =>
    refine ⟨?_, nofun, ?_⟩
    · rintro j ⟨⟩
      rfl
    · rintro j ⟨⟩
      exact ⟨call, .locked, if_pos rfl, nofun, nofun⟩
  | other earlier s silent ih => exact s.led earlier.steps.invariants.1 silent ih

/-- Every call that has begun has returned. -/
def AllReturned (b : TaskBoard) : Prop :=
  ∀ i call stage, b.calls i = some (call, stage) → stage = .returned

/-- When all calls have returned, only the stored handle is left. -/
theorem Accounted.live_iff (h : b.Accounted) (returned : b.AllReturned) (task : Nat) :
    b.live task = true ↔ b.stored = some task := by
  have noneUnstored : ¬b.Spawned task false := by
    rintro ⟨stage, present, notYet⟩
    cases returned task .start stage present
    cases notYet
  have noneRetiring : ¬b.Retiring task := by
    rintro ⟨i, call, -, present⟩
    cases returned i call _ present
  rw [h.live task]
  simp [noneUnstored, noneRetiring]

/-- When all calls have returned, the last one to take the lock has left its handle or none. -/
theorem Led.of_allReturned {takers : List Nat} (h : Led takers b) (returned : b.AllReturned)
    (head : takers.head? = some i) :
    ∃ call, b.calls i = some (call, .returned) ∧ b.stored = handleAfter i call := by
  obtain ⟨call, stage, present, -, left⟩ := h.last i head
  cases returned i call stage present
  exact ⟨call, present, left rfl⟩

/-- A call that has begun can have its whole turn when the lock is free. -/
theorem Trace.turn {takers : List Nat} (trace : Trace takers b)
    (begun : b.calls i = some (call, .begun)) (free : b.holder = none) :
    ∃ between after, Trace (i :: takers) between ∧ between.holder = some i
      ∧ between.calls i = some (call, .exchanged b.stored) ∧ between.stored = handleAfter i call
      ∧ Trace (i :: takers) after ∧ after.holder = none ∧ after.stored = handleAfter i call
      ∧ ∀ j, after.calls j = if j = i then some (call, .returned) else b.calls j := by
  have exchanged := (trace.lock begun free).other (.exchange (i := i) (if_pos rfl)) fun _ => id
  have aborted := exchanged.other (.abort (i := i) (if_pos rfl)) fun j held => by simpa using held
  have released := aborted.other (.release (i := i) (if_pos rfl)) nofun
  refine ⟨_, _, exchanged, rfl, if_pos rfl, rfl, released, rfl, by simp, fun j => ?_⟩
  by_cases here : j = i
  · simp [here]
  · simp [here]

/--
What any interleaving of any number of starts and stops comes to. At every point the tasks that are
spawned and not aborted are the one whose handle is stored, those of starts that have not yet stored
theirs, and the one that the call with the lock has just replaced or removed and aborts next. When
all calls have returned, at most one task is live: that of the last call to take the lock, if that
is a start, and none if that is a stop or no call has taken the lock at all.
-/
theorem no_stray_tasks (run : Steps {} b) :
    (∀ task, b.live task = true ↔ b.stored = some task ∨ b.Unstored task ∨ b.Retiring task)
    ∧ (∃ takers, Trace takers b)
    ∧ (b.AllReturned →
        (∀ task other, b.live task = true → b.live other = true → task = other)
        ∧ ∀ takers, Trace takers b →
          (takers = [] → ∀ task, b.live task = false)
          ∧ ∀ last earlier, takers = last :: earlier →
            b.calls last = some (.stop, .returned) ∧ (∀ task, b.live task = false)
            ∨ b.calls last = some (.start, .returned)
              ∧ ∀ task, b.live task = true ↔ task = last) := by
  obtain ⟨-, accounted⟩ := run.invariants
  refine ⟨fun task => ?_, run.exists_trace, fun returned => ⟨fun task other one two => ?_, ?_⟩⟩
  · rw [unstored_iff]
    exact accounted.live task
  · rw [accounted.live_iff returned] at one two
    exact Option.some.inj (one.symm.trans two)
  · intro takers trace
    -- once all have returned, what is live is what is stored
    have dead : b.stored = none → ∀ task, b.live task = false := by
      intro none task
      rw [Bool.eq_false_iff, ne_eq, accounted.live_iff returned, none]
      exact nofun
    refine ⟨fun nobody => dead (trace.led.unstored nobody), ?_⟩
    rintro last earlier rfl
    obtain ⟨call, present, left⟩ := trace.led.of_allReturned returned rfl
    cases call with
    | stop => exact .inl ⟨present, dead left⟩
    | start =>
      refine .inr ⟨present, fun task => ?_⟩
      rw [accounted.live_iff returned, left, handleAfter_eq_some_iff]
      simp

/-- Two starts spawn their tasks before either has the lock, and a stop has it last. When the second
start has stored its handle, both tasks are live; in the end neither is. -/
theorem none_left_after_late_stop : ∃ between b, Steps {} between ∧ Steps {} b
    ∧ between.Retiring 0 ∧ between.stored = some 1 ∧ between.live 0 = true ∧ between.live 1 = true
    ∧ b.AllReturned ∧ Trace [2, 1, 0] b ∧ ∀ task, b.live task = false := by
  have begun := ((Trace.start.other (.start (i := 0) rfl) nofun).other
    (.start (i := 1) rfl) nofun).other (.stop (i := 2) rfl) nofun
  obtain ⟨-, b₁, -, -, -, -, first, free₁, stored₁, calls₁⟩ := begun.turn (i := 0) rfl rfl
  obtain ⟨between, b₂, second, held, exchanged, stored, later, free₂, -, calls₂⟩ :=
    first.turn (i := 1) (calls₁ 1) free₁
  obtain ⟨-, b₃, -, -, -, -, third, -, -, calls₃⟩ :=
    later.turn (i := 2) ((calls₂ 2).trans (calls₁ 2)) free₂
  rw [stored₁] at exchanged
  -- the first task has been taken out by the second start, which has not ended it yet
  have retiring : between.Retiring 0 := ⟨1, .start, held, exchanged⟩
  have returned : b₃.AllReturned := by
    intro i call stage present
    rw [calls₃, calls₂, calls₁] at present
    by_cases last : i = 2
    · simp only [last, if_true, Option.some.injEq, Prod.mk.injEq] at present
      exact present.2.symm
    by_cases earlier : i = 1 ∨ i = 0
    · have start : some (TaskCall.start, TaskStage.returned) = some (call, stage) := by
        rcases earlier with rfl | rfl <;> exact present
      cases start
      rfl
    · simp [last, not_or.mp earlier] at present
  obtain ⟨live, -⟩ := no_stray_tasks second.steps
  obtain ⟨-, -, settled⟩ := no_stray_tasks third.steps
  refine ⟨between, b₃, second.steps, third.steps, retiring, stored,
    (live 0).mpr (.inr (.inr retiring)), (live 1).mpr (.inl stored), returned, third, ?_⟩
  rcases ((settled returned).2 _ third).2 2 [1, 0] rfl with ⟨-, none⟩ | ⟨start, -⟩
  · exact none
  · cases (calls₃ 2).symm.trans start

end TaskBoard

end InferenceGateway.Registry
