/-!
# The task of periodic refreshes

Calls start and stop the one task that refreshes the registry now and then, and may overlap. A
start spawns its task, takes the lock, stores the task's handle and aborts the task whose handle it
replaced. A stop takes the lock, removes the handle and aborts its task. Both release the lock when
that is done.

* `TaskBoard`: the tasks, the stored handle, and how far each call has come.
* `TaskBoard.Step`: one step of one call; `TaskBoard.Steps` any number of them.
-/

namespace InferenceGateway.Registry

/-- What a call does. -/
inductive TaskCall where
  | start
  | stop
  deriving DecidableEq, Repr

/-- How far a call has come. -/
inductive TaskStage where
  /-- A start that has spawned its task, or a stop that has begun. -/
  | begun
  /-- It has the lock. -/
  | locked
  /-- It has stored or removed the handle, and will abort the task of the earlier one. -/
  | exchanged (previous : Option Nat)
  /-- It has aborted that task, if there was one. -/
  | settled
  /-- It has released the lock. -/
  | returned
  deriving DecidableEq, Repr

/-- The tasks, the handle and the calls. A task has the number of the call that spawned it. -/
structure TaskBoard where
  /-- The task whose handle is stored. -/
  stored : Option Nat := none
  /-- The call that has the lock. -/
  holder : Option Nat := none
  /-- Whether a task is spawned and not aborted. -/
  live : Nat → Bool := fun _ => false
  calls : Nat → Option (TaskCall × TaskStage) := fun _ => none

namespace TaskBoard

/-- The same with one call at another stage. -/
def setStage (b : TaskBoard) (i : Nat) (call : TaskCall) (stage : TaskStage) : TaskBoard :=
  { b with calls := fun j => if j = i then some (call, stage) else b.calls j }

/-- The same with one task spawned or aborted. -/
def setLive (b : TaskBoard) (task : Nat) (live : Bool) : TaskBoard :=
  { b with live := fun j => if j = task then live else b.live j }

/-- The same with a task aborted, if there is one. -/
def abort (b : TaskBoard) : Option Nat → TaskBoard
  | some task => b.setLive task false
  | none => b

/-- The handle that a call leaves behind. -/
def handleAfter (i : Nat) : TaskCall → Option Nat
  | .start => some i
  | .stop => none

/-- One step. -/
inductive Step : TaskBoard → TaskBoard → Prop where
  | start {b i} (h : b.calls i = none) : Step b ((b.setLive i true).setStage i .start .begun)
  | stop {b i} (h : b.calls i = none) : Step b (b.setStage i .stop .begun)
  | lock {b i call} (h : b.calls i = some (call, .begun)) (free : b.holder = none) :
    Step b ({ b with holder := some i }.setStage i call .locked)
  | exchange {b i call} (h : b.calls i = some (call, .locked)) :
    Step b ({ b with stored := handleAfter i call }.setStage i call (.exchanged b.stored))
  | abort {b i call previous} (h : b.calls i = some (call, .exchanged previous)) :
    Step b ((b.abort previous).setStage i call .settled)
  | release {b i call} (h : b.calls i = some (call, .settled)) :
    Step b ({ b with holder := none }.setStage i call .returned)

/-- Any number of steps. -/
inductive Steps : TaskBoard → TaskBoard → Prop where
  | refl (b : TaskBoard) : Steps b b
  | tail {a b c} (h : Steps a b) (s : Step b c) : Steps a c

end TaskBoard

end InferenceGateway.Registry
