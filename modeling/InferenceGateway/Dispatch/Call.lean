import InferenceGateway.Chat.Response
import InferenceGateway.Dispatch.Acceptance

/-!
# Calls to providers

An accepted request goes to its provider under the id that the provider knows the model by. If the
first attempt fails in a way that may pass, there is one more attempt after a pause. A shutdown of
the gateway cancels a call at once. Times are milliseconds.

* `outgoing`: the request that a provider gets.
* `Call`: a call under way; `Call.wake`, `Call.step` and `Call.cancel` say how it goes on.
* `Call.alone`: where a call ends up, from the answers to its attempts.
* `ChatResponse.served`: the answer that the client gets.
-/

namespace InferenceGateway

/-- The request that a provider gets. -/
def outgoing (delivery : Delivery) (binding : Binding) (r : ChatRequest) : ChatRequest :=
  { r with
    model := binding.providerId
    stream := match delivery with
      | .buffered => r.stream
      | .streamed => some true }

/-- The answer that the client gets: the model has its public id. -/
def ChatResponse.served (binding : Binding) (r : ChatResponse) : ChatResponse :=
  { r with model := binding.publicId }

/-- The pause before the second attempt. -/
def retryPause : Nat := 200

/-- What a provider answers to an attempt. -/
structure Answer (α : Type) where
  /-- How long the answer takes; none is forever. -/
  delay : Option Nat := some 0
  result : Except ProviderError α

/-- The attempts that a call may make. -/
inductive Attempt where
  | first
  | second
  deriving DecidableEq, Repr

/-- A call under way. -/
inductive Call (α : Type) where
  /-- An attempt began at `begun` and will be answered. -/
  | trying (attempt : Attempt) (begun : Nat) (answer : Answer α)
  /-- The second attempt begins at `resume`. -/
  | pausing (resume : Nat)
  /-- The call ended at `time`. -/
  | over (time : Nat) (result : Except GatewayError α)

namespace Call

/-- When a call goes on by itself, if ever. -/
def wake : Call α → Option Nat
  | trying _ begun answer => answer.delay.map (begun + ·)
  | pausing resume => some resume
  | .over .. => none

/-- Whether the next step is an attempt. -/
def isPausing : Call α → Bool
  | pausing _ => true
  | _ => false

/-- A call goes on at a time; `answer` is what an attempt that begins now will get. -/
def step (now : Nat) (answer : Answer α) : Call α → Call α
  | trying attempt _ got =>
    match attempt, got.result with
    | .first, .error e =>
      if e.isRetriable then pausing (now + retryPause) else .over now (.error (.ofProvider e))
    | .second, .error e => .over now (.error (.ofProvider e))
    | _, .ok a => .over now (.ok a)
  | pausing _ => trying .second now answer
  | .over time result => .over time result

/-- The gateway shuts down while a call is under way. -/
def cancel (now : Nat) : Call α → Call α
  | .over time result => .over time result
  | _ => .over now (.error .canceled)

/-- Where a call is whose first attempt is made after the shutdown: an answer that is there at once
may end it, and otherwise it is canceled. -/
def late (now : Nat) (answer : Answer α) : Call α :=
  match answer.delay with
  | some 0 => ((trying .first now answer).step now answer).cancel now
  | _ => .over now (.error .canceled)

/-- Goes on until the call is over, at most `fuel` times; the gateway shuts down at `stop`. -/
def settle (second : Answer α) (stop : Option Nat) : Nat → Call α → Call α
  | 0, call => call
  | fuel + 1, call =>
    match call.wake, stop with
    | none, none => call
    | none, some s => call.cancel s
    | some t, none => settle second stop fuel (call.step t second)
    | some t, some s =>
      if s ≤ t then call.cancel s else settle second stop fuel (call.step t second)

/-- Where a call that begins at a time ends up; after three steps at most it is over. -/
def alone (begin : Nat) (first second : Answer α) (stop : Option Nat) : Call α :=
  settle second stop 4 (trying .first begin first)

/-- The result of a call without regard to time, from the answers to its attempts. -/
def conclude (first second : Except ProviderError α) : Except GatewayError α :=
  match first with
  | .error e => if e.isRetriable then second.mapError .ofProvider else .error (.ofProvider e)
  | .ok a => .ok a

end Call

end InferenceGateway
