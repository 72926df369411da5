import InferenceGateway.Http.Fault
import InferenceGateway.Stream.Source

/-!
# Streams that must not fall silent

The body of a streamed answer, passed on unchanged, with a bound on the silence between two
chunks. The deadline is set when the stream opens and after each chunk that is handed out; it
counts only while nothing is ready. The first error is the last item. A deadline is an instant of
the system's clock, which does not hold every time.

* `lastInstant`: the last time that the clock holds.
* `Watched`: any stream under such a bound.
* `Idle`: the one that is opened over the body of an answer.
-/

namespace InferenceGateway.Stream

/-- The last time that an instant can be: the clock counts seconds in 64 bits, one for the sign. -/
def lastInstant : Nat := UInt64.size / 2 * 1000 - 1

/-- Where a deadline is put, from the time it is set, that lies beyond the last instant. -/
def farAhead : Nat := 30 * 365 * 86400 * 1000

/-- A stream that fails when the one within is silent for too long. -/
structure Watched (σ : Type) where
  source : σ
  /-- The longest silence that is borne. -/
  idle : Nat
  deadline : Nat
  done : Bool := false
  deriving DecidableEq, Repr

/-- The deadline of a stream that opens now. -/
def openingDeadline (now idle : Nat) : Nat :=
  if now + idle ≤ lastInstant then now + idle else now + farAhead

/-- A stream that opens now. -/
def Watched.start (now idle : Nat) (source : σ) : Watched σ where
  source := source
  idle := idle
  deadline := openingDeadline now idle

/-- What a silent stream is waiting for. -/
def nextChunk : String := "next stream chunk"

/-- What a stream with a fault was waiting for. -/
def streamBody : String := "stream body"

/-- Looks at the stream on behalf of a provider. Handing out a chunk fails where the new deadline
would lie beyond the last instant. -/
def Watched.look (inner : Nat → σ → Look Http.Fault × σ) (p : Provider) (now : Nat)
    (s : Watched σ) : Look ProviderError × Watched σ :=
  if s.done then (.ready .finished, s)
  else
    match inner now s.source with
    | (.ready (.chunk bytes), source) =>
      if now + s.idle ≤ lastInstant then
        (.ready (.chunk bytes), { s with source, deadline := now + s.idle })
      else (.crash, { s with source })
    | (.ready (.failure fault), source) =>
      (.ready (.failure (.ofFault p streamBody fault)), { s with source, done := true })
    | (.ready .finished, source) => (.ready .finished, { s with source, done := true })
    | (.pending wake, source) =>
      if s.deadline ≤ now then
        (.ready (.failure (.timedOut p nextChunk)), { s with source, done := true })
      else (.pending (earlier wake (some s.deadline)), { s with source })
    | (.crash, source) => (.crash, { s with source })

/-- The body of an answer under such a bound. -/
abbrev Idle := Watched (Source Http.Fault)

/-- The body of an answer that opens now. -/
def Idle.start (now idle : Nat) (source : Source Http.Fault) : Idle :=
  Watched.start now idle source

/-- Looks at the body of an answer on behalf of a provider. -/
def Idle.look (p : Provider) : Nat → Idle → Look ProviderError × Idle :=
  Watched.look Source.look p

end InferenceGateway.Stream
