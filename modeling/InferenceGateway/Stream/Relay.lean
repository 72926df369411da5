import InferenceGateway.Stream.Source

/-!
# Relayed streams

A provider's stream on its way to the client. Items are handed on in order as they come. The
stream ends when the gateway shuts down, which is looked at first; after an error or the end there
is nothing more, whatever the provider's stream still holds.
-/

namespace InferenceGateway.Stream

/-- A stream `inner` on its way to the client. -/
structure Relay (σ : Type) where
  inner : σ
  finished : Bool := false
  deriving DecidableEq, Repr

/-- Looks at a relayed stream of a gateway that shuts down at `stop`, if ever. -/
def Relay.look (inner : Nat → σ → Look ε × σ) (stop : Option Nat) (now : Nat) (r : Relay σ) :
    Look ε × Relay σ :=
  if r.finished then (.ready .finished, r)
  else if stop.any (· ≤ now) then (.ready .finished, { r with finished := true })
  else
    match inner now r.inner with
    | (.ready (.chunk bytes), s) => (.ready (.chunk bytes), { r with inner := s })
    | (.ready (.failure e), s) => (.ready (.failure e), { inner := s, finished := true })
    | (.ready .finished, s) => (.ready .finished, { inner := s, finished := true })
    | (.pending wake, s) => (.pending (earlier wake stop), { r with inner := s })
    | (.crash, s) => (.crash, { r with inner := s })

end InferenceGateway.Stream
