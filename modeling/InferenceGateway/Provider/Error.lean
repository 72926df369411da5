import InferenceGateway.Json.Reader
import InferenceGateway.Provider.Basic
import InferenceGateway.Text.Utf8

/-!
# What can go wrong with a provider

`ProviderError` names the causes for which a call to a provider fails. A refusal by the provider
carries a snippet of its answer: the message of a JSON error body, or the text of any other body,
cut to a bounded number of bytes at a character.

* `ProviderError.message`, `ProviderError.isRetriable`.
* `errorMessage`: the message in the body of a refusal.
* `snippet`: a text cut to `snippetBytes`.
-/

namespace InferenceGateway

/-- Why a call to a provider failed. -/
inductive ProviderError where
  /-- The provider answered with a status that is no success. -/
  | refused (p : Provider) (status : Nat) (snippet : String)
  /-- The provider could not be reached, or the connection broke. -/
  | unreachable (p : Provider) (message : String)
  /-- The provider did not answer in time. -/
  | timedOut (p : Provider) (during : String)
  /-- The provider has no such service. -/
  | unsupported (p : Provider) (capability : String)
  /-- The provider answered with a success that cannot be read. -/
  | unreadable (p : Provider) (message : String)
  /-- The key cannot be put into a request. -/
  | unsendableKey (p : Provider) (message : String)
  deriving DecidableEq, Repr

namespace ProviderError

/-- The provider that was called. -/
def provider : ProviderError → Provider
  | refused p _ _ | unreachable p _ | timedOut p _ | unsupported p _ | unreadable p _
  | unsendableKey p _ => p

/-- The message of an error. -/
def message : ProviderError → String
  | refused p status snippet =>
    p.id ++ " returned HTTP " ++ toString status ++ ": " ++ snippet
  | unreachable p message => p.id ++ " is unreachable: " ++ message
  | timedOut p during => p.id ++ " timed out waiting for " ++ during
  | unsupported p capability => p.id ++ " does not support " ++ capability
  | unreadable p message => p.id ++ " returned an unreadable response: " ++ message
  | unsendableKey p message => "credential for " ++ p.id ++ " cannot be sent: " ++ message

/-- Whether the same call may succeed a moment later. -/
def isRetriable : ProviderError → Bool
  | unreachable _ _ => true
  | refused _ status _ => 500 ≤ status
  | _ => false

end ProviderError

/-- The greatest number of bytes of an answer that an error carries. -/
def snippetBytes : Nat := 1024

/--
The last place among the first `i` bytes of a text, or behind them, where no character is cut in two.
Looks at one place after the other, from the end; none if it passes the start.
-/
def boundaryFrom (s : String) : Nat → Option Nat
  | 0 => if String.Pos.Raw.isValid s ⟨0⟩ then some 0 else none
  | i + 1 => if String.Pos.Raw.isValid s ⟨i + 1⟩ then some (i + 1) else boundaryFrom s i

/-- A text cut to `snippetBytes` at a character. -/
def snippet (s : String) : String :=
  if s.utf8ByteSize ≤ snippetBytes then s
  else String.Pos.Raw.extract s 0 ⟨(boundaryFrom s snippetBytes).getD 0⟩

/-- The message of a JSON error body, if it has one. -/
def jsonErrorMessage? (body : Json) : Option String :=
  let inError := do
    let e ← body.member? "error"
    ((e.member? "message").getD e).string?
  match inError with
  | some s => some s
  | none => (body.member? "message").bind Json.string?

/-- The message in the body of a refusal. -/
def errorMessage (body : String) : String :=
  match Json.parse (Text.bytesOf body) with
  | .ok json => (jsonErrorMessage? json).getD (Text.trim body)
  | .error _ => Text.trim body

/-- A refusal with a status and a body. -/
def ProviderError.ofRefusal (p : Provider) (status : Nat) (body : String) : ProviderError :=
  .refused p status (snippet (errorMessage body))

end InferenceGateway
