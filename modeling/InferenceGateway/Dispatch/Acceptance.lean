import InferenceGateway.Chat.Request
import InferenceGateway.Credential
import InferenceGateway.Gateway.Error
import InferenceGateway.Registry.Basic
import InferenceGateway.Text.Blank

/-!
# Which requests are let through

Before any provider is called, a request must name a model that is served and hold a message, and
there must be a key for the model's provider. The first reason against it counts.

* `Gateway`: what decides, apart from the snapshot of the registry.
* `Gateway.accept`: what a request is to be served with, or why it is not.
-/

namespace InferenceGateway

/-- The registry and the keys. -/
structure Gateway where
  registry : Registry
  rules : CredentialRules

/-- What a request is served with. -/
structure Accepted where
  binding : Binding
  client : Client
  key : String
  deriving DecidableEq, Repr

namespace Gateway

/-- Refuses a request that no provider could serve. -/
def checkRequest (r : ChatRequest) : Except GatewayError Unit :=
  if Text.isBlankText r.model then .error (.invalidRequest "model is required")
  else if r.messages.isEmpty then .error (.invalidRequest "messages must not be empty")
  else .ok ()

/-- The key for a call; a client that requires none is called with an empty one. -/
def keyFor (g : Gateway) (caller : Caller) (client : Client) (p : Provider) :
    Except GatewayError String :=
  match g.rules.resolve caller p with
  | .ok key => .ok key
  | .error (.notFound _) => if client.requiresKey then .error (.noCredential p) else .ok ""
  | .error (.lookupFailed _) => .error (.noCredential p)

/-- What a request is served with under a snapshot. -/
def accept (g : Gateway) (s : Snapshot) (caller : Caller) (r : ChatRequest) :
    Except GatewayError Accepted := do
  checkRequest r
  let binding ← (s.resolve r.model).elim (.error (.modelNotFound r.model)) .ok
  let client ← (g.registry.client? binding.provider).elim
    (.error (.providerUnavailable binding.provider "provider is not configured")) .ok
  let key ← g.keyFor caller client binding.provider
  return { binding, client, key }

end Gateway

end InferenceGateway
