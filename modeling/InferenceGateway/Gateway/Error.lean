import InferenceGateway.Provider.Error

/-!
# Errors of the gateway

What a client is told when its request fails. Each cause has a stable code, a status of HTTP and a
type; the answer's body is one envelope that carries the message, the type and the code.

* `GatewayError.ofProvider`: what a failed provider call means to the client.
* `GatewayError.status`, `GatewayError.code`, `GatewayError.envelope`.
-/

namespace InferenceGateway

/-- Why a request fails. -/
inductive GatewayError where
  | invalidRequest (message : String)
  | unauthenticated (message : String)
  | modelNotFound (model : String)
  | noCredential (p : Provider)
  /-- The provider answered, but with no success that can be used. -/
  | providerFailed (p : Provider) (status : Nat) (message : String)
  | providerUnavailable (p : Provider) (message : String)
  | timeout (message : String)
  | unsupportedCapability (p : Provider) (capability : String)
  | canceled
  deriving DecidableEq, Repr

namespace GatewayError

/-- The code that clients can match on. -/
def code : GatewayError → String
  | invalidRequest _ => "InvalidRequest"
  | unauthenticated _ => "Unauthenticated"
  | modelNotFound _ => "ModelNotFound"
  | noCredential _ => "NoCredential"
  | providerFailed .. => "UpstreamError"
  | providerUnavailable .. => "UpstreamUnavailable"
  | timeout _ => "Timeout"
  | unsupportedCapability .. => "UnsupportedCapability"
  | canceled => "Canceled"

/-- The message for the client. -/
def message : GatewayError → String
  | invalidRequest message => "Invalid request: " ++ message
  | unauthenticated message => message
  | modelNotFound model => "The model '" ++ model ++ "' does not exist"
  | noCredential p => "No credential available for provider " ++ p.id
  | providerFailed p status message =>
    p.id ++ " returned HTTP " ++ toString status ++ ": " ++ message
  | providerUnavailable p message => p.id ++ " is unavailable: " ++ message
  | timeout message => message
  | unsupportedCapability p capability => p.id ++ " does not support " ++ capability
  | canceled => "Request canceled"

/-- Whether a status says that the client is at fault. -/
def isClientError (status : Nat) : Bool :=
  400 ≤ status && status ≤ 499

/-- The status of the answer. A provider's status is passed on if it blames the client. -/
def status : GatewayError → Nat
  | invalidRequest _ => 400
  | unauthenticated _ => 401
  | modelNotFound _ => 404
  | noCredential _ => 502
  | providerFailed _ status _ => if isClientError status then status else 502
  | providerUnavailable .. => 502
  | timeout _ => 504
  | unsupportedCapability .. => 501
  | canceled => 499

/-- The type in the envelope. -/
def type : GatewayError → String
  | invalidRequest _ => "invalid_request_error"
  | unauthenticated _ => "authentication_error"
  | modelNotFound _ => "not_found_error"
  | noCredential _ | providerFailed .. | providerUnavailable .. => "upstream_error"
  | timeout _ => "timeout_error"
  | unsupportedCapability .. => "not_implemented_error"
  | canceled => "canceled"

/-- The body of the answer. -/
def envelope (e : GatewayError) : Json :=
  Json.ofPairs
    [("error", Json.ofPairs
      [("message", .string e.message), ("type", .string e.type), ("param", .null),
       ("code", .string e.code)])]

/-- The status that stands for a success that cannot be read. -/
def unreadableStatus : Nat := 502

/-- What a failed provider call means to the client. -/
def ofProvider : ProviderError → GatewayError
  | .refused p status snippet => providerFailed p status snippet
  | .unreachable p message => providerUnavailable p message
  | .unsupported p capability => unsupportedCapability p capability
  | .unsendableKey p _ => noCredential p
  | e@(.timedOut ..) => timeout e.message
  | e@(.unreadable p _) => providerFailed p unreadableStatus e.message

end GatewayError

end InferenceGateway
