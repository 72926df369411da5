import InferenceGateway.Provider.Error

/-!
# Faults of transport

What can go wrong between a request and the end of its answer, apart from what the answer says.
`ProviderError.ofFault` says what each fault means for the call that met it.
-/

namespace InferenceGateway

/-- A fault of transport. -/
inductive Http.Fault where
  /-- The address is none that can be asked. -/
  | badAddress
  /-- No connection could be made, or it broke before an answer began. -/
  | unreachable
  /-- The time for the whole exchange has run out. -/
  | timedOut
  /-- The connection broke within the answer, or its bytes cannot be understood. -/
  | brokenBody
  deriving DecidableEq, Repr

/-- The message of a fault. -/
def Http.Fault.message : Http.Fault → String
  | badAddress => "builder error"
  | unreachable => "error sending request"
  | timedOut => "operation timed out"
  | brokenBody => "error decoding response body"

/-- What a fault means for a call that was waiting for something. -/
def ProviderError.ofFault (p : Provider) (during : String) : Http.Fault → ProviderError
  | .timedOut => .timedOut p during
  | .brokenBody => .unreadable p Http.Fault.brokenBody.message
  | fault => .unreachable p fault.message

end InferenceGateway
