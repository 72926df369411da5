import InferenceGateway.Auth.Record
import InferenceGateway.Gateway.Error

/-!
# Who is let in

`Authenticator.decide` turns a token into a caller, or says the first reason against it: no token,
no key, no record, a disabled record, an expired record. Only the hash of a well-formed token is
looked up.
-/

namespace InferenceGateway

/-- Where records are looked up by hash. -/
abbrev KeyStore := String → Except AuthError (Option KeyRecord)

/-- A store that holds the records of a book. -/
def KeyBook.store (book : KeyBook) : KeyStore :=
  fun hash => .ok (KeyBook.find? hash book)

/-- What is needed to let callers in. -/
structure Authenticator where
  /-- The secret under which keys are hashed. -/
  secret : String
  store : KeyStore

/-- The caller behind a token at a time in seconds, or why there is none. -/
def Authenticator.decide (a : Authenticator) (now : Int) (token : String) :
    Except AuthError Caller := do
  let token := Text.trim token
  if token.isEmpty then throw .missingKey
  if !Auth.isKey token then throw .malformedKey
  match ← a.store (Auth.keyHash a.secret token) with
  | none => throw .unknownKey
  | some record =>
    if !record.enabled then throw .disabled
    if record.isExpired now then throw .expired
    return record.caller

/-- What a refusal means to the client. -/
def GatewayError.ofAuth (e : AuthError) : GatewayError :=
  .unauthenticated e.message

end InferenceGateway
