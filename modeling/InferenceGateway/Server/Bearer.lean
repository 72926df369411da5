import InferenceGateway.Auth.Decision
import InferenceGateway.Server.Message
import InferenceGateway.Text.Blank

/-!
# The key that a request carries

Callers show their key in the first `Authorization` header, behind the word `Bearer`.

* `bearerToken?`: the token in the text of a header.
* `identify`: the caller of a request, or why there is none.
-/

namespace InferenceGateway.Server

/-- Whether a byte of a header can be read: visible ASCII, space or tab. -/
def isReadable (b : UInt8) : Bool :=
  b == 0x09 || (0x20 ≤ b && b ≤ 0x7E)

/-- The text of a header, if all of it can be read. -/
def readable? (bytes : List UInt8) : Option String :=
  if bytes.all isReadable then some (String.ofList (bytes.map fun b => Char.ofNat b.toNat)) else none

/-- The token in a text: behind blanks, the word `bearer` in any case, and one space. -/
def bearerToken? (value : String) : Option String :=
  let cs := (Text.trimStart value).toList
  match cs.dropWhile (· != ' ') with
  | [] => none
  | _ :: token =>
    let scheme := String.ofList (cs.takeWhile (· != ' '))
    if Text.equalsIgnoringCase scheme "bearer" then some (Text.trim (String.ofList token)) else none

/-- The caller of a request at a time in seconds. -/
def identify (a : Authenticator) (now : Int) (r : Request) : Except GatewayError Caller :=
  match (r.header? "authorization").bind readable? with
  | none => .error (.unauthenticated "Missing authorization header")
  | some value =>
    match bearerToken? value with
    | none => .error (.unauthenticated "Invalid authorization header format")
    | some token => (a.decide now token).mapError .ofAuth

end InferenceGateway.Server
