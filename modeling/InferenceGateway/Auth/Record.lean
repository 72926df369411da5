import InferenceGateway.Auth.Caller
import InferenceGateway.Auth.Key

/-!
# Key records

A record says who stands behind the hash of a gateway key and until when. `KeyBook.ofEntries`
builds the book of all records from configured entries, and refuses the whole list for one entry
that names an unknown provider, ends at a time out of range or repeats a hash.

* `KeyEntry`: an entry as configured.
* `KeyRecord`, `KeyBook`: a record, and all of them by hash.
* `AuthError`: why a token is refused.
-/

namespace InferenceGateway

/-- Why a token, or a list of records, is refused. -/
inductive AuthError where
  | missingKey
  | malformedKey
  | unknownKey
  | disabled
  | expired
  | invalidRecord (reason : String)
  | lookupFailed (reason : String)
  deriving DecidableEq, Repr

/-- The message of a refusal. -/
def AuthError.message : AuthError → String
  | missingKey => "Missing API key"
  | malformedKey => "Invalid API key format"
  | unknownKey => "Invalid API key"
  | disabled => "API key is disabled"
  | expired => "API key has expired"
  | invalidRecord reason => "Invalid API key record: " ++ reason
  | lookupFailed reason => "API key lookup failed: " ++ reason

/-- A record as configured. -/
structure KeyEntry where
  hash : String
  callerId : String
  organization : Option String := none
  enabled : Bool := true
  /-- Seconds since 1970. -/
  expiresAt : Option Int := none
  /-- Keys by the name of a provider. -/
  providerKeys : List (String × String) := []
  deriving DecidableEq, Repr

/-- A record. -/
structure KeyRecord where
  caller : Caller
  enabled : Bool
  /-- Seconds since 1970. -/
  expiresAt : Option Int
  deriving DecidableEq, Repr

/-- Whether a record has ended at a time; it ends with its last instant. -/
def KeyRecord.isExpired (r : KeyRecord) (now : Int) : Bool :=
  match r.expiresAt with
  | some t => t ≤ now
  | none => false

/-- The first and the last second of the calendar that times may lie in. -/
def firstSecond : Int := -8334601228800

/-- The last second of the calendar that times may lie in. -/
def lastSecond : Int := 8210266876799

/-- Whether a time lies in the calendar. -/
def inCalendar (t : Int) : Bool :=
  firstSecond ≤ t && t ≤ lastSecond

/-- A typed record from an entry. -/
def KeyEntry.toRecord (e : KeyEntry) : Except AuthError KeyRecord := do
  let keys ←
    match ProviderKeys.ofConfig e.providerKeys with
    | .ok keys => pure keys
    | .error name => throw (.invalidRecord (Provider.unknownMessage name))
  match e.expiresAt with
  | some t =>
    if inCalendar t then pure ()
    else
      throw (.invalidRecord
        ("expires_at " ++ toString t ++ " of caller " ++ e.callerId ++ " is out of range"))
  | none => pure ()
  return {
    caller := { id := e.callerId, organization := e.organization, keys }
    enabled := e.enabled
    expiresAt := e.expiresAt }

/-- Records by lower-case hash, each hash at most once. -/
abbrev KeyBook := List (String × KeyRecord)

namespace KeyBook

/-- The record of a hash. -/
def find? (hash : String) (book : KeyBook) : Option KeyRecord :=
  List.lookup hash book

/-- Adds the record of an entry. -/
def add (book : KeyBook) (e : KeyEntry) : Except AuthError KeyBook := do
  let record ← e.toRecord
  let hash := Text.lowerAscii e.hash
  match KeyBook.find? hash book with
  | some _ => throw (.invalidRecord ("duplicate key hash " ++ Auth.shownHash e.hash))
  | none => return book ++ [(hash, record)]

/-- The book of configured entries, taken in order. -/
def ofEntries (entries : List KeyEntry) : Except AuthError KeyBook :=
  entries.foldlM KeyBook.add []

end KeyBook

end InferenceGateway
