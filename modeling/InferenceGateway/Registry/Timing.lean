import InferenceGateway.Decimal.Shortest
import InferenceGateway.Provider.Error
import InferenceGateway.Registry.Basic

/-!
# How long a round of listings takes

All providers are asked at once, and each has the same time to answer; one that takes longer
counts as failed. Times are milliseconds.

* `ListingAnswer.within`: what a listing comes to under a time limit, and when.
* `roundEnd`: when all listings of a round have come to something.
* `Registry.refresh`: what a round comes to, as a result and as the next snapshot.
-/

namespace InferenceGateway

/-- How a provider answers when its models are listed. -/
structure ListingAnswer where
  /-- How long the answer takes; none is forever. -/
  delay : Option Nat := some 0
  result : Except ProviderError (List ModelInfo)

/-- A time in seconds, as a number in a sentence. -/
def secondsText (milliseconds : Nat) : String :=
  let whole := Double.ofNat (milliseconds / 1000)
  let nanoseconds := Double.ofNat (milliseconds % 1000 * 1000000)
  (whole.addMagnitudes (nanoseconds.div (Double.ofNat 1000000000))).render Double.sentenceStyle

/-- The error of a listing that takes too long. -/
def listingTimeout (limit : Nat) : String :=
  "listing timed out after " ++ secondsText limit ++ "s"

/-- What an answer comes to under a time limit, and after how long. -/
def ListingAnswer.within (limit : Nat) (a : ListingAnswer) : Nat × Listing :=
  match a.delay with
  | some d =>
    if d ≤ limit then (d, a.result.mapError ProviderError.message)
    else (limit, .error (listingTimeout limit))
  | none => (limit, .error (listingTimeout limit))

/-- When a round that begins at `start` has all its listings. -/
def roundEnd (limit start : Nat) (answers : List ListingAnswer) : Nat :=
  start + (answers.map fun a => (a.within limit).1).foldl max 0

/-- The listings of a round. -/
def roundListings (limit : Nat) (answers : List (Provider × ListingAnswer)) :
    List (Provider × Listing) :=
  answers.map fun a => (a.1, (a.2.within limit).2)

/-- The result of a round that ends at `now`, and the snapshot that it leads to in either case. -/
def Registry.refresh (r : Registry) (limit : Nat) (prior : Snapshot) (now : Nat)
    (answers : List (Provider × ListingAnswer)) : Except RegistryError Unit × Snapshot :=
  let listings := roundListings limit answers
  (r.verdict listings, r.next prior now listings)

end InferenceGateway
