import InferenceGateway.Hash.Sha256
import InferenceGateway.Text.Case
import InferenceGateway.Text.Hex
import InferenceGateway.Text.Utf8

/-!
# Gateway keys

A gateway key is a mark and at least one visible character. Only the keyed hash of a key is ever
stored. Of a hash, its first bytes may be shown, and of any secret a hint with its last characters.
-/

namespace InferenceGateway.Auth

/-- The mark at the start of a gateway key. -/
def keyMark : String := "sk-"

/-- Whether a text has the form of a gateway key. -/
def isKey (s : String) : Bool :=
  match Text.dropStart? keyMark s with
  | some rest => !rest.isEmpty && rest.toList.all Text.isVisibleAscii
  | none => false

/-- The hash under which a gateway key is stored. -/
def keyHash (secret key : String) : String :=
  Text.hexOfBytes (Hash.hmacSha256 (Text.bytesOf secret) (Text.bytesOf key))

/-- The number of bytes of a hash that are shown. -/
def shownBytes : Nat := 8

/-- The shown part of a hash; a text without a character end at that place is shown whole. -/
def shownHash (hash : String) : String :=
  let start := Text.cutAt shownBytes hash
  if start.utf8ByteSize = shownBytes then start else hash

/-- What stands for the hidden part of a secret. -/
def mask : String := "****"

/-- Secrets of at most this many characters are hidden whole. -/
def hiddenWhole : Nat := 8

/-- The number of characters of a longer secret that are shown. -/
def shownChars : Nat := 4

/-- A secret with all but its last characters hidden. -/
def hint (secret : String) : String :=
  let cs := secret.toList
  if cs.length ≤ hiddenWhole then mask
  else mask ++ String.ofList (cs.drop (cs.length - shownChars))

end InferenceGateway.Auth
