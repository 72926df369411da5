import InferenceGateway.Http.Host
import InferenceGateway.Text.Case

/-!
# Addresses of requests

Which texts are addresses that a request can be sent to: a scheme that is `http` or `https`, a
host, and perhaps a port. What comes behind the host does not matter. Blanks and control characters
around an address are ignored, as are tabs and line ends within it.
-/

namespace InferenceGateway.Http

/-- The text that counts as the address. -/
def significant (s : String) : List Char :=
  let outer (c : Char) : Bool := c.toNat ≤ 0x20
  let inner := (((s.toList.dropWhile outer).reverse).dropWhile outer).reverse
  inner.filter fun c => c != '\t' && c != '\n' && c != '\r'

/-- The schemes of requests. -/
def schemes : List String := ["http", "https"]

/-- What comes behind the scheme of a request, if the text has one. -/
def behindScheme (cs : List Char) : Option (List Char) :=
  let scheme := cs.takeWhile (· != ':')
  if scheme.length < cs.length
      && schemes.contains (Text.lowerAscii (String.ofList scheme)) then
    some (cs.drop (scheme.length + 1))
  else none

/-- Characters that may stand for a slash. -/
def isSlash (c : Char) : Bool := c == '/' || c == '\\'

/-- The part of an address that names host and port, without the user in front of them. -/
def authority (cs : List Char) : List Char :=
  let whole := (cs.dropWhile isSlash).takeWhile fun c => !(isSlash c || c == '?' || c == '#')
  (whole.reverse.takeWhile (· != '@')).reverse

/-- Cuts an authority at the colon in front of the port; colons between brackets do not count. -/
def hostAndPort : Bool → List Char → List Char × Option (List Char)
  | _, [] => ([], none)
  | bracketed, c :: rest =>
    if c == ':' && !bracketed then ([], some rest)
    else
      let (host, port) := hostAndPort (if c == '[' then true else if c == ']' then false else bracketed) rest
      (c :: host, port)

/-- Whether a text is a port; the empty text stands for the usual one. -/
def isPort (cs : List Char) : Bool :=
  cs.all Char.isDigit && cs.foldl (fun n c => 10 * n + (c.toNat - '0'.toNat)) 0 ≤ 65535

/-- Whether a request can be sent to an address. -/
def isAddress (s : String) : Bool :=
  match behindScheme (significant s) with
  | none => false
  | some rest =>
    let (host, port) := hostAndPort false (authority rest)
    isHost host && port.all isPort

end InferenceGateway.Http
