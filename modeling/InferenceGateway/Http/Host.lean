import InferenceGateway.Text.Fields
import InferenceGateway.Text.Hex
import InferenceGateway.Text.Utf8

/-!
# Hosts in addresses

Which texts name a host: an address of IPv6 between brackets, or a domain. A domain whose last
label is a number has to be an address of IPv4, whose parts may be decimal, octal or hexadecimal,
and whose last part fills what the others leave. Percent escapes in a domain are decoded first.
-/

namespace InferenceGateway.Http

/-! ## IPv4 -/

/-- A number of IPv4: hexadecimal after `0x`, octal after `0`, else decimal. -/
def ipv4Number? (cs : List Char) : Option Nat :=
  let digits (base : Nat) (ds : List Char) : Option Nat :=
    ds.foldlM (fun n d => do
      let v ← Text.hexValue? d
      if v < base then some (n * base + v) else none) 0
  match cs with
  | [] => none
  | '0' :: 'x' :: rest | '0' :: 'X' :: rest => digits 16 rest
  | '0' :: rest => digits 8 rest
  | _ => digits 10 cs

/-- The labels of a domain; the empty one behind a last dot does not count. -/
def labels (cs : List Char) : List (List Char) :=
  let all := Text.fieldsOf '.' cs
  if 1 < all.length && all.getLast? == some [] then all.dropLast else all

/-- Whether the last label is a number, so that the whole has to be an address of IPv4. -/
def endsInNumber (cs : List Char) : Bool :=
  match (labels cs).getLast? with
  | some last => !last.isEmpty && (last.all Char.isDigit || (ipv4Number? last).isSome)
  | none => false

/-- Whether a domain is an address of IPv4. -/
def isIpv4 (cs : List Char) : Bool :=
  match (labels cs).mapM ipv4Number? with
  | none => false
  | some numbers =>
    match numbers.reverse with
    | [] => false
    | last :: rest => rest.length < 4 && rest.all (· ≤ 255) && last < Nat.pow 256 (4 - rest.length)

/-- Whether a text is an address of IPv4 in its strict form. -/
def isDottedQuad (cs : List Char) : Bool :=
  let parts := Text.fieldsOf '.' cs
  parts.length == 4 && parts.all fun part =>
    !part.isEmpty && part.length ≤ 3 && part.all Char.isDigit
      && (part.length == 1 || part.head? != some '0')
      && (ipv4Number? part).any (· ≤ 255)

/-! ## IPv6 -/

/-- Whether a text is a group of one to four hexadecimal digits. -/
def isGroup (cs : List Char) : Bool :=
  !cs.isEmpty && cs.length ≤ 4 && cs.all fun c => (Text.hexValue? c).isSome

/-- How many groups a sequence of groups stands for; an address of IPv4 may end it. -/
def groupCount? : List (List Char) → Option Nat
  | [] => some 0
  | [last] => if isGroup last then some 1 else if isDottedQuad last then some 2 else none
  | group :: rest => if isGroup group then (groupCount? rest).map (· + 1) else none

/-- The groups between colons; the empty text has none. -/
def groupsOf (cs : List Char) : List (List Char) :=
  if cs.isEmpty then [] else Text.fieldsOf ':' cs

/-- Cuts a text at its first `::`. -/
def splitAtGap : List Char → Option (List Char × List Char)
  | ':' :: ':' :: rest => some ([], rest)
  | c :: rest => (splitAtGap rest).map fun (before, behind) => (c :: before, behind)
  | [] => none

/-- Whether a text is an address of IPv6. -/
def isIpv6 (cs : List Char) : Bool :=
  match splitAtGap cs with
  | none => groupCount? (groupsOf cs) == some 8
  | some (before, behind) =>
    !(groupsOf before).any isDottedQuad
      && (match groupCount? (groupsOf before), groupCount? (groupsOf behind) with
        | some a, some b => a + b < 8
        | _, _ => false)

/-! ## Domains -/

/-- Characters that no domain holds. -/
def isForbidden (c : Char) : Bool :=
  c.toNat ≤ 0x20 || c.toNat == 0x7F || c.toNat == 0xFFFD || "#/:<>?@[\\]^|%".toList.contains c

/-- The bytes of a text whose percent escapes are decoded. -/
def percentDecoded : List Char → List UInt8
  | '%' :: a :: b :: rest =>
    match Text.hexValue? a, Text.hexValue? b with
    | some x, some y => UInt8.ofNat (16 * x + y) :: percentDecoded rest
    | _, _ => UInt8.ofNat 0x25 :: percentDecoded (a :: b :: rest)
  | c :: rest => Text.bytesOf (String.singleton c) ++ percentDecoded rest
  | [] => []

/-- Whether a text names a host. -/
def isHost (cs : List Char) : Bool :=
  match cs with
  | '[' :: rest => rest.getLast? == some ']' && isIpv6 rest.dropLast
  | _ =>
    let domain := (Text.decodeLossy (percentDecoded cs)).toList
    !domain.isEmpty && !domain.any isForbidden && (!endsInNumber domain || isIpv4 domain)

end InferenceGateway.Http
