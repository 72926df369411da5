/-!
# Hexadecimal text of bytes

Two lower-case digits a byte, the more significant one first.
-/

namespace InferenceGateway.Text

/-- The lower-case hexadecimal digit of a number below sixteen. -/
def hexDigit (n : Nat) : Char :=
  if n < 10 then Char.ofNat (0x30 + n) else Char.ofNat (0x61 + n - 10)

/-- The value of a hexadecimal digit of either case. -/
def hexValue? (c : Char) : Option Nat :=
  if '0' ≤ c && c ≤ '9' then some (c.toNat - 0x30)
  else if 'a' ≤ c && c ≤ 'f' then some (c.toNat - 0x61 + 10)
  else if 'A' ≤ c && c ≤ 'F' then some (c.toNat - 0x41 + 10)
  else none

/-- Writes bytes as hexadecimal text. -/
def hexOfBytes (bytes : List UInt8) : String :=
  String.ofList (bytes.flatMap fun b => [hexDigit (b.toNat / 16), hexDigit (b.toNat % 16)])

/-- Reads pairs of hexadecimal digits; anything else is refused. -/
def bytesOfHexChars? : List Char → Option (List UInt8)
  | [] => some []
  | [_] => none
  | high :: low :: rest => do
    let h ← hexValue? high
    let l ← hexValue? low
    let bytes ← bytesOfHexChars? rest
    some (UInt8.ofNat (16 * h + l) :: bytes)

/-- Reads a text of hexadecimal digits as bytes. -/
def bytesOfHex? (s : String) : Option (List UInt8) :=
  bytesOfHexChars? s.toList

end InferenceGateway.Text
