import InferenceGateway.Text.Hex
import InferenceGateway.Text.Printable

/-!
# Quoted texts for a human reader

A text between double quotes, where the quote and the backslash are escaped, the common controls
have an escape of one letter, and every other hidden character is written as its code point in
braces.
-/

namespace InferenceGateway.Text

/-- The code point of a character in lower-case hexadecimal digits, without leading zeros. -/
def codePointDigits (c : Char) : List Char :=
  (Nat.toDigits 16 c.toNat)

/-- A character inside a quoted text. -/
def quotedChar (c : Char) : List Char :=
  match c with
  | '"' => ['\\', '"']
  | '\\' => ['\\', '\\']
  | '\n' => ['\\', 'n']
  | '\r' => ['\\', 'r']
  | '\t' => ['\\', 't']
  | '\x00' => ['\\', '0']
  | c =>
    if isHidden c then ['\\', 'u', '\x7b'] ++ codePointDigits c ++ ['\x7d'] else [c]

/-- A text between quotes. -/
def quoted (s : String) : String :=
  String.ofList ('"' :: (s.toList.flatMap quotedChar ++ ['"']))

end InferenceGateway.Text
