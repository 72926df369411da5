import InferenceGateway.Json.Basic
import InferenceGateway.Decimal.Shortest
import InferenceGateway.Text.Hex

/-!
# JSON text of values

Compact text: no blanks, members in the order of the value, and only the quote, the backslash
and the control characters below U+0020 escaped.
-/

namespace InferenceGateway.Json

/-- Control characters with an escape of one letter. -/
def shortEscape? (c : Char) : Option Char :=
  match c.toNat with
  | 0x08 => some 'b'
  | 0x09 => some 't'
  | 0x0A => some 'n'
  | 0x0C => some 'f'
  | 0x0D => some 'r'
  | _ => none

/-- The escape of a code unit by its four hexadecimal digits. -/
def unitEscape (n : Nat) : List Char :=
  ['\\', 'u', Text.hexDigit (n / 4096 % 16), Text.hexDigit (n / 256 % 16),
   Text.hexDigit (n / 16 % 16), Text.hexDigit (n % 16)]

/-- A character inside a quoted text. -/
def escapeChar (c : Char) : List Char :=
  if c == '"' || c == '\\' then ['\\', c]
  else
    match shortEscape? c with
    | some letter => ['\\', letter]
    | none => if c.toNat < 0x20 then unitEscape c.toNat else [c]

/-- A quoted text. -/
def quote (s : String) : String :=
  String.ofList ('"' :: (s.toList.flatMap escapeChar ++ ['"']))

mutual

/-- The compact text of a value. -/
def render : Json → String
  | .null => "null"
  | .bool true => "true"
  | .bool false => "false"
  | .integer n => toString n
  | .float x => x.render Double.jsonStyle
  | .string s => quote s
  | .array items => "[" ++ ",".intercalate (renderItems items) ++ "]"
  | .object members => "\x7b" ++ ",".intercalate (renderMembers members) ++ "\x7d"

/-- The texts of the items of an array. -/
def renderItems : List Json → List String
  | [] => []
  | item :: rest => item.render :: renderItems rest

/-- The texts of the members of an object. -/
def renderMembers : List (String × Json) → List String
  | [] => []
  | (key, value) :: rest => (quote key ++ ":" ++ value.render) :: renderMembers rest

end

end InferenceGateway.Json
