import InferenceGateway.Decimal.Shortest
import InferenceGateway.Text.Quoted

/-!
# Why a JSON text is refused

A `Cause` is either a fault of the text itself or a value that does not fit what is expected of
it. An `Error` adds the offset at which reading stood; the message tells it as a line and a column,
where the column counts the bytes read on the line.
-/

namespace InferenceGateway.Json

/-- A number of bytes from the start of the text. -/
abbrev Offset := Nat

/-- The kind of value met where another one was expected. -/
inductive Found where
  | null
  | bool (b : Bool)
  | integer (n : Int)
  | float (x : Double)
  | string (s : String)
  | sequence
  | map

/-- A fault of a JSON text. -/
inductive Cause where
  | endInValue
  | endInList
  | endInObject
  | endInString
  | expectedColon
  | expectedListCommaOrEnd
  | expectedObjectCommaOrEnd
  | expectedValue
  | expectedIdent
  | invalidEscape
  | invalidNumber
  | numberOutOfRange
  | invalidCodePoint
  | controlCharacter
  | keyMustBeString
  | loneSurrogate
  | endOfHexEscape
  | trailingComma
  | trailingCharacters
  | tooDeep
  | invalidType (found : Found) (expected : String)
  | invalidValue (found : Found) (expected : String)
  | invalidLength (length : Nat) (expected : String)
  | missingField (name : String)
  | duplicateField (name : String)
  | unknownVariant (name : String) (known : List String)
  | noVariant (type : String)

/-- A fault, and where reading stood when that is known already. -/
structure Error where
  cause : Cause
  offset? : Option Offset := none

/-- A fault at an offset. -/
def Cause.at (cause : Cause) (offset : Offset) : Error :=
  { cause, offset? := some offset }

/-- A fault whose place the reader of the enclosing value tells. -/
def Cause.unplaced (cause : Cause) : Error :=
  { cause }

/-- Gives an error without a place the place of the enclosing value. -/
def Error.placedAt (e : Error) (offset : Offset) : Error :=
  { e with offset? := some (e.offset?.getD offset) }

/-- How a message names what was met. -/
def Found.describe : Found → String
  | .null => "null"
  | .bool true => "boolean `true`"
  | .bool false => "boolean `false`"
  | .integer n => "integer `" ++ toString n ++ "`"
  | .float x => "floating point `" ++ x.render Double.jsonStyle ++ "`"
  | .string s => "string " ++ Text.quoted s
  | .sequence => "sequence"
  | .map => "map"

/-- A list of names as alternatives. -/
def alternatives : List String → String
  | [] => "there are no variants"
  | [a] => "expected `" ++ a ++ "`"
  | [a, b] => "expected `" ++ a ++ "` or `" ++ b ++ "`"
  | names => "expected one of " ++ ", ".intercalate (names.map fun n => "`" ++ n ++ "`")

/-- The message of a fault, without its place. -/
def Cause.message : Cause → String
  | .endInValue => "EOF while parsing a value"
  | .endInList => "EOF while parsing a list"
  | .endInObject => "EOF while parsing an object"
  | .endInString => "EOF while parsing a string"
  | .expectedColon => "expected `:`"
  | .expectedListCommaOrEnd => "expected `,` or `]`"
  | .expectedObjectCommaOrEnd => "expected `,` or `\x7d`"
  | .expectedValue => "expected value"
  | .expectedIdent => "expected ident"
  | .invalidEscape => "invalid escape"
  | .invalidNumber => "invalid number"
  | .numberOutOfRange => "number out of range"
  | .invalidCodePoint => "invalid unicode code point"
  | .controlCharacter => "control character (\\u0000-\\u001F) found while parsing a string"
  | .keyMustBeString => "key must be a string"
  | .loneSurrogate => "lone leading surrogate in hex escape"
  | .endOfHexEscape => "unexpected end of hex escape"
  | .trailingComma => "trailing comma"
  | .trailingCharacters => "trailing characters"
  | .tooDeep => "recursion limit exceeded"
  | .invalidType found expected => "invalid type: " ++ found.describe ++ ", expected " ++ expected
  | .invalidValue found expected => "invalid value: " ++ found.describe ++ ", expected " ++ expected
  | .invalidLength length expected =>
    "invalid length " ++ toString length ++ ", expected " ++ expected
  | .missingField name => "missing field `" ++ name ++ "`"
  | .duplicateField name => "duplicate field `" ++ name ++ "`"
  | .unknownVariant name known => "unknown variant `" ++ name ++ "`, " ++ alternatives known
  | .noVariant type => "data did not match any variant of untagged enum " ++ type

/-- Line and column of an offset: one plus the line ends before it, and the bytes after the last. -/
def position (text : List UInt8) (offset : Offset) : Nat × Nat :=
  (text.take offset).foldl
    (fun (reached : Nat × Nat) b => if b == 0x0A then (reached.1 + 1, 0) else (reached.1, reached.2 + 1)) (1, 0)

/-- The message of an error in a text. -/
def Error.message (text : List UInt8) (e : Error) : String :=
  match e.offset? with
  | none => e.cause.message
  | some offset =>
    let (line, column) := position text offset
    e.cause.message ++ " at line " ++ toString line ++ " column " ++ toString column

end InferenceGateway.Json
