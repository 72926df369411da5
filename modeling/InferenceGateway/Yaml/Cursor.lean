/-!
# Reading YAML text

The place in a text that is being read, with its line and column, and the classes of characters on
which the structure of the text depends. There are six line ends, of which two keep their character
when they become part of a value.
-/

namespace InferenceGateway.Yaml

/-- A line end. A return and a line feed behind it count as one. -/
def isBreak (c : Char) : Bool :=
  c == '\n' || c == '\r' || c.toNat == 0x85 || c.toNat == 0x2028 || c.toNat == 0x2029

/-- A space or a tab. -/
def isBlank (c : Char) : Bool := c == ' ' || c == '\t'

/-- A character of anchors, directives and handles. -/
def isWordChar (c : Char) : Bool :=
  c.isAlpha || c.isDigit || c == '_' || c == '-'

/-- A character that a YAML text may hold. -/
def isAllowed (c : Char) : Bool :=
  let n := c.toNat
  n == 0x09 || n == 0x0A || n == 0x0D || (0x20 ≤ n && n ≤ 0x7E) || n == 0x85
    || (0xA0 ≤ n && n ≤ 0xD7FF) || (0xE000 ≤ n && n ≤ 0xFFFD && n != 0xFEFF) || 0x10000 ≤ n

/-- A place in a text. -/
structure Cursor where
  rest : List Char
  line : Nat := 0
  column : Nat := 0
  /-- The number of characters before the place. -/
  index : Nat := 0
  deriving DecidableEq, Repr

namespace Cursor

/-- The next character. -/
def front (c : Cursor) : Option Char := c.rest.head?

/-- The character so many places ahead. -/
def ahead (c : Cursor) (n : Nat) : Option Char := c.rest[n]?

/-- Whether the next character is the given one. -/
def sees (c : Cursor) (x : Char) : Bool := c.front == some x

/-- Whether the text ends, or a blank or line end stands, so many places ahead. -/
def isClear (c : Cursor) (n : Nat) : Bool :=
  match c.ahead n with
  | none => true
  | some x => isBlank x || isBreak x

/-- Whether the text ends here or a line end stands here. -/
def atLineEnd (c : Cursor) : Bool :=
  match c.front with
  | none => true
  | some x => isBreak x

/-- Whether a line end stands here. -/
def atBreak (c : Cursor) : Bool := c.front.any isBreak

/-- Whether a space or a tab stands here. -/
def atBlank (c : Cursor) : Bool := c.front.any isBlank

/-- Whether the text ends here. -/
def atEnd (c : Cursor) : Bool := c.rest.isEmpty

/-- So many places ahead on the same line. -/
def skip (c : Cursor) (n : Nat) : Cursor :=
  { c with rest := c.rest.drop n, column := c.column + n, index := c.index + n }

/-- The characters of a class that stand here on the line, and the place behind them. -/
def takeWhile (c : Cursor) (p : Char → Bool) : List Char × Cursor :=
  let taken := c.rest.takeWhile p
  (taken, c.skip taken.length)

/-- The place behind the characters of a class that stand here on the line. -/
def skipWhile (c : Cursor) (p : Char → Bool) : Cursor :=
  (c.takeWhile p).2

/-- The start of a line that is so many characters ahead. -/
def newLine (c : Cursor) (n : Nat) : Cursor where
  rest := c.rest.drop n
  line := c.line + 1
  column := 0
  index := c.index + n

/-- What the line end that stands here adds to a value, and the place behind it. -/
def takeBreak (c : Cursor) : List Char × Cursor :=
  match c.rest with
  | '\r' :: '\n' :: _ => (['\n'], c.newLine 2)
  | x :: _ =>
    if x.toNat == 0x2028 || x.toNat == 0x2029 then ([x], c.newLine 1)
    else if isBreak x then (['\n'], c.newLine 1)
    else ([], c)
  | [] => ([], c)

/-- Whether a line begins here with three times the given character and nothing clinging to it. -/
def startsWithMark (c : Cursor) (x : Char) : Bool :=
  c.column == 0 && c.sees x && c.ahead 1 == some x && c.ahead 2 == some x && c.isClear 3

/-- Whether a document begins or ends on the line that begins here. -/
def atDocumentMark (c : Cursor) : Bool :=
  c.startsWithMark '-' || c.startsWithMark '.'

/-- The place behind a comment that stands here, at the end of the line. -/
def skipComment (c : Cursor) : Cursor :=
  if c.sees '#' then c.skipWhile fun x => !isBreak x else c

/-- The start of the next line, if nothing but blanks and a comment is left on this one. -/
def finishLine (c : Cursor) : Option Cursor :=
  let c := (c.skipWhile isBlank).skipComment
  if c.atLineEnd then some c.takeBreak.2 else none

end Cursor

end InferenceGateway.Yaml
