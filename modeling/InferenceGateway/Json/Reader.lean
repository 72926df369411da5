import InferenceGateway.Json.Numeral
import InferenceGateway.Text.Utf8

/-!
# Reading JSON text

`Node.ofText` cuts a text into the tree of `Json.Node`. The grammar that decides how far the
text can be followed is the lenient one of passing over; what taking a value complains about is
worked out on the way and kept in the nodes.

* `scanString`: a text between quotes.
* `readValue`, `readItems`, `readMembers`: the tree.
* `Node.ofText`: the tree of a text and what follows it.
* `Json.parse`: the value of a text.
-/

namespace InferenceGateway.Json

/-! ## Texts between quotes -/

/-- How a text between quotes ends, with the outcome of taking it. -/
inductive Scan where
  | closed (value : Except Error (List UInt8)) (behind : Cursor)
  | broken (taken passed : Error)

/-- The code unit of four hexadecimal digits. -/
def codeUnit? (a b c d : UInt8) : Option Nat := do
  let digit (x : UInt8) : Option Nat := Text.hexValue? (Char.ofNat x.toNat)
  return ((← digit a) * 16 + (← digit b)) * 256 + ((← digit c) * 16 + (← digit d))

/-- The byte that an escape of one letter stands for. -/
def escapedByte? (letter : UInt8) : Option UInt8 :=
  match Char.ofNat letter.toNat with
  | '"' => some 0x22
  | '\\' => some 0x5C
  | '/' => some 0x2F
  | 'b' => some 0x08
  | 'f' => some 0x0C
  | 'n' => some 0x0A
  | 'r' => some 0x0D
  | 't' => some 0x09
  | _ => none

/-- The first surrogate of a pair. -/
def isLeading (unit : Nat) : Bool := 0xD800 ≤ unit && unit ≤ 0xDBFF

/-- The second surrogate of a pair. -/
def isTrailing (unit : Nat) : Bool := 0xDC00 ≤ unit && unit ≤ 0xDFFF

/--
What taking the text has come to: the bytes in reverse with the first surrogate of a pair that
waits for its second, or the first complaint.
-/
abbrev Taken := Except Error (List UInt8 × Option Nat)

/-- Takes a byte that stands for itself or was escaped by a letter. -/
def Taken.byte (t : Taken) (b : UInt8) : Taken :=
  t.map fun (bytes, _) => (b :: bytes, none)

/-- Complains that a waiting surrogate is not followed by an escape. -/
def Taken.awaited (t : Taken) (offset : Offset) : Taken := do
  let (bytes, waiting?) ← t
  match waiting? with
  | none => return (bytes, none)
  | some _ => throw (Cause.endOfHexEscape.at offset)

/-- Takes a code unit whose digits end before `stop`. -/
def Taken.unit (t : Taken) (unit : Nat) (stop : Offset) : Taken := do
  let (bytes, waiting?) ← t
  match waiting? with
  | some first =>
    if isTrailing unit then
      let n := (first - 0xD800) * 1024 + (unit - 0xDC00) + 0x10000
      return ((Text.bytesOfCodePoint n).reverse ++ bytes, none)
    else throw (Cause.loneSurrogate.at stop)
  | none =>
    if isTrailing unit then throw (Cause.loneSurrogate.at stop)
    else if isLeading unit then return (bytes, some unit)
    else return ((Text.bytesOfCodePoint unit).reverse ++ bytes, none)

/-- The complaint of taking a text that breaks with `passed`. -/
def Taken.brokenBy (t : Taken) (passed : Error) : Scan :=
  match t with
  | .ok _ => .broken passed passed
  | .error taken => .broken taken passed

/-- Reads a text from behind its opening quote. -/
def scanString : List UInt8 → Offset → Taken → Scan
  | [], offset, t => t.brokenBy (Cause.endInString.at offset)
  | 0x22 :: rest, offset, t =>
    .closed ((t.awaited (offset + 1)).map fun (bytes, _) => bytes.reverse) ⟨rest, offset + 1⟩
  | [0x5C], offset, t => t.brokenBy (Cause.endInString.at (offset + 1))
  | 0x5C :: 0x75 :: a :: b :: c :: d :: rest, offset, t =>
    match codeUnit? a b c d with
    | some unit => scanString rest (offset + 6) (t.unit unit (offset + 6))
    | none => t.brokenBy (Cause.invalidEscape.at (offset + 6))
  | 0x5C :: 0x75 :: rest, offset, t =>
    t.brokenBy (Cause.endInString.at (offset + 2 + rest.length))
  | 0x5C :: letter :: rest, offset, t =>
    let t := t.awaited (offset + 2)
    match escapedByte? letter with
    | some b => scanString rest (offset + 2) (t.byte b)
    | none => t.brokenBy (Cause.invalidEscape.at (offset + 2))
  | b :: rest, offset, t =>
    let t := t.awaited (offset + 1)
    if b < 0x20 then
      match t with
      | .ok _ => .broken (Cause.controlCharacter.at (offset + 1)) (Cause.controlCharacter.at offset)
      | .error taken => .broken taken (Cause.controlCharacter.at offset)
    else scanString rest (offset + 1) (t.byte b)

/-- The text of bytes between quotes, where reading stands behind the closing one. -/
def textOf (value : Except Error (List UInt8)) (stop : Offset) : Except Error String := do
  let bytes ← value
  match Text.decode? bytes with
  | some s => return s
  | none => throw (Cause.invalidCodePoint.at stop)

/-! ## Values -/

/-- The blanks of JSON text. -/
def isJsonBlank (b : UInt8) : Bool :=
  b == 0x20 || b == 0x0A || b == 0x09 || b == 0x0D

/-- Moves to the next byte that is no blank. -/
def skipBlank : List UInt8 → Offset → Cursor
  | [], offset => ⟨[], offset⟩
  | b :: rest, offset => if isJsonBlank b then skipBlank rest (offset + 1) else ⟨b :: rest, offset⟩

/-- Moves to the next byte that is no blank. -/
def Cursor.skip (c : Cursor) : Cursor :=
  skipBlank c.rest c.offset

/--
Where reading stands when an object is refused at `c`: at the next byte that is no blank, or
behind it if it closes the object.
-/
def Cursor.refused (c : Cursor) : Offset :=
  let c := c.skip
  if c.front == 0x7D then c.offset + 1 else c.offset

/-- Reads the letters of a word; nothing at a letter that differs, where the error stands. -/
def readWord : List UInt8 → List UInt8 → Offset → Except Error Cursor
  | [], rest, offset => .ok ⟨rest, offset⟩
  | _ :: _, [], offset => .error (Cause.endInValue.at offset)
  | letter :: letters, b :: rest, offset =>
    if b == letter then readWord letters rest (offset + 1)
    else .error (Cause.expectedIdent.at (offset + 1))

/-- A node, and where reading goes on if it does. -/
abbrev ReadNode := Node × Option Cursor

/-- A node that both taking and passing over refuse. -/
def refusedNode (e : Error) (start : Offset) : ReadNode :=
  (.broken e e start, none)

/-- A word that stands for a value. -/
def wordNode (letters : List UInt8) (c : Cursor) (node : Offset → Node) : ReadNode :=
  match readWord letters c.rest c.offset with
  | .ok after => (node after.offset, some after)
  | .error e => refusedNode e c.offset

/-- A number; `c` stands at its first byte. -/
def numberNode (c : Cursor) : ReadNode :=
  let negative := c.front == 0x2D
  let digits := if negative then c.next else c
  match passNumber digits with
  | .ok after => (.number (readNumber negative digits) c.offset after.offset, some after)
  | .error passed =>
    match readNumber negative digits with
    | .error taken => (.broken taken passed c.offset, none)
    | .ok _ => (.broken passed passed c.offset, none)

/-- A text; `c` stands at its opening quote. -/
def stringNode (c : Cursor) : ReadNode :=
  match scanString c.next.rest c.next.offset (.ok ([], none)) with
  | .closed value behind =>
    (.string (textOf value behind.offset) c.offset behind.offset, some behind)
  | .broken taken passed => (.broken taken passed c.offset, none)

mutual

/-- Reads one value; `level` brackets are open around it and `fuel` bounds the recursion. -/
def readValue : Nat → Nat → Cursor → ReadNode
  | 0, _, c => refusedNode (Cause.tooDeep.at c.offset) c.offset
  | fuel + 1, level, c =>
    let c := c.skip
    match c.rest with
    | [] => refusedNode (Cause.endInValue.at c.offset) c.offset
    | b :: _ =>
      match Char.ofNat b.toNat with
      | 'n' => wordNode "null".toUTF8.toList c (.null c.offset)
      | 't' => wordNode "true".toUTF8.toList c (.bool true c.offset)
      | 'f' => wordNode "false".toUTF8.toList c (.bool false c.offset)
      | '"' => stringNode c
      | '[' =>
        let (items, ending, after) := readItems fuel (level + 1) true c.next []
        (.list (level + 1) items ending c.offset, after)
      | '\x7b' =>
        let (members, ending, after) := readMembers fuel (level + 1) true c.next []
        (.object (level + 1) members ending c.offset, after)
      | _ =>
        if b == 0x2D || isDigit b then numberNode c
        else refusedNode (Cause.expectedValue.at (c.offset + 1)) c.offset

/-- Reads the items of a list behind those in `done`, which are in reverse. -/
def readItems : Nat → Nat → Bool → Cursor → List Node → List Node × Ending × Option Cursor
  | 0, _, _, c, done =>
    (done.reverse, .broken (Cause.tooDeep.at c.offset) (Cause.tooDeep.at c.offset), none)
  | fuel + 1, level, first, c, done =>
    let broken (taken passed : Error) := (done.reverse, Ending.broken taken passed, none)
    let item (c : Cursor) :=
      match readValue fuel level c with
      | (node, some after) => readItems fuel level false after (node :: done)
      | (node, none) =>
        ((node :: done).reverse,
          .broken (Cause.endInList.at c.offset) (Cause.endInList.at c.offset), none)
    let c := c.skip
    match c.rest with
    | [] => broken (Cause.endInList.at c.offset) (Cause.endInList.at c.offset)
    | 0x5D :: rest => (done.reverse, .closed (c.offset + 1), some ⟨rest, c.offset + 1⟩)
    | b :: _ =>
      if first then item c
      else if b == 0x2C then
        let c := c.next.skip
        match c.rest with
        | [] => broken (Cause.endInValue.at c.offset) (Cause.endInValue.at c.offset)
        | 0x5D :: _ =>
          broken (Cause.trailingComma.at (c.offset + 1)) (Cause.expectedValue.at (c.offset + 1))
        | _ :: _ => item c
      else
        let e := Cause.expectedListCommaOrEnd.at (c.offset + 1)
        broken e e

/-- Reads the members of an object behind those in `done`, which are in reverse. -/
def readMembers : Nat → Nat → Bool → Cursor → List Member → List Member × Ending × Option Cursor
  | 0, _, _, c, done =>
    (done.reverse, .broken (Cause.tooDeep.at c.offset) (Cause.tooDeep.at c.offset), none)
  | fuel + 1, level, first, c, done =>
    let broken (taken passed : Error) := (done.reverse, Ending.broken taken passed, none)
    let valueAfter (key : Except Error String) (c : Cursor) :=
      let refusal := c.refused
      let c := c.skip
      let stopped (node : Node) (refusedAt : Offset) :=
        (((key, refusal, node, refusedAt) :: done).reverse,
          Ending.broken (Cause.endInObject.at c.offset) (Cause.endInObject.at c.offset), none)
      match c.rest with
      | [] =>
        let e := Cause.endInObject.at c.offset
        stopped (.broken e e c.offset) c.offset
      | 0x3A :: _ =>
        match readValue fuel level c.next with
        | (node, some after) =>
          readMembers fuel level false after ((key, refusal, node, after.refused) :: done)
        | (node, none) => stopped node c.offset
      | _ :: _ =>
        let e := Cause.expectedColon.at (c.offset + 1)
        stopped (.broken e e c.offset) c.offset
    let member (c : Cursor) :=
      match scanString c.next.rest c.next.offset (.ok ([], none)) with
      | .closed value behind => valueAfter (textOf value behind.offset) behind
      | .broken taken passed => broken taken passed
    let c := c.skip
    match c.rest with
    | [] => broken (Cause.endInObject.at c.offset) (Cause.endInObject.at c.offset)
    | 0x7D :: rest => (done.reverse, .closed (c.offset + 1), some ⟨rest, c.offset + 1⟩)
    | b :: _ =>
      let noKey := Cause.keyMustBeString.at (c.offset + 1)
      if first then if b == 0x22 then member c else broken noKey noKey
      else if b == 0x2C then
        let c := c.next.skip
        match c.rest with
        | [] => broken (Cause.endInValue.at c.offset) (Cause.endInObject.at c.offset)
        | 0x22 :: _ => member c
        | 0x7D :: _ =>
          broken (Cause.trailingComma.at (c.offset + 1)) (Cause.keyMustBeString.at (c.offset + 1))
        | _ :: _ =>
          let e := Cause.keyMustBeString.at (c.offset + 1)
          broken e e
      else
        let e := Cause.expectedObjectCommaOrEnd.at (c.offset + 1)
        broken e e

end

/-- The tree of a text, and the refusal of what follows the value, if anything but blanks does. -/
def Node.ofText (text : List UInt8) : Node × Except Error Unit :=
  let (node, after) := readValue (2 * text.length + 2) 0 ⟨text, 0⟩
  match after with
  | none => (node, .ok ())
  | some c =>
    let c := c.skip
    match c.rest with
    | [] => (node, .ok ())
    | _ :: _ => (node, .error (Cause.trailingCharacters.at (c.offset + 1)))

/-- Reads a record from a text that holds nothing else. -/
def readText (read : Node → Except Error α) (text : List UInt8) : Except Error α := do
  let (node, rest) := Node.ofText text
  let value ← read node
  rest
  return value

/-- The value of a text. -/
def parse (text : List UInt8) : Except Error Json :=
  readText Node.take text

end InferenceGateway.Json
