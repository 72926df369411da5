import InferenceGateway.Text.Utf8
import InferenceGateway.Yaml.Scalar

/-!
# Tokens of YAML text

The marks, names and scalars of a text, with the block structure that its indentation expresses
made explicit. Whether a scalar is a key is known only at the colon behind it; the token that says
so is then put in front of it.

* `Token`: what a text is cut into.
* `Lexer`: how far the cutting has come.
* `tokens`: the tokens of a text, or nothing if it is not well formed.
-/

namespace InferenceGateway.Yaml

/-- How a scalar is written. -/
inductive Style where
  | plain
  | quoted
  | literal
  | folded
  deriving DecidableEq, Repr

/-- What a text is cut into. -/
inductive Token where
  /-- The line that names the version of the format. -/
  | version (major minor : Nat)
  /-- The line that gives a handle of tags its meaning. -/
  | tagHandle (handle meaning : List Char)
  | documentStart
  | documentEnd
  | blockList
  | blockMapping
  | blockEnd
  | flowListStart
  | flowListEnd
  | flowMappingStart
  | flowMappingEnd
  /-- The dash in front of an item. -/
  | item
  /-- The comma between two items. -/
  | comma
  | key
  | value
  | alias (name : List Char)
  | anchor (name : List Char)
  | tag (handle suffix : List Char)
  | scalar (style : Style) (text : List Char)
  deriving DecidableEq, Repr

/-- A token that a colon may turn into a key. -/
structure KeyPlace where
  /-- Whether nothing but a key may stand there. -/
  required : Bool
  /-- How many tokens stand in front of it. -/
  number : Nat
  line : Nat
  column : Nat
  index : Nat
  deriving DecidableEq, Repr

/-- How far a text has been cut into tokens. -/
structure Lexer where
  cursor : Cursor
  /-- The tokens so far, the last one first. -/
  latest : List Token := []
  /-- The column of the innermost block; negative outside of all. -/
  indent : Int := -1
  /-- The columns of the surrounding blocks, the innermost first. -/
  outer : List Int := []
  /-- Whether a key may begin here. -/
  keyAllowed : Bool := true
  /-- The possible key between the innermost brackets. -/
  place : Option KeyPlace := none
  /-- The possible keys around the brackets, the innermost first. -/
  outerPlaces : List (Option KeyPlace) := []
  deriving DecidableEq, Repr

namespace Lexer

/-- Whether the place is between brackets. -/
def inFlow (l : Lexer) : Bool := !l.outerPlaces.isEmpty

/-- Adds a token. -/
def push (l : Lexer) (t : Token) : Lexer :=
  { l with latest := t :: l.latest }

/-- Adds a token behind the first `number` ones. -/
def insertAt (l : Lexer) (number : Nat) (t : Token) : Lexer :=
  let behind := l.latest.length - number
  { l with latest := l.latest.take behind ++ t :: l.latest.drop behind }

/-- Adds a token for so many characters here. -/
def mark (l : Lexer) (length : Nat) (t : Token) : Lexer :=
  push { l with cursor := l.cursor.skip length } t

/-- Goes on at a place. -/
def moveTo (l : Lexer) (c : Cursor) : Lexer :=
  { l with cursor := c }

/-- Says whether a key may begin here. -/
def allowKey (l : Lexer) (allowed : Bool) : Lexer :=
  { l with keyAllowed := allowed }

/-- Opens a block at a column, by a token behind the first `number` ones. -/
def openBlock (l : Lexer) (column number : Nat) (t : Token) : Lexer :=
  if !l.inFlow && l.indent < column then
    insertAt { l with indent := column, outer := l.indent :: l.outer } number t
  else l

/-- Closes the blocks of the given columns that are deeper than `column`. -/
def closeBlocks (column : Int) : List Int → Lexer → Lexer
  | [], l => l
  | next :: rest, l =>
    if column < l.indent then
      closeBlocks column rest (push { l with indent := next, outer := rest } .blockEnd)
    else l

/-- Closes the blocks that are deeper than a column. -/
def closeTo (l : Lexer) (column : Int) : Lexer :=
  if l.inFlow then l else closeBlocks column l.outer l

/-- Gives up the possible key; refused if it has to be one. -/
def dropKey (l : Lexer) : Option Lexer :=
  if l.place.any (·.required) then none else some { l with place := none }

/-- Remembers the next token as a possible key, where one may begin. -/
def saveKey (l : Lexer) : Option Lexer :=
  if l.keyAllowed then
    l.dropKey.map fun l =>
      let c := l.cursor
      let required := !l.inFlow && l.indent == c.column
      { l with place := some ⟨required, l.latest.length, c.line, c.column, c.index⟩ }
  else some l

/-- A key ends on its line and within 1024 characters. -/
def isStale (c : Cursor) (p : KeyPlace) : Bool :=
  p.line < c.line || p.index + 1024 < c.index

/-- A possible key, unless it is stale; refused if it has to be a key. -/
def freshPlace (c : Cursor) (place : Option KeyPlace) : Option (Option KeyPlace) :=
  match place with
  | none => some none
  | some p =>
    if !isStale c p then some (some p)
    else if p.required then none
    else some none

/-- Gives up the possible keys that are stale. -/
def dropStale (l : Lexer) : Option Lexer := do
  let place ← freshPlace l.cursor l.place
  let outerPlaces ← l.outerPlaces.mapM (freshPlace l.cursor)
  return { l with place, outerPlaces }

/-! ## Blanks, comments and lines in front of a token -/

/-- Goes on to the next token. -/
def skipBlanks : Nat → Lexer → Lexer
  | 0, l => l
  | fuel + 1, l =>
    let tabs := l.inFlow || !l.keyAllowed
    let c := (l.cursor.skipWhile fun x => x == ' ' || (tabs && x == '\t')).skipComment
    if c.atBreak then
      skipBlanks fuel ((l.moveTo c.takeBreak.2).allowKey (l.keyAllowed || !l.inFlow))
    else l.moveTo c

/-! ## Tags, anchors and directives -/

/-- A character of a tag; between angle brackets a few more. -/
def isTagChar (verbatim : Bool) (x : Char) : Bool :=
  isWordChar x || ";/?:@&=+$.%!~*'()".toList.contains x || (verbatim && ",[]".toList.contains x)

/-- The byte of two hexadecimal digits behind a percent sign. -/
def escapedByte? (cs : List Char) : Option UInt8 :=
  match cs with
  | '%' :: a :: b :: _ => do
    let high ← Text.hexValue? a
    let low ← Text.hexValue? b
    return UInt8.ofNat (16 * high + low)
  | _ => none

/-- The bytes of so many percent escapes that follow each other. -/
def escapedBytes? : Nat → List Char → Option (List UInt8)
  | 0, _ => some []
  | n + 1, cs => do
    let b ← escapedByte? cs
    let rest ← escapedBytes? n (cs.drop 3)
    return b :: rest

/-- How many bytes a character has whose first byte is the given one. -/
def byteLength? (first : UInt8) : Option Nat :=
  if first < 0x80 then some 1
  else if first < 0xC0 then none
  else if first < 0xE0 then some 2
  else if first < 0xF0 then some 3
  else if first < 0xF8 then some 4
  else none

/-- The character written in percent escapes here, and how many bytes it has. -/
def escapedChar? (cs : List Char) : Option (Char × Nat) := do
  let first ← escapedByte? cs
  let length ← byteLength? first
  let bytes ← escapedBytes? length cs
  if !bytes.tail.all Text.isContinuation then none
  let c := match Text.decode? bytes with
    | some s => s.toList.head?.getD '\uFFFD'
    | none => '\uFFFD'
  return (c, length)

/-- The text of a tag that stands here, and the place behind it. -/
def takeTagText (verbatim : Bool) : Nat → Cursor → List Char → Option (List Char × Cursor)
  | 0, _, _ => none
  | fuel + 1, c, text =>
    match c.front with
    | none => some (text, c)
    | some x =>
      if x == '%' then
        match escapedChar? c.rest with
        | some (y, length) => takeTagText verbatim fuel (c.skip (3 * length)) (text ++ [y])
        | none => none
      else if isTagChar verbatim x then takeTagText verbatim fuel (c.skip 1) (text ++ [x])
      else some (text, c)

/-- The text of a tag behind what is known of it. -/
def tagText (verbatim : Bool) (known : List Char) (c : Cursor) : Option (List Char × Cursor) :=
  takeTagText verbatim (c.rest.length + 1) c known

/-- A handle that stands here, and the place behind it. -/
def takeHandle (c : Cursor) : Option (List Char × Cursor) :=
  if !c.sees '!' then none
  else
    let (name, c) := (c.skip 1).takeWhile isWordChar
    if c.sees '!' then some ('!' :: name ++ ['!'], c.skip 1) else some ('!' :: name, c)

/-- A tag that stands here, as handle and suffix, and the place behind it. -/
def takeTag (c : Cursor) : Option (List Char × List Char × Cursor) := do
  if c.ahead 1 == some '<' then
    let (text, c) ← tagText true [] (c.skip 2)
    if text.isEmpty || !c.sees '>' then none
    return ([], text, c.skip 1)
  else
    let (handle, c) ← takeHandle c
    if 1 < handle.length && handle.getLast? == some '!' then
      let (text, c) ← tagText false [] c
      if text.isEmpty then none
      return (handle, text, c)
    else
      let (text, c) ← tagText false handle.tail c
      return if text.isEmpty then ([], ['!'], c) else (['!'], text, c)

/-- A number of at most nine digits that stands here, and the place behind it. -/
def takeNumber (c : Cursor) : Option (Nat × Cursor) :=
  let (digits, c) := c.takeWhile Char.isDigit
  if digits.isEmpty || 9 < digits.length then none
  else some (digits.foldl (fun n d => 10 * n + (d.toNat - '0'.toNat)) 0, c)

/-- The version behind its directive's name. -/
def takeVersion (c : Cursor) : Option (Token × Cursor) := do
  let (major, c) ← takeNumber (c.skipWhile isBlank)
  if !c.sees '.' then none
  let (minor, c) ← takeNumber (c.skip 1)
  return (.version major minor, c)

/-- The handle and its meaning behind their directive's name. -/
def takeTagHandle (c : Cursor) : Option (Token × Cursor) := do
  let (handle, c) ← takeHandle (c.skipWhile isBlank)
  if (1 < handle.length && handle.getLast? != some '!') || !c.atBlank then none
  let (meaning, c) ← tagText true [] (c.skipWhile isBlank)
  if meaning.isEmpty || !c.isClear 0 then none
  return (.tagHandle handle meaning, c)

/-- The directive that stands here, and the start of the next line. -/
def takeDirective (c : Cursor) : Option (Token × Cursor) := do
  let (name, c) := (c.skip 1).takeWhile isWordChar
  if !c.isClear 0 then none
  let (token, c) ←
    if name == "YAML".toList then takeVersion c
    else if name == "TAG".toList then takeTagHandle c
    else none
  return (token, ← c.finishLine)

/-- The name behind an asterisk or ampersand, and the place behind it. -/
def takeName (c : Cursor) : Option (List Char × Cursor) :=
  let (name, c) := (c.skip 1).takeWhile isWordChar
  let ends := c.isClear 0 || c.front.any fun x => "?:,]\x7d%@`".toList.contains x
  if name.isEmpty || !ends then none else some (name, c)

/-! ## One token -/

/-- Closes all blocks in front of what begins or ends a document. -/
def leaveBlocks (l : Lexer) : Option Lexer :=
  (l.closeTo (-1)).dropKey.map (·.allowKey false)

/-- An opening bracket. -/
def openFlow (l : Lexer) (t : Token) : Option Lexer :=
  l.saveKey.map fun l =>
    let inside := { l with place := none, outerPlaces := l.place :: l.outerPlaces }
    (inside.allowKey true).mark 1 t

/-- A closing bracket. -/
def closeFlow (l : Lexer) (t : Token) : Option Lexer :=
  l.dropKey.map fun l =>
    let l := match l.outerPlaces with
      | place :: rest => { l with place, outerPlaces := rest }
      | [] => l
    (l.allowKey false).mark 1 t

/-- A dash in front of an item. -/
def readItem (l : Lexer) : Option Lexer := do
  if !l.inFlow && !l.keyAllowed then none
  let l := l.openBlock l.cursor.column l.latest.length .blockList
  let l ← l.dropKey
  return (l.allowKey true).mark 1 .item

/-- A question mark in front of a key. -/
def readKey (l : Lexer) : Option Lexer := do
  if !l.inFlow && !l.keyAllowed then none
  let l := l.openBlock l.cursor.column l.latest.length .blockMapping
  let l ← l.dropKey
  return (l.allowKey !l.inFlow).mark 1 .key

/-- A colon behind a key. -/
def readValue (l : Lexer) : Option Lexer :=
  match l.place with
  | some p =>
    let l := (l.insertAt p.number .key).openBlock p.column p.number .blockMapping
    some ((allowKey { l with place := none } false).mark 1 .value)
  | none =>
    if !l.inFlow && !l.keyAllowed then none
    else
      let l := l.openBlock l.cursor.column l.latest.length .blockMapping
      some ((l.allowKey !l.inFlow).mark 1 .value)

/-- A token that may be a key, with the place behind it. -/
def readNode (l : Lexer) (allowed : Bool) (t : Token) (behind : Cursor) : Option Lexer :=
  l.saveKey.map fun l => ((l.allowKey allowed).moveTo behind).push t

/-- A tag. -/
def readTag (l : Lexer) : Option Lexer := do
  let (handle, suffix, c) ← takeTag l.cursor
  if !c.isClear 0 && !(l.inFlow && c.sees ',') then none
  l.readNode false (.tag handle suffix) c

/-- A scalar written as a block. -/
def readBlock (l : Lexer) (style : Style) : Option Lexer := do
  let l ← l.dropKey
  let (text, c) ← takeBlock (style == .literal) l.indent l.cursor
  return ((l.allowKey true).moveTo c).push (.scalar style text)

/-- A plain scalar. A key may begin on the line behind it. -/
def readPlain (l : Lexer) : Option Lexer := do
  let (text, broken, c) ← takePlain l.inFlow (l.indent + 1).toNat l.cursor
  l.readNode broken (.scalar .plain text) c

/-- Whether a plain scalar may begin here. -/
def startsPlain (l : Lexer) (x : Char) : Bool :=
  let c := l.cursor
  !(isBlank x || isBreak x || "-?:,[]\x7b\x7d#&*!|>'\"%@`".toList.contains x)
    || (x == '-' && !(c.ahead 1).any isBlank)
    || (!l.inFlow && (x == '?' || x == ':') && !c.isClear 1)

/-- The next token, which begins with the given character. -/
def readToken (l : Lexer) (x : Char) : Option Lexer :=
  let c := l.cursor
  let begins := l.inFlow || c.isClear 1
  if c.column == 0 && x == '%' then do
    let (t, next) ← takeDirective c
    return ((← l.leaveBlocks).moveTo next).push t
  else if c.startsWithMark '-' then l.leaveBlocks.map (·.mark 3 .documentStart)
  else if c.startsWithMark '.' then l.leaveBlocks.map (·.mark 3 .documentEnd)
  else if x == '[' then l.openFlow .flowListStart
  else if x == '{' then l.openFlow .flowMappingStart
  else if x == ']' then l.closeFlow .flowListEnd
  else if x == '}' then l.closeFlow .flowMappingEnd
  else if x == ',' then l.dropKey.map fun l => (l.allowKey true).mark 1 .comma
  else if x == '-' && c.isClear 1 then l.readItem
  else if x == '?' && begins then l.readKey
  else if x == ':' && begins then l.readValue
  else if x == '*' then (takeName c).bind fun (name, next) => l.readNode false (.alias name) next
  else if x == '&' then (takeName c).bind fun (name, next) => l.readNode false (.anchor name) next
  else if x == '!' then l.readTag
  else if x == '|' && !l.inFlow then l.readBlock .literal
  else if x == '>' && !l.inFlow then l.readBlock .folded
  else if x == '\'' || x == '"' then
    (takeQuoted x c).bind fun (text, next) => l.readNode false (.scalar .quoted text) next
  else if l.startsPlain x then l.readPlain
  else none

/-- All tokens up to the end of the text. -/
def readAll : Nat → Lexer → Option (List Token)
  | 0, _ => none
  | fuel + 1, l =>
    match (skipBlanks (l.cursor.rest.length + 1) l).dropStale with
    | none => none
    | some l =>
      let l := l.closeTo l.cursor.column
      match l.cursor.front with
      | none => l.leaveBlocks.map (·.latest.reverse)
      | some x =>
        match l.readToken x with
        | some l => readAll fuel l
        | none => none

end Lexer

/-- The tokens of a text. One byte order mark in front of it does not count. -/
def tokens (text : List Char) : Option (List Token) :=
  let text := match text with
    | x :: rest => if x.toNat == 0xFEFF then rest else text
    | [] => []
  if text.all isAllowed then Lexer.readAll (text.length + 1) { cursor := { rest := text } } else none

end InferenceGateway.Yaml
