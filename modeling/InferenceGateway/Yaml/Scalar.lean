import InferenceGateway.Text.Hex
import InferenceGateway.Yaml.Cursor

/-!
# Scalars in YAML text

The four ways to write a text: plain, between single or double quotes, and as a block. A line end
within one counts as a space; further ones behind it are kept. Each function gives the value and
the place behind it, or nothing for what is no scalar.
-/

namespace InferenceGateway.Yaml

/-- Blanks and line ends between two pieces of a scalar. -/
structure Gap where
  /-- The blanks, if there is no line end. -/
  blanks : List Char := []
  /-- Whether there is a line end. -/
  broken : Bool := false
  /-- What the first line end adds; nothing for one that is escaped. -/
  first : List Char := []
  /-- What the further line ends add. -/
  further : List Char := []
  deriving DecidableEq, Repr

/-- What a gap adds to a value. -/
def Gap.fold (g : Gap) : List Char :=
  if !g.broken then g.blanks
  else if g.first.head? == some '\n' then (if g.further.isEmpty then [' '] else g.further)
  else g.first ++ g.further

/--
The gap that stands here and the place behind it. In a plain scalar no tab may stand in front of
column `tabsFrom` of a line.
-/
def takeGap (tabsFrom : Nat) : Nat → Cursor → Gap → Option (Gap × Cursor)
  | 0, c, g => some (g, c)
  | fuel + 1, c, g =>
    match c.front with
    | none => some (g, c)
    | some x =>
      if isBlank x then
        if g.broken then
          if x == '\t' && c.column < tabsFrom then none
          else takeGap tabsFrom fuel (c.skip 1) g
        else takeGap tabsFrom fuel (c.skip 1) { g with blanks := g.blanks ++ [x] }
      else if isBreak x then
        let (added, next) := c.takeBreak
        if g.broken then takeGap tabsFrom fuel next { g with further := g.further ++ added }
        else takeGap tabsFrom fuel next { g with broken := true, first := added }
      else some (g, c)

/-! ## Plain scalars -/

/-- Characters that end a plain scalar between brackets. -/
def isFlowMark (x : Char) : Bool :=
  x == ',' || x == '[' || x == ']' || x == '{' || x == '}'

/--
The characters of a plain scalar up to the next blank or line end, and whether the scalar ends
there. Between brackets a colon must not cling to what follows it there.
-/
def plainPiece (inFlow : Bool) : List Char → Option (List Char × Bool)
  | [] => some ([], true)
  | x :: rest =>
    if isBlank x || isBreak x then some ([], false)
    else
      let next := rest.head?
      if inFlow && x == ':' && next.any fun y => isFlowMark y || y == '?' then none
      else if (x == ':' && next.all fun y => isBlank y || isBreak y) || (inFlow && isFlowMark x) then
        some ([], true)
      else (plainPiece inFlow rest).map fun (piece, ends) => (x :: piece, ends)

/--
Reads a plain scalar on from a place. `indent` is the least column that its lines may begin at.
Also says whether the scalar is followed by a line end.
-/
def plainFrom (inFlow : Bool) (indent : Nat) : Nat → Cursor → Gap → List Char →
    Option (List Char × Bool × Cursor)
  | 0, _, _, _ => none
  | fuel + 1, c, gap, value =>
    if c.atDocumentMark || c.sees '#' then some (value, gap.broken, c)
    else
      match plainPiece inFlow c.rest with
      | none => none
      | some (piece, ends) =>
        let taken := if piece.isEmpty then value else value ++ gap.fold ++ piece
        let broken := piece.isEmpty && gap.broken
        let behind := c.skip piece.length
        if ends then some (taken, broken, behind)
        else
          match takeGap indent behind.rest.length behind {} with
          | none => none
          | some (next, after) =>
            if !inFlow && after.column < indent then some (taken, next.broken, after)
            else plainFrom inFlow indent fuel after next taken

/-- Reads a plain scalar. -/
def takePlain (inFlow : Bool) (indent : Nat) (c : Cursor) :
    Option (List Char × Bool × Cursor) :=
  plainFrom inFlow indent (c.rest.length + 1) c {} []

/-! ## Quoted scalars -/

/-- The character that a letter behind a backslash stands for. -/
def escaped? : Char → Option Char
  | '0' => some (Char.ofNat 0x00)
  | 'a' => some (Char.ofNat 0x07)
  | 'b' => some (Char.ofNat 0x08)
  | 't' | '\t' => some '\t'
  | 'n' => some '\n'
  | 'v' => some (Char.ofNat 0x0B)
  | 'f' => some (Char.ofNat 0x0C)
  | 'r' => some '\r'
  | 'e' => some (Char.ofNat 0x1B)
  | ' ' => some ' '
  | '"' => some '"'
  | '/' => some '/'
  | '\\' => some '\\'
  | 'N' => some (Char.ofNat 0x85)
  | '_' => some (Char.ofNat 0xA0)
  | 'L' => some (Char.ofNat 0x2028)
  | 'P' => some (Char.ofNat 0x2029)
  | _ => none

/-- How many hexadecimal digits follow a letter behind a backslash. -/
def escapeLength? : Char → Option Nat
  | 'x' => some 2
  | 'u' => some 4
  | 'U' => some 8
  | _ => none

/-- The character with a code of so many hexadecimal digits. -/
def codeChar? (length : Nat) (cs : List Char) : Option Char := do
  if cs.length < length then none
  let code ← (cs.take length).foldlM (fun n d => (Text.hexValue? d).map (16 * n + ·)) 0
  if (0xD800 ≤ code && code ≤ 0xDFFF) || 0x10FFFF < code then none
  return Char.ofNat code

/-- How a piece of a quoted scalar ends. -/
inductive PieceEnd where
  /-- At a blank, a line end or the quote. -/
  | gap
  /-- At a backslash in front of a line end. -/
  | escapedBreak
  deriving DecidableEq, Repr

/-- The characters of a quoted scalar up to the next blank, line end or quote. -/
def quotedPiece (quote : Char) : Nat → Cursor → List Char → Option (List Char × PieceEnd × Cursor)
  | 0, _, _ => none
  | fuel + 1, c, value =>
    match c.rest with
    | [] => some (value, .gap, c)
    | x :: rest =>
      if isBlank x || isBreak x then some (value, .gap, c)
      else if quote == '\'' && x == quote && rest.head? == some quote then
        quotedPiece quote fuel (c.skip 2) (value ++ [quote])
      else if x == quote then some (value, .gap, c)
      else if quote == '"' && x == '\\' then
        match rest with
        | [] => none
        | y :: digits =>
          if isBreak y then some (value, .escapedBreak, (c.skip 1).takeBreak.2)
          else
            match escaped? y, escapeLength? y with
            | some z, _ => quotedPiece quote fuel (c.skip 2) (value ++ [z])
            | none, some length =>
              match codeChar? length digits with
              | some z => quotedPiece quote fuel (c.skip (2 + length)) (value ++ [z])
              | none => none
            | none, none => none
      else quotedPiece quote fuel (c.skip 1) (value ++ [x])

/-- Reads a quoted scalar on from a place behind its first quote. -/
def quotedFrom (quote : Char) : Nat → Cursor → List Char → Option (List Char × Cursor)
  | 0, _, _ => none
  | fuel + 1, c, value =>
    if c.atDocumentMark || c.atEnd then none
    else
      match quotedPiece quote (c.rest.length + 1) c value with
      | none => none
      | some (value, ending, c) =>
        if ending == .gap && c.sees quote then some (value, c.skip 1)
        else
          match takeGap 0 c.rest.length c { broken := ending == .escapedBreak } with
          | none => none
          | some (gap, c) => quotedFrom quote fuel c (value ++ gap.fold)

/-- Reads a quoted scalar. -/
def takeQuoted (quote : Char) (c : Cursor) : Option (List Char × Cursor) :=
  quotedFrom quote (c.rest.length + 1) (c.skip 1) []

/-! ## Block scalars -/

/-- What becomes of the line ends at the end of a block. -/
inductive Chomping where
  | strip
  | clip
  | keep
  deriving DecidableEq, Repr

/-- What stands behind the mark of a block: chomping, indentation, in either order. -/
def blockHeader (c : Cursor) : Option (Chomping × Option Nat × Cursor) :=
  let chomping (c : Cursor) : Chomping × Cursor :=
    if c.sees '+' then (.keep, c.skip 1) else if c.sees '-' then (.strip, c.skip 1) else (.clip, c)
  let indentation (c : Cursor) : Option (Option Nat × Cursor) :=
    match c.front with
    | some x =>
      if x == '0' then none
      else if x.isDigit then some (some (x.toNat - '0'.toNat), c.skip 1)
      else some (none, c)
    | none => some (none, c)
  let (first, c) := chomping c
  match indentation c with
  | none => none
  | some (indent, c) =>
    if first == .clip then
      if indent.isSome then
        let (second, c) := chomping c
        some (second, indent, c)
      else some (.clip, none, c)
    else some (first, indent, c)

/--
Skips indentation and empty lines. An indentation that is not known is that of the deepest line
passed, but at least one and more than the surrounding.
-/
def blockBreaks (surrounding : Int) : Nat → Option Nat → Nat → Cursor → List Char →
    Option (List Char × Nat × Cursor)
  | 0, _, _, _, _ => none
  | fuel + 1, indent, deepest, c, breaks =>
    let spaces := c.rest.takeWhile (· == ' ')
    let room := match indent with
      | some n => min spaces.length (n - c.column)
      | none => spaces.length
    let c := c.skip room
    let deepest := max deepest c.column
    if c.sees '\t' && indent.all (c.column < ·) then none
    else if c.atBreak then
      let (added, c) := c.takeBreak
      blockBreaks surrounding fuel indent deepest c (breaks ++ added)
    else
      let least := (surrounding + 1).toNat
      some (breaks, indent.getD (max deepest (max least 1)), c)

/-- Reads the lines of a block. -/
def blockLines (literal : Bool) (surrounding : Int) (indent : Nat) :
    Nat → Cursor → List Char → List Char → List Char → Bool →
    Option (List Char × List Char × List Char × Cursor)
  | 0, _, _, _, _, _ => none
  | fuel + 1, c, value, leading, trailing, leadingBlank =>
    if c.column == indent && !c.atEnd then
      let blank := c.atBlank
      let joined :=
        if !literal && leading.head? == some '\n' && !leadingBlank && !blank then
          if trailing.isEmpty then [' '] else []
        else leading
      let (content, c) := c.takeWhile fun x => !isBreak x
      let (leading, c) := c.takeBreak
      match blockBreaks surrounding (c.rest.length + 1) (some indent) 0 c [] with
      | none => none
      | some (breaks, _, c) =>
        blockLines literal surrounding indent fuel c (value ++ joined ++ trailing ++ content) leading
          breaks blank
    else some (value, leading, trailing, c)

/-- Reads a block within a block of the given indentation, which is negative at the top. -/
def takeBlock (literal : Bool) (surrounding : Int) (c : Cursor) : Option (List Char × Cursor) := do
  let (chomping, increment, c) ← blockHeader (c.skip 1)
  let c ← c.finishLine
  let given := increment.map fun n => (max surrounding 0).toNat + n
  let (breaks, indent, c) ← blockBreaks surrounding (c.rest.length + 1) given 0 c []
  let (value, leading, trailing, c) ←
    blockLines literal surrounding indent (c.rest.length + 1) c [] [] breaks false
  return (match chomping with
    | .strip => value
    | .clip => value ++ leading
    | .keep => value ++ leading ++ trailing, c)

end InferenceGateway.Yaml
