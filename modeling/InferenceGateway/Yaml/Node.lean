import InferenceGateway.Yaml.Token

/-!
# Trees of YAML text

The nodes that tokens describe. A node may be given a name, under which it can stand in other
places. Names are numbered where they are given, by how many names are known by then; a name given
again gets a new number, and of two nodes with one number the later one counts.

* `Node`: a scalar, a list, a mapping or the number of a node elsewhere.
* `Node.ofTokens?`: the tree of the only document among tokens.
* `Document.resolve`: the node that a node stands for.
-/

namespace InferenceGateway.Yaml

/-- A text with what is known about its meaning. -/
structure Scalar where
  text : String
  style : Style := .plain
  tag : Option String := none
  deriving DecidableEq, Repr

/-- A part of a document. Nodes with a name carry its number as label. -/
inductive Node where
  | scalar (label : Option Nat) (value : Scalar)
  | list (label : Option Nat) (items : List Node)
  | mapping (label : Option Nat) (entries : List (Node × Node))
  /-- The node with the given label. -/
  | alias (label : Nat)
  deriving Repr

/-- The node where nothing is written. -/
def Node.empty : Node := .scalar none { text := "" }

/-! ## Names and tags -/

/-- What handles of tags stand for. The first entry for a handle counts. -/
abbrev Handles := List (List Char × List Char)

/-- The handles that always have a meaning. -/
def standardHandles : Handles :=
  [(['!'], ['!']), (['!', '!'], "tag:yaml.org,2002:".toList)]

/-- What is left to read, and the numbers of the names given so far. -/
structure Remaining where
  tokens : List Token
  names : List (List Char × Nat) := []

namespace Remaining

/-- Passes over the next token. -/
def skip (s : Remaining) : Remaining :=
  { s with tokens := s.tokens.tail }

/-- Whether the next token is of a class. -/
def sees (s : Remaining) (p : Token → Bool) : Bool :=
  s.tokens.head?.any p

/-- Gives a name; the number it gets. -/
def giveName (s : Remaining) (name : List Char) : Nat × Remaining :=
  let number := s.names.length
  (number, { s with names := (name, number) :: s.names.filter (·.1 != name) })

/-- The number of a name. -/
def number? (s : Remaining) (name : List Char) : Option Nat :=
  (s.names.find? (·.1 == name)).map (·.2)

end Remaining

/-- The tag with a handle and suffix. -/
def fullTag? (handles : Handles) (handle suffix : List Char) : Option String :=
  if handle.isEmpty then some (String.ofList suffix)
  else (handles.find? (·.1 == handle)).map fun (_, meaning) => String.ofList (meaning ++ suffix)

/-- What stands in front of the contents of a node. -/
structure Properties where
  label : Option Nat := none
  tag : Option String := none

/-- Takes the name and the tag of a node, in either order. -/
def takeProperties (handles : Handles) (s : Remaining) : Option (Properties × Remaining) :=
  let named (name : List Char) (tag : Option String) (s : Remaining) : Properties × Remaining :=
    let (label, s) := s.giveName name
    ({ label := some label, tag }, s)
  match s.tokens with
  | .anchor name :: .tag handle suffix :: _ =>
    (fullTag? handles handle suffix).map fun tag => named name (some tag) s.skip.skip
  | .anchor name :: _ => some (named name none s.skip)
  | .tag handle suffix :: .anchor name :: _ =>
    (fullTag? handles handle suffix).map fun tag => named name (some tag) s.skip.skip
  | .tag handle suffix :: _ =>
    (fullTag? handles handle suffix).map fun tag => ({ tag := some tag }, s.skip)
  | _ => some ({}, s)

/-- The node of a scalar. The tag `!` says nothing about it. -/
def Properties.scalar (p : Properties) (style : Style) (text : List Char) : Node :=
  let tag := p.tag.filter (· != "!")
  -- a scalar with that tag is read by its style
  .scalar p.label { text := String.ofList text, style, tag }

/-- The node of properties that nothing follows. -/
def Properties.alone? (p : Properties) : Option Node :=
  if p.label.isNone && p.tag.isNone then none
  else some (.scalar p.label { text := "", tag := p.tag })

/-! ## Nodes -/

/-- The kinds of nodes that may stand at a place. -/
inductive Place where
  /-- Between brackets. -/
  | flow
  /-- In a block. -/
  | block
  /-- In a block mapping, where the dashes of a list may stand below its key. -/
  | entry
  deriving DecidableEq, Repr

/-- Tokens in front of which an item of a block list is empty. -/
def endsItem : Token → Bool
  | .item | .blockEnd => true
  | _ => false

/-- Tokens in front of which a key or value of a block mapping is empty. -/
def endsEntry : Token → Bool
  | .key | .value | .blockEnd => true
  | _ => false

/-- Tokens in front of which an item of a list that has no block of its own is empty. -/
def endsLooseItem (t : Token) : Bool :=
  endsItem t || endsEntry t

/-- Tokens in front of which a value between brackets is empty. -/
def endsFlow (closing : Token) (t : Token) : Bool :=
  t == .comma || t == closing

mutual

/-- Reads a node. -/
def readNode (handles : Handles) (place : Place) : Nat → Remaining → Option (Node × Remaining)
  | 0, _ => none
  | fuel + 1, s =>
    match s.tokens with
    | .alias name :: _ => (s.number? name).map fun label => (.alias label, s.skip)
    | _ =>
      match takeProperties handles s with
      | none => none
      | some (p, s) =>
        let list (read : Option (List Node × Remaining)) : Option (Node × Remaining) :=
          read.map fun (items, s) => (.list p.label items, s)
        let mapping (read : Option (List (Node × Node) × Remaining)) : Option (Node × Remaining) :=
          read.map fun (entries, s) => (.mapping p.label entries, s)
        let alone := p.alone?.map fun node => (node, s)
        match s.tokens with
        | .item :: _ => if place == .entry then list (readLooseItems handles fuel s) else alone
        | .scalar style text :: _ => some (p.scalar style text, s.skip)
        | .flowListStart :: _ => list (readFlowItems handles true fuel s.skip)
        | .flowMappingStart :: _ => mapping (readFlowEntries handles true fuel s.skip)
        | .blockList :: _ =>
          if place == .flow then alone else list (readItems handles fuel s.skip)
        | .blockMapping :: _ =>
          if place == .flow then alone else mapping (readEntries handles fuel s.skip)
        | _ => alone

/-- Reads a node, or the empty one in front of a token of the given class. -/
def readUnless (handles : Handles) (place : Place) (ends : Token → Bool) :
    Nat → Remaining → Option (Node × Remaining)
  | 0, _ => none
  | fuel + 1, s =>
    if s.sees ends then some (.empty, s) else readNode handles place fuel s

/-- Reads the items of a block list. -/
def readItems (handles : Handles) : Nat → Remaining → Option (List Node × Remaining)
  | 0, _ => none
  | fuel + 1, s =>
    match s.tokens with
    | .item :: _ => do
      let (node, s) ← readUnless handles .block endsItem fuel s.skip
      let (rest, s) ← readItems handles fuel s
      return (node :: rest, s)
    | .blockEnd :: _ => some ([], s.skip)
    | _ => none

/-- Reads the items of a list that has no block of its own. -/
def readLooseItems (handles : Handles) : Nat → Remaining → Option (List Node × Remaining)
  | 0, _ => none
  | fuel + 1, s =>
    match s.tokens with
    | .item :: _ => do
      let (node, s) ← readUnless handles .block endsLooseItem fuel s.skip
      let (rest, s) ← readLooseItems handles fuel s
      return (node :: rest, s)
    | _ => some ([], s)

/-- Reads the entries of a block mapping. -/
def readEntries (handles : Handles) : Nat → Remaining → Option (List (Node × Node) × Remaining)
  | 0, _ => none
  | fuel + 1, s =>
    match s.tokens with
    | .key :: _ => do
      let (key, s) ← readUnless handles .entry endsEntry fuel s.skip
      let (value, s) ← readValue handles .entry endsEntry fuel s
      let (rest, s) ← readEntries handles fuel s
      return ((key, value) :: rest, s)
    | .blockEnd :: _ => some ([], s.skip)
    | _ => none

/-- Reads a colon and the value behind it, if there is one. -/
def readValue (handles : Handles) (place : Place) (ends : Token → Bool) :
    Nat → Remaining → Option (Node × Remaining)
  | 0, _ => none
  | fuel + 1, s =>
    match s.tokens with
    | .value :: _ => readUnless handles place ends fuel s.skip
    | _ => some (.empty, s)

/--
Reads the items of a list between brackets. A key in front of an item makes it a mapping with one
entry; where that key is empty, the token behind it is passed over.
-/
def readFlowItems (handles : Handles) (isFirst : Bool) :
    Nat → Remaining → Option (List Node × Remaining)
  | 0, _ => none
  | fuel + 1, s =>
    if s.sees (· == .flowListEnd) then some ([], s.skip)
    else if !isFirst && !s.sees (· == .comma) then none
    else
      let s := if isFirst then s else s.skip
      match s.tokens with
      | .flowListEnd :: _ => some ([], s.skip)
      | .key :: _ => do
        let s := s.skip
        let ends := endsFlow .flowListEnd
        let (key, s) ←
          if s.sees fun t => t == .value || ends t then some (.empty, s.skip)
          else readNode handles .flow fuel s
        let (value, s) ← readValue handles .flow ends fuel s
        let (rest, s) ← readFlowItems handles false fuel s
        return (.mapping none [(key, value)] :: rest, s)
      | _ => do
        let (node, s) ← readNode handles .flow fuel s
        let (rest, s) ← readFlowItems handles false fuel s
        return (node :: rest, s)

/-- Reads the entries of a mapping between brackets. -/
def readFlowEntries (handles : Handles) (isFirst : Bool) :
    Nat → Remaining → Option (List (Node × Node) × Remaining)
  | 0, _ => none
  | fuel + 1, s =>
    if s.sees (· == .flowMappingEnd) then some ([], s.skip)
    else if !isFirst && !s.sees (· == .comma) then none
    else
      let s := if isFirst then s else s.skip
      match s.tokens with
      | .flowMappingEnd :: _ => some ([], s.skip)
      | .key :: _ => do
        let ends := endsFlow .flowMappingEnd
        let (key, s) ← readUnless handles .flow (fun t => t == .value || ends t) fuel s.skip
        let (value, s) ← readValue handles .flow ends fuel s
        let (rest, s) ← readFlowEntries handles false fuel s
        return ((key, value) :: rest, s)
      | _ => do
        let (key, s) ← readNode handles .flow fuel s
        let (rest, s) ← readFlowEntries handles false fuel s
        return ((key, .empty) :: rest, s)

end

/-! ## Documents -/

/-- Takes the directives in front of a document; none of them may be given twice. -/
def takeDirectives (hasVersion : Bool) (handles : Handles) :
    List Token → Option (Handles × List Token)
  | .version major minor :: rest =>
    if hasVersion || major != 1 || (minor != 1 && minor != 2) then none
    else takeDirectives true handles rest
  | .tagHandle handle meaning :: rest =>
    if handles.any (·.1 == handle) then none
    else takeDirectives hasVersion (handles ++ [(handle, meaning)]) rest
  | rest => some (handles, rest)

/-- Tokens that show that a document does not just begin with its contents. -/
def isDocumentToken : Token → Bool
  | .version .. | .tagHandle .. | .documentStart => true
  | _ => false

/-- Reads the contents of a document, behind which only its end may stand. -/
def readContents (handles : Handles) (tokens : List Token) : Option Node := do
  let (node, s) ←
    readNode (handles ++ standardHandles) .block (8 * tokens.length + 8) { tokens }
  if s.tokens.all (· == .documentEnd) then some node else none

/-- The tree of the only document among tokens. Without any document it is the empty node. -/
def Node.ofTokens? (tokens : List Token) : Option Node :=
  match tokens with
  | [] => some .empty
  | t :: _ =>
    if isDocumentToken t then
      match takeDirectives false [] tokens with
      | some (handles, .documentStart :: rest) =>
        if rest.all (· == .documentEnd) then some .empty else readContents handles rest
      | _ => none
    else readContents [] tokens

mutual

/-- All nodes with a label, in the order of the text. -/
def Node.labelled : Node → List (Nat × Node)
  | .scalar label value => (label.map (·, Node.scalar label value)).toList
  | .list label items => (label.map (·, Node.list label items)).toList ++ labelledItems items
  | .mapping label entries =>
    (label.map (·, Node.mapping label entries)).toList ++ labelledEntries entries
  | .alias _ => []

/-- The nodes with a label in the items of a list. -/
def labelledItems : List Node → List (Nat × Node)
  | [] => []
  | n :: rest => n.labelled ++ labelledItems rest

/-- The nodes with a label in the entries of a mapping. -/
def labelledEntries : List (Node × Node) → List (Nat × Node)
  | [] => []
  | (k, v) :: rest => k.labelled ++ v.labelled ++ labelledEntries rest

end

/-- A document. -/
structure Document where
  root : Node
  /-- The nodes with a label; of two with one label the later counts. -/
  labelled : List (Nat × Node)

/-- The only document of a text. -/
def Document.ofText? (text : String) : Option Document := do
  let root ← Node.ofTokens? (← tokens text.toList)
  return ⟨root, root.labelled⟩

/-- The node that a node stands for. -/
def Document.resolve (d : Document) (n : Node) : Node :=
  match n with
  | .alias label => ((d.labelled.reverse.find? (·.1 == label)).map (·.2)).getD .empty
  | _ => n

end InferenceGateway.Yaml
