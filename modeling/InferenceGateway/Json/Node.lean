import InferenceGateway.Json.Basic
import InferenceGateway.Json.Error

/-!
# JSON text as a tree

A `Node` is a JSON text cut into values, each with its place, up to the first point where the text
cannot be followed any further. A record is read from the tree from left to right, so of several
faults the one that stands first in the text is reported.

A value may be *taken*, when something is done with it, or *passed over*, when it stands under a
key that nobody asked for. Passing over is more lenient: it looks neither at the size of a number,
nor at the code points of a text, nor at the depth of nesting. Where the two differ, a node holds
the outcome of taking it, and a node that cannot be followed holds both complaints.

* `Node`, `Member`, `Ending`: the tree.
* `Node.take`: the value of a node.
* `Node.pass`: passing over it.
-/

namespace InferenceGateway.Json

/-- A number, as an integer of 64 bits or as a double. -/
inductive Number where
  | integer (n : Int)
  | float (x : Double)

/-- The value that a number is. -/
def Number.toJson : Number → Json
  | .integer n => .integer n
  | .float x => .float x

/-- How a list or an object ends. -/
inductive Ending where
  /-- By its bracket, behind which reading stands at `stop`. -/
  | closed (stop : Offset)
  /-- Not at all; the complaints of taking it and of passing over it. -/
  | broken (taken passed : Error)

/-- A value in a text. `start` is the offset of its first byte, `stop` the one behind its last. -/
inductive Node where
  | null (start stop : Offset)
  | bool (b : Bool) (start stop : Offset)
  | number (value : Except Error Number) (start stop : Offset)
  | string (value : Except Error String) (start stop : Offset)
  /-- `level` counts the brackets that are open inside the list. -/
  | list (level : Nat) (items : List Node) (ending : Ending) (start : Offset)
  /--
  A member is its key, the offset at which reading stands when it is refused after the key, the
  value, and the offset at which reading stands when it is refused after the value.
  -/
  | object (level : Nat) (members : List (Except Error String × Offset × Node × Offset))
      (ending : Ending) (start : Offset)
  /-- Text that is no value; the complaints of taking it and of passing over it. -/
  | broken (taken passed : Error) (start : Offset)

/-- A member of an object in a text. -/
abbrev Member := Except Error String × Offset × Node × Offset

/-- The offset of the first byte. -/
def Node.start : Node → Offset
  | .null start _ | .bool _ start _ | .number _ start _ | .string _ start _
  | .list _ _ _ start | .object _ _ _ start | .broken _ _ start => start

/-- The number of brackets that may be open at once. -/
def depthLimit : Nat := 127

/-- Refuses a bracket at `start` that opens too deep a level. -/
def checkDepth (level : Nat) (start : Offset) : Except Error Unit :=
  if level ≤ depthLimit then .ok () else .error (Cause.tooDeep.at (start + 1))

/-- The outcome of taking what ends so. -/
def Ending.take : Ending → Except Error Unit
  | .closed _ => .ok ()
  | .broken taken _ => .error taken

/-- The outcome of passing over what ends so. -/
def Ending.pass : Ending → Except Error Unit
  | .closed _ => .ok ()
  | .broken _ passed => .error passed

mutual

/-- The value of a node. In an object the last member of a key counts. -/
def Node.take : Node → Except Error Json
  | .null _ _ => .ok .null
  | .bool b _ _ => .ok (.bool b)
  | .number value _ _ => value.map Number.toJson
  | .string value _ _ => value.map .string
  | .list level items ending start => do
    checkDepth level start
    let items ← takeItems items
    ending.take
    return .array items
  | .object level members ending start => do
    checkDepth level start
    let members ← takeMembers members []
    ending.take
    return .object members
  | .broken taken _ _ => .error taken

/-- The values of nodes, from left to right. -/
def takeItems : List Node → Except Error (List Json)
  | [] => .ok []
  | node :: rest => do
    let item ← node.take
    let items ← takeItems rest
    return item :: items

/-- Puts the values of members into `done`. -/
def takeMembers : List (Except Error String × Offset × Node × Offset) → Members →
    Except Error Members
  | [], done => .ok done
  | (key, _, node, _) :: rest, done => do
    let key ← key
    let value ← node.take
    takeMembers rest (Members.insert key value done)

end

mutual

/-- Passes over a node. -/
def Node.pass : Node → Except Error Unit
  | .list _ items ending _ => do
    passItems items
    ending.pass
  | .object _ members ending _ => do
    passMembers members
    ending.pass
  | .broken _ passed _ => .error passed
  | _ => .ok ()

/-- Passes over nodes, from left to right. -/
def passItems : List Node → Except Error Unit
  | [] => .ok ()
  | node :: rest => do
    node.pass
    passItems rest

/-- Passes over the values of members. -/
def passMembers : List (Except Error String × Offset × Node × Offset) → Except Error Unit
  | [] => .ok ()
  | (_, _, node, _) :: rest => do
    node.pass
    passMembers rest

end

mutual

/-- A node that holds a value and stands nowhere in particular. -/
def Node.ofJson : Json → Node
  | .null => .null 0 0
  | .bool b => .bool b 0 0
  | .integer n => .number (.ok (.integer n)) 0 0
  | .float x => .number (.ok (.float x)) 0 0
  | .string s => .string (.ok s) 0 0
  | .array items => .list 1 (nodesOfItems items) (.closed 0) 0
  | .object members => .object 1 (nodesOfMembers members) (.closed 0) 0

/-- Nodes that hold values. -/
def nodesOfItems : List Json → List Node
  | [] => []
  | item :: rest => Node.ofJson item :: nodesOfItems rest

/-- Members that hold values. -/
def nodesOfMembers : List (String × Json) → List (Except Error String × Offset × Node × Offset)
  | [] => []
  | (key, value) :: rest => (.ok key, 0, Node.ofJson value, 0) :: nodesOfMembers rest

end

end InferenceGateway.Json
