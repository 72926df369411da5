import InferenceGateway.Json.Reader

/-!
# Reading records from JSON text

A record is read from an object member by member. What a member does is said by a `Slot`: a known
member may be given once, an unknown one is passed over or kept. A record that keeps unknown
members is read from objects alone; the others may also be written as the list of their fields in
order.

* `Node.readString`, `Node.readInteger`, `Node.readDouble`, `Node.readBool`: single values.
* `Node.readOptional`, `Node.readList`: a value that may be null, a list of values.
* `Shape`: the fields of a record under construction.
* `Node.readRecord`: a record from an object or, if the shape allows it, from a list.
-/

namespace InferenceGateway.Json

/-- A refusal of a value of another kind than the expected one. -/
def Node.refuse (node : Node) (expected : String) : Error :=
  let placed (found : Found) (offset : Offset) := (Cause.invalidType found expected).at offset
  match node with
  | .null _ stop => placed .null stop
  | .bool b _ stop => placed (.bool b) stop
  | .number (.ok (.integer n)) _ stop => placed (.integer n) stop
  | .number (.ok (.float x)) _ stop => placed (.float x) stop
  | .number (.error e) _ _ => e
  | .string (.ok s) _ stop => placed (.string s) stop
  | .string (.error e) _ _ => e
  | .list _ _ _ start => placed .sequence start
  | .object _ _ _ start => placed .map start
  | .broken taken _ _ => taken

/-- Reads a text. -/
def Node.readString : Node → Except Error String
  | .string value _ _ => value
  | node => .error (node.refuse "a string")

/-- Reads a truth value. -/
def Node.readBool : Node → Except Error Bool
  | .bool b _ _ => .ok b
  | node => .error (node.refuse "a boolean")

/-- Reads an integer of 64 bits with a sign. -/
def Node.readInteger : Node → Except Error Int
  | .number (.ok (.integer n)) _ stop =>
    if n < Nat.pow 2 63 then .ok n else .error ((Cause.invalidValue (.integer n) "i64").at stop)
  | node => .error (node.refuse "i64")

/-- Reads a number as a double. -/
def Node.readDouble : Node → Except Error Double
  | .number (.ok (.integer n)) _ _ => .ok (Double.ofInt n)
  | .number (.ok (.float x)) _ _ => .ok x
  | node => .error (node.refuse "f64")

/-- Reads a value that may be null. -/
def Node.readOptional (read : Node → Except Error α) : Node → Except Error (Option α)
  | .null _ _ => .ok none
  | node => (read node).map some

/-- Reads values from nodes, from left to right. -/
def readAll (read : Node → Except Error α) : List Node → Except Error (List α)
  | [] => .ok []
  | node :: rest => do
    let value ← read node
    let values ← readAll read rest
    return value :: values

/-- Reads a list of values. -/
def Node.readList (read : Node → Except Error α) : Node → Except Error (List α)
  | .list level items ending start => do
    checkDepth level start
    let values ← readAll read items
    ending.take
    return values
  | node => .error (node.refuse "a sequence")

/-! ## Records -/

/-- What becomes of a member of a record under construction. -/
inductive Slot (σ : Type) where
  /-- The field has its value already. -/
  | filled
  /-- The value is read into the record. -/
  | fill (read : Node → Except Error σ)

/-- A field that must be given at most once: `value` is what has been read so far. -/
def Slot.field (value : Option α) (read : Node → Except Error α) (put : α → σ) : Slot σ :=
  match value with
  | some _ => .filled
  | none => .fill fun node => (read node).map put

/-- How a record of type `α` is read, with `σ` the record under construction. -/
structure Shape (σ α : Type) where
  /-- What messages call the record. -/
  name : String
  /-- The fields in order, each with whether a list of fields may end before it. -/
  fields : List (String × Bool)
  /-- Whether a list of fields is accepted in place of an object. -/
  fromList : Bool
  /-- A record of which nothing is known. -/
  empty : σ
  /-- What the member under a key does. -/
  slot : σ → String → Slot σ
  /-- The record, unless a field is missing that has no default. -/
  finish : σ → Except Cause α

/-- Passes over an unknown member. -/
def Slot.ignore (s : σ) : Slot σ :=
  .fill fun node => node.pass.map fun _ => s

/-- Reads members into a record under construction. -/
def Shape.readMembers (shape : Shape σ α) :
    List (Except Error String × Offset × Node × Offset) → σ → Except Error σ
  | [], s => .ok s
  | (key, refusedKey, node, refusedValue) :: rest, s => do
    let key ← key
    match shape.slot s key with
    | .filled => throw ((Cause.duplicateField key).at refusedKey)
    | .fill read =>
      match read node with
      | .ok s => shape.readMembers rest s
      | .error e => throw (e.placedAt refusedValue)

/-- What messages say that a list of fields must be. -/
def Shape.expectedList (shape : Shape σ α) : String :=
  let count := shape.fields.length
  shape.name ++ " with " ++ toString count ++ (if count == 1 then " element" else " elements")

/-- Reads fields in order from a list; also gives the items that are left. -/
def Shape.readFields (shape : Shape σ α) (stop : Offset) :
    List (String × Bool) → Nat → List Node → Ending → σ → Except Error (σ × List Node)
  | [], _, items, _, s => .ok (s, items)
  | (_, optional) :: fields, count, [], ending, s => do
    ending.take
    if optional then shape.readFields stop fields (count + 1) [] ending s
    else throw ((Cause.invalidLength count shape.expectedList).at stop)
  | (key, _) :: fields, count, node :: items, ending, s => do
    match shape.slot s key with
    | .filled => shape.readFields stop fields (count + 1) items ending s
    | .fill read =>
      match read node with
      | .ok s => shape.readFields stop fields (count + 1) items ending s
      | .error e => throw (e.placedAt node.start)

/-- Refuses what stands in a list behind the last field. -/
def endOfFields (left : List Node) (ending : Ending) : Except Error Unit :=
  match left, ending with
  | node :: _, _ => .error (Cause.trailingCharacters.at (node.start + 1))
  | [], .closed _ => .ok ()
  | [], .broken taken _ =>
    match taken.cause with
    | .endInValue | .expectedListCommaOrEnd =>
      .error { taken with cause := .trailingCharacters }
    | _ => .error taken

/-- Where an ending stands. -/
def Ending.stop : Ending → Offset
  | .closed stop => stop
  | .broken taken _ => taken.offset?.getD 0

/-- Reads a record. -/
def Node.readRecord (shape : Shape σ α) : Node → Except Error α
  | .object level members ending start => do
    checkDepth level start
    let s ← shape.readMembers members shape.empty
    ending.take
    match shape.finish s with
    | .ok a => return a
    | .error cause => throw (cause.at ending.stop)
  | .list level items ending start => do
    if !shape.fromList then
      throw ((Cause.invalidType .sequence shape.name).at start)
    checkDepth level start
    let (s, left) ← shape.readFields ending.stop shape.fields 0 items ending shape.empty
    endOfFields left ending
    match shape.finish s with
    | .ok a => return a
    | .error cause => throw (cause.at ending.stop)
  | node => .error (node.refuse shape.name)

/-- A field that must be given. -/
def required (name : String) : Option α → Except Cause α
  | some a => .ok a
  | none => .error (.missingField name)

end InferenceGateway.Json
