import InferenceGateway.Yaml.Node

/-!
# Values from YAML nodes

What a node means depends on what is expected of it. Any scalar is a text; whether a plain scalar
also is a number, a truth value or nothing is decided by its characters. Where a list or a mapping
is expected, nothing written is an empty one.

* `Document.text?`, `bool?`, `int?`, `optional?`: scalars.
* `Document.list?`, `map?`: lists and mappings.
* `Document.record?`, `Record.required?`, `Record.given?`: mappings with known keys.
-/

namespace InferenceGateway.Yaml

/-! ## Scalars -/

/-- Whether a scalar can be something other than a text; blocks can if their tag says so. -/
def Scalar.isOpen (s : Scalar) (tag : String) : Bool :=
  s.style == .plain || (s.style == .literal && s.tag == some tag)

/-- Whether a text stands for nothing. -/
def isNullText (text : String) : Bool :=
  ["null", "Null", "NULL", "~"].contains text

/-- The truth value of a text. -/
def boolOfText? (text : String) : Option Bool :=
  if ["true", "True", "TRUE"].contains text then some true
  else if ["false", "False", "FALSE"].contains text then some false
  else none

/-- The value of a character as a digit below a base. -/
def digitValue? (base : Nat) (c : Char) : Option Nat :=
  let value :=
    if c.isDigit then some (c.toNat - '0'.toNat)
    else if 'a' ≤ c && c ≤ 'z' then some (c.toNat - 'a'.toNat + 10)
    else if 'A' ≤ c && c ≤ 'Z' then some (c.toNat - 'A'.toNat + 10)
    else none
  value.filter (· < base)

/-- The number that digits of a base stand for. -/
def natOfDigits? (base : Nat) (digits : List Char) : Option Nat :=
  if digits.isEmpty then none
  else digits.foldlM (fun n d => (digitValue? base d).map (base * n + ·)) 0

/-- The smallest and the largest whole number of 64 bits. -/
def isInt64 (n : Int) : Bool := -(Int.pow 2 63) ≤ n && n < Int.pow 2 63

/-- The base that letters in front of digits announce. -/
def announcedBase? : List Char → Option (Nat × List Char)
  | '0' :: 'x' :: digits => some (16, digits)
  | '0' :: 'o' :: digits => some (8, digits)
  | '0' :: 'b' :: digits => some (2, digits)
  | _ => none

/--
The whole number of 64 bits that a text stands for. The base is ten unless letters announce
another; a leading zero makes decimal digits a mere text.
-/
def intOfText? (text : String) : Option Int :=
  let (isNegative, digits) := match text.toList with
    | '+' :: rest => (false, rest)
    | '-' :: rest => (true, rest)
    | rest => (false, rest)
  let magnitude := match announcedBase? digits with
    | some (base, digits) => natOfDigits? base digits
    | none =>
      if 1 < digits.length && digits.head? == some '0' then none else natOfDigits? 10 digits
  (magnitude.map fun n => if isNegative then -(n : Int) else n).filter isInt64

namespace Document

variable (d : Document)

/-- The scalar that a node stands for. -/
def scalar? (n : Node) : Option Scalar :=
  match d.resolve n with
  | .scalar _ s => some s
  | _ => none

/-- The text of a node. -/
def text? (n : Node) : Option String :=
  (d.scalar? n).map (·.text)

/-- The truth value of a node. -/
def bool? (n : Node) : Option Bool := do
  let s ← d.scalar? n
  if s.isOpen "tag:yaml.org,2002:bool" then boolOfText? s.text else none

/-- The whole number of 64 bits of a node. -/
def int? (n : Node) : Option Int := do
  let s ← d.scalar? n
  if s.isOpen "tag:yaml.org,2002:int" then intOfText? s.text else none

/-- A value that may be absent, which a plain scalar can say. Any other node has to be a value. -/
def optional? {α : Type} (read : Node → Option α) (n : Node) : Option (Option α) :=
  match d.resolve n with
  | .scalar _ s =>
    if s.style != .plain then (read n).map some
    else if s.tag == some "tag:yaml.org,2002:null" then
      if isNullText s.text then some none else none
    else if s.tag.isSome then (read n).map some
    else if s.text.isEmpty || isNullText s.text then some none
    else (read n).map some
  | _ => (read n).map some

/-! ## Lists and mappings -/

/-- Whether nothing is written at a node. -/
def isUnwritten (n : Node) : Bool :=
  match d.resolve n with
  | .scalar _ s => s.style == .plain && s.text.isEmpty
  | _ => false

/-- The items of a list. -/
def list? {α : Type} (read : Node → Option α) (n : Node) : Option (List α) :=
  if d.isUnwritten n then some []
  else
    match d.resolve n with
    | .list _ items => items.mapM read
    | _ => none

/-- The entries of a mapping, whose keys have to be texts. -/
def entries? {α : Type} (read : Node → Option α) (n : Node) : Option (List (String × α)) :=
  if d.isUnwritten n then some []
  else
    match d.resolve n with
    | .mapping _ entries => entries.mapM fun (k, v) => do return (← d.text? k, ← read v)
    | _ => none

/-- A mapping as a finite function: of two entries with one key the later counts. -/
def map? {α : Type} (read : Node → Option α) (n : Node) : Option (List (String × α)) :=
  (d.entries? read n).map fun entries =>
    entries.foldl (fun found (k, v) => found.filter (·.1 != k) ++ [(k, v)]) []

/-- The entries of a mapping with known keys. -/
abbrev Record := List (String × Node)

/-- The entries of a mapping, of which no known key may be given twice. -/
def record? (known : List String) (n : Node) : Option Record := do
  let entries ← d.entries? some n
  if known.all fun key => (entries.filter (·.1 == key)).length ≤ 1 then some entries else none

/-- The value of a key that has to be given. -/
def Record.required? {α : Type} (r : Record) (key : String) (read : Node → Option α) : Option α :=
  (r.find? (·.1 == key)).bind fun (_, n) => read n

/-- The value of a key, or what holds where it is not given. -/
def Record.given? {α : Type} (r : Record) (key : String) (absent : α) (read : Node → Option α) :
    Option α :=
  match r.find? (·.1 == key) with
  | some (_, n) => read n
  | none => some absent

end Document

end InferenceGateway.Yaml
