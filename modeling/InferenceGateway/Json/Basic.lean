import InferenceGateway.Decimal.Double

/-!
# JSON values

Integers of 64 bits, signed or unsigned, are kept apart from floating-point numbers. The members
of an object are a list in ascending key order with each key once; `Members.insert` keeps it so,
which makes equality of values the equality of JSON values, whatever order the text had.
-/

namespace InferenceGateway

/-- A JSON value. -/
inductive Json where
  | null
  | bool (b : Bool)
  | integer (n : Int)
  | float (x : Double)
  | string (s : String)
  | array (items : List Json)
  | object (members : List (String × Json))
  deriving Repr, Inhabited

namespace Json

/-- The members of an object, in ascending key order. -/
abbrev Members := List (String × Json)

/-- Puts a value under a key, in place of an earlier value of that key. -/
def Members.insert (key : String) (value : Json) : Members → Members
  | [] => [(key, value)]
  | (k, v) :: rest =>
    if key < k then (key, value) :: (k, v) :: rest
    else if key = k then (key, value) :: rest
    else (k, v) :: Members.insert key value rest

/-- The value under a key. -/
def Members.find? (key : String) : Members → Option Json
  | [] => none
  | (k, v) :: rest => if k = key then some v else Members.find? key rest

/-- The members of a list of pairs; a later pair replaces an earlier one of its key. -/
def Members.ofList (pairs : List (String × Json)) : Members :=
  pairs.foldl (fun ms m => Members.insert m.1 m.2 ms) []

/-- Puts all members of `added` into `ms`. -/
def Members.union (ms added : Members) : Members :=
  added.foldl (fun ms m => Members.insert m.1 m.2 ms) ms

/-- The keys, in ascending order. -/
def Members.keys (ms : Members) : List String :=
  ms.map (·.1)

theorem Members.find?_insert (key k : String) (value : Json) (ms : Members) :
    Members.find? k (Members.insert key value ms)
      = if key = k then some value else Members.find? k ms := by
  induction ms with
  | nil => simp [Members.insert, Members.find?]
  | cons m rest ih =>
    obtain ⟨k', v⟩ := m
    unfold Members.insert
    split
    · simp [Members.find?]
    · split
      · next h => subst h; by_cases hk : key = k <;> simp [Members.find?, hk]
      · next h =>
        simp only [Members.find?, ih]
        by_cases hk : k' = k
        · subst hk; simp [h]
        · simp [hk]

/-! ## Comparison -/

mutual

/-- Whether two values are the same. -/
def same : Json → Json → Bool
  | .null, .null => true
  | .bool a, .bool b => a == b
  | .integer m, .integer n => m == n
  | .float x, .float y => x == y
  | .string s, .string t => s == t
  | .array items, .array items' => sameItems items items'
  | .object members, .object members' => sameMembers members members'
  | _, _ => false

/-- Whether two lists hold the same values. -/
def sameItems : List Json → List Json → Bool
  | [], [] => true
  | j :: rest, j' :: rest' => j.same j' && sameItems rest rest'
  | _, _ => false

/-- Whether two lists hold the same members. -/
def sameMembers : List (String × Json) → List (String × Json) → Bool
  | [], [] => true
  | (k, j) :: rest, (k', j') :: rest' => k == k' && j.same j' && sameMembers rest rest'
  | _, _ => false

end

mutual

theorem same_iff : ∀ {a b : Json}, a.same b = true ↔ a = b
  | a, b => by
    cases a with
    | array items => cases b <;> simp [same, sameItems_iff]
    | object members => cases b <;> simp [same, sameMembers_iff]
    | _ => cases b <;> simp [same]

theorem sameItems_iff : ∀ {as bs : List Json}, sameItems as bs = true ↔ as = bs
  | [], bs => by cases bs <;> simp [sameItems]
  | a :: as, bs => by cases bs <;> simp [sameItems, @same_iff a, @sameItems_iff as]

theorem sameMembers_iff : ∀ {as bs : List (String × Json)}, sameMembers as bs = true ↔ as = bs
  | [], bs => by cases bs <;> simp [sameMembers]
  | (k, a) :: as, bs => by
    cases bs with
    | nil => simp [sameMembers]
    | cons b bs =>
      obtain ⟨k', b⟩ := b
      simp [sameMembers, @same_iff a, @sameMembers_iff as, and_assoc]

end

instance : DecidableEq Json := fun _ _ => decidable_of_iff _ same_iff

/-! ## Building values, and looking into them -/

/-- An object with the given pairs as its members. -/
def ofPairs (pairs : List (String × Json)) : Json :=
  .object (Members.ofList pairs)

/-- A list of texts as an array. -/
def ofStrings (items : List String) : Json :=
  .array (items.map .string)

/-- The value, or null. -/
def ofOption : Option Json → Json
  | none => .null
  | some j => j

/-- The pair of a key and a value that is present, as a list of at most one. -/
def optional (key : String) (value : Option Json) : List (String × Json) :=
  match value with
  | none => []
  | some v => [(key, v)]

/-- The member of an object, if there is one. -/
def member? (key : String) : Json → Option Json
  | .object ms => Members.find? key ms
  | _ => none

/-- The text, if the value is one. -/
def string? : Json → Option String
  | .string s => some s
  | _ => none

end Json

end InferenceGateway
