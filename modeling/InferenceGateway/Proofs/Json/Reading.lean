import Mathlib
import InferenceGateway.Json.Decode
import InferenceGateway.Proofs.Json.Members
import InferenceGateway.Proofs.Results

/-!
# What readers make of JSON text

A reader is given the tree of a text, with all that can be wrong in it. Where it succeeds, what it
makes of the text is a matter of the JSON value alone: not of how the value is spelled, nor of the
order in which members are given, as long as none is given twice.

* `Node.Spells`: the trees of a value; taking a tree gives the value that it spells.
* `Node.Plain`: no object gives a key twice.
* `Reads`: what a reader succeeds with, as a relation between values and what is read.
* `Reads.nullable`, `Reads.list`: readers made of readers, with the relations `Nullable` and
  `Listed`.
* `Reads.of_readText`, `Reads.readText_eq_ok`: what that means for whole texts.
-/

namespace InferenceGateway.Json

theorem toOption_eq_some_iff {ε α : Type} {x : Except ε α} {a : α} :
    x.toOption = some a ↔ x = .ok a := by
  cases x <;> simp [Except.toOption]

/-! ## Values of trees -/

/-- A member is a key and a value. -/
def Member.Holds (m : Member) (pair : String × Json) : Prop :=
  m.1 = .ok pair.1 ∧ m.2.2.1.take = .ok pair.2

/-- The keys of members that hold values are those of the values. -/
theorem Member.map_fst_of_holds {members : List Member} {pairs : List (String × Json)}
    (held : List.Forall₂ Member.Holds members pairs) :
    members.map Prod.fst = (pairs.map Prod.fst).map .ok := by
  rw [List.map_map]
  exact List.forall₂_eq_eq_eq ▸ (List.forall₂_map_left_iff.mpr
    (List.forall₂_map_right_iff.mpr (held.imp fun m pair holds => holds.1)))

/-- A tree spells a value: it can be followed to its end, and it is that value. -/
inductive Node.Spells : Node → Json → Prop where
  | null (start stop : Offset) : Spells (.null start stop) .null
  | bool (b : Bool) (start stop : Offset) : Spells (.bool b start stop) (.bool b)
  | integer (n : Int) (start stop : Offset) :
    Spells (.number (.ok (.integer n)) start stop) (.integer n)
  | float (x : Double) (start stop : Offset) :
    Spells (.number (.ok (.float x)) start stop) (.float x)
  | string (s : String) (start stop : Offset) : Spells (.string (.ok s) start stop) (.string s)
  | list {level : Nat} {items : List Node} {ending : Ending} {start : Offset} {values : List Json}
    (depth : checkDepth level start = .ok ()) (ended : ending.take = .ok ())
    (within : List.Forall₂ (fun node j => node.take = .ok j) items values) :
    Spells (.list level items ending start) (.array values)
  | object {level : Nat} {members : List Member} {ending : Ending} {start : Offset}
    {pairs : List (String × Json)} (depth : checkDepth level start = .ok ())
    (ended : ending.take = .ok ()) (within : List.Forall₂ Member.Holds members pairs) :
    Spells (.object level members ending start) (.object (Members.ofList pairs))

/-- The items of a list are taken one by one, and all of them or none. -/
theorem takeItems_eq_ok_iff {items : List Node} {values : List Json} :
    takeItems items = .ok values ↔ List.Forall₂ (fun node j => node.take = .ok j) items values := by
  induction items generalizing values with
  | nil => simp [takeItems, eq_comm]
  | cons node rest ih =>
    simp only [takeItems, bind_eq_ok_iff, ih, pure_eq_ok_iff, List.forall₂_cons_left_iff]
    constructor
    · rintro ⟨j, taken, js, others, rfl⟩
      exact ⟨j, js, taken, others, rfl⟩
    · rintro ⟨j, js, taken, others, rfl⟩
      exact ⟨j, taken, js, others, rfl⟩

/-- The members of an object are taken in order, and a later one replaces an earlier one of its key.
-/
theorem takeMembers_eq_ok_iff {members : List Member} {done ms : Members} :
    takeMembers members done = .ok ms
      ↔ ∃ pairs, List.Forall₂ Member.Holds members pairs ∧ ms = Members.union done pairs := by
  induction members generalizing done with
  | nil => simp [takeMembers, Members.union, eq_comm]
  | cons m rest ih =>
    obtain ⟨key, refused, node, behind⟩ := m
    simp only [takeMembers, bind_eq_ok_iff, ih, List.forall₂_cons_left_iff]
    constructor
    · rintro ⟨key, rfl, j, taken, pairs, others, rfl⟩
      exact ⟨(key, j) :: pairs, ⟨(key, j), pairs, ⟨rfl, taken⟩, others, rfl⟩, rfl⟩
    · rintro ⟨_, ⟨pair, pairs, ⟨rfl, taken⟩, others, rfl⟩, rfl⟩
      exact ⟨pair.1, rfl, pair.2, taken, pairs, others, rfl⟩

/-- What can be taken of a tree is the value that it spells. -/
theorem Node.take_eq_ok_iff {node : Node} {j : Json} : node.take = .ok j ↔ node.Spells j := by
  constructor
  · intro taken
    cases node with
    | null start stop =>
      cases taken
      exact .null start stop
    | bool b start stop =>
      cases taken
      exact .bool b start stop
    | number value start stop =>
      obtain ⟨number, rfl, rfl⟩ := map_eq_ok_iff.mp taken
      cases number with
      | integer n => exact .integer n start stop
      | float x => exact .float x start stop
    | string value start stop =>
      obtain ⟨s, rfl, rfl⟩ := map_eq_ok_iff.mp taken
      exact .string s start stop
    | list level items ending start =>
      simp only [Node.take, bind_eq_ok_iff, takeItems_eq_ok_iff, pure_eq_ok_iff] at taken
      obtain ⟨⟨⟩, depth, values, within, ⟨⟩, ended, rfl⟩ := taken
      exact .list depth ended within
    | object level members ending start =>
      simp only [Node.take, bind_eq_ok_iff, takeMembers_eq_ok_iff, pure_eq_ok_iff] at taken
      obtain ⟨⟨⟩, depth, _, ⟨pairs, within, rfl⟩, ⟨⟩, ended, rfl⟩ := taken
      exact .object depth ended within
    | broken taken passed start => cases taken
  · intro spells
    cases spells with
    | null | bool | integer | float | string => rfl
    | list depth ended within =>
      simp only [Node.take, bind_eq_ok_iff, takeItems_eq_ok_iff, pure_eq_ok_iff]
      exact ⟨(), depth, _, within, (), ended, rfl⟩
    | object depth ended within =>
      simp only [Node.take, bind_eq_ok_iff, takeMembers_eq_ok_iff, pure_eq_ok_iff]
      exact ⟨(), depth, _, ⟨_, within, rfl⟩, (), ended, rfl⟩

/-- No object within gives a key twice. -/
inductive Node.Plain : Node → Prop where
  | null (start stop : Offset) : Plain (.null start stop)
  | bool (b : Bool) (start stop : Offset) : Plain (.bool b start stop)
  | number (value : Except Error Number) (start stop : Offset) : Plain (.number value start stop)
  | string (value : Except Error String) (start stop : Offset) : Plain (.string value start stop)
  | list {level : Nat} {items : List Node} {ending : Ending} {start : Offset}
    (within : ∀ item ∈ items, Plain item) : Plain (.list level items ending start)
  | object {level : Nat} {members : List Member} {ending : Ending} {start : Offset}
    (once : (members.map Prod.fst).Nodup) (within : ∀ m ∈ members, Plain m.2.2.1) :
    Plain (.object level members ending start)

/-! ## Readers -/

/--
What a reader succeeds with: trees of values, of which it makes what `means` says. It succeeds with
each of these values, however it is spelled, if no key is given twice.
-/
structure Reads {α : Type} (read : Node → Except Error α) (means : Json → α → Prop) : Prop where
  taken {node : Node} {a : α} (h : read node = .ok a) : ∃ j, node.take = .ok j ∧ means j a
  reads {node : Node} {j : Json} {a : α} (plain : node.Plain) (taken : node.take = .ok j)
    (meant : means j a) : read node = .ok a

/-- An integer that fits 64 bits with a sign, as far as it is known to fit 64 bits. -/
def IsInteger (j : Json) (n : Int) : Prop :=
  j = .integer n ∧ n < Nat.pow 2 63

/-- A number as a double. -/
inductive IsDouble : Json → Double → Prop where
  | integer (n : Int) : IsDouble (.integer n) (.ofInt n)
  | float (x : Double) : IsDouble (.float x) x

/-- A value that may be null. -/
inductive Nullable {α : Type} (means : Json → α → Prop) : Json → Option α → Prop where
  | null : Nullable means .null none
  | value {j : Json} {a : α} (present : j ≠ .null) (meant : means j a) : Nullable means j (some a)

/-- A list of values. -/
inductive Listed {α : Type} (means : Json → α → Prop) : Json → List α → Prop where
  | list {items : List Json} {as : List α} (each : List.Forall₂ means items as) :
    Listed means (.array items) as

theorem Reads.take : Reads Node.take Eq where
  taken h := ⟨_, h, rfl⟩
  reads _ taken meant := meant ▸ taken

/-- A text is read from strings alone. -/
theorem Reads.string : Reads Node.readString fun j s => j = .string s where
  taken {node s} h := by
    cases node with
    | string value start stop =>
      have value : value = .ok s := h
      exact ⟨_, Node.take_eq_ok_iff.mpr (value ▸ .string s start stop), rfl⟩
    | _ => cases h
  reads {node j s} _ taken meant := by
    subst meant
    cases Node.take_eq_ok_iff.mp taken
    rfl

/-- A truth value is read from truth values alone, and not from numbers or strings. -/
theorem Reads.bool : Reads Node.readBool fun j b => j = .bool b where
  taken {node b} h := by
    cases node with
    | bool b' start stop =>
      cases h
      exact ⟨_, Node.take_eq_ok_iff.mpr (.bool b start stop), rfl⟩
    | _ => cases h
  reads {node j b} _ taken meant := by
    subst meant
    cases Node.take_eq_ok_iff.mp taken
    rfl

/-- An integer is read from integers that fit; a number with a fraction or an exponent is none. -/
theorem Reads.integer : Reads Node.readInteger IsInteger where
  taken {node n} h := by
    unfold Node.readInteger at h
    split at h
    · next n' start stop =>
      split at h
      · next fits =>
        cases h
        exact ⟨_, Node.take_eq_ok_iff.mpr (.integer n start stop), rfl, fits⟩
      · cases h
    · cases h
  reads {node j n} _ taken meant := by
    obtain ⟨rfl, fits⟩ := meant
    cases Node.take_eq_ok_iff.mp taken
    exact if_pos fits

/-- A double is read from any number. -/
theorem Reads.double : Reads Node.readDouble IsDouble where
  taken {node x} h := by
    unfold Node.readDouble at h
    split at h
    · next n start stop =>
      cases h
      exact ⟨_, Node.take_eq_ok_iff.mpr (.integer n start stop), .integer n⟩
    · next x' start stop =>
      cases h
      exact ⟨_, Node.take_eq_ok_iff.mpr (.float x start stop), .float x⟩
    · cases h
  reads {node j x} _ taken meant := by
    cases meant <;> cases Node.take_eq_ok_iff.mp taken <;> rfl

variable {α : Type} {read : Node → Except Error α} {means : Json → α → Prop}

/-- What a reader means may be put in other words. -/
theorem Reads.congr {means' : Json → α → Prop} (h : Reads read means)
    (same : ∀ j a, means j a ↔ means' j a) : Reads read means' where
  taken ok := by
    obtain ⟨j, taken, meant⟩ := h.taken ok
    exact ⟨j, taken, (same j _).mp meant⟩
  reads plain taken meant := h.reads plain taken ((same _ _).mpr meant)

/-- A reader becomes one of values that may be null. -/
theorem Reads.nullable (h : Reads read means) :
    Reads (Node.readOptional read) (Nullable means) where
  taken {node a} ok := by
    unfold Node.readOptional at ok
    split at ok
    · next start stop =>
      cases ok
      exact ⟨_, Node.take_eq_ok_iff.mpr (.null start stop), .null⟩
    -- what is not spelled null does not spell null either
    · next notNull =>
      obtain ⟨b, got, rfl⟩ := map_eq_ok_iff.mp ok
      obtain ⟨j, taken, meant⟩ := h.taken got
      refine ⟨j, taken, .value ?_ meant⟩
      rintro rfl
      cases Node.take_eq_ok_iff.mp taken with
      | null start stop => exact notNull start stop rfl
  reads {node j a} plain taken meant := by
    cases meant with
    | null =>
      cases Node.take_eq_ok_iff.mp taken
      rfl
    | value present meant =>
      have ok := h.reads plain taken meant
      unfold Node.readOptional
      split
      · cases taken
        exact absurd rfl present
      · rw [ok]
        rfl

/-- Items are read one by one, and all of them or none. -/
theorem readAll_eq_ok_iff {items : List Node} {as : List α} :
    readAll read items = .ok as ↔ List.Forall₂ (fun node a => read node = .ok a) items as := by
  induction items generalizing as with
  | nil => simp [readAll, eq_comm]
  | cons node rest ih =>
    simp only [readAll, bind_eq_ok_iff, ih, pure_eq_ok_iff, List.forall₂_cons_left_iff]
    constructor
    · rintro ⟨a, ok, as, others, rfl⟩
      exact ⟨a, as, ok, others, rfl⟩
    · rintro ⟨a, as, ok, others, rfl⟩
      exact ⟨a, ok, as, others, rfl⟩

/-- What is read from each of some trees is meant by the values that they spell. -/
theorem Reads.taken_all (h : Reads read means) {items : List Node} {as : List α}
    (ok : List.Forall₂ (fun node a => read node = .ok a) items as) :
    ∃ values, List.Forall₂ (fun node j => node.take = .ok j) items values
      ∧ List.Forall₂ means values as := by
  induction ok with
  | nil => exact ⟨[], .nil, .nil⟩
  | cons first _ ih =>
    obtain ⟨j, taken, meant⟩ := h.taken first
    obtain ⟨values, others, meanings⟩ := ih
    exact ⟨j :: values, .cons taken others, .cons meant meanings⟩

/-- Values that mean something are read as that, item by item. -/
theorem Reads.reads_all (h : Reads read means) {items : List Node} {values : List Json}
    {as : List α} (plain : ∀ item ∈ items, item.Plain)
    (taken : List.Forall₂ (fun node j => node.take = .ok j) items values)
    (meant : List.Forall₂ means values as) :
    List.Forall₂ (fun node a => read node = .ok a) items as := by
  induction taken generalizing as with
  | nil =>
    cases meant
    exact .nil
  | cons first _ ih =>
    obtain ⟨plainFirst, plainOthers⟩ := List.forall_mem_cons.mp plain
    cases meant with
    | cons meantFirst meantOthers =>
      exact .cons (h.reads plainFirst first meantFirst) (ih plainOthers meantOthers)

/-- A reader of items becomes one of lists. -/
theorem Reads.list (h : Reads read means) : Reads (Node.readList read) (Listed means) where
  taken {node as} ok := by
    cases node with
    | list level items ending start =>
      simp only [Node.readList, bind_eq_ok_iff, readAll_eq_ok_iff, pure_eq_ok_iff] at ok
      obtain ⟨⟨⟩, depth, as, all, ⟨⟩, ended, rfl⟩ := ok
      obtain ⟨values, within, meant⟩ := h.taken_all all
      exact ⟨_, Node.take_eq_ok_iff.mpr (.list depth ended within), .list meant⟩
    | _ => cases ok
  reads {node j as} plain taken meant := by
    obtain ⟨each⟩ := meant
    cases Node.take_eq_ok_iff.mp taken with
    | list depth ended within =>
      cases plain with
      | list plain =>
        simp only [Node.readList, bind_eq_ok_iff, readAll_eq_ok_iff, pure_eq_ok_iff]
        exact ⟨(), depth, as, h.reads_all plain within each, (), ended, rfl⟩

/-! ## Texts -/

/-- What is read from a text is meant by its value. -/
theorem Reads.of_readText (h : Reads read means) {text : List UInt8} {a : α}
    (ok : readText read text = .ok a) : ∃ j, parse text = .ok j ∧ means j a := by
  simp only [readText, bind_eq_ok_iff, pure_eq_ok_iff] at ok
  obtain ⟨a, ok, ⟨⟩, rest, rfl⟩ := ok
  obtain ⟨j, taken, meant⟩ := h.taken ok
  refine ⟨j, ?_, meant⟩
  simp only [parse, readText, bind_eq_ok_iff, pure_eq_ok_iff]
  exact ⟨j, taken, (), rest, rfl⟩

/-- How a value is spelled does not matter to what is read, if no key is given twice. -/
theorem Reads.readText_eq_ok (h : Reads read means) {text : List UInt8} {j : Json} {a : α}
    (plain : (Node.ofText text).1.Plain) (parsed : parse text = .ok j) (meant : means j a) :
    readText read text = .ok a := by
  simp only [parse, readText, bind_eq_ok_iff, pure_eq_ok_iff] at parsed ⊢
  obtain ⟨j, taken, ⟨⟩, rest, rfl⟩ := parsed
  exact ⟨a, h.reads plain taken meant, (), rest, rfl⟩

end InferenceGateway.Json
