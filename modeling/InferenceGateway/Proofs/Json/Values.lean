import Mathlib
import InferenceGateway.Proofs.Decimal.Size
import InferenceGateway.Proofs.Json.Reading
import InferenceGateway.Proofs.Json.Numbers

/-!
# The values of texts

Not every value is the value of a text: the integers of texts fit 64 bits, their doubles are finite,
members are kept in key order, and brackets are nested only so deep.

* `Sound`: the values that texts have.
* `Node.At`: the trees that texts have, with their brackets counted.
* `readsAt`: what is read is such a tree.
* `sound_of_parse`: a value that is read is sound.
-/

namespace InferenceGateway.Json

/-- A number that a text can spell. -/
inductive Number.Sound : Number → Prop where
  | integer {n : Int} (lower : -(2 : Int) ^ 63 ≤ n) (upper : n < (2 : Int) ^ 64) :
    Sound (.integer n)
  | float {x : Double} (finite : x.isInfinite = false) : Sound (.float x)

/-- A value that a text can spell, where there is room for so many brackets within each other. -/
inductive Sound : Nat → Json → Prop where
  | null (room : Nat) : Sound room .null
  | bool (room : Nat) (b : Bool) : Sound room (.bool b)
  | integer (room : Nat) {n : Int} (lower : -(2 : Int) ^ 63 ≤ n) (upper : n < (2 : Int) ^ 64) :
    Sound room (.integer n)
  | float (room : Nat) {x : Double} (finite : x.isInfinite = false) : Sound room (.float x)
  | string (room : Nat) (s : String) : Sound room (.string s)
  | array {room : Nat} {items : List Json} (within : ∀ j ∈ items, Sound room j) :
    Sound (room + 1) (.array items)
  | object {room : Nat} {ms : Members} (ordered : ms.Ascending)
    (within : ∀ m ∈ ms, Sound room m.2) : Sound (room + 1) (.object ms)

/-! ## Trees -/

/-- A tree around which `level` brackets are open. -/
inductive Node.At : Nat → Node → Prop where
  | null (level : Nat) (start stop : Offset) : At level (.null start stop)
  | bool (level : Nat) (b : Bool) (start stop : Offset) : At level (.bool b start stop)
  | number (level : Nat) {value : Except Error Number} (sound : ∀ n, value = .ok n → n.Sound)
    (start stop : Offset) : At level (.number value start stop)
  | string (level : Nat) (value : Except Error String) (start stop : Offset) :
    At level (.string value start stop)
  | list {level : Nat} {items : List Node} (within : ∀ item ∈ items, At (level + 1) item)
    (ending : Ending) (start : Offset) : At level (.list (level + 1) items ending start)
  | object {level : Nat} {members : List Member} (within : ∀ m ∈ members, At (level + 1) m.2.2.1)
    (ending : Ending) (start : Offset) : At level (.object (level + 1) members ending start)
  | broken (level : Nat) (taken passed : Error) (start : Offset) :
    At level (.broken taken passed start)

/-- A bracket is refused if it is too deep. -/
theorem checkDepth_eq_ok_iff {level : Nat} {start : Offset} :
    checkDepth level start = .ok () ↔ level ≤ depthLimit := by
  unfold checkDepth
  split <;> simp [*]

/-- What is put into an object was there before, or is put there. -/
theorem Members.mem_union {m : String × Json} {ms added : Members}
    (h : m ∈ Members.union ms added) : m ∈ ms ∨ m ∈ added := by
  unfold Members.union at h
  induction added generalizing ms with
  | nil => exact .inl h
  | cons a rest ih =>
    rcases ih h with inserted | later
    · rcases Members.mem_insert inserted with rfl | before
      · exact .inr List.mem_cons_self
      · exact .inl before
    · exact .inr (List.mem_cons_of_mem a later)

/-- An object that is made of pairs has no other members. -/
theorem Members.mem_of_mem_ofList {m : String × Json} {pairs : List (String × Json)}
    (h : m ∈ Members.ofList pairs) : m ∈ pairs :=
  (Members.mem_union h).resolve_left List.not_mem_nil

/-- What stands in one of two related lists has its counterpart in the other one. -/
theorem exists_mem_of_forall₂ {α β : Type} {R : α → β → Prop} {as : List α} {bs : List β}
    (h : List.Forall₂ R as bs) {b : β} (mem : b ∈ bs) : ∃ a ∈ as, R a b := by
  induction h with
  | nil => cases mem
  | cons first _ ih =>
    rcases List.mem_cons.mp mem with rfl | mem
    · exact ⟨_, List.mem_cons_self, first⟩
    · obtain ⟨a, among, related⟩ := ih mem
      exact ⟨a, List.mem_cons_of_mem _ among, related⟩

/-- The value that is taken of a tree has room for its brackets. -/
theorem Node.At.sound {level : Nat} {node : Node} (h : node.At level) {j : Json}
    (taken : node.take = .ok j) : Sound (depthLimit - level) j := by
  -- One case for each kind of tree; only brackets take from the room.
  induction h generalizing j with
  | null level start stop =>
    cases Node.take_eq_ok_iff.mp taken
    exact .null _
  | bool level b start stop =>
    cases Node.take_eq_ok_iff.mp taken
    exact .bool _ b
  | number level sound start stop =>
    cases Node.take_eq_ok_iff.mp taken with
    | integer n =>
      cases sound _ rfl with
      | integer lower upper => exact .integer _ lower upper
    | float x =>
      cases sound _ rfl with
      | float finite => exact .float _ finite
  | string level value start stop =>
    cases Node.take_eq_ok_iff.mp taken with
    | string s => exact .string _ s
  | @list level items within ending start ih =>
    cases Node.take_eq_ok_iff.mp taken with
    | @list _ _ _ _ values depth ended values =>
      -- The bracket was within the limit, so it takes one from the room.
      have room : depthLimit - level = depthLimit - (level + 1) + 1 := by
        have := checkDepth_eq_ok_iff.mp depth
        omega
      rw [room]
      refine .array fun j mem => ?_
      obtain ⟨item, among, taken⟩ := exists_mem_of_forall₂ values mem
      exact ih item among taken
  | @object level members within ending start ih =>
    cases Node.take_eq_ok_iff.mp taken with
    | object depth ended held =>
      have room : depthLimit - level = depthLimit - (level + 1) + 1 := by
        have := checkDepth_eq_ok_iff.mp depth
        omega
      rw [room]
      refine .object (Members.ascending_ofList _) fun m mem => ?_
      obtain ⟨member, among, -, taken⟩ :=
        exists_mem_of_forall₂ held (Members.mem_of_mem_ofList mem)
      exact ih member among taken
  | broken level taken passed start => cases taken

/-! ## Reading -/

/-- The powers of ten that are doubles are not below one. -/
theorem biasedExponent_powerOfTen :
    ∀ n ≤ greatestPower, 1023 ≤ (powerOfTen n).biasedExponent := by
  decide +kernel

/-- What is left of a finite double when it is scaled is finite. -/
theorem scale_finite {fuel top : Nat} {f x : Double} {exponent : Int}
    (small : f.biasedExponent ≤ top) (least : 1 ≤ top) (fits : top + 2 * (fuel + 1) < 2047)
    (scaled : scale fuel f exponent = some x) : x.isInfinite = false := by
  have divided {k top : Nat} {f : Double} (within : k ≤ greatestPower)
      (small : f.biasedExponent ≤ top) (least : 1 ≤ top) (fits : top + 2 < 2047) :
      (f.div (powerOfTen k)).biasedExponent ≤ top + 2 :=
    Double.biasedExponent_div_le small least (biasedExponent_powerOfTen k within) fits
  -- A product is looked at before it is handed out; only a quotient has to be bounded.
  fun_induction scale fuel f exponent generalizing top with
  | case1 => cases scaled
  | case2 fuel f exponent inReach up product =>
    next finite =>
    obtain rfl : product = x := Option.some.inj scaled
    exact Bool.eq_false_iff.mpr finite
  | case3 fuel f exponent inReach down =>
    cases scaled
    have result := divided inReach small least (by omega)
    exact Double.isInfinite_eq_false_of_lt (by omega)
  | case4 fuel f exponent beyond zero =>
    cases scaled
    exact Double.isInfinite_eq_false_of_lt (by omega)
  | case5 => cases scaled
  | case6 =>
    cases scaled
    decide
  | case7 f exponent beyond nonzero down fuel ih =>
    exact ih (divided (Nat.le_refl _) small least (by omega)) (by omega) (by omega) scaled

/-- Every value that comes of an action is such a one. -/
def Ensures {ε α : Type} (p : α → Prop) (x : Except ε α) : Prop :=
  ∀ a, x = .ok a → p a

section

variable {ε α : Type} {p : α → Prop} {x y : Except ε α}

theorem Ensures.ok {a : α} (h : p a) : Ensures p (.ok a : Except ε α) := by
  rintro _ ⟨⟩
  exact h

theorem Ensures.error (e : ε) : Ensures p (.error e) := by
  rintro _ ⟨⟩

/-- It is enough to look at both branches. -/
theorem Ensures.ite {c : Prop} [Decidable c] (yes : c → Ensures p x) (no : ¬c → Ensures p y) :
    Ensures p (if c then x else y) := by
  split
  · next holds => exact yes holds
  · next fails => exact no fails

end

section

variable {negative : Bool} {significand : Nat} {exponent : Int}

/-- A number of 64 bits that is scaled is finite, or it is refused. -/
theorem assemble_sound (fits : significand < significandBound) (stop : Offset) :
    Ensures Number.Sound (assemble negative significand exponent stop) := by
  unfold assemble
  split
  · next x scaled =>
    -- An integer of 64 bits is far from infinite; whether the scaled one is was looked at.
    have small : (Double.ofNat significand).biasedExponent ≤ 64 + 1024 :=
      Double.biasedExponent_ofQuotient_one_le false fits (by decide)
    have finite := scale_finite small (by decide) (by decide) scaled
    refine .ok ?_
    split
    · exact .float (x.isInfinite_neg.trans finite)
    · exact .float finite
  · exact .error _

/-- Digits are used as long as what they make fits 64 bits. -/
theorem extend_lt {start : Nat} (fits : start < significandBound) (ds : List Nat) :
    (extend start ds).1 < significandBound := by
  induction ds generalizing start with
  | nil => exact fits
  | cons d rest ih =>
    unfold extend
    dsimp only
    split
    · next next => exact ih next
    · exact fits

/-- An exponent beyond all bounds makes zero, or it is refused; any other one scales. -/
theorem readExponent_sound (fits : significand < significandBound) (c : Cursor) :
    Ensures Number.Sound (readExponent negative significand exponent c) := by
  rw [readExponent_eq]
  unfold exponentBehind
  split
  · exact .error _
  · refine .ite (fun _ => .error _) fun _ => ?_
    refine .ite (fun _ => ?_) fun _ => assemble_sound fits _
    refine .ite (fun _ => .error _) fun _ => .ok (.float ?_)
    cases negative <;> decide

/-- Digits behind the point are used as far as they fit. -/
theorem readFraction_sound (fits : significand < significandBound) (c : Cursor) :
    Ensures Number.Sound (readFraction negative significand exponent c) := by
  have more := extend_lt fits c.next.digits.1
  unfold readFraction
  dsimp only
  split
  · split
    · exact .error _
    · exact .error _
  · exact .ite (fun _ => readExponent_sound more _) fun _ => assemble_sound more _

/-- What a number is taken as is a number that a text can spell. -/
theorem readNumber_sound (negative : Bool) (c : Cursor) :
    Ensures Number.Sound (readNumber negative c) := by
  have fits : (extend 0 c.whole).1 < significandBound := extend_lt (by decide) _
  -- Every branch refuses the number, scales it, or takes the digits as they are.
  rw [readNumber_eq]
  split
  · exact .error _
  · refine .ite (fun _ => .error _) fun _ => ?_
    refine .ite (fun _ => .error _) fun _ => ?_
    refine .ite (fun _ => readFraction_sound fits _) fun _ => ?_
    refine .ite (fun _ => readExponent_sound fits _) fun _ => ?_
    refine .ite (fun _ => assemble_sound fits _) fun _ => ?_
    refine .ite (fun _ => .ok (.integer (by omega) (Int.ofNat_lt.mpr fits))) fun _ => ?_
    refine .ite (fun _ => .ok (.float ?_)) fun within => .ok (.integer ?_ (by omega))
    · have small := Double.biasedExponent_ofQuotient_one_le false fits (by decide)
      exact Double.isInfinite_eq_false_of_lt
        (((Double.biasedExponent_neg _).trans_le small).trans_lt (by decide))
    · simp only [Bool.or_eq_true, decide_eq_true_eq, not_or] at within
      have most : (extend 0 c.whole).1 ≤ 2 ^ 63 := Nat.le_of_not_lt within.2
      omega

end

/-- A number has no brackets, and it is one that a text can spell. -/
theorem numberNode_at (level : Nat) (c : Cursor) : (numberNode c).1.At level := by
  unfold numberNode
  dsimp only
  split
  · exact .number level (readNumber_sound _ _) _ _
  · split
    · exact .broken level _ _ _
    · exact .broken level _ _ _

theorem stringNode_at (level : Nat) (c : Cursor) : (stringNode c).1.At level := by
  unfold stringNode
  split
  · exact .string level _ _ _
  · exact .broken level _ _ _

theorem wordNode_at (level : Nat) (letters : List UInt8) (c : Cursor) {node : Offset → Node}
    (sound : ∀ stop, (node stop).At level) : (wordNode letters c node).1.At level := by
  unfold wordNode
  split
  · exact sound _
  · exact .broken level _ _ _

/-! ### One value after the other -/

/-- Reads an item of a list, and those behind it. -/
def itemAt (fuel level : Nat) (done : List Node) (c : Cursor) :
    List Node × Ending × Option Cursor :=
  match readValue fuel level c with
  | (node, some after) => readItems fuel level false after (node :: done)
  | (node, none) =>
    ((node :: done).reverse, .broken (Cause.endInList.at c.offset) (Cause.endInList.at c.offset),
      none)

/-- Reads the item behind a comma, and those behind it. -/
def itemBehindComma (fuel level : Nat) (done : List Node) (c : Cursor) :
    List Node × Ending × Option Cursor :=
  match c.rest with
  | [] =>
    let e := Cause.endInValue.at c.offset
    (done.reverse, .broken e e, none)
  | 0x5D :: _ =>
    (done.reverse, .broken (Cause.trailingComma.at (c.offset + 1))
      (Cause.expectedValue.at (c.offset + 1)), none)
  | _ :: _ => itemAt fuel level done c

/-- The reader of items, in terms of the helpers above. -/
theorem readItems_succ (fuel level : Nat) (first : Bool) (c : Cursor) (done : List Node) :
    readItems (fuel + 1) level first c done =
      match c.skip.rest with
      | [] =>
        let e := Cause.endInList.at c.skip.offset
        (done.reverse, .broken e e, none)
      | 0x5D :: rest =>
        (done.reverse, .closed (c.skip.offset + 1), some ⟨rest, c.skip.offset + 1⟩)
      | b :: _ =>
        if first then itemAt fuel level done c.skip
        else if b == 0x2C then itemBehindComma fuel level done c.skip.next.skip
        else
          let e := Cause.expectedListCommaOrEnd.at (c.skip.offset + 1)
          (done.reverse, .broken e e, none) := by
  rw [readItems]
  rfl

/-- Reads the value of a member, and the members behind it; `c` stands behind the key. -/
def valueBehind (fuel level : Nat) (done : List Member) (key : Except Error String) (c : Cursor) :
    List Member × Ending × Option Cursor :=
  let stopped (node : Node) (refusedAt : Offset) :=
    (((key, c.refused, node, refusedAt) :: done).reverse,
      Ending.broken (Cause.endInObject.at c.skip.offset) (Cause.endInObject.at c.skip.offset), none)
  match c.skip.rest with
  | [] =>
    let e := Cause.endInObject.at c.skip.offset
    stopped (.broken e e c.skip.offset) c.skip.offset
  | 0x3A :: _ =>
    match readValue fuel level c.skip.next with
    | (node, some after) =>
      readMembers fuel level false after ((key, c.refused, node, after.refused) :: done)
    | (node, none) => stopped node c.skip.offset
  | _ :: _ =>
    let e := Cause.expectedColon.at (c.skip.offset + 1)
    stopped (.broken e e c.skip.offset) c.skip.offset

/-- Reads a member of an object, and those behind it. -/
def memberAt (fuel level : Nat) (done : List Member) (c : Cursor) :
    List Member × Ending × Option Cursor :=
  match scanString c.next.rest c.next.offset (.ok ([], none)) with
  | .closed value behind => valueBehind fuel level done (textOf value behind.offset) behind
  | .broken taken passed => (done.reverse, .broken taken passed, none)

/-- Reads the member behind a comma, and those behind it. -/
def memberBehindComma (fuel level : Nat) (done : List Member) (c : Cursor) :
    List Member × Ending × Option Cursor :=
  match c.rest with
  | [] =>
    (done.reverse, .broken (Cause.endInValue.at c.offset) (Cause.endInObject.at c.offset), none)
  | 0x22 :: _ => memberAt fuel level done c
  | 0x7D :: _ =>
    (done.reverse, .broken (Cause.trailingComma.at (c.offset + 1))
      (Cause.keyMustBeString.at (c.offset + 1)), none)
  | _ :: _ =>
    let e := Cause.keyMustBeString.at (c.offset + 1)
    (done.reverse, .broken e e, none)

/-- The reader of members, in terms of the helpers above. -/
theorem readMembers_succ (fuel level : Nat) (first : Bool) (c : Cursor) (done : List Member) :
    readMembers (fuel + 1) level first c done =
      match c.skip.rest with
      | [] =>
        let e := Cause.endInObject.at c.skip.offset
        (done.reverse, .broken e e, none)
      | 0x7D :: rest =>
        (done.reverse, .closed (c.skip.offset + 1), some ⟨rest, c.skip.offset + 1⟩)
      | b :: _ =>
        let e := Cause.keyMustBeString.at (c.skip.offset + 1)
        if first then
          if b == 0x22 then memberAt fuel level done c.skip else (done.reverse, .broken e e, none)
        else if b == 0x2C then memberBehindComma fuel level done c.skip.next.skip
        else
          let e := Cause.expectedObjectCommaOrEnd.at (c.skip.offset + 1)
          (done.reverse, .broken e e, none) := by
  rw [readMembers]
  rfl

/-- What is read with so much fuel has its brackets counted. -/
structure ReadsAt (fuel : Nat) : Prop where
  value (level : Nat) (c : Cursor) : (readValue fuel level c).1.At level
  items (level : Nat) (first : Bool) (c : Cursor) {done : List Node}
    (before : ∀ item ∈ done, item.At level) :
    ∀ item ∈ (readItems fuel level first c done).1, item.At level
  members (level : Nat) (first : Bool) (c : Cursor) {done : List Member}
    (before : ∀ m ∈ done, m.2.2.1.At level) :
    ∀ m ∈ (readMembers fuel level first c done).1, m.2.2.1.At level

theorem readsAt_zero : ReadsAt 0 where
  value level _ := .broken level _ _ _
  items _ _ _ _ before item mem := before item (List.mem_reverse.mp mem)
  members _ _ _ _ before m mem := before m (List.mem_reverse.mp mem)

section

variable {fuel level : Nat}

/-- An item has its brackets counted, and so have those behind it. -/
theorem ReadsAt.itemAt (h : ReadsAt fuel) {done : List Node}
    (before : ∀ item ∈ done, item.At level) (c : Cursor) :
    ∀ item ∈ (Json.itemAt fuel level done c).1, item.At level := by
  have value := h.value level c
  unfold Json.itemAt
  split
  · next node after read =>
    rw [read] at value
    exact h.items level false after (List.forall_mem_cons.mpr ⟨value, before⟩)
  · next node read =>
    rw [read] at value
    intro item mem
    exact List.forall_mem_cons.mpr ⟨value, before⟩ item (List.mem_reverse.mp mem)

/-- A member has its brackets counted, and so have those behind it. -/
theorem ReadsAt.memberAt (h : ReadsAt fuel) {done : List Member}
    (before : ∀ m ∈ done, m.2.2.1.At level) (c : Cursor) :
    ∀ m ∈ (Json.memberAt fuel level done c).1, m.2.2.1.At level := by
  have stopped {last : Member} (value : last.2.2.1.At level) :
      ∀ m ∈ (last :: done).reverse, m.2.2.1.At level := by
    intro m mem
    rcases List.mem_cons.mp (List.mem_reverse.mp mem) with rfl | mem
    · exact value
    · exact before m mem
  unfold Json.memberAt
  split
  · next value behind scanned =>
    unfold valueBehind
    dsimp only
    split
    · exact stopped (.broken level _ _ _)
    · have value := h.value level behind.skip.next
      split
      · next node after read =>
        rw [read] at value
        exact h.members level false after (List.forall_mem_cons.mpr ⟨value, before⟩)
      · next node read =>
        rw [read] at value
        exact stopped value
    · exact stopped (.broken level _ _ _)
  · exact fun m mem => before m (List.mem_reverse.mp mem)

/-- A value is a word, a text or a number, or it has its items or members read one level deeper. -/
theorem ReadsAt.value_succ (h : ReadsAt fuel) (level : Nat) (c : Cursor) :
    (readValue (fuel + 1) level c).1.At level := by
  unfold readValue
  dsimp only
  split
  · exact .broken level _ _ _
  · split
    · exact wordNode_at level _ _ fun stop => .null level _ stop
    · exact wordNode_at level _ _ fun stop => .bool level true _ stop
    · exact wordNode_at level _ _ fun stop => .bool level false _ stop
    · exact stringNode_at level _
    · exact .list (h.items (level + 1) true _ fun item mem => absurd mem List.not_mem_nil) _ _
    · exact .object (h.members (level + 1) true _ fun m mem => absurd mem List.not_mem_nil) _ _
    · split
      · exact numberNode_at level _
      · exact .broken level _ _ _

/-- The next item is read on the same level, and those before it are kept, whatever comes. -/
theorem ReadsAt.items_succ (h : ReadsAt fuel) (level : Nat) (first : Bool) (c : Cursor)
    {done : List Node} (before : ∀ item ∈ done, item.At level) :
    ∀ item ∈ (readItems (fuel + 1) level first c done).1, item.At level := by
  have here : ∀ item ∈ done.reverse, item.At level := fun item mem =>
    before item (List.mem_reverse.mp mem)
  rw [readItems_succ]
  split
  · exact here
  · exact here
  · split
    · exact h.itemAt before _
    · split
      · unfold itemBehindComma
        split
        · exact here
        · exact here
        · exact h.itemAt before _
      · exact here

/-- The next member is read on the same level, and those before it are kept, whatever comes. -/
theorem ReadsAt.members_succ (h : ReadsAt fuel) (level : Nat) (first : Bool) (c : Cursor)
    {done : List Member} (before : ∀ m ∈ done, m.2.2.1.At level) :
    ∀ m ∈ (readMembers (fuel + 1) level first c done).1, m.2.2.1.At level := by
  have here : ∀ m ∈ done.reverse, m.2.2.1.At level := fun m mem =>
    before m (List.mem_reverse.mp mem)
  rw [readMembers_succ]
  split
  · exact here
  · exact here
  · dsimp only
    split
    · split
      · exact h.memberAt before _
      · exact here
    · split
      · unfold memberBehindComma
        split
        · exact here
        · exact h.memberAt before _
        · exact here
        · exact here
      · exact here

/-- What is read with more fuel is read in parts, with less fuel each. -/
theorem readsAt_succ (h : ReadsAt fuel) : ReadsAt (fuel + 1) where
  value := h.value_succ
  items level first c _ := h.items_succ level first c
  members level first c _ := h.members_succ level first c

end

/-- However much fuel there is, brackets are counted. -/
theorem readsAt (fuel : Nat) : ReadsAt fuel := by
  induction fuel with
  | zero => exact readsAt_zero
  | succ fuel ih => exact readsAt_succ ih

/-- What follows a value does not change the tree. -/
theorem ofText_fst (text : List UInt8) :
    (Node.ofText text).1 = (readValue (2 * text.length + 2) 0 ⟨text, 0⟩).1 := by
  unfold Node.ofText
  generalize readValue (2 * text.length + 2) 0 ⟨text, 0⟩ = read
  obtain ⟨node, after | after⟩ := read
  · rfl
  · dsimp only
    split <;> rfl

/-- A value that is read from a text is sound. -/
theorem sound_of_parse {text : List UInt8} {j : Json} (h : parse text = .ok j) :
    Sound depthLimit j := by
  simp only [parse, readText, bind_eq_ok_iff, pure_eq_ok_iff] at h
  obtain ⟨j, taken, -, -, rfl⟩ := h
  rw [ofText_fst] at taken
  exact ((readsAt _).value 0 _).sound taken

end InferenceGateway.Json
