import Mathlib
import InferenceGateway.Json.Reader
import InferenceGateway.Proofs.Text.Utf8

/-!
# Numbers within a text

What a number is read as does not depend on where it stands, nor on what follows it, as long as that
ends it.

* `Ends`: what may follow a value in a text.
* `Cursor.Before`: the same bytes with more behind them.
* `Agrees`: outcomes of which the second is as good as the first.
* `Cursor.Before.numberNode`: a number is read as it is where it stands alone.
* `numberNode_integer`: an integer that fits 64 bits is read as it was written.
-/

namespace InferenceGateway.Json

/-! ## Bytes with more behind them -/

/-- What may stand behind a value in a text: nothing, a comma, or a bracket that closes. -/
def Ends (tail : List UInt8) : Prop :=
  ∀ b ∈ tail.head?, b = 0x2C ∨ b = 0x5D ∨ b = 0x7D

/-- The same bytes, with more behind them, perhaps at another place. -/
def Cursor.Before (tail : List UInt8) (c c' : Cursor) : Prop :=
  c'.rest = c.rest ++ tail

variable {tail : List UInt8} {c c' : Cursor}

/-- What tells the bytes of a number apart does not see what ends it. -/
theorem Cursor.Before.front (h : c.Before tail c') (ends : Ends tail) {p : UInt8 → Bool}
    (none : p 0 = false) (comma : p 0x2C = false) (list : p 0x5D = false)
    (object : p 0x7D = false) : p c'.front = p c.front := by
  unfold Cursor.front
  rw [h]
  cases c.rest with
  | cons b rest => rfl
  | nil =>
    rw [List.nil_append]
    show p (tail.head?.getD 0) = p 0
    cases behind : tail.head? with
    | none => rfl
    | some b =>
      rw [none]
      rcases ends b behind with rfl | rfl | rfl
      exacts [comma, list, object]

/-- Moving on by a byte that is there does not touch what follows. -/
theorem Cursor.Before.next (h : c.Before tail c') (more : c.rest ≠ []) :
    c.next.Before tail c'.next := by
  obtain ⟨rest, offset⟩ := c
  obtain ⟨rest', offset'⟩ := c'
  obtain rfl : rest' = rest ++ tail := h
  cases rest with
  | nil => exact absurd rfl more
  | cons b rest => rfl

/-- A test that the end of the text does not pass finds a byte. -/
theorem Cursor.rest_ne_nil {p : UInt8 → Bool} (none : p 0 = false) (front : p c.front = true) :
    c.rest ≠ [] := by
  intro empty
  unfold Cursor.front at front
  rw [empty] at front
  exact absurd (none.symm.trans front) Bool.false_ne_true

theorem takeWhile_isDigit_of_ends (ends : Ends tail) : tail.takeWhile isDigit = [] := by
  cases tail with
  | nil => rfl
  | cons b rest =>
    have other : isDigit b = false := by
      rcases ends b rfl with rfl | rfl | rfl <;> decide
    simp [other]

/-- A run of digits ends where the text does, and what is left is as before. -/
theorem Cursor.Before.digits (h : c.Before tail c') (ends : Ends tail) :
    c'.digits.1 = c.digits.1 ∧ c.digits.2.Before tail c'.digits.2 := by
  have run : c'.rest.takeWhile isDigit = c.rest.takeWhile isDigit := by
    rw [h, List.takeWhile_append, takeWhile_isDigit_of_ends ends, List.append_nil]
    -- The run may take up all digits there are; then those behind, of which there are none, come
    -- next.
    split
    · next all => exact ((List.takeWhile_prefix _).eq_of_length all).symm
    · rfl
  constructor
  · exact congrArg (List.map digitValue) run
  · show c'.rest.drop (c'.rest.takeWhile isDigit).length
      = c.rest.drop (c.rest.takeWhile isDigit).length ++ tail
    rw [run, h]
    exact List.drop_append_of_le_length (List.takeWhile_prefix _).length_le

/-- A test for a byte that ends no value. -/
theorem Cursor.Before.front_beq (h : c.Before tail c') (ends : Ends tail) (k : UInt8)
    (other : k ∉ [0, 0x2C, 0x5D, 0x7D]) : (c'.front == k) = (c.front == k) := by
  simp only [List.mem_cons, List.not_mem_nil, or_false, not_or, ← ne_eq] at other
  obtain ⟨zero, comma, list, object⟩ := other
  exact h.front ends (p := (· == k)) (beq_false_of_ne zero.symm) (beq_false_of_ne comma.symm)
    (beq_false_of_ne list.symm) (beq_false_of_ne object.symm)

theorem Cursor.Before.isDigit_front (h : c.Before tail c') (ends : Ends tail) :
    isDigit c'.front = isDigit c.front :=
  h.front ends rfl rfl rfl rfl

/-- Whether an exponent begins does not depend on what ends the number. -/
theorem Cursor.Before.mark (h : c.Before tail c') (ends : Ends tail) :
    (c'.front == 0x65 || c'.front == 0x45) = (c.front == 0x65 || c.front == 0x45) := by
  rw [h.front_beq ends 0x65 (by decide), h.front_beq ends 0x45 (by decide)]

theorem Cursor.rest_ne_nil_of_beq {k : UInt8} (nonzero : k ≠ 0) (front : (c.front == k) = true) :
    c.rest ≠ [] :=
  Cursor.rest_ne_nil (p := (· == k)) (beq_false_of_ne nonzero.symm) front

theorem Cursor.rest_ne_nil_of_mark (mark : (c.front == 0x65 || c.front == 0x45) = true) :
    c.rest ≠ [] := by
  rcases Bool.or_eq_true_iff.mp mark with lower | upper
  · exact Cursor.rest_ne_nil_of_beq (by decide) lower
  · exact Cursor.rest_ne_nil_of_beq (by decide) upper

/-! ## Outcomes that go together -/

/-- Where the first succeeds, so does the second, with a related value. -/
def Agrees {α : Type} (related : α → α → Prop) (x x' : Except Error α) : Prop :=
  ∀ a, x = .ok a → ∃ a', x' = .ok a' ∧ related a a'

section

variable {α : Type} {related : α → α → Prop} {x x' y y' : Except Error α}

theorem Agrees.ok {a a' : α} (h : related a a') : Agrees related (.ok a) (.ok a') := by
  rintro _ ⟨⟩
  exact ⟨a', rfl, h⟩

theorem Agrees.refl (x : Except Error α) : Agrees Eq x x := by
  rintro a rfl
  exact ⟨a, rfl, rfl⟩

theorem Agrees.error (e : Error) : Agrees related (.error e) x := by
  rintro _ ⟨⟩

/-- Tests with the same outcome, with branches that go together. -/
theorem Agrees.ite {b b' : Bool} (same : b' = b) (yes : b = true → Agrees related x x')
    (no : b = false → Agrees related y y') :
    Agrees related (if b then x else y) (if b' then x' else y') := by
  subst same
  cases b' with
  | true => exact yes rfl
  | false => exact no rfl

end

/-! ## Passing over a number -/

/-- Moves behind the sign of an exponent, if there is one. -/
def Cursor.pastSign (c : Cursor) : Cursor :=
  if c.front == 0x2B || c.front == 0x2D then c.next else c

/-- The sign of an exponent is passed over. -/
theorem Cursor.Before.pastSign (h : c.Before tail c') (ends : Ends tail) :
    c.pastSign.Before tail c'.pastSign := by
  unfold Cursor.pastSign
  rw [h.front_beq ends 0x2B (by decide), h.front_beq ends 0x2D (by decide)]
  split
  · next sign =>
    refine h.next ?_
    rcases Bool.or_eq_true_iff.mp sign with plus | minus
    · exact Cursor.rest_ne_nil_of_beq (by decide) plus
    · exact Cursor.rest_ne_nil_of_beq (by decide) minus
  · exact h

/-- Moves behind the digits in front of the point. -/
def Cursor.pastWhole (c : Cursor) : Cursor :=
  if c.front == 0x30 then c.next else c.digits.2

/-- The digits in front of the point are passed over. -/
theorem Cursor.Before.pastWhole (h : c.Before tail c') (ends : Ends tail) :
    c.pastWhole.Before tail c'.pastWhole := by
  unfold Cursor.pastWhole
  rw [h.front_beq ends 0x30 (by decide)]
  split
  · next zero => exact h.next (Cursor.rest_ne_nil_of_beq (by decide) zero)
  · exact (h.digits ends).2

/-- An exponent is passed over up to what ends it. -/
theorem Cursor.Before.passExponent (h : c.Before tail c') (ends : Ends tail) (more : c.rest ≠ []) :
    Agrees (Cursor.Before tail) (Json.passExponent c) (Json.passExponent c') := by
  have signed := (h.next more).pastSign ends
  exact .ite (signed.isDigit_front ends) (fun _ => .ok (signed.digits ends).2) fun _ => .error _

/-- A number is passed over up to what ends it. -/
theorem Cursor.Before.passNumber (h : c.Before tail c') (ends : Ends tail) :
    Agrees (Cursor.Before tail) (Json.passNumber c) (Json.passNumber c') := by
  have whole := h.pastWhole ends
  have start : (!isDigit c'.front) = !isDigit c.front := by rw [h.isDigit_front ends]
  have zeros : (c'.front == 0x30 && isDigit c'.pastWhole.front)
      = (c.front == 0x30 && isDigit c.pastWhole.front) := by
    rw [h.front_beq ends 0x30 (by decide), whole.isDigit_front ends]
  -- Every branch is taken by a test of the byte in front, which does not see what ends the number.
  refine .ite start (fun _ => .error _) fun _ => ?_
  refine .ite zeros (fun _ => .error _) fun _ => ?_
  refine .ite (whole.front_beq ends 0x2E (by decide)) (fun point => ?_) fun _ => ?_
  · obtain ⟨same, fraction⟩ :=
      (whole.next (Cursor.rest_ne_nil_of_beq (by decide) point)).digits ends
    refine .ite (congrArg List.isEmpty same) (fun _ => .error _) fun _ => ?_
    refine .ite (fraction.mark ends) (fun mark => ?_) fun _ => .ok fraction
    exact fraction.passExponent ends (Cursor.rest_ne_nil_of_mark mark)
  · refine .ite (whole.mark ends) (fun mark => ?_) fun _ => .ok whole
    exact whole.passExponent ends (Cursor.rest_ne_nil_of_mark mark)

/-! ## Taking a number -/

/-- Where a number has stopped matters to an error only. -/
theorem agrees_assemble (negative : Bool) (significand : Nat) (exponent : Int)
    (stop stop' : Offset) :
    Agrees Eq (assemble negative significand exponent stop)
      (assemble negative significand exponent stop') := by
  unfold assemble
  cases scale 4 (Double.ofNat significand) exponent with
  | none => exact .error _
  | some x => exact .ok rfl

/-- What is taken of an exponent behind its sign. -/
def exponentBehind (negative : Bool) (significand : Nat) (start : Int) (down : Bool) (c : Cursor) :
    Except Error Number :=
  match c.rest with
  | [] => .error (Cause.endInValue.at c.offset)
  | b :: _ =>
    if !isDigit b then .error (Cause.invalidNumber.at (c.offset + 1))
    else
      let (value, used, beyond) := exponentDigits 0 c.digits.1
      if beyond then
        if significand != 0 && !down then
          .error (Cause.numberOutOfRange.at (c.offset + used))
        else .ok (.float (Double.zero negative))
      else
        assemble negative significand (if down then start - value else start + value)
          c.digits.2.offset

/-- The sign of an exponent is either passed over or not there. -/
theorem readExponent_eq (negative : Bool) (significand : Nat) (start : Int) (c : Cursor) :
    readExponent negative significand start c
      = exponentBehind negative significand start (c.next.front == 0x2D) c.next.pastSign := by
  unfold readExponent Cursor.pastSign
  dsimp only
  cases plus : c.next.front == 0x2B with
  | true =>
    have minus : (c.next.front == 0x2D) = false := by
      rw [eq_of_beq plus]
      decide
    rw [minus]
    rfl
  | false => cases c.next.front == 0x2D <;> rfl

/-- An exponent is taken as what it is up to what ends it. -/
theorem Cursor.Before.readExponent (h : c.Before tail c') (ends : Ends tail) (more : c.rest ≠ [])
    (negative : Bool) (significand : Nat) (start : Int) :
    Agrees Eq (Json.readExponent negative significand start c)
      (Json.readExponent negative significand start c') := by
  have next := h.next more
  have signed := next.pastSign ends
  -- Both sides now differ in nothing but the place to which the cursor has come.
  rw [readExponent_eq, readExponent_eq, next.front_beq ends 0x2D (by decide)]
  unfold exponentBehind
  rw [signed, (signed.digits ends).1]
  cases rest : c.next.pastSign.rest with
  | nil => exact .error _
  | cons b rest =>
    refine .ite rfl (fun _ => .error _) fun _ => ?_
    refine .ite rfl (fun _ => ?_) fun _ => agrees_assemble _ _ _ _ _
    exact .ite rfl (fun _ => .error _) fun _ => .ok rfl

/-- The digits behind the point, and an exponent, are taken up to what ends them. -/
theorem Cursor.Before.readFraction (h : c.Before tail c') (ends : Ends tail) (more : c.rest ≠ [])
    (negative : Bool) (significand : Nat) (start : Int) :
    Agrees Eq (Json.readFraction negative significand start c)
      (Json.readFraction negative significand start c') := by
  obtain ⟨same, fraction⟩ := (h.next more).digits ends
  unfold Json.readFraction
  dsimp only
  rw [same]
  cases c.next.digits.1 with
  | nil => cases c.next.rest <;> exact .error _
  | cons d ds =>
    refine .ite (fraction.mark ends) (fun mark => ?_) fun _ => agrees_assemble _ _ _ _ _
    exact fraction.readExponent ends (Cursor.rest_ne_nil_of_mark mark) _ _ _

/-- The digits in front of the point: a zero stands alone. -/
def Cursor.whole (c : Cursor) : List Nat :=
  if c.front == 0x30 then [0] else c.digits.1

/-- The two ways in which a number is read, with a zero in front or not, in one. -/
theorem readNumber_eq (negative : Bool) (c : Cursor) :
    readNumber negative c =
      match c.rest with
      | [] => .error (Cause.endInValue.at c.offset)
      | _ :: _ =>
        let (significand, used) := extend 0 c.whole
        let exponent : Int := c.whole.length - used
        if !isDigit c.front then .error (Cause.invalidNumber.at (c.offset + 1))
        else if c.front == 0x30 && isDigit c.pastWhole.front then
          .error (Cause.invalidNumber.at c.pastWhole.peeked)
        else if c.pastWhole.front == 0x2E then
          readFraction negative significand exponent c.pastWhole
        else if c.pastWhole.front == 0x65 || c.pastWhole.front == 0x45 then
          readExponent negative significand exponent c.pastWhole
        else if used < c.whole.length then
          assemble negative significand exponent c.pastWhole.offset
        else if !negative then .ok (.integer significand)
        else if significand == 0 || Nat.pow 2 63 < significand then
          .ok (.float (Double.ofNat significand).neg)
        else .ok (.integer (-significand)) := by
  obtain ⟨rest, offset⟩ := c
  cases rest with
  | nil => rfl
  | cons b rest =>
    unfold readNumber Cursor.whole Cursor.pastWhole
    have front : Cursor.front ⟨b :: rest, offset⟩ = b := rfl
    dsimp only
    rw [front]
    cases zero : b == 0x30 with
    | true => rfl
    | false => rfl

/-- A number is taken as what it is up to what ends it. -/
theorem Cursor.Before.readNumber (h : c.Before tail c') (ends : Ends tail) (negative : Bool) :
    Agrees Eq (Json.readNumber negative c) (Json.readNumber negative c') := by
  have past := h.pastWhole ends
  have whole : c'.whole = c.whole := by
    unfold Cursor.whole
    rw [h.front_beq ends 0x30 (by decide), (h.digits ends).1]
  have start : (!isDigit c'.front) = !isDigit c.front := by rw [h.isDigit_front ends]
  have zeros : (c'.front == 0x30 && isDigit c'.pastWhole.front)
      = (c.front == 0x30 && isDigit c.pastWhole.front) := by
    rw [h.front_beq ends 0x30 (by decide), past.isDigit_front ends]
  -- As for passing over a number: every branch is taken by a test that does not see what ends it.
  rw [readNumber_eq, readNumber_eq, whole, h]
  cases c.rest with
  | nil => exact .error _
  | cons b rest =>
    refine .ite start (fun _ => .error _) fun _ => ?_
    refine .ite zeros (fun _ => .error _) fun _ => ?_
    refine .ite (past.front_beq ends 0x2E (by decide)) (fun point => ?_) fun _ => ?_
    · exact past.readFraction ends (Cursor.rest_ne_nil_of_beq (by decide) point) _ _ _
    · refine .ite (past.mark ends) (fun mark => ?_) fun _ => ?_
      · exact past.readExponent ends (Cursor.rest_ne_nil_of_mark mark) _ _ _
      · by_cases beyond : (extend 0 c.whole).2 < c.whole.length
        · rw [if_pos beyond, if_pos beyond]
          exact agrees_assemble _ _ _ _ _
        · rw [if_neg beyond, if_neg beyond]
          exact Agrees.refl _

/-! ## The node of a number -/

/-- The digits of a number, behind its sign if it has one. -/
def Cursor.unsigned (c : Cursor) : Cursor :=
  if c.front == 0x2D then c.next else c

/-- The sign in front of a number is passed over. -/
theorem Cursor.Before.unsigned (h : c.Before tail c') (ends : Ends tail) :
    c.unsigned.Before tail c'.unsigned := by
  unfold Cursor.unsigned
  rw [h.front_beq ends 0x2D (by decide)]
  split
  · next minus => exact h.next (Cursor.rest_ne_nil_of_beq (by decide) minus)
  · exact h

/-- A number that can be passed over is a node with what it is taken as. -/
theorem numberNode_of_passed {after : Cursor} (passed : passNumber c.unsigned = .ok after) :
    numberNode c
      = (.number (readNumber (c.front == 0x2D) c.unsigned) c.offset after.offset, some after) := by
  unfold Cursor.unsigned at *
  unfold numberNode
  dsimp only
  rw [passed]

/-- Behind one that cannot there is no place to read on. -/
theorem numberNode_of_stuck {e : Error} (stuck : passNumber c.unsigned = .error e) :
    ∃ taken, numberNode c = (.broken taken e c.offset, none) := by
  unfold Cursor.unsigned at stuck
  unfold numberNode
  dsimp only
  rw [stuck]
  dsimp only
  split
  · exact ⟨_, rfl⟩
  · exact ⟨_, rfl⟩

/-- A number is a node where it can be passed over and then taken. -/
theorem numberNode_eq_ok_iff {n : Number} {start stop : Offset} {after : Cursor} :
    numberNode c = (.number (.ok n) start stop, some after)
      ↔ passNumber c.unsigned = .ok after ∧ readNumber (c.front == 0x2D) c.unsigned = .ok n
        ∧ start = c.offset ∧ stop = after.offset := by
  cases passed : passNumber c.unsigned with
  | ok behind =>
    rw [numberNode_of_passed passed]
    simp only [Prod.mk.injEq, Node.number.injEq, Option.some.injEq, Except.ok.injEq]
    constructor
    · rintro ⟨⟨read, rfl, rfl⟩, rfl⟩
      exact ⟨rfl, read, rfl, rfl⟩
    · rintro ⟨rfl, read, rfl, rfl⟩
      exact ⟨⟨read, rfl, rfl⟩, rfl⟩
  | error e =>
    obtain ⟨taken, node⟩ := numberNode_of_stuck passed
    rw [node]
    constructor
    · rintro ⟨⟩
    · rintro ⟨⟨⟩, -⟩

/-- A number is read as it is where nothing follows it, if what follows ends it. -/
theorem Cursor.Before.numberNode (h : c.Before tail c') (ends : Ends tail) {n : Number}
    {start stop : Offset} {after : Cursor}
    (alone : Json.numberNode c = (.number (.ok n) start stop, some after)) :
    ∃ start stop behind, Json.numberNode c' = (.number (.ok n) start stop, some behind)
      ∧ after.Before tail behind := by
  obtain ⟨passed, read, -, -⟩ := numberNode_eq_ok_iff.mp alone
  have digits := h.unsigned ends
  obtain ⟨behind, passes, later⟩ := digits.passNumber ends after passed
  obtain ⟨_, reads, rfl⟩ := digits.readNumber ends (c.front == 0x2D) n read
  refine ⟨c'.offset, behind.offset, behind, numberNode_eq_ok_iff.mpr ⟨passes, ?_, rfl, rfl⟩, later⟩
  rw [h.front_beq ends 0x2D (by decide)]
  exact reads

/-! ## Integers -/

/-- A digit is one byte, which is read as its value. -/
theorem byte_of_isDigit {d : Char} (h : d.isDigit = true) :
    String.utf8EncodeChar d = [d.toUInt8] ∧ isDigit d.toUInt8 = true
      ∧ digitValue d.toUInt8 = d.toNat - '0'.toNat := by
  obtain ⟨lower, upper⟩ := Char.isDigit_iff_toNat.mp h
  have ascii : d.toNat ≤ 127 := Nat.le_trans upper (by decide)
  have byte : d.toUInt8.toNat = d.toNat := Nat.mod_eq_of_lt (Nat.lt_of_le_of_lt ascii (by decide))
  refine ⟨String.utf8EncodeChar_eq_singleton (Char.utf8Size_eq_one_iff.mpr ascii), ?_, ?_⟩
  · simp only [isDigit, Bool.and_eq_true, decide_eq_true_eq, UInt8.le_iff_toNat_le, byte]
    exact ⟨lower, upper⟩
  · rw [digitValue, byte]
    rfl

theorem isDigit_of_mem_toDigits {n : Nat} {d : Char} (mem : d ∈ Nat.toDigits 10 n) :
    d.isDigit = true :=
  Nat.isDigit_of_mem_toDigits (by decide) (by decide) mem

/-- A number is written with its decimal digits. -/
theorem bytesOf_repr (n : Nat) : Text.bytesOf n.repr = (Nat.toDigits 10 n).map Char.toUInt8 := by
  have single : ∀ d ∈ Nat.toDigits 10 n, String.utf8EncodeChar d = [d.toUInt8] := fun d mem =>
    (byte_of_isDigit (isDigit_of_mem_toDigits mem)).1
  rw [Nat.repr_eq_ofList_toDigits, Text.bytesOf_ofList, List.flatMap_congr single,
    List.map_eq_flatMap]

/-- Digits make a number no smaller. -/
theorem le_ofDigitChars (ds : List Char) (start : Nat) : start ≤ Nat.ofDigitChars 10 ds start := by
  induction ds generalizing start with
  | nil => exact Nat.le_refl start
  | cons d rest ih =>
    rw [Nat.ofDigitChars_cons]
    exact Nat.le_trans (by omega) (ih _)

/-- Digits are all used as long as what they make fits. -/
theorem extend_digits (ds : List Char) {start : Nat}
    (fits : Nat.ofDigitChars 10 ds start < significandBound) :
    extend start (ds.map fun d => d.toNat - '0'.toNat)
      = (Nat.ofDigitChars 10 ds start, ds.length) := by
  -- The value grows with each digit, so it fits all along if it does at the end.
  induction ds generalizing start with
  | nil => rfl
  | cons d rest ih =>
    rw [Nat.ofDigitChars_cons, Nat.mul_comm] at fits ⊢
    have next : start * 10 + (d.toNat - '0'.toNat) < significandBound := by
      exact Nat.lt_of_le_of_lt (le_ofDigitChars rest _) fits
    simp only [List.map_cons, extend]
    rw [if_pos next, ih fits]
    rfl

/-- Only zero has a zero in front. -/
theorem head_toDigits {n : Nat} (positive : 0 < n) :
    ∃ d rest, Nat.toDigits 10 n = d :: rest ∧ d.toUInt8 ≠ 0x30 := by
  -- The digits of `n` are those of `n / 10` and one more, so it is the first digit of `n / 10`.
  induction n using Nat.strongRecOn with
  | ind n ih =>
    by_cases one : n < 10
    · rw [Nat.toDigits_of_lt_base one]
      refine ⟨_, [], rfl, ?_⟩
      interval_cases n <;> decide
    · obtain ⟨d, rest, digits, nonzero⟩ := ih (n / 10) (by omega) (by omega)
      rw [Nat.toDigits_of_base_le (by decide) (Nat.le_of_not_lt one), digits]
      exact ⟨d, _, rfl, nonzero⟩

variable {n : Nat} {offset : Offset}

/-- The digits of a natural number are all digits. -/
theorem digits_repr (n : Nat) (offset : Offset) :
    Cursor.digits ⟨Text.bytesOf n.repr, offset⟩
      = ((Nat.toDigits 10 n).map fun d => d.toNat - '0'.toNat,
          ⟨[], offset + (Nat.toDigits 10 n).length⟩) := by
  have all : ∀ b ∈ Text.bytesOf n.repr, isDigit b = true := by
    intro b mem
    rw [bytesOf_repr] at mem
    obtain ⟨d, among, rfl⟩ := List.mem_map.mp mem
    exact (byte_of_isDigit (isDigit_of_mem_toDigits among)).2.1
  unfold Cursor.digits
  dsimp only
  rw [List.takeWhile_eq_self_iff.mpr all, List.drop_length, bytesOf_repr, List.map_map,
    List.length_map]
  refine congrArg (·, _) (List.map_congr_left fun d mem => ?_)
  exact (byte_of_isDigit (isDigit_of_mem_toDigits mem)).2.2

/-- Digits are passed over together; a zero stands alone anyway. -/
theorem whole_repr (n : Nat) (offset : Offset) :
    Cursor.whole ⟨Text.bytesOf n.repr, offset⟩
        = (Nat.toDigits 10 n).map (fun d => d.toNat - '0'.toNat)
      ∧ (Cursor.pastWhole ⟨Text.bytesOf n.repr, offset⟩).rest = [] := by
  unfold Cursor.whole Cursor.pastWhole
  rw [digits_repr]
  rcases Nat.eq_zero_or_pos n with rfl | positive
  · rw [bytesOf_repr]
    exact ⟨rfl, rfl⟩
  · obtain ⟨d, rest, digits, nonzero⟩ := head_toDigits positive
    have front : (Cursor.front ⟨Text.bytesOf n.repr, offset⟩ == 0x30) = false := by
      rw [bytesOf_repr, digits]
      exact beq_false_of_ne nonzero
    rw [front]
    exact ⟨rfl, rfl⟩

/-- A number is written with a digit in front. -/
theorem isDigit_front_repr (n : Nat) (offset : Offset) :
    isDigit (Cursor.front ⟨Text.bytesOf n.repr, offset⟩) = true := by
  have some : Nat.toDigits 10 n ≠ [] := Nat.toDigits_ne_nil
  obtain ⟨d, rest, digits⟩ := List.exists_cons_of_ne_nil some
  rw [bytesOf_repr, digits]
  exact (byte_of_isDigit (isDigit_of_mem_toDigits (digits ▸ List.mem_cons_self))).2.1

theorem Cursor.front_of_rest_nil (empty : c.rest = []) : c.front = 0 := by
  unfold Cursor.front
  rw [empty]
  rfl

/-- Digits behind which there is nothing are passed over. -/
theorem passNumber_of_pastWhole (start : isDigit c.front = true) (behind : c.pastWhole.rest = []) :
    passNumber c = .ok c.pastWhole := by
  have front := Cursor.front_of_rest_nil behind
  unfold passNumber
  show (if !isDigit c.front then _ else if c.front == 0x30 && isDigit c.pastWhole.front then _
    else if c.pastWhole.front == 0x2E then _
    else if c.pastWhole.front == 0x65 || c.pastWhole.front == 0x45 then _ else _) = _
  have last : isDigit 0 = false := rfl
  rw [start, front, last, Bool.and_false]
  rfl

/-- Digits behind which there is nothing are taken as an integer, as far as it fits. -/
theorem readNumber_of_pastWhole (negative : Bool) (start : isDigit c.front = true)
    (behind : c.pastWhole.rest = []) {n : Nat} (value : extend 0 c.whole = (n, c.whole.length)) :
    readNumber negative c =
      if !negative then .ok (.integer n)
      else if n == 0 || Nat.pow 2 63 < n then .ok (.float (Double.ofNat n).neg)
      else .ok (.integer (-n)) := by
  have front := Cursor.front_of_rest_nil behind
  obtain ⟨b, rest, bytes⟩ := List.exists_cons_of_ne_nil (Cursor.rest_ne_nil rfl start)
  rw [readNumber_eq, bytes, value]
  have last : isDigit 0 = false := rfl
  rw [start, front, last, Bool.and_false]
  exact if_neg (Nat.lt_irrefl _)

/-- The digits of a natural number that fits 64 bits are passed over, and taken as this number. -/
theorem readNumber_repr {n : Nat} (fits : n < significandBound) (negative : Bool)
    (offset : Offset) :
    ∃ after, passNumber ⟨Text.bytesOf n.repr, offset⟩ = .ok after ∧ after.rest = []
      ∧ readNumber negative ⟨Text.bytesOf n.repr, offset⟩ =
        if !negative then .ok (.integer n)
        else if n == 0 || Nat.pow 2 63 < n then .ok (.float (Double.ofNat n).neg)
        else .ok (.integer (-n)) := by
  obtain ⟨whole, behind⟩ := whole_repr n offset
  have start := isDigit_front_repr n offset
  have value : Nat.ofDigitChars 10 (Nat.toDigits 10 n) 0 = n :=
    Nat.ofDigitChars_toDigits (by decide) (by decide)
  have used := extend_digits (Nat.toDigits 10 n) (value.symm ▸ fits)
  refine ⟨_, passNumber_of_pastWhole start behind, behind, ?_⟩
  refine readNumber_of_pastWhole negative start behind ?_
  rw [whole, used, value, List.length_map]

/-- An integer of 64 bits, with or without a sign, is read as it was written. -/
theorem numberNode_integer {n : Int} (lower : -(2 : Int) ^ 63 ≤ n) (upper : n < (2 : Int) ^ 64)
    (offset : Offset) :
    ∃ start stop after, numberNode ⟨Text.bytesOf (toString n), offset⟩
      = (.number (.ok (.integer n)) start stop, some after) ∧ after.rest = [] := by
  cases n with
  | ofNat m =>
    have fits : m < significandBound := Int.ofNat_lt.mp upper
    obtain ⟨after, passed, behind, read⟩ := readNumber_repr fits false offset
    -- A digit stands in front, so no sign is passed over.
    have front : (Cursor.front ⟨Text.bytesOf m.repr, offset⟩ == 0x2D) = false := by
      refine beq_false_of_ne fun minus => ?_
      have start := isDigit_front_repr m offset
      rw [minus] at start
      exact absurd start (by decide)
    have unsigned :
        Cursor.unsigned ⟨Text.bytesOf m.repr, offset⟩ = ⟨Text.bytesOf m.repr, offset⟩ := by
      unfold Cursor.unsigned
      rw [front]
      rfl
    rw [← unsigned] at passed read
    rw [← front] at read
    refine ⟨_, _, after, numberNode_eq_ok_iff.mpr ⟨passed, read.trans ?_, rfl, rfl⟩, behind⟩
    rw [front]
    rfl
  | negSucc m =>
    have small : m + 1 ≤ Nat.pow 2 63 := by
      have pow : Nat.pow 2 63 = 2 ^ 63 := rfl
      omega
    -- A sign is passed over first; the digits behind it are those of the natural number.
    have fits : m + 1 < significandBound := Nat.lt_of_le_of_lt small (by decide)
    obtain ⟨after, passed, behind, read⟩ := readNumber_repr fits true (offset + 1)
    have bytes : Text.bytesOf (toString (Int.negSucc m)) = 0x2D :: Text.bytesOf (m + 1).repr := by
      show Text.bytesOf ("-" ++ (m + 1).repr) = _
      rw [Text.bytesOf_append, Text.bytesOf_eq "-"]
      rfl
    rw [bytes]
    refine ⟨_, _, after, numberNode_eq_ok_iff.mpr ⟨passed, read.trans ?_, rfl, rfl⟩, behind⟩
    have nonzero : (m + 1 == 0 || Nat.pow 2 63 < m + 1) = false := by
      rw [decide_eq_false (Nat.not_lt.mpr small)]
      rfl
    rw [nonzero]
    rfl

end InferenceGateway.Json
