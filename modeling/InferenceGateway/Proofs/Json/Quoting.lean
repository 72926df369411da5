import Mathlib
import InferenceGateway.Json.Printer
import InferenceGateway.Json.Reader
import InferenceGateway.Proofs.Text.Utf8

/-!
# Texts between quotes

What is written between quotes is read as it was, whatever follows the closing quote.

* `scanString_escapeChar`: a character, escaped or not, is read as its bytes.
* `scanString_quote`: a text is read as this text.
-/

namespace InferenceGateway.Json

/-- A byte that stands for itself between quotes. -/
def IsLiteral (b : UInt8) : Prop :=
  0x20 ≤ b.toNat ∧ b ≠ 0x22 ∧ b ≠ 0x5C

/-- The bytes that have been taken of a text, in reverse, where no surrogate is waited for. -/
def taken (done : List UInt8) : Taken :=
  .ok (done, none)

theorem scanString_byte {b : UInt8} (literal : IsLiteral b) (rest : List UInt8) (offset : Offset)
    (done : List UInt8) :
    scanString (b :: rest) offset (taken done)
      = scanString rest (offset + 1) (taken (b :: done)) := by
  obtain ⟨visible, notQuote, notEscape⟩ := literal
  have notControl : ¬ b < 0x20 := fun lt =>
    absurd (UInt8.lt_iff_toNat_lt.mp lt) (Nat.not_lt.mpr visible)
  rw [scanString]
  · rw [if_neg notControl]
    rfl
  · exact fun quote => notQuote quote
  · exact fun escape _ => notEscape escape
  · exact fun _ _ _ _ _ escape _ => notEscape escape
  · exact fun _ escape _ => notEscape escape
  · exact fun _ _ escape _ => notEscape escape

theorem scanString_bytes {bytes : List UInt8} (literal : ∀ b ∈ bytes, IsLiteral b)
    (rest : List UInt8) (offset : Offset) (done : List UInt8) :
    scanString (bytes ++ rest) offset (taken done)
      = scanString rest (offset + bytes.length) (taken (bytes.reverse ++ done)) := by
  induction bytes generalizing offset done with
  | nil => rfl
  | cons b bytes ih =>
    obtain ⟨first, others⟩ := List.forall_mem_cons.mp literal
    rw [List.cons_append, scanString_byte first, ih others, List.reverse_cons, List.append_assoc,
      List.length_cons, Nat.add_assoc, Nat.add_comm 1]
    rfl

theorem isLiteral_ofNat {k : Nat} (visible : 0x20 ≤ k) (byte : k < 256) (notQuote : k ≠ 0x22)
    (notEscape : k ≠ 0x5C) : IsLiteral (UInt8.ofNat k) := by
  have value : (UInt8.ofNat k).toNat = k := UInt8.toNat_ofNat_of_lt' byte
  refine ⟨value.symm ▸ visible, fun quote => notQuote ?_, fun escape => notEscape ?_⟩
  · rw [← value, quote]
    rfl
  · rw [← value, escape]
    rfl

/-- The bytes of a character that is not escaped stand for themselves. -/
theorem isLiteral_of_mem_utf8EncodeChar {c : Char} (visible : 0x20 ≤ c.toNat) (notQuote : c ≠ '"')
    (notEscape : c ≠ '\\') {b : UInt8} (mem : b ∈ String.utf8EncodeChar c) : IsLiteral b := by
  have large (k : Nat) (least : 0x80 ≤ k) (most : k < 256) : IsLiteral (UInt8.ofNat k) :=
    isLiteral_ofNat (by omega) most (by omega) (by omega)
  unfold String.utf8EncodeChar at mem
  have ne (d : Char) (other : c ≠ d) : c.val.toNat ≠ d.val.toNat := fun same =>
    other (Char.toNat_inj.mp same)
  have notQuote := ne _ notQuote
  have notEscape := ne _ notEscape
  change 0x20 ≤ c.val.toNat at visible
  generalize c.val.toNat = n at *
  dsimp only at mem
  -- one byte for ASCII, which is the character itself; otherwise all bytes have the highest bit
  split at mem
  · obtain rfl := List.mem_singleton.mp mem
    exact isLiteral_ofNat visible (by omega) notQuote notEscape
  · split at mem
    · simp only [List.mem_cons, List.not_mem_nil, or_false] at mem
      rcases mem with rfl | rfl <;> exact large _ (by omega) (by omega)
    · split at mem
      · simp only [List.mem_cons, List.not_mem_nil, or_false] at mem
        rcases mem with rfl | rfl | rfl <;> exact large _ (by omega) (by omega)
      · simp only [List.mem_cons, List.not_mem_nil, or_false] at mem
        rcases mem with rfl | rfl | rfl | rfl <;> exact large _ (by omega) (by omega)

theorem scanString_letter {letter b : UInt8} (other : letter ≠ 0x75)
    (escaped : escapedByte? letter = some b) (rest : List UInt8) (offset : Offset)
    (done : List UInt8) :
    scanString (0x5C :: letter :: rest) offset (taken done)
      = scanString rest (offset + 2) (taken (b :: done)) := by
  rw [scanString]
  · rw [escaped]
    rfl
  · exact fun _ _ _ _ _ unit _ => other unit
  · exact other

theorem scanString_unit {a b c d : UInt8} {n : Nat} (unit : codeUnit? a b c d = some n)
    (ascii : n < 0x80) (rest : List UInt8) (offset : Offset) (done : List UInt8) :
    scanString (0x5C :: 0x75 :: a :: b :: c :: d :: rest) offset (taken done)
      = scanString rest (offset + 6) (taken (UInt8.ofNat n :: done)) := by
  have notTrailing : isTrailing n = false := by
    simp only [isTrailing, Bool.and_eq_false_iff, decide_eq_false_iff_not]
    omega
  have notLeading : isLeading n = false := by
    simp only [isLeading, Bool.and_eq_false_iff, decide_eq_false_iff_not]
    omega
  have byte : Text.bytesOfCodePoint n = [UInt8.ofNat n] := if_pos ascii
  have took : (taken done).unit n (offset + 6) = taken (UInt8.ofNat n :: done) := by
    simp only [Taken.unit, taken, bind, Except.bind, notTrailing, notLeading, byte]
    rfl
  rw [scanString, unit]
  dsimp only
  rw [took]

/-- The letter of a short escape stands for the control character. -/
theorem escapedByte?_shortEscape {c letter : Char} (short : shortEscape? c = some letter) :
    String.utf8EncodeChar letter = [letter.toUInt8] ∧ letter.toUInt8 ≠ 0x75
      ∧ escapedByte? letter.toUInt8 = some c.toUInt8 ∧ String.utf8EncodeChar c = [c.toUInt8] := by
  unfold shortEscape? at short
  rw [← Char.ofNat_toNat c]
  generalize c.toNat = n at short
  split at short <;> cases short <;> decide

/-- The escape of a control character is that of its code unit. -/
theorem codeUnit?_unitEscape : ∀ n < 0x20,
    (unitEscape n).flatMap String.utf8EncodeChar
        = [0x5C, 0x75, 0x30, 0x30, (Text.hexDigit (n / 16 % 16)).toUInt8,
            (Text.hexDigit (n % 16)).toUInt8]
      ∧ codeUnit? 0x30 0x30 (Text.hexDigit (n / 16 % 16)).toUInt8
          (Text.hexDigit (n % 16)).toUInt8 = some n := by
  decide +kernel

/-- A character is read as its bytes, whether it was escaped or not. -/
theorem scanString_escapeChar (c : Char) (rest : List UInt8) (offset : Offset) (done : List UInt8) :
    ∃ behind, scanString ((escapeChar c).flatMap String.utf8EncodeChar ++ rest) offset (taken done)
      = scanString rest behind (taken ((String.utf8EncodeChar c).reverse ++ done)) := by
  -- A character is written behind a backslash, as a letter, as a code unit, or as it is.
  unfold escapeChar
  split
  · next special =>
    rcases Bool.or_eq_true_iff.mp special with quote | escape
    · obtain rfl := eq_of_beq quote
      exact ⟨_, rfl⟩
    · obtain rfl := eq_of_beq escape
      exact ⟨_, rfl⟩
  · next ordinary =>
    split
    · next letter short =>
      obtain ⟨byte, other, escaped, own⟩ := escapedByte?_shortEscape short
      refine ⟨offset + 2, ?_⟩
      rw [own, List.flatMap_cons, List.flatMap_singleton, byte]
      exact scanString_letter other escaped rest offset done
    · next long =>
      split
      · next control =>
        obtain ⟨bytes, unit⟩ := codeUnit?_unitEscape c.toNat control
        have own : String.utf8EncodeChar c = [UInt8.ofNat c.toNat] :=
          String.utf8EncodeChar_eq_singleton (Char.utf8Size_eq_one_iff.mpr
            (Nat.le_of_lt (Nat.lt_trans control (by decide))))
        refine ⟨offset + 6, ?_⟩
        rw [bytes, own]
        exact scanString_unit unit (Nat.lt_trans control (by decide)) rest offset done
      · next visible =>
        have literal : ∀ b ∈ String.utf8EncodeChar c, IsLiteral b := by
          simp only [Bool.or_eq_true, beq_iff_eq, not_or] at ordinary
          intro b mem
          exact isLiteral_of_mem_utf8EncodeChar (Nat.le_of_not_lt visible) ordinary.1 ordinary.2 mem
        rw [List.flatMap_singleton]
        exact ⟨_, scanString_bytes literal rest offset done⟩

/-- The bytes of characters as they are written between quotes. -/
def escaped (cs : List Char) : List UInt8 :=
  (cs.flatMap escapeChar).flatMap String.utf8EncodeChar

theorem bytesOf_quote (s : String) :
    Text.bytesOf (quote s) = 0x22 :: (escaped s.toList ++ [0x22]) := by
  unfold quote
  rw [Text.bytesOf_ofList, List.flatMap_cons, List.flatMap_append]
  rfl

theorem exists_bytesOf_quote (s : String) (rest : List UInt8) :
    ∃ bytes, Text.bytesOf (quote s) ++ rest = 0x22 :: bytes := by
  rw [bytesOf_quote]
  exact ⟨_, rfl⟩

/-- What is written between quotes is read up to the closing quote. -/
theorem scanString_escaped (cs : List Char) (rest : List UInt8) (offset : Offset)
    (done : List UInt8) :
    ∃ behind, scanString (escaped cs ++ 0x22 :: rest) offset (taken done)
      = .closed (.ok (done.reverse ++ cs.flatMap String.utf8EncodeChar)) ⟨rest, behind⟩ := by
  induction cs generalizing offset done with
  | nil =>
    rw [List.flatMap_nil, List.append_nil]
    exact ⟨offset + 1, rfl⟩
  | cons c cs ih =>
    have front : escaped (c :: cs) ++ 0x22 :: rest
        = (escapeChar c).flatMap String.utf8EncodeChar ++ (escaped cs ++ 0x22 :: rest) := by
      unfold escaped
      rw [List.flatMap_cons, List.flatMap_append, List.append_assoc]
    obtain ⟨next, step⟩ := scanString_escapeChar c (escaped cs ++ 0x22 :: rest) offset done
    obtain ⟨behind, others⟩ := ih next ((String.utf8EncodeChar c).reverse ++ done)
    refine ⟨behind, ?_⟩
    rw [front, step, others, List.reverse_append, List.reverse_reverse, List.append_assoc,
      List.flatMap_cons]

theorem textOf_bytesOf (s : String) (stop : Offset) :
    textOf (.ok (Text.bytesOf s)) stop = .ok s := by
  simp only [textOf, bind, Except.bind, Text.decode?_bytesOf]
  rfl

/-- A quoted text is read as this text, whatever follows it. -/
theorem scanString_quote {c : Cursor} {s : String} {tail : List UInt8}
    (here : c.rest = Text.bytesOf (quote s) ++ tail) :
    ∃ value behind, scanString c.next.rest c.next.offset (.ok ([], none))
      = .closed value ⟨tail, behind⟩ ∧ textOf value behind = .ok s := by
  obtain ⟨rest, offset⟩ := c
  rw [bytesOf_quote, List.cons_append, List.append_assoc] at here
  obtain rfl := here
  obtain ⟨behind, scanned⟩ := scanString_escaped s.toList tail (offset + 1) []
  exact ⟨_, behind, scanned, Text.bytesOf_eq s ▸ textOf_bytesOf s behind⟩

end InferenceGateway.Json
