import Mathlib
import InferenceGateway.Text.Utf8

/-!
# Bytes of texts

* `bytesOf_eq`: the bytes of a text are those of its characters.
* `head_utf8EncodeChar`: the bytes of a character are read as this character.
* `decode?_bytesOf`, `decodeLossy_bytesOf`: the bytes of a text stand for this text.
* `eq_of_head_eq_scalar`: a character is read from its bytes only.
* `decode?_eq_some_iff`: a text is read from its bytes only.
-/

namespace InferenceGateway.Text

/-- The loop that lists bytes puts those from a place on behind what it has. -/
theorem toList_loop (b : ByteArray) (i : Nat) (done : List UInt8) :
    ByteArray.toList.loop b i done = done.reverse ++ b.data.toList.drop i := by
  fun_induction ByteArray.toList.loop b i done with
  | case1 i done within ih =>
    have here : i < b.data.toList.length := within
    have byte : b.get! i = b.data.toList[i] := getElem!_pos b.data i within
    rw [ih, List.drop_eq_getElem_cons here, byte, List.reverse_cons, List.append_assoc]
    rfl
  | case2 i done beyond =>
    have short : b.data.toList.length ≤ i := Nat.le_of_not_lt beyond
    rw [List.drop_eq_nil_of_le short, List.append_nil]

/-- The bytes of a text are those of its characters, one after the other. -/
theorem bytesOf_eq (s : String) : bytesOf s = s.toList.flatMap String.utf8EncodeChar := by
  unfold bytesOf ByteArray.toList
  rw [toList_loop, String.toUTF8_eq_toByteArray, ← String.utf8Encode_toList]
  simp [List.utf8Encode]

@[simp] theorem bytesOf_append (s t : String) : bytesOf (s ++ t) = bytesOf s ++ bytesOf t := by
  rw [bytesOf_eq, bytesOf_eq, bytesOf_eq, String.toList_append, List.flatMap_append]

/-- The bytes of characters in a row stand in this row. -/
theorem bytesOf_ofList (cs : List Char) :
    bytesOf (String.ofList cs) = cs.flatMap String.utf8EncodeChar := by
  rw [bytesOf_eq, String.toList_ofList]

theorem lengthByFirst_eq (b : UInt8) :
    lengthByFirst b =
      if b.toNat < 0x80 then 1 else if b.toNat < 0xC2 then 0 else if b.toNat < 0xE0 then 2
      else if b.toNat < 0xF0 then 3 else if b.toNat < 0xF5 then 4 else 0 :=
  rfl

/-- The bytes that go on have the numbers from 80 to BF. -/
theorem isContinuation_iff {b : UInt8} :
    isContinuation b = true ↔ 0x80 ≤ b.toNat ∧ b.toNat < 0xC0 := by
  simp only [isContinuation, Bool.and_eq_true, decide_eq_true_eq, UInt8.le_iff_toNat_le]
  exact and_congr_right fun _ => Nat.lt_succ_iff.symm

/-- A second byte is in range if it continues and its code point is neither overlong, a surrogate nor
too large. -/
theorem inSecond_iff (first b : UInt8) :
    ((secondRange first).1 ≤ b && b ≤ (secondRange first).2) = true
      ↔ (0x80 ≤ b.toNat ∧ b.toNat < 0xC0) ∧ (first.toNat = 0xE0 → 0xA0 ≤ b.toNat)
        ∧ (first.toNat = 0xED → b.toNat < 0xA0) ∧ (first.toNat = 0xF0 → 0x90 ≤ b.toNat)
        ∧ (first.toNat = 0xF4 → b.toNat < 0x90) := by
  have is (k : UInt8) : (first == k) = true ↔ first.toNat = k.toNat := by
    rw [beq_iff_eq, UInt8.toNat_inj]
  simp only [secondRange, is, Bool.and_eq_true, decide_eq_true_eq, UInt8.le_iff_toNat_le]
  split_ifs <;> simp only [UInt8.reduceToNat] at * <;> omega

theorem toNat_ofNat {k : Nat} (h : k < 256) : (UInt8.ofNat k).toNat = k :=
  UInt8.toNat_ofNat_of_lt' h

theorem isContinuation_ofNat (k : Nat) : isContinuation (UInt8.ofNat (k % 64 + 0x80)) = true :=
  isContinuation_iff.mpr (by rw [toNat_ofNat (by omega)]; omega)

theorem payload_ofNat (k : Nat) : payload (UInt8.ofNat (k % 64 + 0x80)) = k % 64 := by
  rw [payload, toNat_ofNat (by omega)]
  omega

/-! ### Characters of one byte up to four -/

section

variable {n : Nat}

/-- Characters below 80 have one byte. -/
theorem head_one (most : n < 0x80) (rest : List UInt8) :
    head (UInt8.ofNat n) rest = .scalar (Char.ofNat n) 1 := by
  have first := toNat_ofNat (k := n) (by omega)
  have length : lengthByFirst (UInt8.ofNat n) = 1 := by
    rw [lengthByFirst_eq, first, if_pos most]
  unfold head
  rw [length]
  simp [first]

/-- Characters below 800 have two bytes, with five bits in the first and six in the second. -/
theorem head_two (least : 0x80 ≤ n) (most : n < 0x800) (rest : List UInt8) :
    head (UInt8.ofNat (n / 64 % 32 + 0xC0)) (UInt8.ofNat (n % 64 + 0x80) :: rest)
      = .scalar (Char.ofNat n) 2 := by
  have first := toNat_ofNat (k := n / 64 % 32 + 0xC0) (by omega)
  have length : lengthByFirst (UInt8.ofNat (n / 64 % 32 + 0xC0)) = 2 := by
    rw [lengthByFirst_eq, first, if_neg (by omega), if_neg (by omega), if_pos (by omega)]
  have value : (n / 64 % 32 + 0xC0) % 32 * 64 + n % 64 = n := by omega
  unfold head
  rw [length]
  simp only [isContinuation_ofNat, payload_ofNat, first, value, if_true]

/-- Characters below 10000 have three bytes, with four bits in the first. -/
theorem head_three (least : 0x800 ≤ n) (most : n < 0x10000) (scalar : n < 0xD800 ∨ 0xDFFF < n)
    (rest : List UInt8) :
    head (UInt8.ofNat (n / 4096 % 16 + 0xE0))
        (UInt8.ofNat (n / 64 % 64 + 0x80) :: UInt8.ofNat (n % 64 + 0x80) :: rest)
      = .scalar (Char.ofNat n) 3 := by
  have first := toNat_ofNat (k := n / 4096 % 16 + 0xE0) (by omega)
  have second := toNat_ofNat (k := n / 64 % 64 + 0x80) (by omega)
  have length : lengthByFirst (UInt8.ofNat (n / 4096 % 16 + 0xE0)) = 3 := by
    rw [lengthByFirst_eq, first, if_neg (by omega), if_neg (by omega), if_neg (by omega),
      if_pos (by omega)]
  -- The second byte has a narrow range behind 0xE0 (overlong forms) and 0xED (surrogates).
  have inSecond := (inSecond_iff (UInt8.ofNat (n / 4096 % 16 + 0xE0))
    (UInt8.ofNat (n / 64 % 64 + 0x80))).mpr (by omega)
  have value : (n / 4096 % 16 + 0xE0) % 16 * 4096 + n / 64 % 64 * 64 + n % 64 = n := by omega
  unfold head
  rw [length]
  simp only [inSecond, isContinuation_ofNat, payload_ofNat, first, value, Bool.not_true,
    Bool.false_eq_true, if_false]

/-- The others have four bytes, with three bits in the first. -/
theorem head_four (least : 0x10000 ≤ n) (most : n < 0x110000) (rest : List UInt8) :
    head (UInt8.ofNat (n / 262144 % 8 + 0xF0))
        (UInt8.ofNat (n / 4096 % 64 + 0x80) :: UInt8.ofNat (n / 64 % 64 + 0x80)
          :: UInt8.ofNat (n % 64 + 0x80) :: rest)
      = .scalar (Char.ofNat n) 4 := by
  have first := toNat_ofNat (k := n / 262144 % 8 + 0xF0) (by omega)
  have second := toNat_ofNat (k := n / 4096 % 64 + 0x80) (by omega)
  have length : lengthByFirst (UInt8.ofNat (n / 262144 % 8 + 0xF0)) = 4 := by
    rw [lengthByFirst_eq, first, if_neg (by omega), if_neg (by omega), if_neg (by omega),
      if_neg (by omega), if_pos (by omega)]
  -- Here the narrow ranges are those behind 0xF0 (overlong forms) and 0xF4 (too large).
  have inSecond := (inSecond_iff (UInt8.ofNat (n / 262144 % 8 + 0xF0))
    (UInt8.ofNat (n / 4096 % 64 + 0x80))).mpr (by omega)
  have value : (n / 262144 % 8 + 0xF0) % 8 * 262144 + n / 4096 % 64 * 4096 + n / 64 % 64 * 64
      + n % 64 = n := by omega
  unfold head
  rw [length]
  simp only [inSecond, isContinuation_ofNat, payload_ofNat, first, value, Bool.not_true,
    Bool.false_eq_true, if_false]

end

/-- The bytes of a character are read as this character, whatever follows them. -/
theorem head_utf8EncodeChar (c : Char) (rest : List UInt8) :
    ∃ first more, String.utf8EncodeChar c = first :: more
      ∧ head first (more ++ rest) = .scalar c (more.length + 1) := by
  have char : Char.ofNat c.val.toNat = c := Char.ofNat_toNat c
  have valid : c.val.toNat < 0xD800 ∨ 0xDFFF < c.val.toNat ∧ c.val.toNat < 0x110000 := c.valid
  unfold String.utf8EncodeChar
  generalize c.val.toNat = n at char valid
  subst char
  dsimp only
  -- The number of the character tells how many bytes it has.
  split
  · next one => exact ⟨_, [], rfl, head_one (by omega) rest⟩
  · split
    · next two => exact ⟨_, [_], rfl, head_two (by omega) (by omega) rest⟩
    · split
      · next three =>
        have scalar : n < 0xD800 ∨ 0xDFFF < n := by omega
        exact ⟨_, [_, _], rfl, head_three (by omega) (by omega) scalar rest⟩
      · next four => exact ⟨_, [_, _, _], rfl, head_four (by omega) (by omega) rest⟩

/-- The bytes of characters are read one character after the other. -/
theorem piecesWithin_bytes (cs : List Char) (done : List (Option Char)) {fuel : Nat}
    (enough : (cs.flatMap String.utf8EncodeChar).length ≤ fuel) :
    piecesWithin fuel (cs.flatMap String.utf8EncodeChar) done = done.reverse ++ cs.map some := by
  -- A character has at least one byte, and each step takes one unit of fuel.
  induction cs generalizing fuel done with
  | nil => cases fuel <;> simp [piecesWithin]
  | cons c rest ih =>
    obtain ⟨first, more, encoded, read⟩ :=
      head_utf8EncodeChar c (rest.flatMap String.utf8EncodeChar)
    rw [List.flatMap_cons, encoded, List.cons_append] at enough ⊢
    cases fuel with
    | zero => simp at enough
    | succ fuel =>
      have behind : (more ++ rest.flatMap String.utf8EncodeChar).drop (more.length + 1 - 1)
          = rest.flatMap String.utf8EncodeChar := by simp
      simp only [piecesWithin, read]
      rw [behind, ih _ (by simp only [List.length_cons, List.length_append] at enough; omega)]
      simp

/-- No piece of the bytes of a text is ill-formed. -/
theorem pieces_bytesOf (s : String) : pieces (bytesOf s) = s.toList.map some := by
  unfold pieces
  rw [bytesOf_eq, piecesWithin_bytes _ _ (Nat.le_refl _)]
  rfl

/-- All pieces are characters exactly if none is ill-formed. -/
theorem mapM_id_eq_some_iff {pieces : List (Option Char)} {cs : List Char} :
    pieces.mapM id = some cs ↔ pieces = cs.map some := by
  induction pieces generalizing cs with
  | nil => cases cs <;> simp
  | cons piece rest ih =>
    rw [List.mapM_cons]
    cases piece with
    | none => cases cs <;> simp
    | some c => cases cs <;> simp [Option.bind_eq_some_iff, ih, and_comm]

/-- The bytes of a text stand for this text. -/
theorem decode?_bytesOf (s : String) : decode? (bytesOf s) = some s := by
  unfold decode?
  rw [mapM_id_eq_some_iff.mpr (pieces_bytesOf s), Option.map_some, String.ofList_toList]

/-- Where nothing is ill-formed, nothing is lost. -/
theorem decodeLossy_bytesOf (s : String) : decodeLossy (bytesOf s) = s := by
  unfold decodeLossy
  rw [pieces_bytesOf]
  simp

/-! ### Bytes that stand for a text -/

/-- A byte is the one with its number. -/
theorem eq_ofNat {b : UInt8} {n : Nat} (h : b.toNat = n) : b = UInt8.ofNat n := by
  rw [← h, UInt8.ofNat_toNat]

/-- The bytes of a character, by its number. -/
theorem utf8EncodeChar_ofNat {n : Nat} (valid : n.isValidChar) :
    String.utf8EncodeChar (Char.ofNat n) =
      if n ≤ 0x7F then [UInt8.ofNat n]
      else if n ≤ 0x7FF then [UInt8.ofNat (n / 64 % 32 + 0xC0), UInt8.ofNat (n % 64 + 0x80)]
      else if n ≤ 0xFFFF then
        [UInt8.ofNat (n / 4096 % 16 + 0xE0), UInt8.ofNat (n / 64 % 64 + 0x80),
          UInt8.ofNat (n % 64 + 0x80)]
      else
        [UInt8.ofNat (n / 262144 % 8 + 0xF0), UInt8.ofNat (n / 4096 % 64 + 0x80),
          UInt8.ofNat (n / 64 % 64 + 0x80), UInt8.ofNat (n % 64 + 0x80)] := by
  have value : (Char.ofNat n).val.toNat = n := by
    rw [Char.toNat_val, Char.toNat_ofNat, if_pos valid]
  unfold String.utf8EncodeChar
  dsimp only
  rw [value]

section

variable {first b c d : UInt8}

theorem encode_one (length : lengthByFirst first = 1) :
    String.utf8EncodeChar (Char.ofNat first.toNat) = [first] := by
  have range : first.toNat < 0x80 := by
    rw [lengthByFirst_eq] at length
    split_ifs at length <;> omega
  rw [utf8EncodeChar_ofNat (.inl (by omega)), if_pos (by omega), UInt8.ofNat_toNat]

theorem encode_two (length : lengthByFirst first = 2) (second : isContinuation b = true) :
    String.utf8EncodeChar (Char.ofNat (first.toNat % 32 * 64 + payload b)) = [first, b] := by
  have range : 0xC2 ≤ first.toNat ∧ first.toNat < 0xE0 := by
    rw [lengthByFirst_eq] at length
    split_ifs at length <;> omega
  have continues := isContinuation_iff.mp second
  unfold payload
  rw [utf8EncodeChar_ofNat (.inl (by omega)), if_neg (by omega), if_pos (by omega)]
  rw [← eq_ofNat (b := first) (by omega), ← eq_ofNat (b := b) (by omega)]

/-- A character that is read from three bytes has these bytes: it is neither short enough for two
nor a surrogate. -/
theorem encode_three (length : lengthByFirst first = 3)
    (second : ((secondRange first).1 ≤ b && b ≤ (secondRange first).2) = true)
    (third : isContinuation c = true) :
    String.utf8EncodeChar (Char.ofNat (first.toNat % 16 * 4096 + payload b * 64 + payload c))
      = [first, b, c] := by
  have range : 0xE0 ≤ first.toNat ∧ first.toNat < 0xF0 := by
    rw [lengthByFirst_eq] at length
    split_ifs at length <;> omega
  obtain ⟨continues, long, scalar, -, -⟩ := (inSecond_iff first b).mp second
  have last := isContinuation_iff.mp third
  unfold payload
  rw [utf8EncodeChar_ofNat (by unfold Nat.isValidChar; omega), if_neg (by omega),
    if_neg (by omega), if_pos (by omega)]
  rw [← eq_ofNat (b := first) (by omega), ← eq_ofNat (b := b) (by omega),
    ← eq_ofNat (b := c) (by omega)]

/-- A character that is read from four bytes has these bytes: it is not short enough for three, and
not too large. -/
theorem encode_four (length : lengthByFirst first = 4)
    (second : ((secondRange first).1 ≤ b && b ≤ (secondRange first).2) = true)
    (third : isContinuation c = true) (fourth : isContinuation d = true) :
    String.utf8EncodeChar (Char.ofNat
        (first.toNat % 8 * 262144 + payload b * 4096 + payload c * 64 + payload d))
      = [first, b, c, d] := by
  have range : 0xF0 ≤ first.toNat ∧ first.toNat < 0xF5 := by
    rw [lengthByFirst_eq] at length
    split_ifs at length <;> omega
  obtain ⟨continues, -, -, longer, small⟩ := (inSecond_iff first b).mp second
  have between := isContinuation_iff.mp third
  have last := isContinuation_iff.mp fourth
  unfold payload
  rw [utf8EncodeChar_ofNat (by unfold Nat.isValidChar; omega), if_neg (by omega),
    if_neg (by omega), if_neg (by omega)]
  rw [← eq_ofNat (b := first) (by omega), ← eq_ofNat (b := b) (by omega),
    ← eq_ofNat (b := c) (by omega), ← eq_ofNat (b := d) (by omega)]

end

/-- A character that is read is that of the bytes it is read from. -/
theorem eq_of_head_eq_scalar {first : UInt8} {rest : List UInt8} {c : Char} {length : Nat}
    (h : head first rest = .scalar c length) :
    first :: rest = String.utf8EncodeChar c ++ rest.drop (length - 1) := by
  unfold head at h
  dsimp only at h
  split at h
  · next one =>
    cases h
    rw [encode_one one]
    rfl
  · next b tail two =>
    split at h
    · next second =>
      cases h
      rw [encode_two two second]
      rfl
    · cases h
  · split at h <;> cases h
  -- Three bytes or more are checked one by one; a character comes out only if all are in range.
  · next b third tail three =>
    split at h
    · cases h
    · next second =>
      split at h
      · cases h
      · next continues =>
        cases h
        rw [encode_three three (by simpa using second) (by simpa using continues)]
        rfl
  · split at h <;> cases h
  · split at h
    · cases h
    · split at h <;> cases h
  · next b third fourth tail four =>
    split at h
    · cases h
    · next second =>
      split at h
      · cases h
      · next continues =>
        split at h
        · cases h
        · next ends =>
          cases h
          rw [encode_four four (by simpa using second) (by simpa using continues)
            (by simpa using ends)]
          rfl
  · cases h

/-- The pieces read so far stay in front. -/
theorem piecesWithin_eq_append (fuel : Nat) (bytes : List UInt8) (done : List (Option Char)) :
    piecesWithin fuel bytes done = done.reverse ++ piecesWithin fuel bytes [] := by
  induction fuel generalizing bytes done with
  | zero => simp [piecesWithin]
  | succ fuel ih =>
    cases bytes with
    | nil => simp [piecesWithin]
    | cons first rest =>
      unfold piecesWithin
      cases head first rest with
      | scalar c length =>
        dsimp only
        rw [ih _ (some c :: done), ih _ [some c], List.reverse_cons, List.append_assoc]
        rfl
      | broken length =>
        dsimp only
        rw [ih _ (none :: done), ih _ [none], List.reverse_cons, List.append_assoc]
        rfl

/-- Bytes without an ill-formed piece are those of the characters that are read. -/
theorem eq_of_piecesWithin {fuel : Nat} {bytes : List UInt8} {cs : List Char}
    (enough : bytes.length ≤ fuel) (read : piecesWithin fuel bytes [] = cs.map some) :
    bytes = cs.flatMap String.utf8EncodeChar := by
  -- Each step takes at least one byte, so the fuel is enough.
  induction fuel generalizing bytes cs with
  | zero =>
    have none : bytes = [] := List.eq_nil_of_length_eq_zero (Nat.le_zero.mp enough)
    subst none
    cases cs with
    | nil => rfl
    | cons c rest => cases read
  | succ fuel ih =>
    cases bytes with
    | nil =>
      cases cs with
      | nil => rfl
      | cons c rest => cases read
    | cons first rest =>
      have fits : rest.length ≤ fuel := Nat.le_of_succ_le_succ enough
      unfold piecesWithin at read
      cases here : head first rest with
      | scalar c length =>
        simp only [here] at read
        rw [piecesWithin_eq_append] at read
        cases cs with
        | nil => cases read
        | cons c' more =>
          obtain ⟨same, behind⟩ := List.cons.inj read
          cases same
          rw [eq_of_head_eq_scalar here, List.flatMap_cons]
          have left : (rest.drop (length - 1)).length ≤ fuel := by
            rw [List.length_drop]
            omega
          rw [ih left behind]
      | broken length =>
        -- the ill-formed piece would be one of the characters
        simp only [here] at read
        rw [piecesWithin_eq_append] at read
        cases cs with
        | nil => cases read
        | cons c more => cases (List.cons.inj read).1

/-- Bytes stand for a text exactly if they are its bytes. -/
theorem decode?_eq_some_iff {bytes : List UInt8} {s : String} :
    decode? bytes = some s ↔ bytes = bytesOf s := by
  constructor
  · intro read
    unfold decode? at read
    obtain ⟨cs, all, rfl⟩ := Option.map_eq_some_iff.mp read
    rw [bytesOf_ofList]
    exact eq_of_piecesWithin (Nat.le_refl _) (mapM_id_eq_some_iff.mp all)
  · rintro rfl
    exact decode?_bytesOf s

end InferenceGateway.Text
