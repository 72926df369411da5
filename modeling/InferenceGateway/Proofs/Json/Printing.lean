import Mathlib
import InferenceGateway.Proofs.Json.Quoting
import InferenceGateway.Proofs.Json.Values

/-!
# Values that are written and read again

A value that a text can spell is read from what is written of it, as far as its doubles are. No key
is written twice in an object.

* `floats`: the doubles within a value.
* `Rereads`: a double is read from what is written of it.
* `ReadAs`: bytes are read as a value, wherever they stand in a text.
* `Sound.readAs`, `Sound.parse_render`: what is written of a value is read as this value.
* `Reads.readText_render`: so a reader makes of it what it makes of the value.
-/

namespace InferenceGateway.Json

/-! ## Blanks -/

section

variable {tail : List UInt8} {c c' : Cursor}

theorem skipBlank_cons {b : UInt8} (solid : isJsonBlank b = false) (rest : List UInt8)
    (offset : Offset) : skipBlank (b :: rest) offset = ⟨b :: rest, offset⟩ := by
  rw [skipBlank, solid]
  rfl

/-- Nothing is skipped where a value has ended: what ends it is no blank. -/
theorem Cursor.skip_of_ends (ends : Ends c.rest) : c.skip = c := by
  obtain ⟨rest, offset⟩ := c
  cases rest with
  | nil => rfl
  | cons b rest =>
    have solid : isJsonBlank b = false := by
      rcases ends b rfl with rfl | rfl | rfl <;> rfl
    exact skipBlank_cons solid rest offset

theorem skip_rest_of_ends (ends : Ends tail) (offset : Offset) :
    (Cursor.skip ⟨tail, offset⟩).rest = tail := by
  rw [Cursor.skip_of_ends ends]

/-- Blanks are skipped at once, however many there are. -/
theorem skipBlank_skip (bytes : List UInt8) (offset : Offset) :
    (skipBlank bytes offset).skip = skipBlank bytes offset := by
  induction bytes generalizing offset with
  | nil => rfl
  | cons b rest ih =>
    rw [skipBlank]
    split
    · exact ih _
    · next solid => exact skipBlank_cons (eq_false_of_ne_true solid) rest offset

theorem Cursor.skip_skip (c : Cursor) : c.skip.skip = c.skip :=
  skipBlank_skip c.rest c.offset

/-- What follows a text takes no part in skipping its blanks, if it is none itself. -/
theorem Cursor.Before.skip (h : c.Before tail c') (ends : Ends tail) :
    c.skip.Before tail c'.skip := by
  obtain ⟨rest, offset⟩ := c
  obtain ⟨rest', offset'⟩ := c'
  obtain rfl : rest' = rest ++ tail := h
  -- The text behind comes into play only where the one before it is used up.
  induction rest generalizing offset offset' with
  | nil => exact skip_rest_of_ends ends _
  | cons b rest ih =>
    show (skipBlank (b :: (rest ++ tail)) offset').rest
      = (skipBlank (b :: rest) offset).rest ++ tail
    rw [skipBlank, skipBlank]
    split
    · exact ih _ _
    · rfl

/-- Blanks before a value do not count. -/
theorem readValue_skip (fuel level : Nat) (c : Cursor) :
    readValue (fuel + 1) level c.skip = readValue (fuel + 1) level c := by
  rw [readValue, readValue, c.skip_skip]

end

/-! ## Numbers -/

/-- The bytes with which a number can start. -/
theorem mem_of_numeral : ∀ {b : UInt8}, (b == 0x2D || isDigit b) = true →
    b ∈ [0x2D, 0x30, 0x31, 0x32, 0x33, 0x34, 0x35, 0x36, 0x37, 0x38, 0x39] := by
  decide +kernel

theorem isJsonBlank_of_numeral : ∀ {b : UInt8}, (b == 0x2D || isDigit b) = true →
    isJsonBlank b = false := by
  decide +kernel

section

variable {tail rest : List UInt8} {c c' : Cursor} {b : UInt8} {fuel level : Nat}

/-- Where a number starts, a number is read. -/
theorem readValue_of_numeral (here : c.skip.rest = b :: rest)
    (numeral : (b == 0x2D || isDigit b) = true) :
    readValue (fuel + 1) level c = numberNode c.skip := by
  rw [readValue]
  dsimp only
  rw [here]
  dsimp only
  have among := mem_of_numeral numeral
  simp only [List.mem_cons, List.not_mem_nil, or_false] at among
  rcases among with rfl | rfl | rfl | rfl | rfl | rfl | rfl | rfl | rfl | rfl | rfl <;> rfl

/-- A number starts with its sign or with a digit. -/
theorem numeral_of_numberNode {n : Number} {start stop : Offset} {after : Cursor}
    (node : numberNode c = (.number (.ok n) start stop, some after)) :
    (c.front == 0x2D || isDigit c.front) = true := by
  obtain ⟨passed, -, -, -⟩ := numberNode_eq_ok_iff.mp node
  have digit : isDigit c.unsigned.front = true := by
    unfold passNumber at passed
    cases front : isDigit c.unsigned.front with
    | true => rfl
    | false =>
      rw [front] at passed
      cases passed
  unfold Cursor.unsigned at digit
  cases minus : c.front == 0x2D with
  | true => rfl
  | false =>
    rw [minus] at digit
    exact digit

/-- What is a number where it stands is read as one. -/
theorem readValue_of_numberNode {n : Number} {start stop : Offset} {after : Cursor}
    (node : numberNode c = (.number (.ok n) start stop, some after)) :
    readValue (fuel + 1) level c = (.number (.ok n) start stop, some after) := by
  have numeral := numeral_of_numberNode node
  obtain ⟨rest, offset⟩ := c
  cases rest with
  | nil => cases numeral
  | cons b rest =>
    have skipped : Cursor.skip ⟨b :: rest, offset⟩ = ⟨b :: rest, offset⟩ :=
      skipBlank_cons (isJsonBlank_of_numeral numeral) rest offset
    rw [readValue_of_numeral (congrArg Cursor.rest skipped) numeral, skipped, node]

/-- What starts like a word is no number, even if it is not this word. -/
theorem wordNode_ne_number {letters : List UInt8} {node : Offset → Node}
    {value : Except Error Number} {start stop : Offset}
    (other : ∀ behind, node behind ≠ .number value start stop) :
    (wordNode letters c node).1 ≠ .number value start stop := by
  unfold wordNode
  split
  · exact other _
  · exact Node.noConfusion

/-- Only what starts as a number is read as one. -/
theorem numeral_of_readValue {value : Except Error Number} {start stop : Offset}
    (read : (readValue (fuel + 1) level c).1 = .number value start stop) :
    ∃ b rest, c.skip.rest = b :: rest ∧ (b == 0x2D || isDigit b) = true := by
  rw [readValue] at read
  dsimp only at read
  split at read
  · cases read
  · next b rest here =>
    refine ⟨b, rest, here, ?_⟩
    split at read
    · exact absurd read (wordNode_ne_number fun _ => Node.noConfusion)
    · exact absurd read (wordNode_ne_number fun _ => Node.noConfusion)
    · exact absurd read (wordNode_ne_number fun _ => Node.noConfusion)
    · unfold stringNode at read
      split at read <;> cases read
    · cases read
    · cases read
    · split at read
      · next numeral => exact numeral
      · cases read

/-- Behind a number there is always a place to read on. -/
theorem readValue_number_ne_none {value : Except Error Number} {start stop : Offset} :
    readValue (fuel + 1) level c ≠ (.number value start stop, none) := by
  intro read
  obtain ⟨b, rest, here, numeral⟩ := numeral_of_readValue (congrArg Prod.fst read)
  rw [readValue_of_numeral here numeral] at read
  unfold numberNode at read
  dsimp only at read
  split at read
  · cases read
  · split at read <;> cases read

/-- Where a value is read, there is a byte, and it closes no list. -/
theorem exists_byte_of_readValue {node : Node} {after : Cursor}
    (read : readValue (fuel + 1) level c = (node, some after)) :
    ∃ b rest, c.skip.rest = b :: rest ∧ b ≠ 0x5D := by
  rw [readValue] at read
  dsimp only at read
  cases here : c.skip.rest with
  | nil =>
    rw [here] at read
    cases read
  | cons b rest =>
    refine ⟨b, rest, rfl, ?_⟩
    rintro rfl
    rw [here] at read
    cases read

/-- A number is read as it is where it stands alone, and nothing behind it. -/
theorem Cursor.Before.readValue_number (h : c.Before tail c') (ends : Ends tail) {n : Number}
    {start stop : Offset} {after : Cursor} {fuel' level' : Nat}
    (alone : readValue (fuel + 1) level c = (.number (.ok n) start stop, some after)) :
    ∃ start stop behind, readValue (fuel' + 1) level' c' = (.number (.ok n) start stop, some behind)
      ∧ after.Before tail behind := by
  obtain ⟨b, rest, here, numeral⟩ := numeral_of_readValue (congrArg Prod.fst alone)
  have skipped := h.skip ends
  have there : c'.skip.rest = b :: (rest ++ tail) := by
    rw [skipped, here]
    rfl
  rw [readValue_of_numeral here numeral] at alone
  rw [readValue_of_numeral there numeral]
  exact skipped.numberNode ends alone

end

/-! ## Bytes that are read as a value -/

/-- Bytes are read as a value, wherever they stand in a text and whatever follows the value. -/
def ReadAs (bytes : List UInt8) (room : Nat) (j : Json) : Prop :=
  ∀ tail, Ends tail → ∀ fuel level offset, 2 * bytes.length ≤ fuel → level + room ≤ depthLimit →
    ∃ node after, readValue (fuel + 1) level ⟨bytes ++ tail, offset⟩ = (node, some after)
      ∧ after.skip.rest = tail ∧ node.take = .ok j ∧ node.Plain

/-- A number that fills a text is read as it is from any text in which it stands. -/
theorem ReadAs.number {bytes : List UInt8} {n : Number} {start stop : Offset} {after : Cursor}
    {fuel level : Nat} {offset : Offset} (room : Nat)
    (alone : readValue (fuel + 1) level ⟨bytes, offset⟩ = (.number (.ok n) start stop, some after))
    (behind : after.skip.rest = []) : ReadAs bytes room n.toJson := by
  intro tail ends fuel' level' offset' _ _
  have before : Cursor.Before tail ⟨bytes, offset⟩ ⟨bytes ++ tail, offset'⟩ := rfl
  obtain ⟨start', stop', after', read, later⟩ := before.readValue_number ends alone
  refine ⟨_, after', read, ?_, rfl, .number _ _ _⟩
  rw [later.skip ends, behind]
  rfl

/-- Integers of 64 bits, signed or not, are read from their digits. -/
theorem ReadAs.integer (room : Nat) {n : Int} (lower : -(2 : Int) ^ 63 ≤ n)
    (upper : n < (2 : Int) ^ 64) : ReadAs (Text.bytesOf (toString n)) room (.integer n) := by
  obtain ⟨start, stop, after, node, behind⟩ := numberNode_integer lower upper 0
  have alone : readValue 1 0 ⟨Text.bytesOf (toString n), 0⟩
      = (.number (.ok (.integer n)) start stop, some after) := readValue_of_numberNode node
  refine ReadAs.number room alone ?_
  obtain ⟨rest, offset⟩ := after
  obtain rfl : rest = [] := behind
  rfl

/-- A double is read from what is written of it. -/
def Rereads (x : Double) : Prop :=
  parse (Text.bytesOf (x.render Double.jsonStyle)) = .ok (.float x)

/-- A double that is read when it stands alone is read wherever it stands. -/
theorem Rereads.readAs {x : Double} (h : Rereads x) (room : Nat) :
    ReadAs (Text.bytesOf (x.render Double.jsonStyle)) room (.float x) := by
  unfold Rereads at h
  generalize Text.bytesOf (x.render Double.jsonStyle) = bytes at h ⊢
  simp only [parse, readText, bind_eq_ok_iff, pure_eq_ok_iff] at h
  obtain ⟨j, taken, ⟨⟩, nothing, rfl⟩ := h
  unfold Node.ofText at taken nothing
  -- Only a number is taken as a double, and behind a number there is always a place to read on.
  cases read : readValue (2 * bytes.length + 2) 0 ⟨bytes, 0⟩ with
  | mk node after =>
    rw [read] at taken nothing
    cases after with
    | none =>
      cases Node.take_eq_ok_iff.mp taken with
      | float x start stop => exact absurd read readValue_number_ne_none
    | some after =>
      dsimp only at taken nothing
      cases behind : after.skip.rest with
      | nil =>
        rw [behind] at taken
        cases Node.take_eq_ok_iff.mp taken with
        | float x start stop => exact ReadAs.number room read behind
      | cons b rest =>
        rw [behind] at nothing
        cases nothing

/-! ### Texts -/

/-- A text is read from its quotation. -/
theorem ReadAs.string (s : String) (room : Nat) :
    ReadAs (Text.bytesOf (quote s)) room (.string s) := by
  intro tail ends fuel level offset _ _
  obtain ⟨value, behind, scanned, text⟩ :=
    scanString_quote (c := ⟨Text.bytesOf (quote s) ++ tail, offset⟩) rfl
  obtain ⟨rest, bytes⟩ := exists_bytesOf_quote s tail
  -- The first byte is the quotation mark, which makes the reader take what follows for a text.
  rw [bytes] at scanned ⊢
  refine ⟨.string (.ok s) offset behind, ⟨tail, behind⟩, ?_, skip_rest_of_ends ends _, rfl,
    .string _ _ _⟩
  rw [readValue]
  show stringNode ⟨0x22 :: rest, offset⟩ = _
  unfold stringNode
  rw [scanned]
  dsimp only
  rw [text]

/-! ### Words -/

theorem readWord_append (letters rest : List UInt8) (offset : Offset) :
    readWord letters (letters ++ rest) offset = .ok ⟨rest, offset + letters.length⟩ := by
  induction letters generalizing offset with
  | nil => rfl
  | cons letter letters ih =>
    rw [List.cons_append, readWord, if_pos (beq_self_eq_true letter), ih, List.length_cons,
      Nat.add_assoc, Nat.add_comm 1]

/-- A word is read where it stands. -/
theorem readAs_of_word {letters : List UInt8} {room : Nat} {j : Json}
    (node : Offset → Offset → Node) (taken : ∀ start stop, (node start stop).take = .ok j)
    (plain : ∀ start stop, (node start stop).Plain)
    (read : ∀ tail fuel level offset, readValue (fuel + 1) level ⟨letters ++ tail, offset⟩
      = wordNode letters ⟨letters ++ tail, offset⟩ (node offset)) : ReadAs letters room j := by
  intro tail ends fuel level offset _ _
  refine ⟨node offset (offset + letters.length), ⟨tail, offset + letters.length⟩, ?_,
    skip_rest_of_ends ends _, taken _ _, plain _ _⟩
  rw [read]
  unfold wordNode
  rw [readWord_append]

/-- The bytes of the words that stand for values. -/
theorem bytes_of_words :
    "null".toUTF8.toList = [0x6E, 0x75, 0x6C, 0x6C]
      ∧ "true".toUTF8.toList = [0x74, 0x72, 0x75, 0x65]
      ∧ "false".toUTF8.toList = [0x66, 0x61, 0x6C, 0x73, 0x65] := by
  decide +kernel

theorem ReadAs.null (room : Nat) : ReadAs (Text.bytesOf "null") room .null := by
  refine readAs_of_word .null (fun _ _ => rfl) .null fun tail fuel level offset => ?_
  unfold Text.bytesOf
  rw [readValue, bytes_of_words.1]
  rfl

theorem ReadAs.bool (b : Bool) (room : Nat) :
    ReadAs (Text.bytesOf (Json.bool b).render) room (.bool b) := by
  refine readAs_of_word (.bool b) (fun _ _ => rfl) (.bool b) fun tail fuel level offset => ?_
  cases b with
  | true =>
    show readValue _ _ ⟨"true".toUTF8.toList ++ tail, offset⟩
      = wordNode "true".toUTF8.toList ⟨"true".toUTF8.toList ++ tail, offset⟩ _
    rw [readValue, bytes_of_words.2.1]
    rfl
  | false =>
    show readValue _ _ ⟨"false".toUTF8.toList ++ tail, offset⟩
      = wordNode "false".toUTF8.toList ⟨"false".toUTF8.toList ++ tail, offset⟩ _
    rw [readValue, bytes_of_words.2.2]
    rfl

/-! ### Lists -/

section

variable {tail rest : List UInt8} {c : Cursor} {fuel level : Nat} {room : Nat}

theorem readItems_closed (here : c.skip.rest = 0x5D :: tail) (first : Bool) (done : List Node) :
    readItems (fuel + 1) level first c done
      = (done.reverse, .closed (c.skip.offset + 1), some ⟨tail, c.skip.offset + 1⟩) := by
  rw [readItems_succ, here]
  rfl

/-- Behind an opening bracket the items are read, one level deeper. -/
theorem readValue_list (rest : List UInt8) (offset : Offset) :
    readValue (fuel + 1) level ⟨0x5B :: rest, offset⟩
      = (.list (level + 1) (readItems fuel (level + 1) true ⟨rest, offset + 1⟩ []).1
          (readItems fuel (level + 1) true ⟨rest, offset + 1⟩ []).2.1 offset,
        (readItems fuel (level + 1) true ⟨rest, offset + 1⟩ []).2.2) := by
  rw [readValue]
  rfl

theorem itemAt_eq {node : Node} {after : Cursor}
    (read : readValue fuel level c = (node, some after)) (done : List Node) :
    itemAt fuel level done c = readItems fuel level false after (node :: done) := by
  unfold itemAt
  rw [read]

/-- The first item stands behind the bracket. -/
theorem readItems_first {node : Node} {after : Cursor}
    (read : readValue (fuel + 1) level c = (node, some after)) (done : List Node) :
    readItems (fuel + 2) level true c done
      = readItems (fuel + 1) level false after (node :: done) := by
  obtain ⟨b, rest, here, opens⟩ := exists_byte_of_readValue read
  rw [← readValue_skip] at read
  rw [readItems_succ, here]
  split
  · next empty => cases empty
  · next closed =>
    cases closed
    exact absurd rfl opens
  · exact itemAt_eq read done

/-- Each later item stands behind a comma. -/
theorem readItems_comma {node : Node} {after : Cursor} (here : c.skip.rest = 0x2C :: rest)
    (read : readValue (fuel + 1) level ⟨rest, c.skip.offset + 1⟩ = (node, some after))
    (done : List Node) :
    readItems (fuel + 2) level false c done
      = readItems (fuel + 1) level false after (node :: done) := by
  obtain ⟨b, bytes, item, opens⟩ := exists_byte_of_readValue read
  rw [← readValue_skip] at read
  have next : c.skip.next = ⟨rest, c.skip.offset + 1⟩ := by
    unfold Cursor.next
    rw [here]
  rw [readItems_succ, here]
  -- The value that was read shows that neither the end of the text nor a bracket follows the comma.
  show itemBehindComma (fuel + 1) level done c.skip.next.skip = _
  unfold itemBehindComma
  rw [next, item]
  split
  · next empty => cases empty
  · next closed =>
    cases closed
    exact absurd rfl opens
  · exact itemAt_eq read done

/-- The bytes of items behind the first one. -/
def laterItems (items : List Json) : List UInt8 :=
  items.flatMap fun j => 0x2C :: Text.bytesOf j.render

/-- The bytes of items between the brackets. -/
def allItems : List Json → List UInt8
  | [] => []
  | j :: rest => Text.bytesOf j.render ++ laterItems rest

theorem ends_comma (rest : List UInt8) : Ends (0x2C :: rest) := by
  rintro b ⟨⟩
  exact .inl rfl

/-- An item ends where another one or the closing bracket follows. -/
theorem ends_laterItems (items : List Json) (tail : List UInt8) :
    Ends (laterItems items ++ 0x5D :: tail) := by
  cases items with
  | nil =>
    rintro b ⟨⟩
    exact .inr (.inl rfl)
  | cons j rest => exact ends_comma _

/-- Items behind the first one are read up to the closing bracket. -/
theorem readItems_laterItems {items : List Json}
    (each : ∀ j ∈ items, ReadAs (Text.bytesOf j.render) room j) (fits : level + room ≤ depthLimit)
    (here : c.skip.rest = laterItems items ++ 0x5D :: tail)
    (enough : 2 * (laterItems items).length + 1 ≤ fuel) (done : List Node) :
    ∃ nodes stop, readItems fuel level false c done
        = (done.reverse ++ nodes, .closed stop, some ⟨tail, stop⟩)
      ∧ List.Forall₂ (fun node j => node.take = .ok j) nodes items
      ∧ ∀ node ∈ nodes, node.Plain := by
  -- Each item takes two units of fuel, and with its comma it has at least one byte.
  induction items generalizing c fuel done with
  | nil =>
    obtain ⟨fuel, rfl⟩ : ∃ f, fuel = f + 1 := ⟨fuel - 1, by omega⟩
    refine ⟨[], c.skip.offset + 1, ?_, .nil, fun node mem => absurd mem List.not_mem_nil⟩
    rw [readItems_closed here, List.append_nil]
  | cons j items ih =>
    obtain ⟨first, others⟩ := List.forall_mem_cons.mp each
    have split : laterItems (j :: items)
        = 0x2C :: (Text.bytesOf j.render ++ laterItems items) := rfl
    have size : (laterItems (j :: items)).length
        = (Text.bytesOf j.render).length + (laterItems items).length + 1 := by
      rw [split, List.length_cons, List.length_append]
    obtain ⟨fuel, rfl⟩ : ∃ f, fuel = f + 2 := ⟨fuel - 2, by omega⟩
    rw [split, List.cons_append, List.append_assoc] at here
    obtain ⟨node, after, read, behind, taken, plain⟩ :=
      first _ (ends_laterItems items tail) fuel level (c.skip.offset + 1) (by omega) fits
    have later : 2 * (laterItems items).length + 1 ≤ fuel + 1 := by omega
    obtain ⟨nodes, stop, rest, all, plains⟩ := ih others behind later (node :: done)
    refine ⟨node :: nodes, stop, ?_, .cons taken all, List.forall_mem_cons.mpr ⟨plain, plains⟩⟩
    rw [readItems_comma here read, rest, List.reverse_cons, List.append_assoc]
    rfl

theorem renderItems_eq (items : List Json) : renderItems items = items.map render := by
  induction items with
  | nil => rfl
  | cons j rest ih => rw [renderItems, ih, List.map_cons]

/-- Texts with commas between them are the first one and each other one behind a comma. -/
theorem bytesOf_intercalate (text : String) (texts : List String) :
    Text.bytesOf (",".intercalate (text :: texts))
      = Text.bytesOf text ++ texts.flatMap fun t => 0x2C :: Text.bytesOf t := by
  have comma : Text.bytesOf "," = [0x2C] := by
    rw [Text.bytesOf_eq]
    rfl
  induction texts generalizing text with
  | nil => rw [String.intercalate_singleton, List.flatMap_nil, List.append_nil]
  | cons t rest ih =>
    rw [String.intercalate_cons_cons, Text.bytesOf_append, Text.bytesOf_append, ih, comma,
      List.flatMap_cons, List.append_assoc]
    rfl

/-- A list is written as its items between brackets. -/
theorem bytesOf_array (items : List Json) :
    Text.bytesOf (Json.array items).render = 0x5B :: (allItems items ++ [0x5D]) := by
  have between : Text.bytesOf (",".intercalate (items.map render)) = allItems items := by
    cases items with
    | nil =>
      rw [Text.bytesOf_eq]
      rfl
    | cons j rest =>
      rw [List.map_cons, bytesOf_intercalate, List.flatMap_map]
      rfl
  rw [render, renderItems_eq, Text.bytesOf_append, Text.bytesOf_append, Text.bytesOf_eq "[",
    Text.bytesOf_eq "]", between]
  rfl

/-- Items are read up to the closing bracket. -/
theorem readItems_allItems {items : List Json}
    (each : ∀ j ∈ items, ReadAs (Text.bytesOf j.render) room j) (fits : level + room ≤ depthLimit)
    (enough : 2 * (allItems items).length + 2 ≤ fuel) (offset : Offset) :
    ∃ nodes stop, readItems fuel level true ⟨allItems items ++ 0x5D :: tail, offset⟩ []
        = (nodes, .closed stop, some ⟨tail, stop⟩)
      ∧ List.Forall₂ (fun node j => node.take = .ok j) nodes items
      ∧ ∀ node ∈ nodes, node.Plain := by
  obtain ⟨fuel, rfl⟩ : ∃ f, fuel = f + 2 := ⟨fuel - 2, by omega⟩
  cases items with
  | nil =>
    refine ⟨[], _, readItems_closed ?_ true [], .nil, fun node mem => absurd mem List.not_mem_nil⟩
    rfl
  | cons j rest =>
    obtain ⟨first, others⟩ := List.forall_mem_cons.mp each
    rw [allItems, List.length_append] at enough
    obtain ⟨node, after, read, behind, taken, plain⟩ :=
      first _ (ends_laterItems rest tail) fuel level offset (by omega) fits
    have enoughLater : 2 * (laterItems rest).length + 1 ≤ fuel + 1 := by omega
    obtain ⟨nodes, stop, later, all, plains⟩ :=
      readItems_laterItems others fits behind enoughLater [node]
    rw [allItems, List.append_assoc, readItems_first read, later]
    exact ⟨_, _, rfl, .cons taken all, List.forall_mem_cons.mpr ⟨plain, plains⟩⟩

/-- A list of values is read as this list. -/
theorem ReadAs.array {items : List Json}
    (each : ∀ j ∈ items, ReadAs (Text.bytesOf j.render) room j) :
    ReadAs (Text.bytesOf (Json.array items).render) (room + 1) (.array items) := by
  intro tail ends fuel level offset enough fits
  have depth : checkDepth (level + 1) offset = .ok () := checkDepth_eq_ok_iff.mpr (by omega)
  have inside : level + 1 + room ≤ depthLimit := by omega
  rw [bytesOf_array, List.length_cons, List.length_append, List.length_singleton] at enough
  have enoughItems : 2 * (allItems items).length + 2 ≤ fuel := by omega
  obtain ⟨nodes, stop, read, all, plains⟩ :=
    readItems_allItems each inside enoughItems (offset + 1)
  refine ⟨.list (level + 1) nodes (.closed stop) offset, ⟨tail, stop⟩, ?_,
    skip_rest_of_ends ends stop, Node.take_eq_ok_iff.mpr (.list depth rfl all), .list plains⟩
  rw [bytesOf_array, List.cons_append, List.append_assoc, List.singleton_append, readValue_list,
    read]

/-! ### Objects -/

theorem readMembers_closed (here : c.skip.rest = 0x7D :: tail) (first : Bool) (done : List Member) :
    readMembers (fuel + 1) level first c done
      = (done.reverse, .closed (c.skip.offset + 1), some ⟨tail, c.skip.offset + 1⟩) := by
  rw [readMembers_succ, here]
  rfl

/-- Behind an opening brace the members are read, one level deeper. -/
theorem readValue_object (rest : List UInt8) (offset : Offset) :
    readValue (fuel + 1) level ⟨0x7B :: rest, offset⟩
      = (.object (level + 1) (readMembers fuel (level + 1) true ⟨rest, offset + 1⟩ []).1
          (readMembers fuel (level + 1) true ⟨rest, offset + 1⟩ []).2.1 offset,
        (readMembers fuel (level + 1) true ⟨rest, offset + 1⟩ []).2.2) := by
  rw [readValue]
  rfl

/-- A value is read behind a colon. -/
theorem valueBehind_colon {key : Except Error String} {node : Node} {after : Cursor}
    (here : c.rest = 0x3A :: rest)
    (read : readValue fuel level ⟨rest, c.offset + 1⟩ = (node, some after)) (done : List Member) :
    valueBehind fuel level done key c
      = readMembers fuel level false after ((key, c.refused, node, after.refused) :: done) := by
  obtain ⟨_, offset⟩ := c
  obtain rfl : _ = 0x3A :: rest := here
  have colon : Cursor.skip ⟨0x3A :: rest, offset⟩ = ⟨0x3A :: rest, offset⟩ :=
    skipBlank_cons rfl rest offset
  have next : Cursor.next ⟨0x3A :: rest, offset⟩ = ⟨rest, offset + 1⟩ := rfl
  unfold valueBehind
  rw [colon]
  dsimp only
  rw [next, read]
  rfl

/-- A member is read with the value behind its key. -/
theorem memberAt_eq {key : String} (here : c.rest = Text.bytesOf (quote key) ++ 0x3A :: rest) :
    ∃ offset refused, ∀ node after, readValue fuel level ⟨rest, offset⟩ = (node, some after) →
      ∀ done, memberAt fuel level done c
        = readMembers fuel level false after ((.ok key, refused, node, after.refused) :: done) := by
  obtain ⟨value, behind, scanned, text⟩ := scanString_quote here
  refine ⟨behind + 1, Cursor.refused ⟨0x3A :: rest, behind⟩, fun node after read done => ?_⟩
  unfold memberAt
  rw [scanned]
  dsimp only
  rw [text]
  exact valueBehind_colon rfl read done

theorem skip_rest_of_quote (key : String) (rest : List UInt8) (offset : Offset) :
    (Cursor.skip ⟨Text.bytesOf (quote key) ++ rest, offset⟩).rest
      = Text.bytesOf (quote key) ++ rest := by
  obtain ⟨bytes, quoted⟩ := exists_bytesOf_quote key rest
  rw [quoted]
  rfl

/-- The first member stands behind the brace. -/
theorem readMembers_first {key : String}
    (here : c.skip.rest = Text.bytesOf (quote key) ++ 0x3A :: rest) :
    ∃ offset refused, ∀ node after, readValue fuel level ⟨rest, offset⟩ = (node, some after) →
      ∀ done, readMembers (fuel + 1) level true c done
        = readMembers fuel level false after ((.ok key, refused, node, after.refused) :: done) := by
  obtain ⟨offset, refused, member⟩ := memberAt_eq here
  obtain ⟨bytes, quoted⟩ := exists_bytesOf_quote key (0x3A :: rest)
  refine ⟨offset, refused, fun node after read done => ?_⟩
  rw [← member node after read, readMembers_succ, here, quoted]
  rfl

/-- Each later member stands behind a comma. -/
theorem readMembers_comma {key : String}
    (here : c.skip.rest = 0x2C :: (Text.bytesOf (quote key) ++ 0x3A :: rest)) :
    ∃ offset refused, ∀ node after, readValue fuel level ⟨rest, offset⟩ = (node, some after) →
      ∀ done, readMembers (fuel + 1) level false c done
        = readMembers fuel level false after ((.ok key, refused, node, after.refused) :: done) := by
  obtain ⟨bytes, quoted⟩ := exists_bytesOf_quote key (0x3A :: rest)
  have next : c.skip.next = ⟨Text.bytesOf (quote key) ++ 0x3A :: rest, c.skip.offset + 1⟩ := by
    unfold Cursor.next
    rw [here]
  have solid : c.skip.next.skip = c.skip.next := by
    rw [next, quoted]
    rfl
  obtain ⟨offset, refused, member⟩ := memberAt_eq (congrArg Cursor.rest next)
  refine ⟨offset, refused, fun node after read done => ?_⟩
  rw [← member node after read, readMembers_succ, here]
  show memberBehindComma fuel level done c.skip.next.skip = _
  unfold memberBehindComma
  rw [solid, next, quoted]
  rfl

/-- The bytes of a member. -/
def memberBytes (m : String × Json) : List UInt8 :=
  Text.bytesOf (quote m.1) ++ 0x3A :: Text.bytesOf m.2.render

/-- The bytes of members behind the first one. -/
def laterMembers (ms : Members) : List UInt8 :=
  ms.flatMap fun m => 0x2C :: memberBytes m

/-- The bytes of members between the braces. -/
def allMembers : Members → List UInt8
  | [] => []
  | m :: rest => memberBytes m ++ laterMembers rest

/-- A member ends where another one or the closing brace follows. -/
theorem ends_laterMembers (ms : Members) (tail : List UInt8) :
    Ends (laterMembers ms ++ 0x7D :: tail) := by
  cases ms with
  | nil =>
    rintro b ⟨⟩
    exact .inr (.inr rfl)
  | cons m rest => exact ends_comma _

/-- Members behind the first one are read up to the closing bracket. -/
theorem readMembers_laterMembers {ms : Members}
    (each : ∀ m ∈ ms, ReadAs (Text.bytesOf m.2.render) room m.2) (fits : level + room ≤ depthLimit)
    (here : c.skip.rest = laterMembers ms ++ 0x7D :: tail)
    (enough : 2 * (laterMembers ms).length + 1 ≤ fuel) (done : List Member) :
    ∃ members stop, readMembers fuel level false c done
        = (done.reverse ++ members, .closed stop, some ⟨tail, stop⟩)
      ∧ List.Forall₂ Member.Holds members ms ∧ ∀ m ∈ members, m.2.2.1.Plain := by
  -- As for items; the key and the colon add bytes but take no fuel of their own.
  induction ms generalizing c fuel done with
  | nil =>
    obtain ⟨fuel, rfl⟩ : ∃ f, fuel = f + 1 := ⟨fuel - 1, by omega⟩
    refine ⟨[], c.skip.offset + 1, ?_, .nil, fun m mem => absurd mem List.not_mem_nil⟩
    rw [readMembers_closed here, List.append_nil]
  | cons m ms ih =>
    obtain ⟨first, others⟩ := List.forall_mem_cons.mp each
    have split : laterMembers (m :: ms) ++ 0x7D :: tail
        = 0x2C :: (Text.bytesOf (quote m.1)
            ++ 0x3A :: (Text.bytesOf m.2.render ++ (laterMembers ms ++ 0x7D :: tail))) := by
      simp [laterMembers, memberBytes]
    have size : (laterMembers (m :: ms)).length = (Text.bytesOf (quote m.1)).length
        + (Text.bytesOf m.2.render).length + (laterMembers ms).length + 2 := by
      simp [laterMembers, memberBytes]
      omega
    obtain ⟨fuel, rfl⟩ : ∃ f, fuel = f + 2 := ⟨fuel - 2, by omega⟩
    rw [split] at here
    obtain ⟨offset, refused, member⟩ := readMembers_comma here
    obtain ⟨node, after, read, behind, taken, plain⟩ :=
      first _ (ends_laterMembers ms tail) fuel level offset (by omega) fits
    have enoughLater : 2 * (laterMembers ms).length + 1 ≤ fuel + 1 := by omega
    obtain ⟨members, stop, rest, all, plains⟩ :=
      ih others behind enoughLater ((.ok m.1, refused, node, after.refused) :: done)
    refine ⟨(.ok m.1, refused, node, after.refused) :: members, stop, ?_,
      .cons ⟨rfl, taken⟩ all, List.forall_mem_cons.mpr ⟨plain, plains⟩⟩
    rw [member node after read, rest, List.reverse_cons, List.append_assoc]
    rfl

theorem renderMembers_eq (ms : Members) :
    renderMembers ms = ms.map fun m => quote m.1 ++ ":" ++ m.2.render := by
  induction ms with
  | nil => rfl
  | cons m rest ih => rw [renderMembers, ih, List.map_cons]

theorem bytesOf_member (m : String × Json) :
    Text.bytesOf (quote m.1 ++ ":" ++ m.2.render) = memberBytes m := by
  rw [Text.bytesOf_append, Text.bytesOf_append, Text.bytesOf_eq ":", List.append_assoc]
  rfl

/-- An object is written as its members between braces. -/
theorem bytesOf_object (ms : Members) :
    Text.bytesOf (Json.object ms).render = 0x7B :: (allMembers ms ++ [0x7D]) := by
  have between : Text.bytesOf (",".intercalate
      (ms.map fun m => quote m.1 ++ ":" ++ m.2.render)) = allMembers ms := by
    cases ms with
    | nil =>
      rw [Text.bytesOf_eq]
      rfl
    | cons m rest =>
      rw [List.map_cons, bytesOf_intercalate, List.flatMap_map, bytesOf_member]
      simp only [bytesOf_member]
      rfl
  rw [render, renderMembers_eq, Text.bytesOf_append, Text.bytesOf_append,
    Text.bytesOf_eq "\x7b", Text.bytesOf_eq "\x7d", between]
  rfl

/-- Members are read up to the closing brace. -/
theorem readMembers_allMembers {ms : Members}
    (each : ∀ m ∈ ms, ReadAs (Text.bytesOf m.2.render) room m.2) (fits : level + room ≤ depthLimit)
    (enough : 2 * (allMembers ms).length + 2 ≤ fuel) (offset : Offset) :
    ∃ members stop, readMembers fuel level true ⟨allMembers ms ++ 0x7D :: tail, offset⟩ []
        = (members, .closed stop, some ⟨tail, stop⟩)
      ∧ List.Forall₂ Member.Holds members ms ∧ ∀ m ∈ members, m.2.2.1.Plain := by
  obtain ⟨fuel, rfl⟩ : ∃ f, fuel = f + 2 := ⟨fuel - 2, by omega⟩
  cases ms with
  | nil =>
    refine ⟨[], _, readMembers_closed ?_ true [], .nil, fun m mem => absurd mem List.not_mem_nil⟩
    rfl
  | cons m rest =>
    obtain ⟨first, others⟩ := List.forall_mem_cons.mp each
    have split : allMembers (m :: rest) ++ 0x7D :: tail
        = Text.bytesOf (quote m.1)
            ++ 0x3A :: (Text.bytesOf m.2.render ++ (laterMembers rest ++ 0x7D :: tail)) := by
      simp [allMembers, memberBytes]
    have size : (allMembers (m :: rest)).length = (Text.bytesOf (quote m.1)).length
        + (Text.bytesOf m.2.render).length + (laterMembers rest).length + 1 := by
      simp [allMembers, memberBytes]
      omega
    have here := skip_rest_of_quote m.1
      (0x3A :: (Text.bytesOf m.2.render ++ (laterMembers rest ++ 0x7D :: tail))) offset
    -- the first member has no comma before it, unlike those behind it
    obtain ⟨start, refused, member⟩ := readMembers_first here
    obtain ⟨node, after, read, behind, taken, plain⟩ :=
      first _ (ends_laterMembers rest tail) fuel level start (by omega) fits
    have enoughLater : 2 * (laterMembers rest).length + 1 ≤ fuel + 1 := by omega
    obtain ⟨members, stop, later, all, plains⟩ := readMembers_laterMembers others fits behind
      enoughLater [(.ok m.1, refused, node, after.refused)]
    rw [split, member node after read, later]
    exact ⟨_, _, rfl, .cons ⟨rfl, taken⟩ all, List.forall_mem_cons.mpr ⟨plain, plains⟩⟩

/-- The keys of members in order are told apart, and so are those of a tree that holds them. -/
theorem nodup_keys_of_holds {members : List Member} {ms : Members}
    (held : List.Forall₂ Member.Holds members ms) (ordered : ms.Ascending) :
    (members.map Prod.fst).Nodup := by
  rw [Member.map_fst_of_holds held]
  exact ordered.nodup.map fun _ _ => Except.ok.inj

/-- Members in order are read as an object with these members. -/
theorem ReadAs.object {ms : Members} (ordered : ms.Ascending)
    (each : ∀ m ∈ ms, ReadAs (Text.bytesOf m.2.render) room m.2) :
    ReadAs (Text.bytesOf (Json.object ms).render) (room + 1) (.object ms) := by
  intro tail ends fuel level offset enough fits
  have depth : checkDepth (level + 1) offset = .ok () := checkDepth_eq_ok_iff.mpr (by omega)
  have inside : level + 1 + room ≤ depthLimit := by omega
  rw [bytesOf_object, List.length_cons, List.length_append, List.length_singleton] at enough
  have enoughMembers : 2 * (allMembers ms).length + 2 ≤ fuel := by omega
  obtain ⟨members, stop, read, all, plains⟩ :=
    readMembers_allMembers each inside enoughMembers (offset + 1)
  -- Members that are read are put in one by one; in order, that changes nothing.
  have spells : Node.Spells (.object (level + 1) members (.closed stop) offset)
      (.object (Members.ofList ms)) := .object depth rfl all
  rw [ordered.ofList_eq] at spells
  refine ⟨.object (level + 1) members (.closed stop) offset, ⟨tail, stop⟩, ?_,
    skip_rest_of_ends ends stop, Node.take_eq_ok_iff.mpr spells,
    .object (nodup_keys_of_holds all ordered) plains⟩
  rw [bytesOf_object, List.cons_append, List.append_assoc, List.singleton_append,
    readValue_object, read]

end

/-! ## Values -/

mutual

/-- The doubles within a value. -/
def floats : Json → List Double
  | .float x => [x]
  | .array items => floatsOfItems items
  | .object members => floatsOfMembers members
  | _ => []

/-- The doubles within values. -/
def floatsOfItems : List Json → List Double
  | [] => []
  | j :: rest => j.floats ++ floatsOfItems rest

/-- The doubles within the values of members. -/
def floatsOfMembers : List (String × Json) → List Double
  | [] => []
  | (_, j) :: rest => j.floats ++ floatsOfMembers rest

end

/-- The doubles within items are those of the items, one after the other. -/
theorem floatsOfItems_eq (items : List Json) : floatsOfItems items = items.flatMap floats := by
  induction items with
  | nil => rfl
  | cons j rest ih => rw [floatsOfItems, ih, List.flatMap_cons]

theorem floatsOfMembers_eq (ms : Members) :
    floatsOfMembers ms = ms.flatMap fun m => m.2.floats := by
  induction ms with
  | nil => rfl
  | cons m rest ih => rw [floatsOfMembers, ih, List.flatMap_cons]

/-- What is written of a value is read as this value, if its doubles are. -/
theorem Sound.readAs {room : Nat} {j : Json} (h : Sound room j)
    (rereads : ∀ x ∈ j.floats, x.isInfinite = false → Rereads x) :
    ReadAs (Text.bytesOf j.render) room j := by
  -- One case for each kind of value; the doubles of a list or an object are those of its parts.
  induction h with
  | null room => exact ReadAs.null room
  | bool room b => exact ReadAs.bool b room
  | integer room lower upper => exact ReadAs.integer room lower upper
  | float room finite => exact (rereads _ List.mem_cons_self finite).readAs room
  | string room s => exact ReadAs.string s room
  | array within ih =>
    refine ReadAs.array fun j mem => ih j mem fun x among => rereads x ?_
    rw [floats, floatsOfItems_eq]
    exact List.mem_flatMap.mpr ⟨j, mem, among⟩
  | object ordered within ih =>
    refine ReadAs.object ordered fun m mem => ih m mem fun x among => rereads x ?_
    rw [floats, floatsOfMembers_eq]
    exact List.mem_flatMap.mpr ⟨m, mem, among⟩

/-- A value that a text can spell is read from what is written of it, with no key given twice. -/
theorem Sound.parse_render {j : Json} (h : Sound depthLimit j)
    (rereads : ∀ x ∈ j.floats, x.isInfinite = false → Rereads x) :
    parse (Text.bytesOf j.render) = .ok j ∧ (Node.ofText (Text.bytesOf j.render)).1.Plain := by
  have nothing : Ends [] := fun b none => nomatch none
  -- Nothing follows the value, and the reader starts with more fuel than its bytes take.
  obtain ⟨node, after, read, behind, taken, plain⟩ := h.readAs rereads [] nothing
    (2 * (Text.bytesOf j.render).length + 1) 0 0 (by omega) (by omega)
  rw [List.append_nil] at read
  have tree : Node.ofText (Text.bytesOf j.render) = (node, .ok ()) := by
    unfold Node.ofText
    rw [read]
    dsimp only
    rw [behind]
  refine ⟨?_, tree ▸ plain⟩
  unfold parse readText
  rw [tree]
  show node.take >>= _ = _
  rw [taken]
  rfl

/-- What such a value means is read from what is written of it. -/
theorem Reads.readText_render {α : Type} {read : Node → Except Error α} {means : Json → α → Prop}
    (h : Reads read means) {j : Json} {a : α} (sound : Sound depthLimit j)
    (rereads : ∀ x ∈ j.floats, x.isInfinite = false → Rereads x) (meant : means j a) :
    readText read (Text.bytesOf j.render) = .ok a := by
  obtain ⟨written, plain⟩ := sound.parse_render rereads
  exact h.readText_eq_ok plain written meant

end InferenceGateway.Json
