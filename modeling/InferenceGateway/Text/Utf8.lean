/-!
# UTF-8

Texts as bytes and back. Reading is either strict, where one ill-formed byte refuses the whole,
or lossy, where each maximal ill-formed piece becomes one U+FFFD.

* `bytesOf`: the UTF-8 bytes of a text.
* `decode?`: the text that bytes stand for, if they are well formed.
* `decodeLossy`: a text for any bytes.
* `cutAt`: the longest prefix of whole characters within a number of bytes.
-/

namespace InferenceGateway.Text

/-- The UTF-8 bytes of a text. -/
def bytesOf (s : String) : List UInt8 :=
  s.toUTF8.toList

/-- What stands at the front of a sequence of bytes. -/
inductive Utf8Head where
  /-- A whole character of `length` bytes. -/
  | scalar (c : Char) (length : Nat)
  /-- A maximal ill-formed piece of `length` bytes, at least one. -/
  | broken (length : Nat)

/-- Bytes of the form `10xxxxxx`, which continue a character. -/
def isContinuation (b : UInt8) : Bool :=
  0x80 ≤ b && b ≤ 0xBF

/-- The six payload bits of a continuation byte. -/
def payload (b : UInt8) : Nat :=
  b.toNat % 64

/--
The range of the second byte of a multi-byte character, by its first. The narrow ranges exclude
overlong forms, surrogates and code points past U+10FFFF.
-/
def secondRange (first : UInt8) : UInt8 × UInt8 :=
  if first == 0xE0 then (0xA0, 0xBF)
  else if first == 0xED then (0x80, 0x9F)
  else if first == 0xF0 then (0x90, 0xBF)
  else if first == 0xF4 then (0x80, 0x8F)
  else (0x80, 0xBF)

/-- How many bytes a character with this first byte has; `0` for a byte that starts none. -/
def lengthByFirst (first : UInt8) : Nat :=
  if first < 0x80 then 1
  else if first < 0xC2 then 0
  else if first < 0xE0 then 2
  else if first < 0xF0 then 3
  else if first < 0xF5 then 4
  else 0

/-- Looks at the first character, or the first ill-formed piece, of non-empty bytes. -/
def head (first : UInt8) (rest : List UInt8) : Utf8Head :=
  let inSecond (b : UInt8) : Bool := (secondRange first).1 ≤ b && b ≤ (secondRange first).2
  match lengthByFirst first, rest with
  | 1, _ => .scalar (Char.ofNat first.toNat) 1
  | 2, b :: _ =>
    if isContinuation b then .scalar (Char.ofNat ((first.toNat % 32) * 64 + payload b)) 2
    else .broken 1
  | 3, [b] => if inSecond b then .broken 2 else .broken 1
  | 3, b :: c :: _ =>
    if !inSecond b then .broken 1
    else if !isContinuation c then .broken 2
    else .scalar (Char.ofNat ((first.toNat % 16) * 4096 + payload b * 64 + payload c)) 3
  | 4, [b] => if inSecond b then .broken 2 else .broken 1
  | 4, [b, c] =>
    if !inSecond b then .broken 1 else if isContinuation c then .broken 3 else .broken 2
  | 4, b :: c :: d :: _ =>
    if !inSecond b then .broken 1
    else if !isContinuation c then .broken 2
    else if !isContinuation d then .broken 3
    else
      .scalar (Char.ofNat ((first.toNat % 8) * 262144 + payload b * 4096 + payload c * 64
        + payload d)) 4
  | _, _ => .broken 1

/-- Decodes with at most `fuel` pieces; `none` in the result marks an ill-formed piece. -/
def piecesWithin : Nat → List UInt8 → List (Option Char) → List (Option Char)
  | 0, _, done => done.reverse
  | _, [], done => done.reverse
  | fuel + 1, first :: rest, done =>
    match head first rest with
    | .scalar c length => piecesWithin fuel (rest.drop (length - 1)) (some c :: done)
    | .broken length => piecesWithin fuel (rest.drop (length - 1)) (none :: done)

/-- The characters of a sequence of bytes, with `none` for each maximal ill-formed piece. -/
def pieces (bytes : List UInt8) : List (Option Char) :=
  piecesWithin bytes.length bytes []

/-- The text that well-formed bytes stand for. -/
def decode? (bytes : List UInt8) : Option String :=
  ((pieces bytes).mapM id).map String.ofList

/-- The text of any bytes: each maximal ill-formed piece is read as U+FFFD. -/
def decodeLossy (bytes : List UInt8) : String :=
  String.ofList ((pieces bytes).map (·.getD (Char.ofNat 0xFFFD)))

/-- The UTF-8 bytes of one code point below U+110000, surrogates included. -/
def bytesOfCodePoint (n : Nat) : List UInt8 :=
  if n < 0x80 then [UInt8.ofNat n]
  else if n < 0x800 then [UInt8.ofNat (0xC0 + n / 64), UInt8.ofNat (0x80 + n % 64)]
  else if n < 0x10000 then
    [UInt8.ofNat (0xE0 + n / 4096), UInt8.ofNat (0x80 + n / 64 % 64), UInt8.ofNat (0x80 + n % 64)]
  else
    [UInt8.ofNat (0xF0 + n / 262144), UInt8.ofNat (0x80 + n / 4096 % 64),
     UInt8.ofNat (0x80 + n / 64 % 64), UInt8.ofNat (0x80 + n % 64)]

/-- The characters that fit, from the left, into `room` bytes. -/
def fitting : Nat → List Char → List Char
  | _, [] => []
  | room, c :: rest =>
    if c.utf8Size ≤ room then c :: fitting (room - c.utf8Size) rest else []

/-- The longest prefix of whole characters with at most `room` bytes. -/
def cutAt (room : Nat) (s : String) : String :=
  String.ofList (fitting room s.toList)

end InferenceGateway.Text
