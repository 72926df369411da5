import InferenceGateway.Json.Node

/-!
# Numbers in JSON text

An integer that fits 64 bits, signed or not, stays an integer. Every other number becomes a
double: the digits are taken as a significand as far as it fits 64 bits, the rest of the digits
moves the decimal exponent, and the significand is then multiplied or divided by the power of ten
in double arithmetic, so the result may miss the nearest double by the last bit. `-0` is a double.
-/

namespace InferenceGateway.Json

/-- Bytes still to be read, and the offset of the first of them. -/
structure Cursor where
  rest : List UInt8
  offset : Offset

/-- Moves behind the next byte. -/
def Cursor.next (c : Cursor) : Cursor :=
  match c.rest with
  | [] => c
  | _ :: rest => { rest, offset := c.offset + 1 }

/-- The place named when the next byte is refused: behind it, or the end of the text. -/
def Cursor.peeked (c : Cursor) : Offset :=
  match c.rest with
  | [] => c.offset
  | _ :: _ => c.offset + 1

/-- Whether a byte is an ASCII digit. -/
def isDigit (b : UInt8) : Bool :=
  0x30 ≤ b && b ≤ 0x39

/-- The value of an ASCII digit. -/
def digitValue (b : UInt8) : Nat :=
  b.toNat - 0x30

/-- The digits at the front, and what follows them. -/
def Cursor.digits (c : Cursor) : List Nat × Cursor :=
  let ds := c.rest.takeWhile isDigit
  (ds.map digitValue, { rest := c.rest.drop ds.length, offset := c.offset + ds.length })

/-- The next byte, with `0` at the end of the text. -/
def Cursor.front (c : Cursor) : UInt8 :=
  c.rest.head?.getD 0

/-- Numbers below this bound fit a significand. -/
def significandBound : Nat := Nat.pow 2 64

/-- Appends digits to a significand as far as it stays in bounds; also counts the digits used. -/
def extend (significand : Nat) : List Nat → Nat × Nat
  | [] => (significand, 0)
  | d :: rest =>
    let next := significand * 10 + d
    if next < significandBound then
      let (s, used) := extend next rest
      (s, used + 1)
    else (significand, 0)

/-- The greatest power of ten that is a double. -/
def greatestPower : Nat := 308

/-- A power of ten as a double. -/
def powerOfTen (n : Nat) : Double :=
  Double.ofNat (Nat.pow 10 n)

/--
`significand · 10 ^ exponent` in double arithmetic, or nothing if it is too large. An exponent
below the least power is applied in several divisions; `fuel` bounds their number, and two
divisions by the greatest power make every significand zero.
-/
def scale (fuel : Nat) (f : Double) (exponent : Int) : Option Double :=
  if exponent.natAbs ≤ greatestPower then
    if 0 ≤ exponent then
      let product := f.mul (powerOfTen exponent.natAbs)
      if product.isInfinite then none else some product
    else some (f.div (powerOfTen exponent.natAbs))
  else if f.isZero then some f
  else if 0 ≤ exponent then none
  else
    match fuel with
    | 0 => some (Double.zero false)
    | fuel + 1 => scale fuel (f.div (powerOfTen greatestPower)) (exponent + greatestPower)

/-- A number from its digits; `stop` is the place named when it is too large. -/
def assemble (negative : Bool) (significand : Nat) (exponent : Int) (stop : Offset) :
    Except Error Number :=
  match scale 4 (Double.ofNat significand) exponent with
  | some x => .ok (.float (if negative then x.neg else x))
  | none => .error (Cause.numberOutOfRange.at stop)

/-- The least and the greatest exponents that are told apart. -/
def exponentBound : Nat := Nat.pow 2 31 - 1

/-- Digits of an exponent up to the one with which it leaves its bounds. -/
def exponentDigits (value : Nat) : List Nat → Nat × Nat × Bool
  | [] => (value, 0, false)
  | d :: rest =>
    if exponentBound < value * 10 + d then (value, 1, true)
    else
      let (v, used, beyond) := exponentDigits (value * 10 + d) rest
      (v, used + 1, beyond)

/-- Reads an exponent from its letter on. -/
def readExponent (negative : Bool) (significand : Nat) (start : Int) (c : Cursor) :
    Except Error Number :=
  let c := c.next
  let (down, c) :=
    if c.front == 0x2B then (false, c.next)
    else if c.front == 0x2D then (true, c.next)
    else (false, c)
  match c.rest with
  | [] => .error (Cause.endInValue.at c.offset)
  | b :: _ =>
    if !isDigit b then .error (Cause.invalidNumber.at (c.offset + 1))
    else
      let (ds, after) := c.digits
      let (value, used, beyond) := exponentDigits 0 ds
      if beyond then
        if significand != 0 && !down then
          .error (Cause.numberOutOfRange.at (c.offset + used))
        else .ok (.float (Double.zero negative))
      else
        assemble negative significand (if down then start - value else start + value) after.offset

/-- Reads a fraction from its point on. -/
def readFraction (negative : Bool) (significand : Nat) (start : Int) (c : Cursor) :
    Except Error Number :=
  let c := c.next
  let (ds, after) := c.digits
  match ds with
  | [] =>
    match c.rest with
    | [] => .error (Cause.endInValue.at c.offset)
    | _ :: _ => .error (Cause.invalidNumber.at (c.offset + 1))
  | _ :: _ =>
    let (significand, used) := extend significand ds
    let exponent := start - used
    if after.front == 0x65 || after.front == 0x45 then
      readExponent negative significand exponent after
    else assemble negative significand exponent after.offset

/-- Takes a number whose sign, if any, has been read. -/
def readNumber (negative : Bool) (c : Cursor) : Except Error Number :=
  match c.rest with
  | [] => .error (Cause.endInValue.at c.offset)
  | b :: _ =>
    if !isDigit b then .error (Cause.invalidNumber.at (c.offset + 1))
    else
      let (ds, after) :=
        if b == 0x30 then ([0], c.next) else c.digits
      if b == 0x30 && isDigit after.front then .error (Cause.invalidNumber.at after.peeked)
      else
        let (significand, used) := extend 0 ds
        let exponent : Int := ds.length - used
        if after.front == 0x2E then readFraction negative significand exponent after
        else if after.front == 0x65 || after.front == 0x45 then
          readExponent negative significand exponent after
        else if used < ds.length then assemble negative significand exponent after.offset
        else if !negative then .ok (.integer significand)
        else if significand == 0 || Nat.pow 2 63 < significand then
          .ok (.float (Double.ofNat significand).neg)
        else .ok (.integer (-significand))

/-- Passes beyond an exponent from its letter on. -/
def passExponent (c : Cursor) : Except Error Cursor :=
  let c := c.next
  let c := if c.front == 0x2B || c.front == 0x2D then c.next else c
  if isDigit c.front then .ok c.digits.2
  else .error (Cause.invalidNumber.at c.peeked)

/-- Passes beyond a number whose sign, if any, has been read; the result stands behind it. -/
def passNumber (c : Cursor) : Except Error Cursor :=
  if !isDigit c.front then .error (Cause.invalidNumber.at c.peeked)
  else
    let after := if c.front == 0x30 then c.next else c.digits.2
    if c.front == 0x30 && isDigit after.front then .error (Cause.invalidNumber.at after.peeked)
    else if after.front == 0x2E then
      let (ds, behind) := after.next.digits
      if ds.isEmpty then .error (Cause.invalidNumber.at after.next.peeked)
      else if behind.front == 0x65 || behind.front == 0x45 then passExponent behind
      else .ok behind
    else if after.front == 0x65 || after.front == 0x45 then passExponent after
    else .ok after

end InferenceGateway.Json
