/-!
# Binary floating point by exact arithmetic

A double is kept as its 64 bits, so equality of doubles is equality of values held (`-0.0` and
`0.0` differ) and every operation reduces in the kernel. All arithmetic goes through one
function, `Double.ofQuotient`, which rounds an exact quotient of naturals to the nearest double,
ties to the even one; an operation is then its exact result rounded once.

* `Double.parts`: sign, significand and binary exponent of a finite double.
* `Double.ofQuotient`: the nearest double of a quotient, infinite when it is too large.
* `Double.ofNat`, `Double.ofInt`, `Double.mul`, `Double.div`, `Double.add`.
-/

namespace InferenceGateway

/-- A double-precision floating-point number, by its bits. -/
structure Double where
  /-- Sign, eleven exponent bits and fifty-two fraction bits, from the top. -/
  bits : UInt64
  deriving DecidableEq, Repr, Inhabited

/-- A finite double as `±significand · 2 ^ exponent`. -/
structure Double.Parts where
  negative : Bool
  significand : Nat
  exponent : Int

namespace Double

/-- The number of fraction bits. -/
def fractionBits : Nat := 52

/-- The exponent of the last place of the smallest doubles. -/
def leastExponent : Int := -1074

/-- The biased exponent of infinities. -/
def infiniteExponent : Nat := 2047

/-- The sign bit. -/
def isNegative (x : Double) : Bool :=
  x.bits.toNat / Nat.pow 2 63 == 1

/-- The biased exponent. -/
def biasedExponent (x : Double) : Nat :=
  x.bits.toNat / Nat.pow 2 fractionBits % 2048

/-- The fraction bits. -/
def fraction (x : Double) : Nat :=
  x.bits.toNat % Nat.pow 2 fractionBits

/-- Infinite, or no number at all. -/
def isInfinite (x : Double) : Bool :=
  x.biasedExponent == infiniteExponent

/-- Zero of either sign. -/
def isZero (x : Double) : Bool :=
  x.bits.toNat % Nat.pow 2 63 == 0

/-- Decodes a finite double. -/
def parts (x : Double) : Parts where
  negative := x.isNegative
  significand := if x.biasedExponent == 0 then x.fraction else Nat.pow 2 fractionBits + x.fraction
  exponent := (if x.biasedExponent == 0 then 1 else (x.biasedExponent : Int)) - 1075

/-- Packs sign, biased exponent and fraction. -/
def pack (negative : Bool) (biased fraction : Nat) : Double where
  bits := UInt64.ofNat ((if negative then Nat.pow 2 63 else 0) + biased * Nat.pow 2 fractionBits + fraction)

/-- Zero of the given sign. -/
def zero (negative : Bool) : Double := pack negative 0 0

/-- Infinity of the given sign. -/
def infinity (negative : Bool) : Double := pack negative infiniteExponent 0

/-- Changes the sign. -/
def neg (x : Double) : Double where
  bits := UInt64.ofNat ((x.bits.toNat + Nat.pow 2 63) % Nat.pow 2 64)

/-- `num / den` rounded to a natural number, a tie going to the even neighbour. -/
def roundEven (num den : Nat) : Nat :=
  let q := num / den
  let twice := 2 * (num % den)
  if twice < den then q else if den < twice then q + 1 else q + q % 2

/-- `num / den · 2 ^ (-e)` as a quotient of naturals. -/
def scaled (num den : Nat) (e : Int) : Nat × Nat :=
  if e < 0 then (num * Nat.pow 2 e.natAbs, den) else (num, den * Nat.pow 2 e.natAbs)

/--
The exponent at which the quotient has a significand of 53 bits, or the least exponent for
smaller quotients. The first guess from the two bit lengths is at most one too small.
-/
def exponentOf (num den : Nat) : Int :=
  let guess : Int := (Nat.log2 num : Int) - (Nat.log2 den : Int) - 53
  let (n, d) := scaled num den guess
  let e := if n / d < Nat.pow 2 53 then guess else guess + 1
  max e leastExponent

/-- The double nearest to `±num / den`, ties to the even significand; `den` is not zero. -/
def ofQuotient (negative : Bool) (num den : Nat) : Double :=
  if num == 0 then zero negative
  else
    let e := exponentOf num den
    let (n, d) := scaled num den e
    let m := roundEven n d
    let (m, e) := if m == Nat.pow 2 53 then (Nat.pow 2 52, e + 1) else (m, e)
    if m < Nat.pow 2 52 then pack negative 0 m
    else
      let biased := (e + 1075).toNat
      if infiniteExponent ≤ biased then infinity negative
      else pack negative biased (m - Nat.pow 2 52)

/-- The magnitude of a finite double as a quotient of naturals. -/
def magnitude (x : Double) : Nat × Nat :=
  let p := x.parts
  if p.exponent < 0 then (p.significand, Nat.pow 2 p.exponent.natAbs)
  else (p.significand * Nat.pow 2 p.exponent.natAbs, 1)

/-- The nearest double of a natural number. -/
def ofNat (n : Nat) : Double := ofQuotient false n 1

/-- The nearest double of an integer. -/
def ofInt (n : Int) : Double := ofQuotient (n < 0) n.natAbs 1

/-- The rounded product of finite doubles. -/
def mul (x y : Double) : Double :=
  let (a, b) := x.magnitude
  let (c, d) := y.magnitude
  ofQuotient (x.isNegative != y.isNegative) (a * c) (b * d)

/-- The rounded quotient of finite doubles; the divisor is not zero. -/
def div (x y : Double) : Double :=
  let (a, b) := x.magnitude
  let (c, d) := y.magnitude
  ofQuotient (x.isNegative != y.isNegative) (a * d) (b * c)

/-- The rounded sum of two finite doubles that are not negative. -/
def addMagnitudes (x y : Double) : Double :=
  let (a, b) := x.magnitude
  let (c, d) := y.magnitude
  ofQuotient false (a * d + c * b) (b * d)

example : (ofNat 1).bits = 0x3FF0000000000000 := by decide +kernel
example : (div (ofNat 1) (ofNat 10)).bits = 0x3FB999999999999A := by decide +kernel
example : (ofQuotient false 5 (Nat.pow 10 324)).bits = 1 := by decide +kernel

end Double

end InferenceGateway
