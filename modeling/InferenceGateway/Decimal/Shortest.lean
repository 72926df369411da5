import InferenceGateway.Decimal.Double

/-!
# The shortest decimal of a double

A decimal reads back as a double when it lies in the interval of reals that round to it. Among
the decimals with the fewest digits that read back, the nearest to the double is chosen, and of
two equally near ones that with an even last digit.

The search tries 1, 2, …, 17 digits. On each of these decimal grids only the two neighbours of
the value can be nearest, so two tests in exact arithmetic decide a grid.

* `Decimal`: digits and a decimal exponent.
* `Double.shortest`: the chosen decimal of a finite double.
* `Decimal.plain`, `Decimal.scientific`: the two ways of writing it.
-/

namespace InferenceGateway

/-- The number `0.d₁d₂… · 10 ^ point`, where `d₁d₂…` are the digits of `digits`. -/
structure Decimal where
  digits : Nat
  point : Int
  deriving DecidableEq, Repr

namespace Double

/-- The reals that round to a double, as quotients over one denominator. -/
structure Interval where
  low : Nat
  value : Nat
  high : Nat
  den : Nat
  /-- Whether the two ends themselves round to the double. -/
  closed : Bool

/-- The interval of a finite double that is not zero; its significand decides on the ends. -/
def interval (x : Double) : Interval :=
  let p := x.parts
  let m := p.significand
  let scale := if p.exponent < 0 then 1 else Nat.pow 2 p.exponent.natAbs
  let den := if p.exponent < 0 then Nat.pow 2 p.exponent.natAbs else 1
  -- Below a power of two the next double is half as far away as above it.
  let narrow := x.fraction == 0 && 1 < x.biasedExponent
  { low := (4 * m - if narrow then 1 else 2) * scale
    value := 4 * m * scale
    high := (4 * m + 2) * scale
    den := 4 * den
    closed := m % 2 == 0 }

/-- Whether `n · 10 ^ e` lies in the interval. -/
def Interval.holds (i : Interval) (n : Nat) (e : Int) : Bool :=
  let up := if e < 0 then 1 else Nat.pow 10 e.natAbs
  let down := if e < 0 then Nat.pow 10 e.natAbs else 1
  let x := n * up * i.den
  if i.closed then i.low * down ≤ x && x ≤ i.high * down
  else i.low * down < x && x < i.high * down

/-- The neighbours of the value on the grid of multiples of `10 ^ e`, and the nearer of them. -/
def Interval.neighbours (i : Interval) (e : Int) : Nat × Bool :=
  let up := if e < 0 then 1 else Nat.pow 10 e.natAbs
  let down := if e < 0 then Nat.pow 10 e.natAbs else 1
  let num := i.value * down
  let den := i.den * up
  let below := num / den
  let twice := 2 * (num % den)
  (below, twice < den || (twice == den && below % 2 == 0))

/-- The chosen multiple of `10 ^ e`, if a neighbour of the value reads back. -/
def Interval.pick? (i : Interval) (e : Int) : Option Nat :=
  let (below, lowerIsNearer) := i.neighbours e
  let above := below + 1
  match i.holds below e && below != 0, i.holds above e with
  | true, true => some (if lowerIsNearer then below else above)
  | true, false => some below
  | false, true => some above
  | false, false => none

/-- The position of the decimal point: the least `k` with `value < 10 ^ k`. -/
def Interval.point (i : Interval) : Int :=
  let estimate : Int :=
    ((Nat.log2 i.value : Int) - (Nat.log2 i.den : Int)) * 30103 / 100000
  let exceeds (k : Int) : Bool :=
    if k < 0 then i.value * Nat.pow 10 k.natAbs < i.den else i.value < i.den * Nat.pow 10 k.natAbs
  let rec settle : Nat → Int → Int
    | 0, k => k
    | fuel + 1, k => if exceeds k then k else settle fuel (k + 1)
  settle 6 (estimate - 2)

/-- Tries grids with more and more digits. -/
def Interval.search (i : Interval) (point : Int) : Nat → Nat → Decimal
  | 0, _ => { digits := 0, point := 0 }
  | fuel + 1, count =>
    match i.pick? (point - count) with
    | some n => { digits := n, point := if n == Nat.pow 10 count then point + 1 else point }
    | none => i.search point fuel (count + 1)

/-- Drops zeros at the end of the digits. -/
def dropZeros : Nat → Nat → Nat
  | 0, n => n
  | fuel + 1, n => if n % 10 == 0 && n != 0 then dropZeros fuel (n / 10) else n

/-- The shortest decimal that reads back, of the magnitude of a finite double. -/
def shortest (x : Double) : Decimal :=
  if x.isZero then { digits := 0, point := 1 }
  else
    let i := x.interval
    let d := i.search i.point 17 1
    { d with digits := dropZeros 20 d.digits }

end Double

namespace Decimal

/-- The digits as characters. -/
def chars (d : Decimal) : List Char :=
  Nat.toDigits 10 d.digits

/-- The decimal without an exponent; `withPoint` adds `.0` to a whole number. -/
def plain (d : Decimal) (withPoint : Bool) : List Char :=
  let cs := d.chars
  let count : Int := cs.length
  if d.point ≤ 0 then
    '0' :: '.' :: (List.replicate d.point.natAbs '0' ++ cs)
  else if count ≤ d.point then
    cs ++ List.replicate (d.point - count).toNat '0' ++ (if withPoint then ['.', '0'] else [])
  else
    cs.take d.point.toNat ++ '.' :: cs.drop d.point.toNat

/-- The decimal with one digit before the point and a signed exponent. -/
def scientific (d : Decimal) : List Char :=
  let e := d.point - 1
  let mantissa :=
    match d.chars with
    | [] => []
    | [c] => [c]
    | c :: rest => c :: '.' :: rest
  mantissa ++ 'e' :: (if e < 0 then '-' else '+') :: Nat.toDigits 10 e.natAbs

end Decimal

namespace Double

/-- Which decimals are written without an exponent, and whether whole numbers keep `.0`. -/
structure Style where
  plainFrom : Int
  plainBelow : Int
  withPoint : Bool

/-- Writes a finite double in a style, with its sign. -/
def render (style : Style) (x : Double) : String :=
  let d := x.shortest
  let body :=
    if style.plainFrom ≤ d.point && d.point ≤ style.plainBelow then d.plain style.withPoint
    else d.scientific
  String.ofList (if x.isNegative then '-' :: body else body)

/--
Numbers in JSON text: from `1e-5` up to but not including `1e16` without an exponent, and with a
point in any case.
-/
def jsonStyle : Style where
  plainFrom := -4
  plainBelow := 16
  withPoint := true

/-- Numbers in sentences: never an exponent, and no point in a whole number. -/
def sentenceStyle : Style where
  plainFrom := -400
  plainBelow := 400
  withPoint := false

example : (div (ofNat 1) (ofNat 10)).render jsonStyle = "0.1" := by decide +kernel
example : (ofNat (Nat.pow 10 16)).render jsonStyle = "1e+16" := by decide +kernel
example : (ofNat (Nat.pow 10 15)).render jsonStyle = "1000000000000000.0" := by decide +kernel
example : (zero true).render jsonStyle = "-0.0" := by decide +kernel
example : (ofQuotient false 5 (Nat.pow 10 324)).render jsonStyle = "5e-324" := by decide +kernel
example : (div (ofNat 5) (ofNat 1000)).render sentenceStyle = "0.005" := by decide +kernel

end Double

end InferenceGateway
