/-!
# Double-precision numbers

A `Double` is a binary64 bit pattern. The library never computes with such numbers: it reads them,
compares them exactly and writes them back, so everything here is exact arithmetic on `Nat` and
`Int`. A finite double is a whole number of units of `2 ^ -1074`, and `Double.units` is that number:
two doubles are equal as numbers when their units are, and an integer `n` stands for
`n * 2 ^ 1074` units.

* `Double.ofDecimal` rounds `m * 10 ^ e` to the nearest double, a tie going to the even neighbour.
* `Double.text` writes the fewest digits that read back as the same double.
-/

namespace FormGraph

/-- A binary64 number, given by its bit pattern. -/
structure Double where
  /-- Sign, exponent and fraction bits, the sign highest. -/
  bits : UInt64
  deriving DecidableEq, Repr, Inhabited

namespace Double

/-- A power of two. -/
def pow2 (n : Nat) : Nat := Nat.pow 2 n

/-- A power of ten. -/
def pow10 (n : Nat) : Nat := Nat.pow 10 n

/-- Whether the sign bit is set. -/
def isNegative (x : Double) : Bool := x.bits.toNat / pow2 63 == 1

/-- The exponent field. -/
def exponentField (x : Double) : Nat := x.bits.toNat / pow2 52 % pow2 11

/-- The fraction field. -/
def fractionField (x : Double) : Nat := x.bits.toNat % pow2 52

/-- Whether the number is finite: the exponent field is not all ones. -/
def isFinite (x : Double) : Bool := x.exponentField != 2047

/-- The significand `m` of `m * 2 ^ q`, the hidden bit included. -/
def significand (x : Double) : Nat :=
  if x.exponentField = 0 then x.fractionField else x.fractionField + pow2 52

/-- The exponent `q` of `m * 2 ^ q`, counted from `-1074`. -/
def scale (x : Double) : Nat := x.exponentField - 1

/-- The magnitude in units of `2 ^ -1074`. -/
def magnitude (x : Double) : Nat := x.significand * pow2 x.scale

/-- The number in units of `2 ^ -1074`. -/
def units (x : Double) : Int := if x.isNegative then -(x.magnitude : Int) else x.magnitude

/-- How many units of `2 ^ -1074` an integer has. -/
def unitsOfInt (n : Int) : Int := n * (pow2 1074 : Nat)

/-- Put a sign, a significand below `2 ^ 53` and a scale back together. -/
def ofParts (negative : Bool) (significand scale : Nat) : Double :=
  let sign := if negative then pow2 63 else 0
  if significand < pow2 52 then ⟨UInt64.ofNat (sign + significand)⟩
  else ⟨UInt64.ofNat (sign + (scale + 1) * pow2 52 + (significand - pow2 52))⟩

/-- Infinity of the given sign. -/
def infinity (negative : Bool) : Double :=
  ⟨UInt64.ofNat ((if negative then pow2 63 else 0) + 2047 * pow2 52)⟩

/-- Divide and round to the nearest whole number, a tie going to the even one. -/
def divRoundEven (num den : Nat) : Nat :=
  let low := num / den
  let rest := num % den
  if 2 * rest < den then low
  else if den < 2 * rest then low + 1
  else if low % 2 = 0 then low else low + 1

/-- Round the positive fraction `num / den`, given in units of `2 ^ -1074`, to a double. -/
def ofUnitFraction (negative : Bool) (num den : Nat) : Double :=
  let whole := num / den
  let scale := Nat.log2 whole - 52
  let significand := divRoundEven num (den * pow2 scale)
  if significand = pow2 53 then
    if scale + 1 > 2045 then infinity negative else ofParts negative (pow2 52) (scale + 1)
  else if scale > 2045 then infinity negative
  else ofParts negative significand scale

/-- The double nearest to `m * 10 ^ e`. Exponents far outside the range of a double are decided
without computing the power. -/
def ofDecimal (negative : Bool) (m : Nat) (e : Int) : Double :=
  if m = 0 then ofParts negative 0 0
  else if e > 400 then infinity negative
  else if e + (Nat.toDigits 10 m).length < -400 then ofParts negative 0 0
  else if 0 ≤ e then ofUnitFraction negative (m * pow10 e.toNat * pow2 1074) 1
  else ofUnitFraction negative (m * pow2 1074) (pow10 (-e).toNat)

/-- Decimal digits with the position of the point: `0.d₁d₂… * 10 ^ point`. -/
structure Decimal where
  /-- The digits, the first one not zero. -/
  digits : List Char
  /-- Where the point stands, counted from before the first digit. -/
  point : Int
  deriving DecidableEq, Repr

/-- The position of the point of the positive fraction `num / den`: the `p` with
`10 ^ (p - 1) ≤ num / den < 10 ^ p`. -/
def pointOf (num den : Nat) : Int :=
  if den ≤ num then (Nat.toDigits 10 (num / den)).length
  else
    match (List.range 400).find? fun z => den ≤ num * pow10 (z + 1) with
    | some z => -(z : Int)
    | none => 0

/-- Drop the zeros at the end of a list of digits. -/
def dropTrailingZeros (digits : List Char) : List Char :=
  (digits.reverse.dropWhile (· == '0')).reverse

/-- The decimal `n * 10 ^ (point - count)`, without zeros at its end. -/
def Decimal.ofGrid (n count : Nat) (point : Int) : Decimal :=
  let digits := Nat.toDigits 10 n
  ⟨dropTrailingZeros digits, point + digits.length - count⟩

/-- Whether `n * 10 ^ -shift` units lie between `low / 4` and `high / 4` units, where `shift` may be
of either sign; the ends belong to the interval when `closed`. -/
def inInterval (closed : Bool) (low high : Nat) (n : Nat) (step : Nat × Nat) : Bool :=
  let value := 4 * n * step.1
  let low := low * step.2
  let high := high * step.2
  if closed then low ≤ value && value ≤ high else low < value && value < high

/-- The decimal with `count` digits that reads back as the number, if there is one: of the two
neighbours of the number on the grid of `count` digits, the nearer one inside the interval of reals
that round to it. -/
def gridDecimal? (x : Double) (count : Nat) : Option Decimal :=
  let units := x.magnitude
  let closed := x.significand % 2 = 0
  let gap := pow2 x.scale
  let high := 4 * units + 2 * gap
  let low := if x.significand = pow2 52 ∧ 0 < x.scale then 4 * units - gap else 4 * units - 2 * gap
  let point := pointOf units (pow2 1074)
  -- one step of the grid is `step.1 / step.2` units
  let shift := point - count
  let step : Nat × Nat :=
    if 0 ≤ shift then (pow10 shift.toNat * pow2 1074, 1) else (pow2 1074, pow10 (-shift).toNat)
  let below := units * step.2 / step.1
  let above := below + 1
  let hitBelow := inInterval closed low high below step
  let hitAbove := inInterval closed low high above step
  let toBelow := units * step.2 - below * step.1
  let toAbove := above * step.1 - units * step.2
  if hitBelow && (!hitAbove || toBelow < toAbove || (toBelow = toAbove && below % 2 = 0)) then
    some (Decimal.ofGrid below count point)
  else if hitAbove then some (Decimal.ofGrid above count point)
  else none

/-- The shortest decimal that reads back as the number. -/
def shortest (x : Double) : Decimal :=
  ((List.range 17).findSome? fun d => x.gridDecimal? (d + 1)).getD ⟨['0'], 1⟩

/-- Write a decimal: in positional form, always with a point, when the first digit stands for a
power from `10 ^ -4` to `10 ^ 15`, and with an exponent of at least two digits otherwise. -/
def Decimal.text (d : Decimal) : String :=
  let exponent := d.point - 1
  if -4 ≤ exponent ∧ exponent < 16 then
    if d.point ≤ 0 then
      String.ofList ('0' :: '.' :: List.replicate (-d.point).toNat '0' ++ d.digits)
    else
      let whole := d.point.toNat
      let front := d.digits.take whole
      let back := d.digits.drop whole
      String.ofList (front ++ List.replicate (whole - front.length) '0' ++
        '.' :: (if back.isEmpty then ['0'] else back))
  else
    let mark := if exponent < 0 then '-' else '+'
    let size := Nat.toDigits 10 exponent.natAbs
    let size := if size.length < 2 then '0' :: size else size
    match d.digits with
    | [] => "0.0"
    | [c] => String.ofList (c :: 'e' :: mark :: size)
    | c :: rest => String.ofList (c :: '.' :: rest ++ 'e' :: mark :: size)

/-- The text of a number: the fewest digits that read back as it, the sign of a zero kept. -/
def text (x : Double) : String :=
  let sign := if x.isNegative then "-" else ""
  if !x.isFinite then sign ++ "inf"
  else if x.significand = 0 then sign ++ "0.0"
  else sign ++ x.shortest.text

end Double

end FormGraph
