import SampleCapture.Decimal.Binary

/-!
# Shortest decimals of doubles

The digits of a double are the fewest that read back as it, and of those the nearest.
They are found on the decimal grids with one, two and up to seventeen digits: the
first grid that has a point in the interval of numbers that round to the double wins.
-/

namespace SampleCapture.Decimal

/-- A positive number `mantissa * 2 ^ exponent` and the numbers that round to it, all
four times as large and over one denominator. -/
structure Neighbourhood where
  value : Nat
  low : Nat
  high : Nat
  /-- The ends round to the even mantissa. -/
  closed : Bool
  denominator : Nat

/-- Below a power of two the doubles are twice as dense, except at the least exponent. -/
def Neighbourhood.of (mantissa : Nat) (exponent : Int) : Neighbourhood :=
  let scale := Nat.pow 2 exponent.toNat
  let below := if mantissa = Nat.pow 2 52 ∧ -1074 < exponent then 1 else 2
  { value := 4 * mantissa * scale
    low := (4 * mantissa - below) * scale
    high := (4 * mantissa + 2) * scale
    closed := mantissa % 2 = 0
    denominator := 4 * Nat.pow 2 (-exponent).toNat }

def Neighbourhood.holds (hood : Neighbourhood) (digits : Nat) (power : Int) : Bool :=
  let point := digits * Nat.pow 10 power.toNat * hood.denominator
  let unit := Nat.pow 10 (-power).toNat
  if hood.closed then hood.low * unit ≤ point ∧ point ≤ hood.high * unit
  else hood.low * unit < point ∧ point < hood.high * unit

/-- The point of the grid of multiples of `10 ^ power` that stands for the number: of
its two neighbours there the one in the interval, of two the nearer, of two equally
near the even one. -/
def Neighbourhood.onGrid (hood : Neighbourhood) (power : Int) : Option Nat :=
  let numerator := hood.value * Nat.pow 10 (-power).toNat
  let denominator := hood.denominator * Nat.pow 10 power.toNat
  let near := roundDiv numerator denominator
  let floor := numerator / denominator
  [near, floor, floor + 1].find? (hood.holds · power)

/-- The decimal place of the leading digit: the greatest power of ten that is not
above the number, searched downwards from a bound. -/
def leadingPower (hood : Neighbourhood) : Nat → Int → Int
  | 0, power => power
  | steps + 1, power =>
      if hood.denominator * Nat.pow 10 power.toNat ≤ hood.value * Nat.pow 10 (-power).toNat then power
      else leadingPower hood steps (power - 1)

/-- Digits of a decimal, most significant first and without trailing zeros, and the
power of ten of the leading one. -/
structure Digits where
  digits : List Char
  leading : Int

def Digits.ofUnits (units : Nat) (power : Int) : Digits :=
  let all := Nat.toDigits 10 units
  { digits := (all.reverse.dropWhile (· == '0')).reverse
    leading := power + (all.length - 1 : Nat) }

def shortestDigits (mantissa : Nat) (exponent : Int) : Digits :=
  let hood := Neighbourhood.of mantissa exponent
  let leading := leadingPower hood 640 309
  let grids := (List.range 17).map fun count : Nat => leading - count
  match grids.findSome? fun power => (hood.onGrid power).map fun units => (units, power) with
  | some (units, power) => .ofUnits units power
  | none => .ofUnits 0 0

/-- The layout of a shortest decimal: positional from `10 ^ (-5)` up to `10 ^ 16`, with
at least one digit on both sides of the point; else with an exponent that has a sign
and no zeros in front. -/
def Digits.layout (number : Digits) : List Char :=
  let count := number.digits.length
  if 0 ≤ number.leading ∧ number.leading < 16 then
    let whole := number.leading.toNat + 1
    let fraction := number.digits.drop whole
    number.digits.take whole ++ List.replicate (whole - count) '0' ++ '.' ::
      (if fraction = [] then ['0'] else fraction)
  else if -5 ≤ number.leading ∧ number.leading < 0 then
    '0' :: '.' :: List.replicate ((-number.leading).toNat - 1) '0' ++ number.digits
  else
    let mark := if number.leading < 0 then '-' else '+'
    let fraction := number.digits.drop 1
    number.digits.take 1 ++ (if fraction = [] then [] else '.' :: fraction) ++
      'e' :: mark :: Nat.toDigits 10 number.leading.natAbs

def shortest (x : Float) : List Char :=
  match DoubleValue.ofFloat x with
  | .nan => "NaN".toList
  | .infinite negative => if negative then "-inf".toList else "inf".toList
  | .finite negative mantissa exponent =>
      let text :=
        if mantissa = 0 then "0.0".toList else (shortestDigits mantissa exponent).layout
      if negative then '-' :: text else text

end SampleCapture.Decimal
