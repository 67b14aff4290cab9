import BigScript.Number.Binary
import BigScript.Text.Basic

/-!
# Decimal text of numbers

A number is written with the fewest decimal digits that read back as the same number, never with
an exponent.  Among the decimals of that length the nearest is taken, and of two equally near the
one with an even last digit.
-/

namespace BigScript
namespace Number

/-- A decimal: `digits * 10 ^ exponent`. -/
structure Decimal where
  digits : Nat
  exponent : Int
deriving Repr, DecidableEq

/-- `n * 10 ^ e` for a non-negative `e`, and `n` otherwise. -/
def scaleUp (n : Nat) (e : Int) : Nat := n * tenTo e.toNat

/-- The exponent of the leading decimal digit of a positive quotient. -/
def leadingExponent (numerator denominator : Nat) : Int :=
  let binary : Int := (Nat.log2 numerator : Int) - Nat.log2 denominator
  let guess := Int.fdiv (binary * 30103) 100000
  let reaches (e : Int) : Bool := scaleUp denominator e ≤ scaleUp numerator (-e)
  if reaches (guess + 1) then guess + 1
  else if reaches guess then guess
  else guess - 1

/-- The interval of values that read back as one number, over a common denominator: the value
itself, the distances to both ends, and whether the ends belong to it. -/
structure Interval where
  value : Nat
  below : Nat
  above : Nat
  denominator : Nat
  closed : Bool

/-- The interval of a positive binary fraction.  Below a power of two the neighbours are half as
far apart. -/
def Interval.of (significand : Nat) (exponent : Int) : Interval :=
  let unit := twoTo exponent.toNat
  let lopsided := significand == twoTo 52 && leastExponent < exponent
  { value := 4 * significand * unit
    below := if lopsided then unit else 2 * unit
    above := 2 * unit
    denominator := 4 * twoTo (-exponent).toNat
    closed := significand % 2 == 0 }

/-- Whether `digits * 10 ^ exponent` lies in the interval. -/
def Interval.holds (interval : Interval) (decimal : Decimal) : Bool :=
  let point := scaleUp decimal.digits decimal.exponent * interval.denominator
  let low := scaleUp (interval.value - interval.below) (-decimal.exponent)
  let high := scaleUp (interval.value + interval.above) (-decimal.exponent)
  if interval.closed then low ≤ point && point ≤ high else low < point && point < high

/-- The decimal of the interval on the grid of multiples of `10 ^ exponent`, if there is one: the
neighbour of the value that is nearer, then the other. -/
def Interval.onGrid (interval : Interval) (exponent : Int) : Option Decimal :=
  let numerator := scaleUp interval.value (-exponent)
  let denominator := scaleUp interval.denominator exponent
  let floor := numerator / denominator
  let near := roundHalfEven numerator denominator
  let far := if near = floor then floor + 1 else floor
  if interval.holds ⟨near, exponent⟩ then some ⟨near, exponent⟩
  else if interval.holds ⟨far, exponent⟩ then some ⟨far, exponent⟩
  else none

/-- The decimal with the fewest digits that reads back as the given positive binary fraction. -/
def shortest (significand : Nat) (exponent : Int) : Decimal :=
  let interval := Interval.of significand exponent
  let leading := leadingExponent interval.value interval.denominator
  let grids := (List.range 18).map fun (count : Nat) => leading + 1 - count
  (grids.findSome? interval.onGrid).getD ⟨interval.value / interval.denominator, 0⟩

/-- The decimal digits of a whole number. -/
def digitText (n : Nat) : String := String.ofList (Nat.toDigits 10 n)

/-- A decimal in positional notation. -/
def Decimal.positional (decimal : Decimal) : String :=
  if 0 ≤ decimal.exponent then digitText (scaleUp decimal.digits decimal.exponent)
  else
    let places := (-decimal.exponent).toNat
    let written := Text.padLeft (places + 1) '0' (digitText decimal.digits)
    let whole := written.length - places
    String.ofList (written.toList.take whole) ++ "." ++ String.ofList (written.toList.drop whole)

/-- A sign in front of a written size. -/
def signed (negative : Bool) (size : String) : String := if negative then "-" ++ size else size

/-- Whether a double is a whole number that fits in 64 signed bits. -/
def isWhole (x : Float) : Bool := x == ofInt (toInt64 x)

/-- The text of a number: plain digits for a whole number of 64 bits, and the fewest digits that
read back otherwise. -/
def format (x : Float) : String :=
  match shape x with
  | .undefined => "NaN"
  | .infinite negative => if negative then "-Inf" else "+Inf"
  | .finite negative significand exponent =>
    if significand = 0 then signed negative "0"
    else if isWhole x then
      signed negative (digitText (significand * twoTo exponent.toNat / twoTo (-exponent).toNat))
    else signed negative (shortest significand exponent).positional

/-- The text of a number with a fixed count of decimal places, a half going to the even
neighbour. -/
def fixed (places : Nat) (x : Float) : String :=
  match shape x with
  | .undefined => "NaN"
  | .infinite negative => if negative then "-Inf" else "+Inf"
  | .finite negative significand exponent =>
    let digits := roundHalfEven (significand * twoTo exponent.toNat * tenTo places)
      (twoTo (-exponent).toNat)
    signed negative (Decimal.positional ⟨digits, -places⟩)

/-- The text of a whole number. -/
def intText (n : Int) : String := signed (n < 0) (digitText n.natAbs)

end Number
end BigScript
