import BigScript.Number.Binary

/-!
# Functions of arithmetic

Powers, logarithms and the trigonometric functions of doubles, each computed by a fixed sequence of
double operations, and the choice of the smaller or larger of two numbers.
-/

namespace BigScript
namespace Number

/-- The ratio of a circle's circumference to its diameter. -/
def pi : Float := 3.141592653589793

/-- The base of natural logarithms. -/
def euler : Float := 2.718281828459045

/-- Whether a double is no number. -/
def isUndefined (x : Float) : Bool := x != x

/-- The sign bit of a double. -/
def signBit (x : Float) : Bool := x.toBits.toNat / twoTo 63 == 1

/-- The smaller of two numbers.  Negative infinity wins over everything, then what is no number;
of two zeros the negative one is smaller. -/
def smaller (x y : Float) : Float :=
  if x == infinity true || y == infinity true then infinity true
  else if isUndefined x || isUndefined y then undefined
  else if x == 0 && y == 0 then (if signBit x then x else y)
  else if x < y then x else y

/-- The larger of two numbers.  Positive infinity wins over everything, then what is no number; of
two zeros the positive one is larger. -/
def larger (x y : Float) : Float :=
  if x == infinity false || y == infinity false then infinity false
  else if isUndefined x || isUndefined y then undefined
  else if x == 0 && y == 0 then (if signBit x then y else x)
  else if x > y then x else y

/-- A double as a fraction in `[1/2, 1)` and a power of two. -/
def split (x : Float) : Float × Int :=
  match shape x with
  | .finite negative significand exponent =>
    if significand = 0 then (x, 0)
    else
      let bits := Nat.log2 significand + 1
      ((nearest negative significand (twoTo bits)).getD x, exponent + bits)
  | _ => (x, 0)

/-- `x * 2 ^ e`, rounded once. -/
def scale (x : Float) (e : Int) : Float :=
  match shape x with
  | .finite negative significand exponent =>
    let total := max (-3000) (min 3000 (exponent + e))
    (nearest negative (significand * twoTo total.toNat) (twoTo (-total).toNat)).getD (infinity negative)
  | _ => x

/-- Whether a whole double is odd. -/
def isOdd (x : Float) : Bool :=
  match shape x with
  | .finite _ significand exponent =>
    if exponent > 0 then false
    else
      let unit := twoTo (-exponent).toNat
      significand % unit == 0 && significand / unit % 2 == 1
  | _ => false

/-- Multiplies together the repeated squares of `base` that the binary digits of `n` select, the
fraction and the power of two of the product kept apart. -/
def powerLoop : Nat → Nat → Float → Int → Float → Int → Float × Int
  | 0, _, _, _, product, exponent => (product, exponent)
  | steps + 1, n, base, baseExponent, product, exponent =>
    if n = 0 then (product, exponent)
    else if baseExponent < -4096 || 4096 < baseExponent then (product, exponent + baseExponent)
    else
      let (product, exponent) :=
        if n % 2 = 1 then (product * base, exponent + baseExponent) else (product, exponent)
      let square := base * base
      let doubled := 2 * baseExponent
      if square < 0.5 then powerLoop steps (n / 2) (square + square) (doubled - 1) product exponent
      else powerLoop steps (n / 2) square doubled product exponent

/-- `x ^ y` where neither is infinite, undefined, zero or one of the shortcuts. -/
def powerFinite (x y : Float) : Float :=
  let size := y.abs
  let whole := size.floor
  let rest := size - whole
  if rest != 0 && x < 0 then undefined
  else if whole ≥ 9.223372036854775808e18 then
    if x == -1 then 1
    else if (x.abs < 1) == (y > 0) then 0
    else infinity false
  else
    let (rest, whole) := if rest > 0.5 then (rest - 1, whole + 1) else (rest, whole)
    let start := if rest != 0 then Float.exp (rest * Float.log x) else 1
    let (fraction, exponent) := split x
    let (product, exponent) := powerLoop 70 (toInt64 whole).toNat fraction exponent start 0
    if y < 0 then scale (1 / product) (-exponent) else scale product exponent

/-- `x ^ y`. -/
def power (x y : Float) : Float :=
  if y == 0 || x == 1 then 1
  else if y == 1 then x
  else if isUndefined x || isUndefined y then undefined
  else if x == 0 then
    if y < 0 then
      if signBit x && isOdd y then infinity true else infinity false
    else if signBit x && isOdd y then x
    else 0
  else if y == infinity false || y == infinity true then
    if x == -1 then 1
    else if (x.abs < 1) == (y == infinity false) then 0
    else infinity false
  else if x == infinity false || x == infinity true then
    if x == infinity true then
      if y < 0 then (if isOdd y then ofParts true 0 else 0)
      else if isOdd y then infinity true
      else infinity false
    else if y < 0 then 0
    else infinity false
  else if y == 0.5 then x.sqrt
  else if y == -0.5 then 1 / x.sqrt
  else powerFinite x y

/-- The logarithm to base two, exact at powers of two. -/
def logTwo (x : Float) : Float :=
  let (fraction, exponent) := split x
  if fraction == 0.5 then ofInt (exponent - 1)
  else Float.log fraction * 1.442695040888963407359924681001892137 + ofInt exponent

/-- The logarithm to base ten. -/
def logTen (x : Float) : Float :=
  logTwo x * 0.301029995663981195213738894724493027

/-- The octant of an angle and the rest of the angle in it. -/
def octant (x : Float) : Nat × Float :=
  let count := (toInt64 (x * (4 / 3.14159265358979323846264338327950288))).toNat
  let count := if count % 2 = 1 then count + 1 else count
  let y := ofInt count
  let rest := ((x - y * 7.85398125648498535156e-1) - y * 3.77489470793079817668e-8) -
    y * 2.69515142907905952645e-15
  (count % 8, rest)

/-- The sine of an angle in the first octant. -/
def sineCore (z : Float) : Float :=
  let zz := z * z
  z + z * zz * ((((((1.58962301576546568060e-10 * zz) + -2.50507477628578072866e-8) * zz +
    2.75573136213857245213e-6) * zz + -1.98412698295895385996e-4) * zz +
    8.33333333332211858878e-3) * zz + -1.66666666666666307295e-1)

/-- The cosine of an angle in the first octant. -/
def cosineCore (z : Float) : Float :=
  let zz := z * z
  1.0 - 0.5 * zz + zz * zz * ((((((-1.13585365213876817300e-11 * zz) + 2.08757008419747316778e-9) *
    zz + -2.75573141792967388112e-7) * zz + 2.48015872888517045348e-5) * zz +
    -1.38888888888730564116e-3) * zz + 4.16666666666665929218e-2)

/-- The sine of an angle in radians. -/
def sine (x : Float) : Float :=
  if x == 0 || isUndefined x then x
  else if x.abs == infinity false then undefined
  else if x.abs ≥ 536870912 then Float.sin x
  else
    let (j, z) := octant x.abs
    let flip := (x < 0) != (j > 3)
    let k := if j > 3 then j - 4 else j
    let y := if k = 1 || k = 2 then cosineCore z else sineCore z
    if flip then -y else y

/-- The cosine of an angle in radians. -/
def cosine (x : Float) : Float :=
  if isUndefined x || x.abs == infinity false then undefined
  else if x.abs ≥ 536870912 then Float.cos x
  else
    let (j, z) := octant x.abs
    let k := if j > 3 then j - 4 else j
    let flip := (j > 3) != (k > 1)
    let y := if k = 1 || k = 2 then sineCore z else cosineCore z
    if flip then -y else y

/-- The tangent of an angle in radians. -/
def tangent (x : Float) : Float :=
  if x == 0 || isUndefined x then x
  else if x.abs == infinity false then undefined
  else if x.abs ≥ 536870912 then Float.tan x
  else
    let (j, z) := octant x.abs
    let zz := z * z
    let y :=
      if zz > 1e-14 then
        z + z * (zz * (((-1.30936939181383734205e4 * zz) + 1.15351664838587416140e6) * zz +
          -1.79565251976484877988e7) /
          ((((zz + 1.36812963470692954678e4) * zz + -1.32089234440210967447e6) * zz +
            2.50083801823357915839e7) * zz + -5.38695755929454629881e7))
      else z
    let y := if j / 2 % 2 = 1 then -1 / y else y
    if x < 0 then -y else y

/-- An angle in degrees as radians. -/
def radians (degrees : Float) : Float := degrees * pi / 180

end Number
end BigScript
