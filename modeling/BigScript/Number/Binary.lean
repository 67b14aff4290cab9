/-!
# Binary fractions

A double is a sign and a binary fraction `significand * 2 ^ exponent`.  This module takes doubles
apart into those whole numbers and puts the double nearest to a quotient of whole numbers
together, so that reading, writing and remainders can be computed exactly.
-/

namespace BigScript

namespace Number

/-! ## The powers of two and of ten that bounds and scales are made of -/

/-- A power of two. -/
abbrev twoTo (n : Nat) : Nat := Nat.pow 2 n

/-- A power of ten. -/
abbrev tenTo (n : Nat) : Nat := Nat.pow 10 n

/-! ## The parts of a double -/

/-- What a double stands for. -/
inductive Shape where
  | undefined
  | infinite (negative : Bool)
  | finite (negative : Bool) (significand : Nat) (exponent : Int)
deriving Repr, DecidableEq

/-- The least exponent of a double. -/
def leastExponent : Int := -1074

/-- The parts of a double. -/
def shape (x : Float) : Shape :=
  let bits : Nat := x.toBits.toNat
  let negative := bits / twoTo 63 == 1
  let scale : Nat := bits / twoTo 52 % 2048
  let fraction : Nat := bits % twoTo 52
  if scale = 2047 then
    if fraction = 0 then .infinite negative else .undefined
  else if scale = 0 then .finite negative fraction leastExponent
  else .finite negative (twoTo 52 + fraction) ((scale : Int) - 1075)

/-- The double with the given sign and remaining 63 bits. -/
def ofParts (negative : Bool) (rest : Nat) : Float :=
  Float.ofBits (UInt64.ofNat ((if negative then twoTo 63 else 0) + rest))

/-- The infinite double of a sign. -/
def infinity (negative : Bool) : Float := ofParts negative (2047 * twoTo 52)

/-- The double that is no number. -/
def undefined : Float := Float.ofBits 0x7FF8000000000001

/-- A quotient rounded to a whole number, a half going to the even neighbour. -/
def roundHalfEven (numerator denominator : Nat) : Nat :=
  let quotient := numerator / denominator
  let rest := numerator % denominator
  if 2 * rest < denominator then quotient
  else if denominator < 2 * rest then quotient + 1
  else if quotient % 2 = 0 then quotient
  else quotient + 1

/-- `n * 2 ^ e` for a non-negative `e`, and `n` otherwise. -/
def shiftUp (n : Nat) (e : Int) : Nat := n * twoTo e.toNat

/-- The exponent at which the quotient has a significand of exactly 53 bits, or the least exponent
where that is larger. -/
def exponentFor (numerator denominator : Nat) : Int :=
  let guess : Int := (Nat.log2 numerator : Int) - Nat.log2 denominator - 52
  let short := shiftUp numerator (-guess) < twoTo 52 * shiftUp denominator guess
  max leastExponent (if short then guess - 1 else guess)

/-- The double nearest to a quotient, or `none` where it is too large for a double. -/
def nearest (negative : Bool) (numerator denominator : Nat) : Option Float :=
  if numerator = 0 then some (ofParts negative 0)
  else
    let exponent := exponentFor numerator denominator
    let significand := roundHalfEven (shiftUp numerator (-exponent)) (shiftUp denominator exponent)
    let wide := significand == twoTo 53
    let significand := if wide then twoTo 52 else significand
    let exponent := if wide then exponent + 1 else exponent
    if significand < twoTo 52 then some (ofParts negative significand)
    else if exponent + 1075 ≥ 2047 then none
    else some (ofParts negative ((exponent + 1075).toNat * twoTo 52 + (significand - twoTo 52)))

/-- The double nearest to a whole number. -/
def ofInt (n : Int) : Float :=
  (nearest (n < 0) n.natAbs 1).getD (infinity (n < 0))

/-- The least signed 64-bit number. -/
def leastInt64 : Int := -(twoTo 63 : Int)

/-- The whole part of a double as a signed 64-bit number.  What does not fit, and what is no
number, becomes the least such number. -/
def toInt64 (x : Float) : Int :=
  match shape x with
  | .finite negative significand exponent =>
    let size := significand * twoTo exponent.toNat / twoTo (-exponent).toNat
    let whole : Int := if negative then -(size : Int) else size
    if leastInt64 ≤ whole ∧ whole < twoTo 63 then whole else leastInt64
  | _ => leastInt64

/-- The remainder of a division that cuts towards zero, computed exactly; it takes the sign of the
dividend. -/
def remainder (x y : Float) : Float :=
  match shape x, shape y with
  | .finite negative m e, .finite _ n f =>
    if n = 0 then undefined
    else
      let least := min e f
      let rest := shiftUp m (e - least) % shiftUp n (f - least)
      (nearest negative (shiftUp rest least) (twoTo (-least).toNat)).getD undefined
  | .finite .., .infinite _ => x
  | _, _ => undefined

end Number

end BigScript
