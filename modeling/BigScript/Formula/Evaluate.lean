import BigScript.Formula.Basic
import BigScript.Machine.Interpolate
import BigScript.Number.Functions

/-!
# The value of a formula

A formula is computed in a running script from left to right: names and texts are looked up, groups
and the arguments of functions are computed where they stand, and then the row is reduced.  Each
division by zero raises a bug at the end of the row it stands in, and the computation goes on.
-/

/-!
## Arithmetic

The value of a row of numbers and operators.  A sign after another operator belongs to the number
behind it.  Powers and remainders are computed first, then products and quotients, each from left
to right, and the rest is summed from zero.  A division by zero gives zero and is reported.
-/

namespace BigScript

/-- A number or an operator in a row whose values have been computed. -/
inductive Item where
  | operator (operator : Operator)
  | value (value : Float)

namespace Item

/-- Whether the item is a number. -/
def isValue : Item → Bool
  | .value _ => true
  | .operator _ => false

end Item

namespace Arithmetic

/-- A number with a sign in front of it. -/
def withSign (sign : Operator) (x : Float) : Float := if sign == .minus then -x else x

/-- Joins each sign that follows an operator with the number behind it.  `afterOperator` says
whether the item before was an operator. -/
def joinSigns (afterOperator : Bool) : List Item → List Item
  | [] => []
  | .operator sign :: .value x :: rest =>
    if afterOperator && sign.isSign then .value (withSign sign x) :: joinSigns false rest
    else .operator sign :: .value x :: joinSigns false rest
  | .operator o :: rest => .operator o :: joinSigns true rest
  | .value x :: rest => .value x :: joinSigns false rest

/-- Applies the chosen operators between numbers from left to right, each to the number it finds
on its left, and says whether one of them failed. -/
def reduceFrom (chosen : Operator → Bool) (compute : Operator → Float → Float → Float × Bool) :
    List Item → List Item × Bool
  | [] => ([], false)
  | [item] => ([item], false)
  | .value x :: .operator o :: rest =>
    match rest with
    | .value y :: more =>
      if chosen o then
        let (z, failed) := compute o x y
        let (items, later) := reduceFrom chosen compute (.value z :: more)
        (items, failed || later)
      else
        let (items, later) := reduceFrom chosen compute (.value y :: more)
        (.value x :: .operator o :: items, later)
    | rest =>
      let (items, later) := reduceFrom chosen compute rest
      (.value x :: .operator o :: items, later)
  | item :: rest =>
    let (items, later) := reduceFrom chosen compute rest
    (item :: items, later)
termination_by items => items.length

/-- Powers, and remainders that are zero for a zero divisor. -/
def tight (o : Operator) (x y : Float) : Float × Bool :=
  if o == .power then (Number.power x y, false)
  else if y == 0 then (0, false)
  else (Number.remainder x y, false)

/-- Products, and quotients that are zero and fail for a zero divisor. -/
def loose (o : Operator) (x y : Float) : Float × Bool :=
  if o == .times then (x * y, false)
  else if y == 0 then (0, true)
  else (x / y, false)

/-- The sum of the numbers of a row, each added or subtracted as the sign last met says. -/
def total (sum : Float) (subtract : Bool) : List Item → Float
  | [] => sum
  | .value x :: rest => total (if subtract then sum - x else sum + x) subtract rest
  | .operator .plus :: rest => total sum false rest
  | .operator .minus :: rest => total sum true rest
  | .operator _ :: rest => total sum subtract rest

/-- The value of a row, and whether a division by zero occurred. -/
def value (row : List Item) : Float × Bool :=
  let row := joinSigns false row
  let (row, _) := reduceFrom (fun o => o == .power || o == .remainder) tight row
  let (row, divided) := reduceFrom (fun o => o == .times || o == .divide) loose row
  (total 0 false row, divided)

/-- The value of a function. -/
def apply : Function → Float → Float
  | .squareRoot, x => x.sqrt
  | .sine, x => Number.sine (Number.radians x)
  | .cosine, x => Number.cosine (Number.radians x)
  | .tangent, x => Number.tangent (Number.radians x)
  | .absolute, x => x.abs
  | .logarithm, x => Number.logTen x
  | .floor, x => x.floor
  | .ceiling, x => x.ceil
  | .round, x => x.round

end Arithmetic
end BigScript

/-! ## Computing a formula -/

namespace BigScript
namespace Formula

/-- The value of a row whose terms have been computed.  A division by zero raises a bug. -/
def reduce (row : List Item) : Act Float := do
  let (value, divided) := Arithmetic.value row
  if divided then modify (Machine.raiseBug "DivisionByZero")
  return value

mutual
/-- The value of a term. -/
def termValue : Term → Act Float
  | .absent => return 0
  | .constant x => return x
  | .tick => return Number.ofInt (← get).tick
  | .frame => return (← get).frameSeconds
  | .length name => return Number.ofInt ((← get).valueLength name)
  | .token t => return (← get).tokenNumber t
  | .group row => do reduce (← rowItems row)
  | .apply function argument => return Arithmetic.apply function (← termValue argument)
  | .least first second => return Number.smaller (← termValue first) (← termValue second)
  | .greatest first second => return Number.larger (← termValue first) (← termValue second)

/-- The values and operators of a row. -/
def rowItems : List Cell → Act (List Item)
  | [] => return []
  | .operator o :: rest => return .operator o :: (← rowItems rest)
  | .term t :: rest => return .value (← termValue t) :: (← rowItems rest)
end

/-- The value of the formula that tokens write. -/
def evaluate (toks : List Token) : Act Float := do reduce (← rowItems (read toks))

end Formula
end BigScript
