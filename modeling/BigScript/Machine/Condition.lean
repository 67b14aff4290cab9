import BigScript.Machine.Operand

/-!
# Conditions

A condition compares the two sides of its first comparison sign, or asks whether a formula is
positive.  Sides that both read as numbers are compared as numbers, equality with a small tolerance;
otherwise the texts are compared.
-/

namespace BigScript

/-- The comparison signs. -/
inductive Comparison where
  | equal
  | notEqual
  | greater
  | less
  | greaterEqual
  | lessEqual
deriving DecidableEq, Repr

namespace Comparison

/-- The comparison a token stands for. -/
def ofKind? : Kind → Option Comparison
  | .symbol .assign => some .equal
  | .symbol .notEqual => some .notEqual
  | .symbol .greater => some .greater
  | .symbol .less => some .less
  | .symbol .greaterEqual => some .greaterEqual
  | .symbol .lessEqual => some .lessEqual
  | _ => none

/-- Numbers that differ by less count as equal. -/
def tolerance : Float := 0.00001

/-- Compares numbers. -/
def numbers (c : Comparison) (x y : Float) : Bool :=
  match c with
  | .equal => (x - y).abs < tolerance
  | .notEqual => (x - y).abs > tolerance
  | .greater => x > y
  | .less => x < y
  | .greaterEqual => x ≥ y
  | .lessEqual => x ≤ y

/-- Compares texts. -/
def texts (c : Comparison) (x y : String) : Bool :=
  match c with
  | .equal => x == y
  | .notEqual => x != y
  | .greater => y < x
  | .less => x < y
  | .greaterEqual => !(x < y)
  | .lessEqual => !(y < x)

/-- Compares two values. -/
def holds (c : Comparison) (x y : String) : Bool :=
  match Number.parse? x, Number.parse? y with
  | some a, some b => c.numbers a b
  | _, _ => c.texts x y

end Comparison

namespace Condition

/-- The tokens before and after the first comparison sign. -/
def splitAtComparison : List Token → Option (List Token × Comparison × List Token)
  | [] => none
  | t :: rest =>
    match Comparison.ofKind? t.kind with
    | some c => some ([], c, rest)
    | none => (splitAtComparison rest).map fun (left, c, right) => (t :: left, c, right)

/-- The text of tokens that are no formula: their values one after another. -/
def joined (m : Machine) : List Token → String
  | [] => ""
  | [t] => sideValue m t
  | t :: next :: rest =>
    if t.isSymbol .dollar then
      match m.get? next.rawName with
      | some v => v ++ joined m rest
      | none => sideValue m t ++ joined m (next :: rest)
    else sideValue m t ++ joined m (next :: rest)
where
  /-- The value of a token, with the references in a text replaced. -/
  sideValue (m : Machine) (t : Token) : String :=
    match t.lexeme with
    | .text s => m.interpolate s
    | _ => m.tokenValue t

/-- One side of a comparison. -/
def side (toks : List Token) : Act String := do
  if Formula.isMath toks then return Number.format (← Formula.evaluate toks)
  else return joined (← get) toks

/-- Whether tokens ask for a pending bug. -/
def asksForBug (toks : List Token) : Bool :=
  toks.map Token.kind == [.word .any, .word .bug, .word .found]

/-- Whether a condition holds.  An empty one does. -/
def holds (toks : List Token) : Act Bool := do
  if toks.isEmpty then return true
  else if asksForBug toks then return (← get).bug.isSome
  else
    match splitAtComparison toks with
    | some (left, c, right) =>
      let x ← side left
      let y ← side right
      return c.holds x y
    | none => return (← Formula.evaluate toks) > 0

end Condition
end BigScript
