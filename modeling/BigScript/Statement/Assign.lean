import BigScript.Statement.Basic

/-!
# Assignments

`Name = value`, `Map.field = value`, and the forms with `set`, `update` and `global` in front.  A
value whose computation raises a bug is not assigned.
-/

namespace BigScript

namespace TokenStream

/-- Whether an assignment begins at an index. -/
def isAssignment (toks : TokenStream) (i : Nat) : Bool :=
  let t := toks.peek i
  let next := toks.peek (i + 1)
  let after := toks.peek (i + 3)
  (t.kind == .name || t.kind.isWord) &&
    ((next.isSymbol .assign && next.line == t.line) ||
      (next.isSymbol .dot && after.isSymbol .assign && after.line == t.line))

end TokenStream

namespace Statement

/-- Assigns to the target at an index.  The answer is the index of the last token and the name of
the variable, if one was assigned. -/
def assignAt (toks : TokenStream) (i : Nat) : Act (Nat × Option String) := do
  let target := (toks.peek i).rawName
  if (toks.peek (i + 1)).isSymbol .dot then
    let m ← get
    let value := m.interpolate (m.tokenValue (toks.peek (i + 4)))
    match Value.withField? (m.getD target "") (toks.peek (i + 2)).rawName value with
    | some updated =>
      modify (Machine.assign target updated)
      return (i + 4, none)
    | none => return (i + 4, none)
  else
    let pending := (← get).bug.isSome
    let (value, last) ← Operand.assigned toks (i + 2)
    if (← get).bug.isSome && !pending then return (last, none)
    else
      modify (Machine.assign target value)
      return (last, some target)

/-- Carries out a plain assignment. -/
def assign : Statement := fun toks i => return (← assignAt toks i).1

/-- Carries out an assignment behind a word for it; with `global` the value is also set among the
globals. -/
def assignWord : Statement := fun toks i => do
  if toks.isAssignment (i + 1) then
    let (last, name) ← assignAt toks (i + 1)
    if (toks.peek i).isWord .global then
      match name with
      | some name =>
        match (← get).get? name with
        | some value => if !name.isEmpty then modify (Machine.setGlobal name value)
        | none => pure ()
      | none => pure ()
    return last
  else abandon toks i

/-- Gives the result of a function and leaves it.  A bug in the result's computation stops this. -/
def giveBack : Statement := fun toks i => do
  let next := toks.peek (i + 1)
  if next.isFinish || next.line != (toks.peek i).line || next.isSymbol .ampersand then
    modify fun m => { m.setGlobal "ReturnValue" "" with returning := true }
    return i
  else
    let (value, last) ← Operand.assigned toks (i + 1)
    if (← get).bug.isSome then return last
    else
      modify fun m => { m.setGlobal "ReturnValue" value with returning := true }
      return last

end Statement
end BigScript

/-!
## Easing

`step X towards target speed 0.5x` moves a variable part of the way to a target.  The part depends
on the time since the last step, so that the movement does not depend on how often it is made.
-/

namespace BigScript
namespace Easing

/-- The longest time one step accounts for, in seconds. -/
def longest : Float := 0.1

/-- The time of the first step, in seconds. -/
def firstTime : Float := 0.016

/-- The value reached from `current` on the way to `target`.  Within half a unit it is the
target. -/
def advance (current target speed time : Float) : Float :=
  let distance := target - current
  if distance.abs < 0.5 then target
  else current + distance * (1 - Float.exp (-speed * 5 * time))

/-- The time a step accounts for. -/
def stepTime (m : Machine) : Float :=
  let time :=
    if m.frame > 0 then m.frameSeconds
    else
      match m.lastStep with
      | some before => Machine.seconds (m.elapsed - before)
      | none => firstTime
  Number.smaller time longest

end Easing

namespace Statement

/-- The speed of a step at the index behind its target, with the index of the last token; an error
where it is not written as a rate. -/
def stepSpeed (toks : TokenStream) (last : Nat) : Except Unit (Float × Nat) :=
  if (toks.peek (last + 1)).isWord .speed then
    match (toks.peek (last + 2)).lexeme with
    | .rate x => .ok (x, last + 2)
    | _ => .error ()
  else .ok (1, last)

/-- Moves a variable towards a target. -/
def step : Statement := fun toks i => do
  let (name, last) := toks.bracedName (i + 1)
  if (toks.peek (last + 1)).isWord .towards then
    let (target, last) ← Operand.measure toks (last + 2)
    match stepSpeed toks last with
    | .error () =>
      printLine "Speed must use 'Nx' syntax (e.g. 0.5x)."
      abandon toks i
    | .ok (speed, last) =>
      let m ← get
      let time := Easing.stepTime m
      let current := Number.parseOrZero (m.getD name "")
      let reached := Easing.advance current target speed time
      modify fun m => { m with lastStep := some m.elapsed }
      modify (Machine.assign name (Number.format reached))
      return last
  else abandon toks i

end Statement
end BigScript
