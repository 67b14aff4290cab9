import BigScript.Statement.Basic

/-!
# Branches and loops

`if` goes on into its block when its condition holds, and otherwise leaves the block out; `or` enters
its block only when no branch before it was taken.

A loop opens at its head and goes back from its `keep` line to the line under the head: as often as
the condition behind `keep` holds, up to a limit, or once for each item of a list or map.  Loops are
left early by looking for the `keep` line that closes them.
-/

namespace BigScript

/-! ## Branches -/

namespace TokenStream

/-- The number of tokens from index `i` on that belong to a condition on the given line. -/
def conditionRun (toks : TokenStream) (line i : Nat) : Nat :=
  if h : i < toks.size then
    if toks[i].isFinish || toks[i].line != line || toks[i].isSymbol .ampersand then 0
    else conditionRun toks line (i + 1) + 1
  else 0
termination_by toks.size - i

end TokenStream

namespace Statement

/-- Enters the block under a condition that holds, and leaves it out otherwise.  The question for a
pending bug also drops the bug. -/
def branch : Statement := fun toks i => do
  let head := toks.peek i
  let stop := i + 1 + toks.conditionRun head.line (i + 1)
  let taken ← Condition.holds (toks.slice (i + 1) stop)
  if toks.asksForBug i then modify Machine.clearBug
  modify fun m => { m with taken }
  if taken then
    if (toks.peek stop).isSymbol .ampersand && (toks.peek stop).line == head.line then return stop
    else return stop - 1
  else return toks.skipBlock i head.column

/-- Enters the block of an alternative when no branch before it was taken. -/
def alternative : Statement := fun toks i => do
  if (← get).taken then
    return toks.blockEnd (toks.peek i).column false (toks.lineEnd i + 1) - 1
  else
    modify fun m => { m with taken := true }
    return i

end Statement

/-! ## Loops -/

namespace Walk

/-- Sets the variables of a loop to the item at its cursor. -/
def bindItem (walk : Walk) (m : Machine) : Machine :=
  let item := walk.items.getD walk.cursor ""
  let m := if walk.itemName.isEmpty then m else m.assign walk.itemName item
  if walk.valueName.isEmpty then m
  else if walk.isMap then m.assign walk.valueName (Value.fieldOrNothing walk.raw item)
  else m.assign walk.valueName (Number.digitText (walk.cursor + 1))

/-- A walk over the items of a value: the keys of a map, or the items of a list. -/
def through (raw itemName valueName : String) : Walk :=
  let isMap := Text.startsWith (Text.trim raw) "\x7b"
  { items := if isMap then Value.mapKeys raw else Value.looseItems raw
    raw, isMap, itemName, valueName }

end Walk

namespace TokenStream

/-- The index of the last token of the line with which `depth` loops have been closed, looking from
index `j` on and counting the loops opened on the way. -/
def afterKeep (toks : TokenStream) (depth j : Nat) : Nat :=
  if h : j < toks.size then
    if toks[j].isFinish then toks.size - 1
    else if toks.opensLoop j then afterKeep toks (depth + 1) (j + 1)
    else if toks[j].isWord .keep then
      if depth = 1 then toks.lineEnd j else afterKeep toks (depth - 1) (j + 1)
    else afterKeep toks depth (j + 1)
  else toks.size - 1
termination_by toks.size - j

end TokenStream

namespace Statement

/-- The limit of a loop, written `.r.N` at index `j`, and the index behind it. -/
def loopLimit (toks : TokenStream) (line j : Nat) : Act (Int × Nat) := do
  let first := toks.peek j
  if first.line == line && first.isSymbol .dot && (toks.peek (j + 1)).isName "r" &&
      (toks.peek (j + 2)).isSymbol .dot then
    return (Number.toInt64 ((← get).tokenNumber (toks.peek (j + 3))), j + 4)
  else return (0, j)

/-- The source a loop walks over at index `j`, with the index behind it. -/
def walkSource (toks : TokenStream) (j : Nat) : Act (String × Nat) := do
  let m ← get
  match (toks.peek j).lexeme with
  | .text s => return (m.interpolate s, j + 1)
  | _ =>
    let (name, last) := toks.bracedName j
    return (m.getD name "", last + 1)

/-- The walk of a loop, written `on source as {Item} {Value}` at index `j`. -/
def loopWalk? (toks : TokenStream) (line j : Nat) : Act (Option Walk) := do
  let first := toks.peek j
  if first.line == line && (first.isWord .on || first.isWord .atWord) then
    let (raw, j) ← walkSource toks (j + 1)
    if (toks.peek j).isWord .asWord then
      let (itemName, last) := toks.bracedName (j + 1)
      let t := toks.peek (last + 1)
      let valueName :=
        if t.line == line && (t.isSymbol .leftBrace || t.kind == .name)
        then (toks.bracedName (last + 1)).1 else ""
      return some (Walk.through raw itemName valueName)
    else return some (Walk.through raw "" "")
  else return none

/-- Opens a loop whose options begin at index `options`.  A walk without items is left out. -/
def openLoop (toks : TokenStream) (i options : Nat) : Act Nat := do
  let head := toks.peek i
  let (limit, j) ← loopLimit toks head.line options
  let walk ← loopWalk? toks head.line j
  let last := toks.lineEnd i
  let first := toks.peek (last + 1)
  let frame : LoopFrame :=
    { resume := last + 1, valid := !first.isFinish && first.column > head.column, limit, walk }
  match walk with
  | some walk =>
    if walk.items.isEmpty then return toks.afterKeep 1 (last + 1)
    else
      modify fun m => { walk.bindItem m with loops := frame :: m.loops }
      return last
  | none =>
    modify fun m => { m with loops := frame :: m.loops }
    return last

/-- Goes back to the first line of a loop. -/
def goBack (frame : LoopFrame) : Act Nat := do
  modify fun m => { m with loops := frame :: m.loops }
  return frame.resume - 1

/-- Ends a turn of the innermost loop and decides whether there is another. -/
def keep : Statement := fun toks i => do
  let last := toks.lineEnd i
  match (← get).loops with
  | [] =>
    modify (Machine.stop (.badBlock "'keep' without an open loop"))
    return i
  | frame :: rest =>
    modify fun m => { m with loops := rest }
    if !frame.valid then return last
    else
      match frame.walk with
      | some walk =>
        let next : Walk := { walk with cursor := walk.cursor + 1 }
        if next.cursor < next.items.length then
          modify next.bindItem
          goBack { frame with walk := some next }
        else return last
      | none =>
        let count := frame.count + 1
        let condition := toks.slice (i + 1) (last + 1)
        if frame.limit > 0 && (count : Int) + 1 ≥ frame.limit then return last
        else if condition.map Token.kind == [.word .loop] then goBack { frame with count := 0 }
        else if ← Condition.holds condition then goBack { frame with count }
        else return last

/-- Leaves the innermost loop. -/
def leaveLoop : Statement := fun toks i => do
  match (← get).loops with
  | [] =>
    modify (Machine.stop (.badBlock "'stop loop' without an open loop"))
    return i
  | _ :: rest =>
    modify fun m => { m with loops := rest }
    return toks.afterKeep 1 (i + 1)

/-- Leaves the innermost loop, all loops, or the whole run. -/
def stop : Statement := fun toks i => do
  let next := toks.peek (i + 1)
  if next.isWord .loop then leaveLoop toks (i + 1)
  else if next.isWord .run then
    modify fun m => { m with ended := true }
    return i + 1
  else if next.isName "all" then
    let depth := (← get).loops.length
    modify fun m => { m with loops := [] }
    if depth = 0 then return i + 1 else return toks.afterKeep depth (i + 2)
  else abandon toks i

end Statement
end BigScript
