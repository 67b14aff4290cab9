import BigScript.Machine.Operand

/-!
# Targets and results

The two ways a statement names variables beside its operands: a target attached to an at sign, and
a tail `& set as` that takes the results.
-/

namespace BigScript
namespace Results

/-- Whether a token can begin a name in a tail. -/
def beginsName (t : Token) : Bool :=
  t.isSymbol .leftBrace || t.kind == .name || t.kind.isWord

/-- Binds the names of a tail that stand on the given line from index `j` on, the first to the
first result and so on; a name without a result is bound to nothing.  The answer is the index after
the last name. -/
def bindNames (toks : TokenStream) (line : Nat) (results : List String) (j : Nat) : Act Nat := do
  if _inside : j < toks.size then
    let t := toks.peek j
    if t.line == line && beginsName t then
      let name := toks.bracedName j
      modify (Machine.assign name.1 (results.headD Value.nothing))
      bindNames toks line (results.drop 1) (name.2 + 1)
    else return j
  else return j
termination_by toks.size - j
decreasing_by
  have := toks.le_bracedName j
  omega

/-- Takes an optional tail after the token at index `i` and binds the results to its names.  The
answer is the index of the last token used. -/
def setAs (toks : TokenStream) (i : Nat) (results : List String) : Act Nat := do
  let j := if (toks.peek (i + 1)).isSymbol .ampersand then i + 2 else i + 1
  let head := toks.peek j
  if head.isWord .set && (toks.peek (j + 1)).isWord .asWord then
    let first := toks.peek (j + 2)
    if first.isWord .list && first.line == head.line then
      let (name, last) := toks.bracedName (j + 3)
      modify (Machine.assign name (Json.writeStrings results))
      return last
    else return (← bindNames toks head.line results (j + 2)) - 1
  else return i

/-- Checks the spacing around the at sign at an index: a gap before it and the target directly
behind it.  A wrong spacing is reported. -/
def checkAt (toks : TokenStream) (i : Nat) : Act Bool := do
  let sign := toks.peek i
  let before := toks.peek (i - 1)
  let next := toks.peek (i + 1)
  let place := " (Line " ++ Number.digitText sign.line ++ ")\n"
  if 0 < i && before.line == sign.line && sign.column ≤ before.column + before.width then
    modify (Machine.print ("Big Error: Missing space before '@'!" ++ place))
    return false
  else if next.line != sign.line || next.column != sign.column + 1 then
    modify (Machine.print
      ("Big Error: The target must be attached directly to '@'. No spaces allowed!" ++ place))
    return false
  else return true

/-- Reads the name of a target at an index that holds an at sign. -/
def targetName? (toks : TokenStream) (i : Nat) : Act (Option (String × Nat)) := do
  if (toks.peek i).isSymbol .at then
    if ← checkAt toks i then return some (toks.bracedName (i + 1)) else return none
  else return none

/-- Reads the value of a target at an index that holds an at sign. -/
def targetValue? (toks : TokenStream) (i : Nat) : Act (Option (String × Nat)) := do
  if (toks.peek i).isSymbol .at then
    if ← checkAt toks i then return some (← Operand.text toks (i + 1)) else return none
  else return none

end Results
end BigScript
