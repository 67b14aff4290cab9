import BigScript.Formula.Evaluate

/-!
# Operands

How a statement reads a value from its tokens: a plain token, a variable, a length, a text with
references, a built text `w(...)`, or a formula.  Every reader answers with the value and the index
of the last token that belongs to it.
-/

namespace BigScript

namespace TokenStream

/-- The index of the symbol that closes a bracket opened before index `j`, or of the end of the
stream where it is not closed. -/
def closing (toks : TokenStream) (opener closer : Symbol) (depth j : Nat) : Nat :=
  if h : j < toks.size then
    if toks[j].isFinish then j
    else if toks[j].isSymbol opener then closing toks opener closer (depth + 1) (j + 1)
    else if toks[j].isSymbol closer then
      if depth = 0 then j else closing toks opener closer (depth - 1) (j + 1)
    else closing toks opener closer depth (j + 1)
  else j
termination_by toks.size - j

/-- The closing symbol does not stand before the index from which it is looked for. -/
theorem le_closing (toks : TokenStream) (opener closer : Symbol) (depth j : Nat) :
    j ≤ toks.closing opener closer depth j := by
  fun_induction closing toks opener closer depth j <;> omega

/-- The last index that belongs to a bracket whose end was looked for: the closing symbol itself,
or the token before the end of the stream. -/
def lastOf (toks : TokenStream) (stop : Nat) : Nat :=
  if (toks.peek stop).isFinish then stop - 1 else stop

/-- Whether a built text begins at an index. -/
def opensWarp (toks : TokenStream) (i : Nat) : Bool :=
  (toks.peek (i + 1)).isSymbol .leftParen &&
    match (toks.peek i).lexeme with
    | .word .warp => true
    | .name s => s == "w" || s == "warp"
    | _ => false

/-- Whether a formula in brackets begins at an index. -/
def opensSolve (toks : TokenStream) (i : Nat) : Bool :=
  (toks.peek i).isWord .solve && (toks.peek (i + 1)).isSymbol .leftBracket

/-- Whether two neighbouring tokens are written with a gap between them. -/
def gapBetween (before after : Token) : Bool :=
  after.line != before.line || after.column > before.column + before.width

/-- Tokens as they are written, with a space wherever the script has a gap.  `before` is the token
in front of them. -/
def writtenFrom (before : Token) : List Token → String
  | [] => ""
  | t :: rest =>
    (if gapBetween before t then " " else "") ++ t.rawName ++ writtenFrom t rest

/-- Tokens as they are written, with a space wherever the script has a gap. -/
def written : List Token → String
  | [] => ""
  | t :: rest => t.rawName ++ writtenFrom t rest

/-- Skips the words and signs for a target in front of a value, the last token excepted. -/
def skipAts (toks : TokenStream) (i : Nat) : Nat :=
  if h : i + 1 < toks.size then
    if toks[i].isSymbol .at || toks[i].isWord .atWord then skipAts toks (i + 1) else i
  else i
termination_by toks.size - i

/-- Skipping never moves back. -/
theorem le_skipAts (toks : TokenStream) (i : Nat) : i ≤ toks.skipAts i := by
  fun_induction skipAts toks i <;> omega

/-- Statement words and the ampersand, which end a formula on its line. -/
def endsFormula (kind : Kind) : Bool :=
  [Kind.symbol .ampersand, .word .print, .word .set, .word .start, .word .loop, .word .ifWord,
    .word .orWord, .word .endWord].contains kind

/-- The number of tokens from index `i` on that can belong to a formula on the given line. -/
def formulaRun (toks : TokenStream) (line i : Nat) : Nat :=
  if h : i < toks.size then
    if toks[i].isFinish || toks[i].line != line || endsFormula toks[i].kind then 0
    else formulaRun toks line (i + 1) + 1
  else 0
termination_by toks.size - i

/-- The index after a formula that begins at index `i`. -/
def formulaEnd (toks : TokenStream) (i : Nat) : Nat := i + toks.formulaRun (toks.peek i).line i

end TokenStream

namespace Operand

/-- Reads a built text: the tokens between the parentheses as they are written, with their
references replaced. -/
def warp (toks : TokenStream) (i : Nat) : Act (String × Nat) := do
  let stop := toks.closing .leftParen .rightParen 0 (i + 2)
  let text := Text.trim (TokenStream.written (toks.slice (i + 2) stop))
  return ((← get).interpolate text, toks.lastOf stop)

/-- Reads a formula in brackets. -/
def solve (toks : TokenStream) (i : Nat) : Act (Float × Nat) := do
  let stop := toks.closing .leftBracket .rightBracket 0 (i + 2)
  return (← Formula.evaluate (toks.slice (i + 2) stop), toks.lastOf stop)

/-- Reads one value at an index that holds no sign for a target. -/
def valueAt (toks : TokenStream) (i : Nat) : Act (String × Nat) := do
  let m ← get
  let t := toks.peek i
  let next := toks.peek (i + 1)
  if t.isWord .len then
    let (name, last) := toks.bracedName (i + 1)
    return (Number.digitText (m.valueLength name), last)
  else if t.isSymbol .dollar && next.kind == .name then
    return (m.getD next.content ("$" ++ next.content), i + 1)
  else if t.isSymbol .leftBrace && (toks.peek (i + 2)).isSymbol .rightBrace then
    let (name, last) := toks.bracedName i
    return (m.getD name name, last)
  else if toks.opensWarp i then warp toks i
  else if toks.opensSolve i then
    let (x, last) ← solve toks i
    return (Number.format x, last)
  else
    match t.lexeme with
    | .text s => return (m.interpolate s, i)
    | _ => return (m.tokenValue t, i)

/-- Reads one value. -/
def value (toks : TokenStream) (i : Nat) : Act (String × Nat) := valueAt toks (toks.skipAts i)

/-- Reads one value and replaces the references in it. -/
def text (toks : TokenStream) (i : Nat) : Act (String × Nat) := do
  let (v, last) ← value toks i
  return ((← get).interpolate v, last)

/-- Reads the value of an assignment: a built text, a formula in brackets, a formula on the rest of
the statement, or a single value. -/
def assigned (toks : TokenStream) (i : Nat) : Act (String × Nat) := do
  if toks.opensWarp i then warp toks i
  else if toks.opensSolve i then
    let (x, last) ← solve toks i
    return (Number.format x, last)
  else
    let stop := toks.formulaEnd i
    let row := toks.slice i stop
    if Formula.isMath row then
      return (Number.format (← Formula.evaluate row), stop - 1)
    else if (toks.peek i).isFinish then return ("", i - 1)
    else value toks i

/-- Words of drawing statements, which end a formula in them. -/
def endsMeasure (t : Token) : Bool :=
  [Kind.symbol .at, .word .atWord, .symbol .ampersand, .word .fill, .word .stroke, .word .spacing,
    .word .padding, .word .font, .word .rotate, .word .scale, .word .alpha, .word .tint,
    .word .layer, .word .tag].contains t.kind ||
  (t.kind == .name &&
    ["size", "font", "radius", "fill", "color", "fontsize", "width", "tag", "layer"].contains
      (Text.lower t.content))

/-- Tokens after which a formula is complete if another value follows. -/
def endsValue (t : Token) : Bool :=
  [Kind.number, .rate, .name, .text, .symbol .rightParen].contains t.kind

/-- Tokens that begin another value. -/
def beginsValue (t : Token) : Bool :=
  endsValue t || t.isSymbol .leftParen || (t.kind.isWord && !Formula.isMathKind t.kind)

/-- The leading tokens of a line that form one measure: up to a word that ends it, or to where one
value directly follows another. -/
def measureRun (line : Nat) (before : Option Token) : List Token → List Token
  | [] => []
  | t :: rest =>
    if t.isFinish || t.line != line || endsMeasure t || (before.any endsValue && beginsValue t)
    then []
    else t :: measureRun line (some t) rest

/-- Reads a formula in a drawing statement.  Where there is none it is zero and no token is
used. -/
def measure (toks : TokenStream) (i : Nat) : Act (Float × Nat) := do
  let run := measureRun (toks.peek i).line none (toks.slice i toks.size)
  if run.isEmpty then return (0, i)
  else return (← Formula.evaluate run, i + run.length - 1)

end Operand
end BigScript
