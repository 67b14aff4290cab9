import BigScript.Statement.Basic
import BigScript.Token.Scan

/-!
# Functions

Definitions, calls in a fresh local frame, calls in the background, bodies run in the current scope,
and other script files run in the current scope.
-/

namespace BigScript

namespace TokenStream

/-- The index of `end doing` from index `j` on, or of the end of the stream. -/
def bodyEnd (toks : TokenStream) (j : Nat) : Nat :=
  if h : j < toks.size then
    if toks[j].isFinish || (toks[j].isWord .endWord && (toks.peek (j + 1)).isWord .doing) then j
    else bodyEnd toks (j + 1)
  else j
termination_by toks.size - j

/-- The index of the first closing parenthesis from index `j` on, or of the end of the stream. -/
def paramsEnd (toks : TokenStream) (j : Nat) : Nat :=
  if h : j < toks.size then
    if toks[j].isFinish || toks[j].isSymbol .rightParen then j else paramsEnd toks (j + 1)
  else j
termination_by toks.size - j

end TokenStream

/-- The deepest nesting of calls; the top level counts as one. -/
def deepestCall : Nat := 100

namespace Statement

/-- The parameters and the index of the first token of the body of a function whose name stands at
index `i`. -/
def parameters (toks : TokenStream) (i : Nat) : List String × Nat :=
  if (toks.peek (i + 1)).isSymbol .leftParen then
    let stop := toks.paramsEnd (i + 2)
    (((toks.slice (i + 2) stop).filter fun t => !t.isMark ',').map Token.rawName, stop + 1)
  else ([], i + 1)

/-- Defines a function.  Its body ends at the first `end doing`. -/
def define : Statement := fun toks i => do
  let (params, first) := parameters toks (i + 2)
  let stop := toks.bodyEnd first
  let last := toks.peek stop
  let finish : Token := { lexeme := .finish, line := last.line, column := last.column }
  modify (Machine.define
    { name := (toks.peek (i + 2)).rawName, params, body := (toks.extract first stop).push finish })
  if last.isWord .endWord then return stop + 1 else return stop - 1

/-- The local frame of a call: parameters without an argument are bound to nothing. -/
def callFrame (params args : List String) : Bindings :=
  Bindings.ofList (params.mapIdx fun k param => (param, args.getD k Value.nothing))

/-- Runs a function in a fresh local frame and gives its result. -/
def invoke (run : Runner) (procedure : Procedure) (args : List String) (line column : Nat) :
    Act String := do
  let before ← get
  modify fun m => { m with depth := m.depth + 1 }
  if before.depth + 1 > deepestCall then
    modify (Machine.stop (.stackOverflow deepestCall))
    modify fun m => { m with depth := m.depth - 1 }
    return Value.nothing
  else
    modify (Machine.pushScope (callFrame procedure.params args))
    modify fun m =>
      { m with
        calls := { name := procedure.name, line, column } :: m.calls
        loops := []
        globals := m.globals.erase "ReturnValue" }
    run procedure.body
    modify Machine.endInvocation
    modify fun m =>
      { m.popScope with
        returning := false
        loops := before.loops
        taken := before.taken
        calls := m.calls.drop 1
        depth := m.depth - 1 }
    return ((← get).globals.find? "ReturnValue").getD Value.nothing

/-- The bug of a call to a function that is not there. -/
def undefinedFunction (name : String) : String := "Function '" ++ name ++ "' is not defined"

/-- Runs a function on a thread of its own that shares variables and functions with this one. -/
def inBackground (run : Runner) (procedure : Procedure) : Act Unit := do
  let before ← get
  set { before with toThread := { lastReading := before.elapsed } }
  let _ ← invoke run procedure [] before.line before.column
  modify fun m => { m with toThread := before.toThread }

/-- Reads the arguments of a call from index `j` up to the closing parenthesis.  The answer holds
the index of that parenthesis, or of the end of the stream. -/
def arguments (toks : TokenStream) (steps j : Nat) (read : List String) :
    Act (List String × Nat) := do
  match steps with
  | 0 => return (read.reverse, j)
  | steps + 1 =>
    let t := toks.peek j
    if t.isFinish || t.isSymbol .rightParen then return (read.reverse, j)
    else if t.isMark ',' then arguments toks steps (j + 1) read
    else
      let (value, last) ← Operand.value toks j
      arguments toks steps (last + 1) (value :: read)

/-- The arguments of a call of the function named at an index, with the index of the call's last
token. -/
def callArguments (toks : TokenStream) (i : Nat) : Act (List String × Nat) := do
  if (toks.peek (i + 1)).isSymbol .leftParen then
    let (args, stop) ← arguments toks (toks.size + 1) (i + 2) []
    return (args, toks.lastOf stop)
  else return ([], i)

/-- Calls the function named at an index. -/
def call (run : Runner) (head : Token) (toks : TokenStream) (i : Nat) : Act Nat := do
  let name := (toks.peek i).rawName
  let (args, last) ← callArguments toks i
  match (← get).procedure? name with
  | none =>
    raise (undefinedFunction name)
    return last
  | some procedure =>
    let result ← invoke run procedure args head.line head.column
    if (← get).halt.isSome then return last else finish toks last [result]

/-- Starts the function named at an index in the background. -/
def callInBackground (run : Runner) (toks : TokenStream) (i : Nat) : Act Nat := do
  let name := (toks.peek i).rawName
  match (← get).procedure? name with
  | none => raise (undefinedFunction name)
  | some procedure => inBackground run procedure
  return i

/-- Runs the body of a function in the current scope, or ends the whole run. -/
def inline (run : Runner) : Statement := fun toks i => do
  let next := toks.peek (i + 1)
  if next.isWord .endWord then
    modify fun m => { m with ended := true }
    return i + 1
  else
    match (← get).procedure? next.rawName with
    | none =>
      raise (undefinedFunction next.rawName)
      return i + 1
    | some procedure =>
      let before ← get
      modify fun m => { m with depth := m.depth + 1 }
      if before.depth + 1 > deepestCall then
        modify (Machine.stop (.stackOverflow deepestCall))
        modify fun m => { m with depth := m.depth - 1 }
        return i + 1
      else
        modify fun m => { m with loops := [] }
        run procedure.body
        modify fun m => { m with loops := before.loops, depth := m.depth - 1 }
        return i + 1

/-- Where a file that a script includes is looked for. -/
def includePath (m : Machine) (path : String) : String :=
  if Path.isAbsolute path || m.folder.isEmpty then path else Path.join m.folder path

/-- Runs another script file in the current scope. -/
def includeFile (run : Runner) (path : String) : Act Unit := do
  let m ← get
  match m.files.read (includePath m path) with
  | .error _ => raise ("File Error: Could not read '" ++ includePath m path ++ "'")
  | .ok source => run (scan source)

/-- The path of the file that a `use` statement includes, with the index of its last token. -/
def includedFile? (toks : TokenStream) (i : Nat) (m : Machine) : Option (String × Nat) :=
  match (toks.peek (i + 1)).lexeme with
  | .word .lab => some (m.interpolate (toks.peek (i + 2)).content, i + 2)
  | .text s => some (m.interpolate s, i + 1)
  | _ => none

/-- Switches on the feature that a `use` statement names. -/
def useFeature : Statement := fun toks i => do
  let next := toks.peek (i + 1)
  match next.kind with
  | .word .sql => modify (Machine.enable "sql"); return i + 1
  | .word .pyBig => modify (Machine.enable "pybig"); return i + 1
  | .word .sbig => modify (Machine.enable "sbig"); return i + 1
  | .word k =>
    if k == .guy || k == .sound || k == .autoLayering then
      printLine ("Big Error: '" ++ k.spelling ++ "' is not available in this build. (Line " ++
        Number.digitText next.line ++ ")")
      return i + 1
    else return i
  | _ =>
    if next.isName "web" then
      modify (Machine.enable "web")
      return i + 1
    else return i

/-- Runs another script file, or switches a feature on. -/
def use (run : Runner) : Statement := fun toks i => do
  match includedFile? toks i (← get) with
  | some (path, last) =>
    includeFile run path
    return last
  | none => useFeature toks i

end Statement
end BigScript
