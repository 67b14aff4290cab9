import BigScript.Statement.Basic
import BigScript.Token.Scan

/-!
# Console and environment

Statements that talk to the console, wait, read the arguments and the request of a run, and run a
prepared environment.
-/

namespace BigScript
namespace Verb

/-- Whether a token can begin a value in a joined list such as `print "a" & B`. -/
def beginsJoined (t : Token) : Bool :=
  [Kind.text, .number, .rate, .name, .symbol .leftBrace, .symbol .dollar, .word .len, .word .solve,
    .word .warp, .word .bigTick, .word .bigDelta].contains t.kind

/-- Reads values joined by ampersands from index `j` on, on the line of the token at index `i`.
The answer holds the joined text and the index of the last token used. -/
def joinedValues (toks : TokenStream) (i : Nat) (steps j last : Nat) (text : String) :
    Act (String × Nat) := do
  match steps with
  | 0 => return (text, last)
  | steps + 1 =>
    if toks.onLine i j && !(toks.peek j).isSymbol .ampersand then
      let (value, last) ← Operand.value toks j
      let text := text ++ value
      if (toks.peek (last + 1)).isSymbol .ampersand && toks.onLine i (last + 1) &&
          beginsJoined (toks.peek (last + 2)) then
        joinedValues toks i steps (last + 2) last text
      else return (text, last)
    else return (text, last)

/-- Writes values as a line, or over the current line with `print update`. -/
def print : Statement := fun toks i => do
  let overwrites := (toks.peek (i + 1)).isWord .update && toks.onLine i (i + 1)
  let first := if overwrites then i + 1 else i
  let (text, last) ← joinedValues toks i (toks.size + 1) (first + 1) first ""
  modify (Machine.print (if overwrites then "\r" ++ text else text ++ "\n"))
  return last

/-- The whole number of nanoseconds that a number of seconds stands for. -/
def nanoseconds (seconds : Float) : Nat := (Number.toInt64 (seconds * 1e9)).toNat

/-- Waits for a number of seconds: `wait 2 s`. -/
def wait : Statement := fun toks i => do
  match Number.parse? ((← get).tokenValue (toks.peek (i + 1))) with
  | none => return i
  | some n =>
    if !toks.onLine i (i + 1) then return i
    else
      let unit := toks.peek (i + 2)
      if toks.onLine (i + 1) (i + 2) &&
          (unit.isWord .solve || (unit.kind == .name && unit.content == "s")) then
        modify (Machine.sleep (nanoseconds n))
        return i + 2
      else return i + 1

/-- Takes one line from the input. -/
def readLine : Act String := do
  let input := (← get).input
  modify fun m => { m with input := (input.dropWhile (· != '\n')).drop 1 }
  return String.ofList (input.takeWhile (· != '\n'))

/-- Asks for a line of input: `ask input "prompt" & set as {V}`. -/
def ask : Statement := fun toks i => do
  if (toks.peek (i + 1)).isWord .input then
    let prompt := toks.peek (i + 2)
    let last ←
      if prompt.kind == .text && toks.onLine (i + 1) (i + 2) then do
        modify fun m => m.print (m.interpolate prompt.content)
        pure (i + 2)
      else pure (i + 1)
    let line ← readLine
    Statement.finish toks last [Text.trim line]
  else Statement.abandon toks i

/-- Takes the body of the request a run answers. -/
def take : Statement := fun toks i => do
  if (toks.peek (i + 1)).isWord .body then
    Statement.finish toks (i + 1) [(← get).getD "RequestBody" ""]
  else Statement.abandon toks i

/-- The value of a key in a query, with plus signs read as spaces. -/
def queryValue (pairs : List String) (key : String) : String :=
  match pairs with
  | [] => Value.nothing
  | pair :: rest =>
    let (name, value) := (Text.cut "=" pair).getD (pair, "")
    if name == key then Text.replaceAll "+" " " value else queryValue rest key

/-- The value of a key in the query of a request path. -/
def pathValue (path key : String) : String :=
  match Text.cut "?" path with
  | none => Value.nothing
  | some (_, query) => queryValue (Text.split "&" query) key

/-- Copies a value into a variable, or looks a key up in the query of the request path. -/
def reset : Statement := fun toks i => do
  let (source, last) ← Operand.text toks (i + 1)
  if (toks.peek (last + 1)).isSymbol .at && toks.onLine last (last + 1) then
    let (name, last) := toks.bracedName (last + 2)
    if !name.isEmpty then modify (Machine.assign name source)
    return last
  else
    Statement.finish toks last [pathValue ((← get).getD "RequestPath" "") source]

/-- Binds the arguments of the script. -/
def command : Statement := fun toks i => do Statement.finish toks i (← get).args

/-- The folder of prepared environments. -/
def environmentFolder : String := "env_lib"

/-- Runs a prepared environment in the current scope; one that is missing is left out. -/
def attach (run : Runner) : Statement := fun toks i => do
  if toks.onLine i (i + 1) then
    let name := (toks.peek (i + 1)).rawName
    if name.isEmpty || Text.sameWord name "fixer" then return i + 1
    else
      match (← get).files.read (Path.join environmentFolder (name ++ ".bigenv")) with
      | .error _ => return i + 1
      | .ok source =>
        run (scan source)
        return i + 1
  else return i

/-- Shapes the answer to the request a run answers: its body, status, headers or file. -/
def reply : Statement := fun toks i => do
  match (toks.peek (i + 1)).lexeme with
  | .word .withWord =>
    let t := toks.peek (i + 2)
    let (body, last) ←
      match t.lexeme with
      | .name s => do pure ((← get).getD s "", i + 2)
      | _ => Operand.text toks (i + 2)
    modify fun m => (m.setGlobal "Sbig_Response_Body" body).setGlobal "Sbig_Response_File" ""
    return last
  | .word .point =>
    let status := (← get).tokenValue (toks.peek (i + 2))
    let status := if (Number.parse? status).isSome then status else "200"
    modify (Machine.setGlobal "Sbig_Response_Status" status)
    return i + 2
  | .word .note =>
    if (toks.peek (i + 3)).isWord .asWord then
      let m ← get
      let key := m.tokenValue (toks.peek (i + 2))
      let value := m.tokenValue (toks.peek (i + 4))
      let headers := m.getD "Sbig_Response_Headers" "\x7b\x7d"
      let updated := (Value.withField? headers key value).getD
        (Json.write (.object [(key, .string value)]))
      modify (Machine.setGlobal "Sbig_Response_Headers" updated)
      return i + 4
    else Statement.abandon toks i
  | .word .file =>
    let (file, last) ← Operand.text toks (i + 2)
    modify fun m => (m.setGlobal "Sbig_Response_File" file).setGlobal "Sbig_Response_Body" ""
    return last
  | _ => Statement.abandon toks i

end Verb
end BigScript
