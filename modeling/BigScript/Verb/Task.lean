import BigScript.Statement.Basic
import BigScript.Verb.Book

/-!
# Tasks

`build task` runs a line of a small command language and binds what it writes.  The language has
words with quotes and variables, commands joined by `;`, `&&` and `||`, output sent to files, and
the commands that print texts, print files, wait and end with a status.
-/

namespace BigScript
namespace Task

/-- The units of a command line. -/
inductive Unit where
  | word (text : String)
  | mark (text : String)
deriving DecidableEq, Repr

/-- Characters of names of variables. -/
def isNameChar (c : Char) : Bool := c.isAlphanum || c == '_'

/-- What can be seen from a command line. -/
structure Setting where
  environment : List (String × String)
  status : Nat := 0

/-- Reads a variable behind a dollar sign. -/
def variableAt (setting : Setting) (cs : List Char) : String × List Char :=
  match cs with
  | '?' :: rest => (Number.digitText setting.status, rest)
  | '{' :: rest =>
    let name := rest.takeWhile (· != '}')
    ((setting.environment.lookup (String.ofList name)).getD "", rest.drop (name.length + 1))
  | cs =>
    let name := cs.takeWhile isNameChar
    if name.isEmpty then ("$", cs)
    else ((setting.environment.lookup (String.ofList name)).getD "", cs.drop name.length)

/-- Reads a text in double quotes behind the opening quote. -/
def doubleQuoted (setting : Setting) (steps : Nat) (text : String) (cs : List Char) :
    String × List Char :=
  match steps with
  | 0 => (text, cs)
  | steps + 1 =>
    match cs with
    | [] => (text, [])
    | '"' :: rest => (text, rest)
    | '\\' :: c :: rest =>
      if c == '"' || c == '\\' || c == '$' then
        doubleQuoted setting steps (text.push c) rest
      else doubleQuoted setting steps ((text.push '\\').push c) rest
    | '$' :: rest =>
      let (value, rest) := variableAt setting rest
      doubleQuoted setting steps (text ++ value) rest
    | c :: rest => doubleQuoted setting steps (text.push c) rest

/-- Adds the word being read to the units read before. -/
def closeWord (word : Option String) (units : List Unit) : List Unit :=
  match word with
  | some text => .word text :: units
  | none => units

/-- Splits a command line into units, kept in reverse. -/
def unitsFrom (setting : Setting) (steps : Nat) (word : Option String) (units : List Unit)
    (cs : List Char) : List Unit :=
  match steps with
  | 0 => closeWord word units
  | steps + 1 =>
    match cs with
    | [] => closeWord word units
    | '\x27' :: rest =>
      let quoted := rest.takeWhile (· != '\x27')
      unitsFrom setting steps (some (word.getD "" ++ String.ofList quoted)) units
        (rest.drop (quoted.length + 1))
    | '"' :: rest =>
      let (text, rest) := doubleQuoted setting rest.length (word.getD "") rest
      unitsFrom setting steps (some text) units rest
    | '\\' :: c :: rest => unitsFrom setting steps (some ((word.getD "").push c)) units rest
    | '$' :: rest =>
      let (value, rest) := variableAt setting rest
      unitsFrom setting steps (some (word.getD "" ++ value)) units rest
    | '&' :: '&' :: rest => mark steps "&&" rest
    | '|' :: '|' :: rest => mark steps "||" rest
    | '>' :: '>' :: rest => mark steps ">>" rest
    | '>' :: '&' :: '2' :: rest => mark steps ">&2" rest
    | '>' :: rest => mark steps ">" rest
    | ';' :: rest => mark steps ";" rest
    | '\n' :: rest => mark steps ";" rest
    | c :: rest =>
      if c == ' ' || c == '\t' then unitsFrom setting steps none (closeWord word units) rest
      else unitsFrom setting steps (some ((word.getD "").push c)) units rest
termination_by (steps, 0)
where
  /-- Adds a mark behind the word being read. -/
  mark (steps : Nat) (text : String) (rest : List Char) : List Unit :=
    unitsFrom setting steps none (.mark text :: closeWord word units) rest
  termination_by (steps, 1)

/-- The units of a command line. -/
def units (setting : Setting) (line : String) : List Unit :=
  (unitsFrom setting (line.length + 1) none [] line.toList).reverse

/-- Where the output of a command goes. -/
inductive Sink where
  | output
  | nowhere
  | file (path : String) (adding : Bool)
deriving DecidableEq, Repr

/-- The words of one command and where its output goes; the answer holds the units behind it. -/
def command (words : List String) (sink : Sink) : List Unit → List String × Sink × List Unit
  | [] => (words.reverse, sink, [])
  | .word text :: rest => command (text :: words) sink rest
  | .mark ">&2" :: rest => command words .nowhere rest
  | .mark ">" :: .word path :: rest => command words (.file path false) rest
  | .mark ">>" :: .word path :: rest => command words (.file path true) rest
  | .mark text :: rest => (words.reverse, sink, .mark text :: rest)

/-- The outcome of a command. -/
structure Outcome where
  output : String := ""
  status : Nat := 0
  /-- Whether the command ends the whole line. -/
  ends : Bool := false
  /-- Nanoseconds the command waits. -/
  pause : Nat := 0

/-- The texts of files one after another, and whether all could be read. -/
def filesText (files : FileTree) : List String → String × Bool
  | [] => ("", true)
  | path :: rest =>
    let (text, fine) := filesText files rest
    match files.read path with
    | .ok content => (content ++ text, fine)
    | .error _ => (text, false)

/-- Runs one command. -/
def runCommand (files : FileTree) (steps : Nat) (words : List String) : Outcome :=
  match steps with
  | 0 => {}
  | steps + 1 =>
    match words with
    | [] => {}
    | "echo" :: "-n" :: args => { output := Text.join " " args }
    | "echo" :: args => { output := Text.join " " args ++ "\n" }
    | "printf" :: format :: args =>
      { output := args.foldl (fun text arg => match Text.cut "%s" text with
          | some (before, after) => before ++ arg ++ after
          | none => text) (Text.replaceAll "\\n" "\n" format) }
    | "cat" :: args =>
      let (output, fine) := filesText files args
      { output, status := if fine then 0 else 1 }
    | "true" :: _ => {}
    | ":" :: _ => {}
    | "false" :: _ => { status := 1 }
    | "exit" :: args => { status := ((args.head?).bind String.toNat?).getD 0 % 256, ends := true }
    | "sleep" :: arg :: _ => { pause := (Number.toInt64 (Number.parseOrZero arg * 1e9)).toNat }
    | "exec" :: rest => { runCommand files steps rest with ends := true }
    | _ => { status := 127 }

/-- The outcome of a line: what it wrote, its status, how long it waited, and the files. -/
structure Report where
  output : String := ""
  status : Nat := 0
  pause : Nat := 0
  files : FileTree

/-- Sends what a command wrote to its sink. -/
def deliver (report : Report) (sink : Sink) (outcome : Outcome) : Report :=
  let report := { report with status := outcome.status, pause := report.pause + outcome.pause }
  match sink with
  | .output => { report with output := report.output ++ outcome.output }
  | .nowhere => report
  | .file path adding =>
    match if adding then report.files.append path outcome.output
      else report.files.write path (.text outcome.output) with
    | .ok files => { report with files }
    | .error _ => { report with status := 2 }

/-- Runs the commands of a line one after another. -/
def runUnits (steps : Nat) (skipping : Bool) (report : Report) (rest : List Unit) : Report :=
  match steps with
  | 0 => report
  | steps + 1 =>
    let (words, sink, rest) := command [] .output rest
    let outcome := runCommand report.files (words.length + 1) words
    let done := if skipping || words.isEmpty then report else deliver report sink outcome
    if !skipping && outcome.ends then done
    else
      match rest with
      | .mark "&&" :: rest => runUnits steps (done.status != 0) done rest
      | .mark "||" :: rest => runUnits steps (done.status == 0) done rest
      | .mark _ :: rest => runUnits steps false done rest
      | _ => done

/-- Runs a line. -/
def run (environment : List (String × String)) (files : FileTree) (line : String) : Report :=
  let all := units { environment } line
  runUnits (all.length + 1) false { files } all

end Task

namespace Verb

/-- Runs a task and binds its output: `build task "line" & set as {Out}`.  A task that is cut off
by the end of the run's time, or that fails without output, binds the problem. -/
def build : Statement := fun toks i => do
  if (toks.peek (i + 1)).isWord .task then
    let (line, last) ← Operand.text toks (i + 2)
    let m ← get
    let report := Task.run m.environment m.files line
    setFiles report.files
    modify (Machine.sleep report.pause)
    let problem? := match (← get).cancellation? with
      | some reason => if m.cancelled then some reason else some "signal: killed"
      | none =>
        if report.status = 0 then none
        else some ("exit status " ++ Number.digitText report.status)
    let result := match problem? with
      | some problem =>
        if report.output.isEmpty then "Build Task Error: " ++ problem
        else Text.trim report.output
      | none => Text.trim report.output
    Statement.finish toks last [result]
  else Statement.abandon toks i

end Verb
end BigScript
