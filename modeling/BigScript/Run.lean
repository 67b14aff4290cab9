import BigScript.Statement.Assign
import BigScript.Statement.Call
import BigScript.Statement.Control
import BigScript.Token.Heal
import BigScript.Token.Reserved
import BigScript.Verb.Bits
import BigScript.Verb.Console
import BigScript.Verb.Task
import BigScript.Verb.Web
import BigScript.Verb.Words

/-!
# Runs

A run walks through the tokens of a script.  Before each statement it checks whether it has to stop:
because it has been stopped, because it was cancelled from outside, or because a bug is pending that
the statement does not ask for.
-/

namespace BigScript
namespace Verb

/-- The statements that are no part of the control flow, by the words they begin with. -/
def all (run : Runner) : List (Kind × Statement) :=
  [(.word .attach, attach run),
   (.word .print, print), (.word .wait, wait), (.word .ask, ask), (.word .take, take),
   (.word .reset, reset), (.word .command, command), (.word .build, build), (.word .reply, reply),
   (.word .split, split), (.word .replace, replace), (.word .bmath, findPattern),
   (.word .pack, pack), (.word .unpack, unpack), (.word .list, list), (.word .map, map),
   (.word .event, event), (.word .get, getValue), (.word .openWord, openFile),
   (.word .write, writeFile false), (.word .add, writeFile true), (.word .create, create),
   (.word .delete, delete), (.word .copy, copyFile), (.word .move, moveFile), (.word .bit, bit),
   (.word .sql, sql), (.word .dbig, dbig), (.foreign, foreign), (.word .userAgent, userAgent),
   (.word .proxy, proxy), (.word .header, header), (.word .look, look)]

end Verb

namespace Statement

/-- Carries out a start word: a loop, a definition, or a block that has no meaning in a script. -/
def start : Statement := fun toks i => do
  let next := toks.peek (i + 1)
  if next.isWord .loop then openLoop toks i (i + 2)
  else if next.isWord .doing then define toks i
  else
    if next.isWord .server then
      printLine ("Big Error: 'start server' is not available in scripts. " ++
        "Serve them with 'bigrun serve'. (Line " ++ Number.digitText next.line ++ ")")
    skipBlock toks i

/-- Carries out a run word: a table statement, or a call here or in the background. -/
def runWord (run : Runner) : Statement := fun toks i => do
  let next := toks.peek (i + 1)
  if next.isWord .sql then Verb.sql toks (i + 1)
  else if next.isWord .background then callInBackground run toks (i + 2)
  else call run (toks.peek i) toks (i + 1)

/-- Carries out a statement that has no word of its own: an assignment, or a line that is left
out. -/
def plain : Statement := fun toks i => do
  if toks.isAssignment i then assign toks i
  else if (toks.peek i).kind.isWord then abandon toks i
  else return i

/-- Carries out a statement of the control flow that runs no other tokens, or one without a word of
its own. -/
def direct : Statement := fun toks i => do
  match (toks.peek i).kind with
  | .word .returnWord => giveBack toks i
  | .word .ifWord => branch toks i
  | .word .orWord => alternative toks i
  | .word .start => start toks i
  | .word .startLoop => openLoop toks i (i + 1)
  | .word .keep => keep toks i
  | .word .stop => stop toks i
  | .word .stopLoop => leaveLoop toks i
  | .word .step => step toks i
  | .word .set => assignWord toks i
  | .word .update => assignWord toks i
  | .word .global => assignWord toks i
  | .word .on => skipBlock toks i
  | .word .pin => skipBlock toks i
  | .word .control => skipBlock toks i
  | .symbol .leftBracket =>
    if (toks.peek (i + 1)).isWord .blueprint || (toks.peek (i + 1)).isWord .style
    then skipBlock toks i else return i
  | .symbol .ampersand => return i
  | _ => plain toks i

/-- Carries out the statement at an index. -/
def dispatch (run : Runner) : Statement := fun toks i => do
  match (toks.peek i).kind with
  | .word .run => runWord run toks i
  | .word .addrun => inline run toks i
  | .word .use => use run toks i
  | kind =>
    match (Verb.all run).lookup kind with
    | some verb => verb toks i
    | none => direct toks i

end Statement

namespace Machine

/-- Logs the line of a token while debugging, once for each line. -/
def trace (t : Token) (m : Machine) : Machine :=
  if t.line != m.traced && m.isDebugging then
    { m.note ("[TRACE] Line " ++ Number.digitText t.line ++ ": " ++ m.sourceLine t.line) with
      traced := t.line }
  else m

/-- Moves to a token: it becomes the place of what happens next. -/
def moveTo (t : Token) (m : Machine) : Machine :=
  { m.trace t with line := t.line, column := t.column }

/-- Time that a statement takes, in nanoseconds. -/
def statementTime : Nat := 1000

/-- Walks through tokens from an index on.  The first argument bounds the number of statements on
every path of nested runs. -/
def exec : (steps : Nat) → TokenStream → (i : Nat) → Machine → Machine
  | 0, _, _, m => { m with exhausted := true }
  | steps + 1, toks, i, m =>
    if h : i < toks.size then
      if m.isStopped then m
      else
        match m.cancellation? with
        | some reason => m.stop (.cancelled (some reason))
        | none =>
          let t := toks[i]
          if t.isFinish then m
          else
            let m := m.moveTo t
            if m.bug.isSome && !toks.asksForBug i then m.stopOnBug
            else
              let m := { m with elapsed := m.elapsed + statementTime }
              let run : Runner := fun inner => modify (exec steps inner 0)
              let (last, m) := (Statement.dispatch run toks i).run m
              exec steps toks (last + 1) m
    else m

/-- A bound on statements that no run in practice uses up. -/
def patience : Nat := Number.twoTo 62

/-- Walks through tokens in the current scope. -/
def runTokens (toks : TokenStream) (m : Machine) : Machine := m.exec patience toks 0

/-- Runs tokens as the outermost invocation. -/
def runAll (toks : TokenStream) (m : Machine) : Machine := (m.runTokens toks).endInvocation

/-- The tokens of a source; blocks that are not closed are closed where that was asked for. -/
def prepare (source : String) (m : Machine) : TokenStream × Machine :=
  let toks := scan source
  let toks := if m.healing || Text.occursIn "attach fixer" source then heal toks else toks
  (toks, { m with lines := Text.split "\n" source })

/-- Runs a source.  A source that uses a reserved name is refused; the answer is the fault that
stopped the run. -/
def runSource (source : String) (m : Machine) : Option Fault × Machine :=
  let (toks, m) := m.prepare source
  match offence? toks with
  | some report => (some { cause := .badScript "script failed validation" }, m.print report)
  | none =>
    let m := m.runAll toks
    (m.halt, m)

/-- Runs a script file.  Its folder becomes the one that included files are looked up in, unless
there is one already. -/
def runFile (path : String) (m : Machine) : Option Fault × Machine :=
  match m.files.read path with
  | .error problem =>
    (some { cause := .notFound ("could not read script '" ++ path ++ "': " ++
      problem.reading path) }, m)
  | .ok source =>
    runSource source (if m.folder.isEmpty then { m with folder := Path.folder path } else m)

/-- Makes a stopped machine ready to run again; variables and functions are kept. -/
def restart (m : Machine) : Machine :=
  { m with
    halt := none, bug := none, returning := false, ended := false
    locals := [], loops := [], calls := [], depth := 1 }

/-- A machine at the start of a run. -/
def start (shared : Shared) : Machine :=
  let m : Machine := { toShared := shared, toThread := {} }
  if shared.debug then m.setGlobal "BigDebug" "true" else m

end Machine
end BigScript
