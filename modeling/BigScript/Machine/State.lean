import BigScript.Fault
import BigScript.Files.Tree
import BigScript.Machine.Bindings
import BigScript.Net.Exchange
import BigScript.Token.Basic
import BigScript.Value

/-!
# The state of a run

A machine is everything a running script reads and changes: the world around it (files, input and
output, the clock), what it shares with the runs it starts in the background (variables, functions,
switches), and its own thread of control (local variables, open loops and calls, a pending bug, the
fault that stopped it).
-/

namespace BigScript

/-- The world around a run. -/
structure World where
  files : FileTree := {}
  environment : List (String × String) := []
  /-- The input that has not been read yet. -/
  input : List Char := []
  output : String := ""
  log : String := ""
  /-- Nanoseconds since the run started. -/
  elapsed : Nat := 0
  /-- Seconds of the calendar clock when the run started. -/
  calendar : Nat := 0
  /-- The state of the source of random numbers. -/
  luck : UInt64 := 0
  network : Network := Network.offline
  /-- Whether the program has died.  What a machine does after that is seen by nobody. -/
  crashed : Bool := false

/-- A function: its parameters and the tokens of its body. -/
structure Procedure where
  name : String
  params : List String
  body : TokenStream

/-- What a loop over the items of a value keeps. -/
structure Walk where
  items : List String
  raw : String
  isMap : Bool
  itemName : String
  valueName : String
  cursor : Nat := 0

/-- An open loop.  `resume` is the index of the first token of its body; a loop without an indented
body is not `valid`, and its first `keep` ends it. -/
structure LoopFrame where
  resume : Nat
  valid : Bool
  count : Nat := 0
  limit : Int := 0
  walk : Option Walk := none

/-- What a run shares with the runs it starts in the background. -/
structure Shared extends World where
  globals : Bindings := {}
  procedures : List (String × Procedure) := []
  features : List String := []
  /-- The lines of the source that is quoted in diagnostics. -/
  lines : List String := []
  args : List String := []
  /-- The folder that included files are looked up in. -/
  folder : String := ""
  debug : Bool := false
  healing : Bool := false
  /-- Whether a statement has ended the whole run. -/
  ended : Bool := false
  /-- The frame time supplied from outside, in nanoseconds. -/
  frame : Int := 0
  events : List String := []
  client : ClientSettings := {}
  /-- Whether the run has been cancelled from outside. -/
  cancelled : Bool := false
  /-- The time at which the run is cancelled. -/
  deadline : Option Nat := none
  /-- Whether the run was given up because its bound on steps was used up. -/
  exhausted : Bool := false

/-- The control state of one thread of execution.  Innermost frames come first. -/
structure Thread where
  locals : List Bindings := []
  loops : List LoopFrame := []
  calls : List CallSite := []
  depth : Nat := 1
  bug : Option String := none
  /-- The messages of the bugs raised so far, the last one first.  No statement reads this history; it
  is what the protocol of bugs is about. -/
  raises : List String := []
  returning : Bool := false
  halt : Option Fault := none
  /-- Whether a branch of the current chain has been taken. -/
  taken : Bool := false
  line : Nat := 0
  column : Nat := 0
  /-- The last line that was traced. -/
  traced : Nat := 0
  /-- When a variable was last eased towards a target. -/
  lastStep : Option Nat := none
  /-- When the time since the previous reading was last read. -/
  lastReading : Nat := 0

/-- A running script. -/
structure Machine extends Shared, Thread

/-- A step of a running script. -/
abbrev Act := StateM Machine

namespace Machine

/-- Adds text to the output. -/
def print (text : String) (m : Machine) : Machine := { m with output := m.output ++ text }

/-- Adds a line to the log. -/
def note (line : String) (m : Machine) : Machine :=
  { m with log := m.log ++ (if Text.endsWith line "\n" then line else line ++ "\n") }

/-- Lets the program die. -/
def crash (m : Machine) : Machine := { m with crashed := true }

/-- Milliseconds since the run started. -/
def tick (m : Machine) : Nat := m.elapsed / 1000000

/-- The whole number of nanoseconds as seconds. -/
def seconds (nanoseconds : Nat) : Float :=
  Number.ofInt (nanoseconds / 1000000000) + Number.ofInt (nanoseconds % 1000000000) / 1e9

/-- The time of a frame in seconds: the one supplied from outside, or else the time since the last
reading. -/
def frameSeconds (m : Machine) : Float :=
  if m.frame > 0 then seconds m.frame.toNat else seconds (m.elapsed - m.lastReading)

/-- The trimmed text of a line of the source, counted from one. -/
def sourceLine (m : Machine) (n : Int) : String :=
  if n < 1 then "" else ((m.lines[(n - 1).toNat]?).map Text.trim).getD ""

/-- Whether a feature has been switched on. -/
def isEnabled (m : Machine) (feature : String) : Bool := m.features.contains (Text.lower feature)

/-- Switches a feature on. -/
def enable (feature : String) (m : Machine) : Machine :=
  if m.isEnabled feature then m else { m with features := Text.lower feature :: m.features }

/-- Records a bug.  The run stops at the next statement unless that one checks for bugs. -/
def raiseBug (message : String) (m : Machine) : Machine :=
  { m with
    bug := some message
    raises := message :: m.raises
    globals := m.globals.set "BugType" message }

/-- Drops the pending bug. -/
def clearBug (m : Machine) : Machine := { m with bug := none }

/-- A fault with the place of the current statement, the line it is written on and the open calls
filled in. -/
def annotate (m : Machine) (fault : Fault) : Fault :=
  let fault := if fault.line = 0 then fault.placed m.line m.column else fault
  let fault :=
    if fault.trigger.isEmpty then { fault with trigger := m.sourceLine fault.line } else fault
  if fault.stack.isEmpty then
    { fault with stack := m.calls.map fun call => { call with source := m.sourceLine call.line } }
  else fault

/-- Stops the run and writes the diagnostic block.  A run that has stopped stays as it is. -/
def stop (cause : Cause) (m : Machine) : Machine :=
  match m.halt with
  | some _ => m
  | none =>
    let fault := m.annotate { cause }
    { m with halt := some fault, output := m.output ++ fault.report }

/-- Stops the run because of the pending bug. -/
def stopOnBug (m : Machine) : Machine :=
  let message := m.bug.getD ""
  m.stop (.bug (if message.isEmpty then "unknown bug" else message))

/-- Whether the current thread executes no further statement. -/
def isStopped (m : Machine) : Bool := m.halt.isSome || m.returning || m.ended || m.exhausted

/-- Turns a bug that nothing checked into a stop at the end of an invocation. -/
def endInvocation (m : Machine) : Machine :=
  if m.halt.isNone && m.bug.isSome then m.stopOnBug else m

/-- Why the run has been cancelled from outside, if it has. -/
def cancellation? (m : Machine) : Option String :=
  if m.cancelled then some "context canceled"
  else
    match m.deadline with
    | some time => if time ≤ m.elapsed then some "context deadline exceeded" else none
    | none => none

/-- Lets time pass, up to the time at which the run is cancelled. -/
def sleep (nanoseconds : Nat) (m : Machine) : Machine :=
  if m.cancelled then m
  else
    match m.deadline with
    | some time => { m with elapsed := min (m.elapsed + nanoseconds) (max time m.elapsed) }
    | none => { m with elapsed := m.elapsed + nanoseconds }

end Machine
end BigScript
