import BigScript.Machine.Luck
import BigScript.Run
import BigScript.Service.Catalog
import BigScript.Service.Settings

/-!
# The server

The catalog together with what running scripts needs: files, a clock, a log and the runs that are
still going on.  A run is carried out when it begins; what it leads to is recorded in the catalog when
the clock reaches the time at which it ends, unless it has been cancelled before.
-/

namespace BigScript
namespace Service

/-- How the server runs scripts. -/
structure Options where
  /-- The folder that included files are looked up in. -/
  folder : String := ""
  /-- The folder that scripts find in the variable `Dir`. -/
  dataFolder : String := ""
  /-- The longest time that a run may take in nanoseconds; zero is no limit. -/
  limit : Nat := 0
  debug : Bool := false
  heal : Bool := false
deriving DecidableEq, Repr

/-- How a run of a script ended. -/
structure Ending where
  fault : Option Fault
  output : String
  globals : Bindings
deriving DecidableEq, Repr

/-- A run that is going on: when it ends, and how. -/
structure Running where
  id : String
  script : String
  ends : Moment
  ending : Ending
deriving DecidableEq, Repr

/-- The state of the service. -/
structure Server where
  options : Options := {}
  catalog : Catalog := {}
  files : FileTree := {}
  environment : List (String × String) := []
  log : String := ""
  now : Moment := {}
  luck : UInt64 := 0
  /-- Whether a script has let the program die. -/
  crashed : Bool := false
  running : List Running := []

namespace Server

/-- Adds a line to the log. -/
def note (server : Server) (line : String) : Server := { server with log := server.log ++ line ++ "\n" }

/-- The digits of an id, with those that mark its version. -/
def idDigits (a b : Nat) : List Char :=
  let word (n : Nat) : String := Text.hexDigits 16 (n % Number.twoTo 64)
  let digits := (word a ++ word b).toList
  (digits.set 12 '4').set 16 'a'

/-- The text of an id: groups of digits with hyphens between them. -/
def idText (digits : List Char) : String :=
  let group (start size : Nat) : String := String.ofList ((digits.drop start).take size)
  Text.join "-" [group 0 8, group 8 4, group 12 4, group 16 4, group 20 12]

/-- Draws a new id. -/
def drawId (server : Server) : String × Server :=
  let first := Luck.next server.luck
  let second := Luck.next (first ^^^ (first >>> 29))
  (idText (idDigits (first ^^^ (first >>> 31)).toNat (second ^^^ (second >>> 31)).toNat),
    { server with luck := second })

/-- The machine that runs a script for this server. -/
def machine (server : Server) (args : List String) (globals : List (String × String)) : Machine :=
  let folder := server.options.dataFolder
  let globals := Bindings.ofList globals
  Machine.start {
    files := server.files
    environment := server.environment
    log := server.log
    calendar := server.now.seconds.toNat
    luck := server.luck
    crashed := server.crashed
    globals := if folder.isEmpty then globals else globals.set "Dir" folder
    args
    folder := server.options.folder
    debug := server.options.debug
    healing := server.options.heal
    deadline := if server.options.limit = 0 then none else some server.options.limit }

/-- Runs a source to its end.  The result has the time that it took. -/
def runSource (server : Server) (source : String) (args : List String)
    (globals : List (String × String)) : Ending × Nat × Server :=
  let (fault, m) := (server.machine args globals).runSource source
  ({ fault, output := m.output, globals := m.globals }, m.elapsed,
    { server with files := m.files, log := m.log, luck := m.luck, crashed := m.crashed })

/-- Lets time pass. -/
def wait (server : Server) (nanoseconds : Nat) : Server :=
  { server with now := server.now.after nanoseconds }

/-- Records in the catalog how a run ended. -/
def record (server : Server) (id script : String) (ending : Ending) : Server :=
  match ending.fault with
  | none =>
    match server.catalog.complete server.now id ending.output ending.globals with
    | .ok catalog => { server with catalog }
    | .error _ => server
  | some fault =>
    if fault.cause.isCancellation then
      match server.catalog.cancel server.now id with
      | .ok catalog => { server with catalog }
      | .error _ => server
    else
      let server := server.note
        ("Execution " ++ id ++ " of " ++ Text.quoted script ++ " failed: " ++ fault.text)
      match server.catalog.fail server.now id ending.output fault with
      | .ok catalog => { server with catalog }
      | .error _ => server

/-- Records the runs that have ended by now. -/
def settle (server : Server) : Server :=
  let (ended, going) := server.running.partition fun run =>
    run.ends.nanoseconds ≤ server.now.nanoseconds
  ended.foldl (fun server run => server.record run.id run.script run.ending)
    { server with running := going }

/-- Begins an execution of a script and leaves it running. -/
def launch (server : Server) (name : String) (args : List String) :
    Except Refusal (Execution × Server) := do
  let script ← server.catalog.script name
  let (id, server) := server.drawId
  let (execution, catalog) ← server.catalog.begin server.now id script.name args
  let (ending, time, server) := { server with catalog }.runSource script.source args []
  return (execution,
    { server with
      running := server.running ++ [{ id, script := name, ends := server.now.after time, ending }] })

/-- Waits until an execution that is running has ended. -/
def await (server : Server) (id : String) : Server :=
  match server.running.find? (·.id == id) with
  | none => server
  | some run =>
    { server with
      now := ⟨max server.now.nanoseconds run.ends.nanoseconds⟩ }.settle

/-- Runs a deployed script to its end and gives the record of it. -/
def execute (server : Server) (name : String) (args : List String) :
    Except Refusal (Execution × Server) := do
  let (execution, server) ← server.launch name args
  let server := server.await execution.id
  let execution ← server.catalog.execution execution.id
  return (execution, server)

/-- Cancels an execution: its run is stopped, and its record says so. -/
def cancel (server : Server) (id : String) : Except Refusal (Execution × Server) := do
  let server := { server with running := server.running.filter (·.id != id) }
  let catalog ← server.catalog.cancel server.now id
  let execution ← catalog.execution id
  return (execution, { server with catalog })

end Server
end Service
end BigScript
