import BigScript.Fault
import BigScript.Machine.Bindings
import BigScript.Time.Calendar

/-!
# The catalog

The scripts that are deployed and the record of every execution of them.  Each operation here is one
indivisible step: it reads or changes the catalog as a whole.

Every write of a script draws a new revision, and an execution records the revision that was current
when it began.  An execution is active until it succeeds, fails or is cancelled, and never changes
after that.
-/

namespace BigScript
namespace Service

/-- A deployed script. -/
structure Script where
  name : String
  source : String
  revision : Nat
  created : Moment
  updated : Moment
deriving DecidableEq, Repr

namespace Script

/-- The text of a revision: six digits at least. -/
def revisionText (revision : Nat) : String := Text.padLeft 6 '0' (Number.digitText revision)

end Script

/-- Why an execution failed. -/
structure Failure where
  message : String
  tags : List String
  line : Int
  column : Int
deriving DecidableEq, Repr

/-- The failure that a fault is recorded as. -/
def Failure.ofFault (fault : Fault) : Failure :=
  ⟨fault.message, fault.tags, fault.line, fault.column⟩

/-- How an execution stands.  What it left behind belongs to the way it ended. -/
inductive Outcome where
  | active
  | succeeded (output : String) (globals : Bindings)
  | failed (output : String) (failure : Failure)
  | cancelled
deriving DecidableEq, Repr

namespace Outcome

/-- The name of a state. -/
def state : Outcome → String
  | .active => "ACTIVE"
  | .succeeded _ _ => "SUCCEEDED"
  | .failed _ _ => "FAILED"
  | .cancelled => "CANCELLED"

/-- Whether an execution is still going on. -/
def isActive : Outcome → Bool
  | .active => true
  | _ => false

/-- What was printed, as far as it is kept. -/
def output : Outcome → String
  | .succeeded output _ => output
  | .failed output _ => output
  | _ => ""

/-- The variables that were left, where they are kept. -/
def globals? : Outcome → Option Bindings
  | .succeeded _ globals => some globals
  | _ => none

/-- Why an execution failed, if it did. -/
def failure? : Outcome → Option Failure
  | .failed _ failure => some failure
  | _ => none

end Outcome

/-- One run of a script. -/
structure Execution where
  id : String
  script : String
  args : List String
  revision : Nat
  started : Moment
  outcome : Outcome := .active
  ended : Option Moment := none
deriving DecidableEq, Repr

/-- Why the catalog refuses something. -/
inductive Refusal where
  | noScript (name : String)
  | noExecution (id : String)
  | taken (name : String)
  | notActive (id state : String)
deriving DecidableEq, Repr

namespace Refusal

/-- The cause behind a refusal, for things that are not there. -/
def cause? : Refusal → Option Cause
  | .noScript name => some (.notFound ("script '" ++ name ++ "' not found"))
  | .noExecution id => some (.notFound ("execution '" ++ id ++ "' not found"))
  | _ => none

/-- The words for a refusal. -/
def text (refusal : Refusal) : String :=
  match refusal with
  | .taken name => "script '" ++ name ++ "' already exists"
  | .notActive id state => "execution '" ++ id ++ "' is not active (state: " ++ state ++ ")"
  | refusal => (refusal.cause?.map fun cause => Fault.text { cause }).getD ""

end Refusal

/-- Scripts in the order of their names, executions in the order they began, and the number of the
last revision. -/
structure Catalog where
  scripts : List Script := []
  executions : List Execution := []
  revisions : Nat := 0
deriving DecidableEq, Repr

namespace Catalog

/-- The script of a name. -/
def script? (catalog : Catalog) (name : String) : Option Script :=
  catalog.scripts.find? (·.name == name)

/-- The script of a name, which has to be there. -/
def script (catalog : Catalog) (name : String) : Except Refusal Script :=
  match catalog.script? name with
  | some script => .ok script
  | none => .error (.noScript name)

/-- Puts a script among others in the order of their names; one of the same name is replaced. -/
def placeScript (script : Script) : List Script → List Script
  | [] => [script]
  | other :: rest =>
    if script.name == other.name then script :: rest
    else if script.name < other.name then script :: other :: rest
    else other :: placeScript script rest

/-- Creates a script, or replaces the source of the one of that name.  The flag tells whether it was
created. -/
def put (catalog : Catalog) (now : Moment) (name source : String) : Script × Bool × Catalog :=
  let revision := catalog.revisions + 1
  let known := catalog.script? name
  let script : Script :=
    { name, source, revision, created := (known.map (·.created)).getD now, updated := now }
  (script, known.isNone,
    { catalog with scripts := placeScript script catalog.scripts, revisions := revision })

/-- Creates a script unless the name is taken. -/
def create (catalog : Catalog) (now : Moment) (name source : String) :
    Except Refusal (Script × Catalog) :=
  match catalog.script? name with
  | some _ => .error (.taken name)
  | none =>
    let (script, _, catalog) := catalog.put now name source
    .ok (script, catalog)

/-- Removes a script.  The record of its executions is kept. -/
def delete (catalog : Catalog) (name : String) : Except Refusal Catalog :=
  match catalog.script? name with
  | none => .error (.noScript name)
  | some _ => .ok { catalog with scripts := catalog.scripts.filter (·.name != name) }

/-- Records that an execution of a script begins. -/
def begin (catalog : Catalog) (now : Moment) (id name : String) (args : List String) :
    Except Refusal (Execution × Catalog) :=
  match catalog.script? name with
  | none => .error (.noScript name)
  | some script =>
    let execution : Execution :=
      { id, script := name, args, revision := script.revision, started := now }
    .ok (execution, { catalog with executions := catalog.executions ++ [execution] })

/-- The execution of an id. -/
def execution? (catalog : Catalog) (id : String) : Option Execution :=
  catalog.executions.find? (·.id == id)

/-- The execution of an id, which has to be there. -/
def execution (catalog : Catalog) (id : String) : Except Refusal Execution :=
  match catalog.execution? id with
  | some execution => .ok execution
  | none => .error (.noExecution id)

/-- The executions of a script, the newest first. -/
def executionsOf (catalog : Catalog) (name : String) : List Execution :=
  (catalog.executions.filter (·.script == name)).reverse

/-- The catalog with an execution ended in some way. -/
def settle (catalog : Catalog) (now : Moment) (id : String) (outcome : Outcome) : Catalog :=
  { catalog with
    executions := catalog.executions.map fun execution =>
      if execution.id == id then { execution with outcome, ended := some now } else execution }

/-- Ends an active execution; one that has ended stays as it is. -/
def finish (catalog : Catalog) (now : Moment) (id : String) (outcome : Outcome) :
    Except Refusal Catalog :=
  match catalog.execution? id with
  | none => .error (.noExecution id)
  | some execution =>
    if execution.outcome.isActive then .ok (catalog.settle now id outcome) else .ok catalog

/-- Records that an execution succeeded. -/
def complete (catalog : Catalog) (now : Moment) (id output : String) (globals : Bindings) :
    Except Refusal Catalog :=
  catalog.finish now id (.succeeded output globals)

/-- Records that an execution was stopped by a fault. -/
def fail (catalog : Catalog) (now : Moment) (id output : String) (fault : Fault) :
    Except Refusal Catalog :=
  catalog.finish now id (.failed output (.ofFault fault))

/-- Cancels an execution, which has to be active. -/
def cancel (catalog : Catalog) (now : Moment) (id : String) : Except Refusal Catalog :=
  match catalog.execution? id with
  | none => .error (.noExecution id)
  | some execution =>
    if execution.outcome.isActive then .ok (catalog.settle now id .cancelled)
    else .error (.notActive id execution.outcome.state)

end Catalog
end Service
end BigScript
