import BigScript.Number.Decimal

/-!
# Faults

A fault is why a run, or a request to the service, came to a stop: a cause, and for a run the place
of the statement, the line it was written on and the calls that were open.
-/

namespace BigScript

/-- Why something stopped. -/
inductive Cause where
  | stackOverflow (limit : Int)
  | badBlock (message : String)
  | badScript (message : String)
  | bug (message : String)
  | cancelled (reason : Option String)
  | notFound (message : String)
  | badConfig (message : String)
deriving DecidableEq, Repr

namespace Cause

/-- The sentence that names the cause. -/
def message : Cause → String
  | .stackOverflow limit => "Stack Overflow! (Recursion Limit: " ++ Number.intText limit ++ ")"
  | .badBlock message => message
  | .badScript message => message
  | .bug message => message
  | .cancelled none => "run cancelled"
  | .cancelled (some reason) => "run cancelled: " ++ reason
  | .notFound message => message
  | .badConfig message => message

/-- The tag by which clients tell causes apart. -/
def tag : Cause → String
  | .stackOverflow _ => "StackOverflowError"
  | .badBlock _ => "BlockError"
  | .badScript _ => "SyntaxError"
  | .bug _ => "BugError"
  | .cancelled _ => "CancelledError"
  | .notFound _ => "NotFound"
  | .badConfig _ => "ConfigError"

/-- The numeric code of a cause. -/
def code : Cause → Nat
  | .stackOverflow _ => 1
  | .badBlock _ => 1
  | .badScript _ => 2
  | .bug _ => 1
  | .cancelled _ => 130
  | .notFound _ => 404
  | .badConfig _ => 2

/-- Whether a run was stopped from outside. -/
def isCancellation : Cause → Bool
  | .cancelled _ => true
  | _ => false

/-- Whether the cause is a bug that no check picked up. -/
def isBug : Cause → Bool
  | .bug _ => true
  | _ => false

/-- Whether something was looked for and is not there. -/
def isNotFound : Cause → Bool
  | .notFound _ => true
  | _ => false

end Cause

/-- One open call: the function and the place of the call, with the line it is written on. -/
structure CallSite where
  name : String
  line : Nat
  column : Nat
  source : String := ""
deriving DecidableEq, Repr

/-- A cause with the place at which it arose.  The line is zero where there is no place; the most
recent call comes first. -/
structure Fault where
  cause : Cause
  line : Int := 0
  column : Int := 0
  trigger : String := ""
  stack : List CallSite := []
deriving DecidableEq, Repr

namespace Fault

/-- The sentence that names the cause. -/
def message (fault : Fault) : String := fault.cause.message

/-- The tags of a fault. -/
def tags (fault : Fault) : List String := [fault.cause.tag]

/-- The fault at a place. -/
def placed (fault : Fault) (line column : Int) : Fault := { fault with line, column }

/-- Whether the fault ends a run at once, without giving the script a chance to check for it. -/
def isFatal (fault : Fault) : Bool := !fault.cause.isBug

/-- A fault in one line. -/
def text (fault : Fault) : String :=
  let place :=
    if fault.line > 0 then
      " at line " ++ Number.intText fault.line ++ ", column " ++ Number.intText fault.column
    else ""
  fault.message ++ place ++ " (tags=[" ++ Text.join ", " fault.tags ++ "])"

/-- One open call in a diagnostic block. -/
def reportCall (call : CallSite) : String :=
  "|   > inside doing " ++ call.name ++ " (Line " ++ Number.digitText call.line ++ ", Col " ++
    Number.digitText call.column ++ ")\n|     Source: " ++ call.source ++ "\n"

/-- The diagnostic block of a stopped run. -/
def report (fault : Fault) : String :=
  let calls :=
    if fault.stack.isEmpty then ""
    else "| Call Stack (Recent calls first):\n" ++ String.join (fault.stack.map reportCall)
  "+--- BIG ERROR ---+\n" ++
  "| Message:  " ++ fault.message ++ "\n" ++
  "| Location: Line " ++ Number.intText fault.line ++ ", Column " ++
    Number.intText fault.column ++ "\n" ++
  "| Trigger:  " ++ fault.trigger ++ "\n" ++ calls ++
  "+------------------+\n"

end Fault
end BigScript
