import BigScript.Machine.State

/-!
# Variables

A name is resolved in a fixed order: the readings of the clock and the pointer, then a field of a
map written as `Map.field`, then the local frames from the innermost outwards, then the globals.  A
variable is set in the innermost local frame, or among the globals at top level; some names always
belong to the globals.
-/

namespace BigScript
namespace Machine

/-- Names that are always set among the globals. -/
def globalNames : List String :=
  ["ReturnValue", "Sbig_Response_Body", "Sbig_Response_File", "RequestBody", "RequestPath",
   "RequestMethod", "RequestExtra", "BugType"]

/-- Endings of names that are always set among the globals. -/
def globalEndings : List String := ["Raw", "Content", "Layout", "Html", "Biew"]

/-- Whether a name is always set among the globals. -/
def isGlobalName (name : String) : Bool :=
  globalNames.contains name || globalEndings.any (Text.endsWith name)

/-- The readings that answer to a name without being variables.  There is no pointer, so its
coordinates are zero. -/
def reading? (m : Machine) (name : String) : Option String :=
  match Text.lower name with
  | "bigtick" => some (Number.format (Number.ofInt m.tick))
  | "bigdelta" => some (Number.format m.frameSeconds)
  | "mousex" | "mousey" | "dragx" | "dragy" => some "0"
  | _ => none

/-- The value of a name in the local frames, innermost first. -/
def localValue? (name : String) : List Bindings → Option String
  | [] => none
  | frame :: rest => (frame.find? name).or (localValue? name rest)

/-- The value of a variable: a local one, or else a global one. -/
def stored? (m : Machine) (name : String) : Option String :=
  (localValue? name m.locals).or (m.globals.find? name)

/-- The value of a name that is no field of a map. -/
def plain? (m : Machine) (name : String) : Option String :=
  (m.reading? name).or (m.stored? name)

/-- The value of a name written as a field of a map. -/
def field? (m : Machine) (name : String) : Option String :=
  match Text.split "." name with
  | [object, field] =>
    if object.isEmpty || field.isEmpty then none
    else (m.plain? object).bind fun raw => Value.field? raw field
  | _ => none

/-- The value of a name. -/
def get? (m : Machine) (name : String) : Option String :=
  (m.reading? name).or ((m.field? name).or (m.stored? name))

/-- The value of a name, or a default. -/
def getD (m : Machine) (name default : String) : String := (m.get? name).getD default

/-- Whether changes of variables and lines are logged. -/
def isDebugging (m : Machine) : Bool :=
  m.debug || (m.globals.find? "BigDebug").any fun v => v == "true" || v == "1"

/-- The log line of a change, if the value changes. -/
def change? (m : Machine) (name value : String) : Option String :=
  match m.get? name with
  | some old =>
    if old == value then none
    else some ("[DEBUG] " ++ name ++ " changed: '" ++ old ++ "' -> '" ++ value ++ "'")
  | none => some ("[DEBUG] " ++ name ++ " created: '" ++ value ++ "'")

/-- Logs a change while debugging. -/
def watch (name value : String) (m : Machine) : Machine :=
  if m.isDebugging then
    match m.change? name value with
    | some line => m.note line
    | none => m
  else m

/-- Sets a global variable. -/
def setGlobal (name value : String) (m : Machine) : Machine :=
  { m with globals := m.globals.set name value }

/-- The name a variable is stored under: every spelling of the result variable is the same. -/
def storedName (name : String) : String :=
  if Text.sameWord name "returnvalue" then "ReturnValue" else name

/-- Sets a variable in the innermost frame, or among the globals. -/
def assign (name value : String) (m : Machine) : Machine :=
  let name := storedName name
  let m := m.watch name value
  match m.locals with
  | frame :: rest =>
    if isGlobalName name then m.setGlobal name value
    else { m with locals := frame.set name value :: rest }
  | [] => m.setGlobal name value

/-- Opens a local frame. -/
def pushScope (frame : Bindings) (m : Machine) : Machine :=
  { m with locals := frame :: m.locals }

/-- Closes the innermost local frame. -/
def popScope (m : Machine) : Machine := { m with locals := m.locals.drop 1 }

/-- The function of a name. -/
def procedure? (m : Machine) (name : String) : Option Procedure := m.procedures.lookup name

/-- Defines a function, replacing one of the same name. -/
def define (procedure : Procedure) (m : Machine) : Machine :=
  { m with
    procedures := (procedure.name, procedure) ::
      m.procedures.filter fun entry => entry.1 != procedure.name }

end Machine
end BigScript
