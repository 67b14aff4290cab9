import BigScript.Bytes.Encoding
import BigScript.Markup.Node
import BigScript.Number.Read
import BigScript.Service.Catalog

/-!
# Pages

The pages that show people what is deployed and what has been run.
-/

/-!
## How things are described to people

Ages, durations and shortened texts as the pages of the service show them.
-/

namespace BigScript
namespace Service
namespace Describe

/-- The first bytes of a text. -/
def firstBytes (n : Nat) (text : String) : String := Bytes.lossyText ((Bytes.ofText text).take n)

/-- The start of an id. -/
def shortId (id : String) : String := if id.utf8ByteSize > 8 then firstBytes 8 id else id

/-- A text cut after some bytes, with dots for what is left out. -/
def truncated (text : String) (size : Nat) : String :=
  if text.utf8ByteSize ≤ size then text else firstBytes size text ++ "..."

/-- The number of lines of a text. -/
def lineCount (text : String) : Nat :=
  if text.isEmpty then 0 else (text.toList.filter (· == '\n')).length + 1

/-- The units in which ages are told, in seconds. -/
def ageUnits : List (Nat × String) := [(86400, "day"), (3600, "hour"), (60, "minute")]

/-- An age in the largest whole unit. -/
def age (duration : Duration) : String :=
  let seconds := (Int.tdiv duration.nanoseconds 1000000000).toNat
  match ageUnits.find? (fun unit => unit.1 ≤ seconds) with
  | none => "just now"
  | some (size, name) =>
    let count := seconds / size
    if count = 1 then "1 " ++ name ++ " ago"
    else Number.digitText count ++ " " ++ name ++ "s ago"

/-- The age of a moment, or a dash where there is none. -/
def age? (duration : Option Duration) : String := (duration.map age).getD "-"

/-- A duration: in milliseconds below a second, with one decimal below a minute. -/
def span (duration : Duration) : String :=
  let size := duration.nanoseconds
  if size < 1000000000 then Number.intText (Int.tdiv size 1000000) ++ "ms"
  else if size < 60000000000 then
    Number.fixed 1 (Number.ofInt (size / 1000000000) + Number.ofInt (size % 1000000000) / 1e9) ++ "s"
  else (Duration.mk (size - size % 1000000000)).text

/-- How long an execution took, or has taken so far. -/
def runTime (started : Moment) (ended : Option Moment) (now : Moment) : String :=
  match ended with
  | some ended => span (ended.since started)
  | none => span (now.since started) ++ " (running)"

/-- The style class of a state. -/
def stateClass (state : String) : String :=
  match state with
  | "ACTIVE" => "state-active"
  | "SUCCEEDED" => "state-succeeded"
  | "FAILED" => "state-failed"
  | "CANCELLED" => "state-cancelled"
  | _ => ""

/-- The sign of a state, in markup. -/
def stateIcon (state : String) : String :=
  match state with
  | "ACTIVE" => "&#9654;"
  | "SUCCEEDED" => "&#10003;"
  | "FAILED" => "&#10007;"
  | "CANCELLED" => "&#9632;"
  | _ => "&#8226;"

/-- A moment, or a dash where there is none. -/
def moment? (moment : Option Moment) : String := (moment.map Moment.text).getD "-"

end Describe
end Service
end BigScript

/-! ## What pages show -/

namespace BigScript
namespace Service
namespace Pages

open Markup (pageText)

/-- The styles of every page. -/
def styles : String := Text.join "\n" [
  "body \x7b font-family: system-ui, sans-serif; margin: 0; color: #1d1d1f; \x7d",
  "header \x7b background: #20232a; color: #fff; padding: 12px 24px; \x7d",
  "header a \x7b color: #fff; margin-right: 16px; text-decoration: none; \x7d",
  "header a.active \x7b font-weight: bold; \x7d",
  "main \x7b padding: 24px; \x7d",
  "table \x7b border-collapse: collapse; width: 100%; \x7d",
  "td, th \x7b text-align: left; padding: 6px 10px; border-bottom: 1px solid #ddd; \x7d",
  "pre \x7b background: #f5f5f7; padding: 12px; overflow-x: auto; \x7d",
  ".state-active \x7b color: #0a66c2; \x7d",
  ".state-succeeded \x7b color: #1a7f37; \x7d",
  ".state-failed \x7b color: #cf222e; \x7d",
  ".state-cancelled \x7b color: #6e7781; \x7d"]

/-- A page with its title and its content, under the common head. -/
def layout (onDashboard : Bool) (title content : String) : String :=
  "<!DOCTYPE html>\n<html lang=\"en\">\n<head>\n<meta charset=\"utf-8\">\n<title>" ++
  pageText title ++ " - bigrun</title>\n<style>\n" ++ styles ++ "\n</style>\n</head>\n<body>\n" ++
  "<header><strong>bigrun</strong> &nbsp; <a href=\"/ui\" " ++
  (if onDashboard then "class=\"active\"" else "") ++ ">Dashboard</a></header>\n<main>" ++
  content ++ "</main>\n</body>\n</html>"

/-- A cell of a table. -/
def cell (content : String) : String := "<td>" ++ content ++ "</td>"

/-- The row of an execution: what is told of its script and of its start differs between pages. -/
def executionRow (now : Moment) (middle : Execution → String) (execution : Execution) : String :=
  let state := execution.outcome.state
  "<tr class=\"" ++ Describe.stateClass state ++ "\">" ++ cell (Describe.stateIcon state) ++
  cell ("<a href=\"/ui/executions/" ++ pageText execution.id ++ "\">" ++
    pageText (Describe.shortId execution.id) ++ "</a>") ++
  middle execution ++
  cell (Describe.runTime execution.started execution.ended now) ++ "</tr>"

/-- A table of executions, or a remark that there are none. -/
def executionTable (now : Moment) (heads : String) (middle : Execution → String)
    (executions : List Execution) : String :=
  if executions.isEmpty then "\n\n<p>No executions yet.</p>\n\n"
  else
    "\n\n<table>\n<tr><th></th><th>Execution</th>" ++ heads ++ "<th>Duration</th></tr>\n" ++
    String.join (executions.map fun execution => "\n" ++ executionRow now middle execution ++ "\n") ++
    "\n</table>\n\n"

/-- The number of executions in a state. -/
def countIn (state : String) (executions : List Execution) : Nat :=
  (executions.filter (·.outcome.state == state)).length

/-- The row of a script. -/
def scriptRow (catalog : Catalog) (now : Moment) (script : Script) : String :=
  let executions := catalog.executionsOf script.name
  let name := pageText script.name
  "<tr>" ++ cell ("<a href=\"/ui/scripts/" ++ name ++ "\">" ++ name ++ "</a>") ++
  cell (Script.revisionText script.revision) ++
  cell (Number.digitText (Describe.lineCount script.source)) ++
  cell (Number.digitText executions.length ++ " (" ++
    Number.digitText (countIn "ACTIVE" executions) ++ " active)") ++
  cell (Describe.age (now.since script.updated)) ++ "</tr>"

/-- The table of scripts, or a remark that there are none. -/
def scriptTable (catalog : Catalog) (now : Moment) (scripts : List Script) : String :=
  if scripts.isEmpty then "\n<p>No scripts deployed.</p>\n"
  else
    "\n<table>\n<tr><th>Name</th><th>Revision</th><th>Lines</th><th>Executions</th>" ++
    "<th>Updated</th></tr>\n" ++
    String.join (scripts.map fun script => "\n" ++ scriptRow catalog now script ++ "\n") ++
    "\n</table>\n"

/-- How many executions are in a state, as a phrase of a line. -/
def stateCount (word : String) (executions : List Execution) : String :=
  "<span class=\"state-" ++ word ++ "\">" ++
    Number.digitText (countIn (Text.upper word) executions) ++ " " ++ word ++ "</span>"

/-- The executions of deployed scripts, the newest first. -/
def deployedExecutions (catalog : Catalog) : List Execution :=
  catalog.executions.reverse.filter fun execution => (catalog.script? execution.script).isSome

/-- The page with everything at a glance: scripts by their last change, and the newest
executions. -/
def dashboard (catalog : Catalog) (now : Moment) : String :=
  let executions := deployedExecutions catalog
  let scripts := catalog.scripts.mergeSort fun a b =>
    b.updated.nanoseconds ≤ a.updated.nanoseconds
  let middle (execution : Execution) : String :=
    cell (pageText execution.script) ++ cell (Describe.age (now.since execution.started))
  layout true "Dashboard" <|
    "\n<h1>Dashboard</h1>\n<p>\n" ++
    Text.join " &middot;\n" (["active", "succeeded", "failed", "cancelled"].map fun word =>
      stateCount word executions) ++
    "\n</p>\n<h2>Scripts</h2>\n" ++ scriptTable catalog now scripts ++
    "\n<h2>Recent executions</h2>\n" ++
    executionTable now "<th>Script</th><th>Started</th>" middle (executions.take 10) ++ "\n"

/-- The page of a script. -/
def script (catalog : Catalog) (now : Moment) (script : Script) : String :=
  layout false script.name <|
    "\n<h1>" ++ pageText script.name ++ "</h1>\n<p>Revision " ++
    Script.revisionText script.revision ++ " &middot; created " ++ script.created.text ++
    " &middot; updated " ++ script.updated.text ++ "</p>\n<pre>" ++ pageText script.source ++
    "</pre>\n<h2>Executions</h2>\n" ++
    executionTable now "<th>Started</th>" (fun execution => cell execution.started.text)
      (catalog.executionsOf script.name) ++ "\n"

/-- The reason of a failure. -/
def failureText (failure : Failure) : String :=
  pageText failure.message ++
    (if failure.line = 0 then ""
      else " (line " ++ Number.intText failure.line ++ ", column " ++
        Number.intText failure.column ++ ")")

/-- The variables that an execution left. -/
def globalsTable (globals : Bindings) : String :=
  if globals.entries.isEmpty then ""
  else
    let entries := globals.entries.mergeSort fun a b => a.1 ≤ b.1
    "\n<h2>Globals</h2>\n<table>\n" ++
    String.join (entries.map fun (name, value) =>
      "<tr>" ++ cell (pageText name) ++ cell (pageText (Describe.truncated value 200)) ++ "</tr>") ++
    "\n</table>\n"

/-- The page of an execution. -/
def execution (now : Moment) (execution : Execution) : String :=
  let state := execution.outcome.state
  let short := Describe.shortId execution.id
  let name := pageText execution.script
  let arguments :=
    if execution.args.isEmpty then ""
    else
      "<p>Arguments: " ++ String.join (execution.args.map fun arg =>
        "<code>" ++ pageText arg ++ "</code> ") ++ "</p>"
  let failure := (execution.outcome.failure?.map fun failure =>
    "<h2>Error</h2><pre>" ++ failureText failure ++ "</pre>").getD ""
  layout false ("Execution " ++ short) <|
    "\n<h1>Execution " ++ pageText short ++ "</h1>\n<p class=\"" ++ Describe.stateClass state ++
    "\">" ++ Describe.stateIcon state ++ " " ++ state ++ "</p>\n<p>Script <a href=\"/ui/scripts/" ++
    name ++ "\">" ++ name ++ "</a> at revision " ++ Script.revisionText execution.revision ++
    ", started " ++ execution.started.text ++ ", ran " ++
    Describe.runTime execution.started execution.ended now ++ "</p>\n" ++ arguments ++ "\n" ++
    failure ++ "\n<h2>Output</h2>\n<pre>" ++
    pageText (Describe.truncated execution.outcome.output 65536) ++ "</pre>\n" ++
    ((execution.outcome.globals?.map globalsTable).getD "") ++ "\n"

/-- The page for something that is not there. -/
def notFound (what : String) : String :=
  layout false "Not found" <|
    "\n<h1>Not found</h1>\n<p>" ++ pageText what ++
    "</p>\n<p><a href=\"/ui\">Back to dashboard</a></p>\n"

end Pages
end Service
end BigScript
