import BigScript.Service.Deploy
import BigScript.Service.Exchange
import BigScript.Service.FileType
import BigScript.Service.Pages
import BigScript.Service.Route

/-!
# Answering requests

What the service does for each route, and what it answers.  A request that is refused changes nothing.
-/

namespace BigScript
namespace Service

namespace Encode

/-- A moment, or the first of all moments where there is none. -/
def moment (moment : Option Moment) : Json :=
  .string ((moment.map Moment.stamp).getD "0001-01-01T00:00:00Z")

/-- A number. -/
def number (n : Int) : Json := .number (Number.intText n)

/-- Texts. -/
def texts (items : List String) : Json := .array (items.map .string)

/-- A field that is left out when there is nothing in it. -/
def fieldUnless (empty : Bool) (name : String) (value : Json) : List (String × Json) :=
  if empty then [] else [(name, value)]

/-- A script. -/
def script (script : Script) : Json :=
  .object [("name", .string script.name), ("source", .string script.source),
    ("revisionId", .string (Script.revisionText script.revision)),
    ("createTime", moment (some script.created)), ("updateTime", moment (some script.updated))]

/-- Why an execution failed. -/
def failure (failure : Failure) : Json :=
  .object ([("message", .string failure.message)] ++
    fieldUnless failure.tags.isEmpty "tags" (texts failure.tags) ++
    fieldUnless (failure.line = 0) "line" (number failure.line) ++
    fieldUnless (failure.column = 0) "column" (number failure.column))

/-- Variables. -/
def globals (globals : Bindings) : Json :=
  .object (globals.entries.map fun (name, value) => (name, .string value))

/-- An execution. -/
def execution (execution : Execution) : Json :=
  let outcome := execution.outcome
  .object ([("id", .string execution.id), ("script", .string execution.script),
      ("state", .string outcome.state), ("output", .string outcome.output),
      ("startTime", moment (some execution.started)), ("endTime", moment execution.ended),
      ("scriptRevisionId", .string (Script.revisionText execution.revision))] ++
    fieldUnless execution.args.isEmpty "args" (texts execution.args) ++
    (outcome.globals?.map fun vars =>
      fieldUnless vars.entries.isEmpty "globals" (globals vars)).getD [] ++
    (outcome.failure?.map fun reason => [("error", failure reason)]).getD [])

/-- An open call of a stopped run. -/
def callSite (call : CallSite) : Json :=
  .object ([("name", .string call.name), ("line", number call.line),
      ("column", number call.column)] ++
    fieldUnless call.source.isEmpty "source" (.string call.source))

/-- The fault that stopped a run. -/
def fault (fault : Fault) : Json :=
  .object ([("message", .string fault.message), ("code", number fault.cause.code),
      ("tags", texts fault.tags)] ++
    fieldUnless (fault.line = 0) "line" (number fault.line) ++
    fieldUnless (fault.column = 0) "column" (number fault.column) ++
    fieldUnless fault.trigger.isEmpty "trigger" (.string fault.trigger) ++
    fieldUnless fault.stack.isEmpty "stack" (.array (fault.stack.map callSite)))

end Encode

namespace Response

/-- An answer with a JSON document. -/
def json (status : Nat) (document : Json) : Response :=
  { status, contentType := some "application/json", body := document.write }

/-- The answer to a request that is refused. -/
def refused (code : Nat) (status message : String) : Response :=
  json code (.object [("error", .object [("code", Encode.number code), ("message", .string message),
    ("status", .string status)])])

/-- The answer to a request that makes no sense. -/
def invalid (message : String) : Response := refused 400 "INVALID_ARGUMENT" message

/-- The answer where the catalog refuses something. -/
def refusal (refusal : Refusal) : Response :=
  match refusal with
  | .taken _ => refused 409 "ALREADY_EXISTS" refusal.text
  | .notActive _ _ => refused 400 "FAILED_PRECONDITION" refusal.text
  | refusal => refused 404 "NOT_FOUND" refusal.text

end Response

namespace Server

/-- Deploys a script under a new name. -/
def createScript (server : Server) (request : Request) : Response × Server :=
  match Body.deployment request with
  | .error problem => (.invalid ("invalid request body: " ++ problem), server)
  | .ok form =>
    let name :=
      if form.name.isEmpty then ((formFields request.query).lookup "name").getD "" else form.name
    if !isScriptName name then (.invalid ("invalid script name " ++ Text.quoted name), server)
    else if form.source.isEmpty then (.invalid "source is required", server)
    else
      match sourceProblem? form.source with
      | some problem => (.invalid problem, server)
      | none =>
        match server.catalog.create server.now name form.source with
        | .error refusal => (.refusal refusal, server)
        | .ok (script, catalog) => (.json 200 (Encode.script script), { server with catalog })

/-- Replaces the source of a script. -/
def updateScript (server : Server) (request : Request) (name : String) : Response × Server :=
  match server.catalog.script name with
  | .error refusal => (.refusal refusal, server)
  | .ok _ =>
    match Body.deployment request with
    | .error problem => (.invalid ("invalid request body: " ++ problem), server)
    | .ok form =>
      match sourceProblem? form.source with
      | some problem => (.invalid problem, server)
      | none =>
        let (script, _, catalog) := server.catalog.put server.now name form.source
        (.json 200 (Encode.script script), { server with catalog })

/-- Removes a script. -/
def deleteScript (server : Server) (name : String) : Response × Server :=
  match server.catalog.delete name with
  | .error refusal => (.refusal refusal, server)
  | .ok catalog =>
    (.json 200 (.object [("name", .string name), ("deleted", .bool true)]), { server with catalog })

/-- Begins an execution.  A body is not required, but one that is there has to make sense. -/
def createExecution (server : Server) (request : Request) (name : String) : Response × Server :=
  match Body.order request, request.body.isEmpty with
  | .error problem, false => (.invalid ("invalid request body: " ++ problem), server)
  | form, _ =>
    let args := match form with
      | .ok form => form.args
      | .error _ => []
    match server.launch name args with
    | .error refusal => (.refusal refusal, server)
    | .ok (execution, server) => (.json 200 (Encode.execution execution), server)

/-- Lists the executions of a script. -/
def listExecutions (server : Server) (name : String) : Response :=
  match server.catalog.script name with
  | .error refusal => .refusal refusal
  | .ok _ =>
    .json 200 (.object [("executions",
      let found := server.catalog.executionsOf name
      if found.isEmpty then .null else .array (found.map Encode.execution))])

/-- The file that a script answers with.  The status set by the script stands, but a file that is not
there is an error of its own unless the script says so itself. -/
def sendFile (server : Server) (response : Response) (path : String) : Response :=
  match server.files.read path with
  | .ok content =>
    { response with contentType := some (FileType.ofFile path content), body := content }
  | .error _ =>
    if response.status = 404 then
      { response with contentType := some Response.plainType, body := "Cannot open requested path" }
    else
      { response with
        status := 404
        contentType := some Response.plainType
        body := "sendfile: file " ++ path ++ " not found" }

/-- The status that a script asks for, where it is one. -/
def statusOf (text : String) : Nat :=
  match Number.parseInt? text with
  | some n => if 100 ≤ n && n ≤ 599 then n.toNat else 200
  | none => 200

/-- The headers that a script has noted. -/
def notedHeaders (raw : String) : List (String × String) :=
  (Value.mapKeys raw).map fun name => (name, Value.fieldOrNothing raw name)

/-- Answers a request by running a script that sees it. -/
def runRequest (server : Server) (request : Request) (name : String) : Response × Server :=
  match server.catalog.script name with
  | .error refusal => (.refusal refusal, server)
  | .ok script =>
    let (ending, time, server) := server.runSource script.source []
      [("RequestBody", request.body), ("RequestPath", request.target),
       ("RequestMethod", request.method)]
    let server := server.wait time
    match ending.fault with
    | some fault =>
      (.json 500 (.object [("error", Encode.fault fault), ("output", .string ending.output)]), server)
    | none =>
      let global (name : String) : String := (ending.globals.valueOf? name).getD ""
      let start : Response := { status := statusOf (global "Sbig_Response_Status") }
      let noted := (notedHeaders (global "Sbig_Response_Headers")).foldl
        (fun response (name, value) => response.withHeader name value) start
      let file := global "Sbig_Response_File"
      if !file.isEmpty then (server.sendFile noted file, server)
      else
        ({ noted with body := (ending.globals.valueOf? "Sbig_Response_Body").getD ending.output },
          server)

/-- Answers a request for a route. -/
def answerRoute (server : Server) (request : Request) : Route → Response × Server
  | .createScript => server.createScript request
  | .listScripts =>
    (.json 200 (.object [("scripts", .array (server.catalog.scripts.map Encode.script))]), server)
  | .getScript name =>
    match server.catalog.script name with
    | .ok script => (.json 200 (Encode.script script), server)
    | .error refusal => (.refusal refusal, server)
  | .updateScript name => server.updateScript request name
  | .deleteScript name => server.deleteScript name
  | .createExecution name => server.createExecution request name
  | .listExecutions name => (server.listExecutions name, server)
  | .getExecution id =>
    match server.catalog.execution id with
    | .ok execution => (.json 200 (Encode.execution execution), server)
    | .error refusal => (.refusal refusal, server)
  | .cancelExecution id =>
    match server.cancel id with
    | .ok (execution, server) => (.json 200 (Encode.execution execution), server)
    | .error refusal => (.refusal refusal, server)
  | .run name => server.runRequest request name
  | .dashboard => (.page (Pages.dashboard server.catalog server.now), server)
  | .scriptPage name =>
    match server.catalog.script? name with
    | some script => (.page (Pages.script server.catalog server.now script), server)
    | none => (.page (Pages.notFound ("Script '" ++ name ++ "' not found")), server)
  | .executionPage id =>
    match server.catalog.execution? id with
    | some execution => (.page (Pages.execution server.now execution), server)
    | none => (.page (Pages.notFound ("Execution '" ++ id ++ "' not found")), server)
  | .home => ({ status := 302, headers := [("Location", "/ui")] }, server)

/-- The answer where no route fits the method. -/
def unrouted (request : Request) : Response :=
  let path := request.path
  let others := allowed path
  if others.isEmpty then
    .words 404 ("Cannot " ++ request.method ++ " " ++ Markup.text path)
  else
    { Response.words 405 "Method Not Allowed" with headers := [("Allow", Text.join ", " others)] }

/-- Time that a request takes, in nanoseconds. -/
def requestTime : Nat := 100000

/-- Answers a request. -/
def answer (server : Server) (request : Request) : Response × Server :=
  let server := (server.wait requestTime).settle
  let (response, server) := match route? request.method request.path with
    | some route => server.answerRoute request route
    | none => (unrouted request, server)
  (if request.method == "HEAD" then { response with body := "" } else response, server)

end Server
end Service
end BigScript
