import BigScript.Proofs.Service.Attendance

/-!
# What is refused changes nothing

A request can be refused at several places: its body makes no sense, a name or a source will not do,
something is not there, is there already or has ended.  The places differ from one request to the
next, and so does what has been looked at before.  What they have in common is `Decided`: either the
answer has a status of 400 or more and the server is what it was, or one operation on the catalog has
been accepted and the answer says so.  There is no third way, so neither does a refusal leave
anything behind nor is a request acknowledged that has done nothing.

The status alone does not tell a refusal from an answer that a script gives: a script that runs
against a request may ask for any status.  Its run reads the catalog and never writes it.

Files are no different.  What a file is deployed as, if at all, is `fileScript?`; all others leave the
catalog alone, wherever they stand among those of a folder.
-/

namespace BigScript
namespace Service

namespace Response

theorem refusal_status (reason : Refusal) : 400 ≤ (refusal reason).status := by
  cases reason with
  | noScript name => exact (by decide : 400 ≤ 404)
  | noExecution id => exact (by decide : 400 ≤ 404)
  | taken name => exact (by decide : 400 ≤ 409)
  | notActive id state => exact Nat.le_refl 400

/-- Leaving out what a request does not want to see does not change the status. -/
theorem withoutBody_status (condition : Prop) [Decidable condition] (response : Response) :
    (if condition then { response with body := "" } else response).status = response.status := by
  split <;> rfl

end Response

theorem Catalog.delete_unknown {catalog : Catalog} {name : String}
    (unknown : catalog.script? name = none) : catalog.delete name = .error (.noScript name) := by
  rw [delete, unknown]

namespace Server

/-! ## Requests that ask for a change -/

/-- How a request that asks for a change is answered: it is refused and the server is what it was, or
one operation on the catalog is accepted. -/
inductive Decided (server : Server) : Response × Server → Prop where
  | refused {response : Response} (status : 400 ≤ response.status) : Decided server (response, server)
  | accepted {response : Response} {after : Server} (operation : Operation)
      (status : response.status = 200)
      (done : operation.apply server.catalog = .ok after.catalog) : Decided server (response, after)

namespace Decided

variable {server : Server} {answer : Response × Server}

/-- An answer of 400 or more leaves all of the server as it was. -/
theorem unchanged (decided : server.Decided answer) (status : 400 ≤ answer.1.status) :
    answer.2 = server := by
  cases decided with
  | refused _ => rfl
  | accepted operation success done =>
    rw [success] at status
    exact absurd status (by decide)

/-- Any other answer says that something has been done. -/
theorem carriedOut (decided : server.Decided answer) (status : answer.1.status < 400) :
    answer.1.status = 200 ∧
      ∃ operation : Operation, operation.apply server.catalog = .ok answer.2.catalog := by
  cases decided with
  | refused failure => exact absurd status (Nat.not_lt.mpr failure)
  | accepted operation success done => exact ⟨success, operation, done⟩

end Decided

theorem createScript_decided (server : Server) (request : Request) :
    server.Decided (server.createScript request) := by
  unfold createScript
  split
  · exact .refused (Nat.le_refl 400)
  · rename_i form read
    dsimp only
    generalize (if form.name.isEmpty then ((formFields request.query).lookup "name").getD ""
      else form.name) = name
    split
    · exact .refused (Nat.le_refl 400)
    · split
      · exact .refused (Nat.le_refl 400)
      · split
        · exact .refused (Nat.le_refl 400)
        · split
          · exact .refused (Response.refusal_status _)
          · rename_i script catalog created
            refine .accepted (.create server.now name form.source) rfl ?_
            change (server.catalog.create server.now name form.source).map Prod.snd = _
            rw [created]
            rfl

theorem updateScript_decided (server : Server) (request : Request) (name : String) :
    server.Decided (server.updateScript request name) := by
  unfold updateScript
  split
  · exact .refused (Response.refusal_status _)
  · split
    · exact .refused (Nat.le_refl 400)
    · rename_i form read
      split
      · exact .refused (Nat.le_refl 400)
      · exact .accepted (.put server.now name form.source) rfl rfl

theorem deleteScript_decided (server : Server) (name : String) :
    server.Decided (server.deleteScript name) := by
  unfold deleteScript
  split
  · exact .refused (Response.refusal_status _)
  · rename_i catalog deleted
    exact .accepted (.delete name) rfl deleted

theorem launch_accepted {server after : Server} {name : String} {args : List String}
    {execution : Execution} (launched : server.launch name args = .ok (execution, after)) :
    ∃ operation : Operation, operation.apply server.catalog = .ok after.catalog := by
  rcases launch_eq launched with ⟨id, script, run, begun, -, -⟩
  refine ⟨.begin server.now id script args, ?_⟩
  change (server.catalog.begin server.now id script args).map Prod.snd = _
  rw [begun]
  rfl

theorem createExecution_decided (server : Server) (request : Request) (name : String) :
    server.Decided (server.createExecution request name) := by
  unfold createExecution
  split
  · exact .refused (Nat.le_refl 400)
  · dsimp only
    split
    · exact .refused (Response.refusal_status _)
    · rename_i execution after launched
      rcases launch_accepted launched with ⟨operation, done⟩
      exact .accepted operation rfl done

/-- Cancelling takes the run away before the catalog is asked; a refusal gives it back. -/
theorem cancelExecution_decided (server : Server) (request : Request) (id : String) :
    server.Decided (server.answerRoute request (.cancelExecution id)) := by
  unfold answerRoute
  dsimp only
  split
  · rename_i execution after cancelled
    unfold cancel at cancelled
    rcases ok_of_bind cancelled with ⟨catalog, answer, rest⟩
    rcases ok_of_bind rest with ⟨record, -, last⟩
    cases last
    exact .accepted (.cancel server.now id) rfl answer
  · exact .refused (Response.refusal_status _)

/-! ## All requests -/

/-- A script that runs against a request leaves the catalog alone, whatever it is answered with. -/
theorem runRequest_keeps (server : Server) (request : Request) (name : String) :
    (server.runRequest request name).2.catalog = server.catalog := by
  unfold runRequest
  split
  · rfl
  · rename_i script found
    have ran (globals : List (String × String)) :
        (server.runSource script.source [] globals).2.2.catalog = server.catalog := rfl
    specialize ran [("RequestBody", request.body), ("RequestPath", request.target),
      ("RequestMethod", request.method)]
    generalize server.runSource script.source [] _ = result at ran ⊢
    rcases result with ⟨ending, time, after⟩
    dsimp only
    split
    · exact ran
    · split <;> exact ran

end Server

/-- Whether a route asks for a change of the catalog. -/
def Route.asksForChange : Route → Bool
  | .createScript | .updateScript _ | .deleteScript _ | .createExecution _ | .cancelExecution _ => true
  | _ => false

namespace Server

theorem answerRoute_decided (server : Server) (request : Request) {route : Route}
    (asks : route.asksForChange = true) : server.Decided (server.answerRoute request route) := by
  cases route with
  | createScript => exact createScript_decided server request
  | updateScript name => exact updateScript_decided server request name
  | deleteScript name => exact deleteScript_decided server name
  | createExecution name => exact createExecution_decided server request name
  | cancelExecution id => exact cancelExecution_decided server request id
  | _ => cases asks

/-- The other requests only look. -/
theorem answerRoute_keeps (server : Server) (request : Request) {route : Route}
    (looks : route.asksForChange = false) :
    (server.answerRoute request route).2.catalog = server.catalog := by
  cases route with
  | listScripts | listExecutions name | dashboard | home => rfl
  | getScript name | getExecution id | scriptPage name | executionPage id =>
    unfold answerRoute
    dsimp only
    split <;> rfl
  | run name => exact runRequest_keeps server request name
  | _ => cases looks

theorem answerRoute_refused {server : Server} {request : Request} {route : Route}
    (status : 400 ≤ (server.answerRoute request route).1.status) :
    (server.answerRoute request route).2.catalog = server.catalog := by
  cases asks : route.asksForChange with
  | true => rw [(answerRoute_decided server request asks).unchanged status]
  | false => exact answerRoute_keeps server request asks

/-- An answer of 400 or more leaves the catalog as it has become while the request took its time. -/
theorem answer_refused {server : Server} {request : Request}
    (status : 400 ≤ (server.answer request).1.status) :
    (server.answer request).2.catalog = (server.wait requestTime).settle.catalog := by
  unfold answer at status ⊢
  dsimp only at status ⊢
  rw [Response.withoutBody_status] at status
  cases found : route? request.method request.path with
  | none => rfl
  | some route =>
    rw [found] at status
    exact answerRoute_refused status

/-! ## Time -/

/-- Where no run has come to its end, there is nothing to record. -/
theorem settle_undisturbed {server : Server}
    (going : ∀ run ∈ server.running, server.isOver run = false) : server.settle = server := by
  have none : server.running.filter server.isOver = [] := by
    rw [List.filter_eq_nil_iff]
    intro run member ended
    rw [going run member] at ended
    cases ended
  have all : (server.running.filter fun run => !server.isOver run) = server.running := by
    rw [List.filter_eq_self]
    intro run member
    rw [going run member]
    rfl
  rw [settle_eq, none, all]
  rfl

/-! ## Files -/

/-- The script that a file would be deployed as: its name and its source.  There is none where the
name will not do, the file cannot be read or the source uses a reserved name. -/
def fileScript? (server : Server) (path : String) : Option (String × String) :=
  (scriptName? path).bind fun name =>
    (server.files.read path).toOption.bind fun source =>
      if (sourceProblem? source).isNone then some (name, source) else none

/-- A file is deployed as what it holds, or it is noted that it will not do. -/
theorem deployFile_cases (server : Server) (path : String) :
    (∃ problem, server.deployFile path = .error problem ∧ server.fileScript? path = none) ∨
      ∃ name source line, server.fileScript? path = some (name, source) ∧
        server.deployFile path = .ok (Server.note
          { server with catalog := (server.catalog.put server.now name source).2.2 } line) := by
  unfold deployFile fileScript?
  dsimp only
  cases scriptName? path with
  | none => exact .inl ⟨_, rfl, rfl⟩
  | some name =>
    dsimp only [Option.bind]
    cases server.files.read path with
    | error problem => exact .inl ⟨_, rfl, rfl⟩
    | ok source =>
      dsimp only [Except.toOption]
      cases sourceProblem? source with
      | some problem => exact .inl ⟨_, rfl, rfl⟩
      | none => exact .inr ⟨name, source, _, rfl, rfl⟩

/-- What a change of a file asks the catalog for, if anything. -/
def changeAsked? (server : Server) (change : FileChange) (path : String) : Option Operation :=
  match change with
  | .created | .written =>
    (server.fileScript? path).map fun (name, source) => .put server.now name source
  | .removed | .renamed => (scriptName? path).map .delete
  | .touched => none

theorem fileScript?_unnamed {server : Server} {path : String} (unnamed : scriptName? path = none) :
    server.fileScript? path = none := by
  rw [fileScript?, unnamed]
  rfl

theorem deployOrNote_catalog (server : Server) (path : String) :
    (follow.deployOrNote server path).catalog =
      server.catalog.after ((server.fileScript? path).map fun (name, source) =>
        Operation.put server.now name source).toList := by
  unfold follow.deployOrNote
  rcases server.deployFile_cases path with
    ⟨problem, refused, none⟩ | ⟨name, source, line, held, deployed⟩
  · simp only [refused, none]
    rfl
  · simp only [deployed, held]
    rfl

theorem dropScript_catalog (server : Server) (name : String) :
    (follow.dropScript server name).catalog = server.catalog.after [.delete name] := by
  refine keep_answer (.delete name) ?_ ?_
  · intro after (answer : server.catalog.delete name = _)
    rw [follow.dropScript, answer]
    rfl
  · intro refusal (answer : server.catalog.delete name = _)
    rw [follow.dropScript, answer]

/-- A change of a file does what it asks for, and nothing else. -/
theorem follow_catalog (server : Server) (change : FileChange) (path : String) :
    (server.follow change path).catalog =
      server.catalog.after (server.changeAsked? change path).toList := by
  unfold follow
  split
  · rename_i unnamed
    have none : server.changeAsked? change path = none := by
      cases change <;> simp [changeAsked?, fileScript?_unnamed unnamed, unnamed]
    rw [none]
    rfl
  · rename_i name named
    cases change with
    | created | written => exact deployOrNote_catalog server path
    | removed | renamed =>
      rw [changeAsked?, named]
      exact dropScript_catalog server name
    | touched => rfl

/-- Scripts put one after another.  Each of them takes its time. -/
def puts (now : Moment) : List (String × String) → List Operation
  | [] => []
  | (name, source) :: rest => .put now name source :: puts (now.after 1000) rest

/-- Of some files those that will do are deployed, and the others could as well not be there. -/
theorem deployFiles_catalog (server : Server) (count : Nat) (paths : List String) :
    (server.deployFiles count paths).2.catalog =
      server.catalog.after (puts server.now (paths.filterMap server.fileScript?)) := by
  induction paths generalizing server count with
  | nil => rfl
  | cons path rest ih =>
    unfold deployFiles
    rcases server.deployFile_cases path with
      ⟨problem, refused, none⟩ | ⟨name, source, line, held, deployed⟩
    · rw [List.filterMap_cons_none none, refused]
      exact ih _ _
    · rw [List.filterMap_cons_some held, deployed]
      exact ih _ _

/-- The files of a folder that are taken for scripts, in the order of their names. -/
def folderPaths (server : Server) (folder : String) : List String :=
  match server.files.list folder with
  | .error _ => []
  | .ok (place, names) =>
    ((names.mergeSort (· ≤ ·)).filter fun name =>
      Path.extension name == scriptEnding && server.files.find? (place ++ [name]) != some .folder).map
        (Path.join folder)

/-- Loading a folder puts what its files hold, as far as they will do. -/
theorem loadFolder_catalog (server : Server) (folder : String) :
    (Event.run server (.folder folder)).catalog =
      server.catalog.after
        (puts server.now ((server.folderPaths folder).filterMap server.fileScript?)) := by
  unfold Event.run loadFolder folderPaths
  dsimp only
  cases server.files.list folder with
  | error problem => rfl
  | ok found => exact deployFiles_catalog server 0 _

end Server

/-! ## The law -/

/-- What requests and files leave of the catalog: its scripts with their revisions, the number of the
last revision, and the records of all executions. -/
structure RefusalLaw : Prop where
  /-- An answer of 400 or more, to whatever request, leaves the catalog as it has become while the
  request took its time. -/
  refused : ∀ (server : Server) (request : Request), 400 ≤ (server.answer request).1.status →
    (server.answer request).2.catalog = (server.wait Server.requestTime).settle.catalog
  /-- So it is what it was before, unless a run has come to its end meanwhile. -/
  undisturbed : ∀ (server : Server) (request : Request), 400 ≤ (server.answer request).1.status →
    (∀ run ∈ server.running, (server.wait Server.requestTime).isOver run = false) →
      (server.answer request).2.catalog = server.catalog
  /-- A request for a change that is refused leaves nothing else behind either. -/
  whole : ∀ (server : Server) (request : Request) (route : Route), route.asksForChange = true →
    400 ≤ (server.answerRoute request route).1.status →
      (server.answerRoute request route).2 = server
  /-- Any other answer to it says that one operation has been accepted. -/
  accepted : ∀ (server : Server) (request : Request) (route : Route), route.asksForChange = true →
    (server.answerRoute request route).1.status < 400 →
      (server.answerRoute request route).1.status = 200 ∧ ∃ operation : Operation,
        operation.apply server.catalog = .ok (server.answerRoute request route).2.catalog
  /-- All other requests leave the catalog alone whatever they are answered, those that run a script
  included. -/
  looked : ∀ (server : Server) (request : Request) (route : Route), route.asksForChange = false →
    (server.answerRoute request route).2.catalog = server.catalog
  /-- A file that is skipped, cannot be read or is rejected is one that holds no script. -/
  rejected : ∀ (server : Server) (path : String),
    (∃ problem, server.deployFile path = .error problem) ↔ server.fileScript? path = none
  /-- A change of a file puts the script that the file holds, or deletes the one that it held. -/
  changed : ∀ (server : Server) (change : FileChange) (path : String),
    (server.follow change path).catalog =
      server.catalog.after (server.changeAsked? change path).toList
  /-- Nothing happens where the file holds no script, or where there is none to delete. -/
  skipped : ∀ (server : Server) (change : FileChange) (path : String),
    (change ∈ [.created, .written] → server.fileScript? path = none) →
    (change ∈ [.removed, .renamed] → ∀ name ∈ scriptName? path, server.catalog.script? name = none) →
      (server.follow change path).catalog = server.catalog
  /-- Of a folder the scripts that its files hold are put, one after another. -/
  loaded : ∀ (server : Server) (folder : String),
    (Event.run server (.folder folder)).catalog = server.catalog.after
      (Server.puts server.now ((server.folderPaths folder).filterMap server.fileScript?))
  /-- A file that holds none could as well not be there. -/
  entry : ∀ (server : Server) (count : Nat) (before after : List String) (path : String),
    server.fileScript? path = none →
      (server.deployFiles count (before ++ path :: after)).2.catalog =
        (server.deployFiles count (before ++ after)).2.catalog

theorem refusal_law : RefusalLaw := by
  constructor
  · intro server request status
    exact Server.answer_refused status
  · intro server request status going
    rw [Server.answer_refused status, Server.settle_undisturbed going]
    rfl
  · intro server request route asks status
    exact (server.answerRoute_decided request asks).unchanged status
  · intro server request route asks status
    exact (server.answerRoute_decided request asks).carriedOut status
  · intro server request route asks
    exact server.answerRoute_keeps request asks
  · intro server path
    rcases server.deployFile_cases path with
      ⟨problem, refused, none⟩ | ⟨name, source, line, held, deployed⟩
    · exact ⟨fun _ => none, fun _ => ⟨problem, refused⟩⟩
    · rw [held, deployed]
      exact ⟨nofun, nofun⟩
  · exact Server.follow_catalog
  · intro server change path holdsNone goneAlready
    rw [server.follow_catalog change path]
    cases change with
    | created | written =>
      rw [Server.changeAsked?, holdsNone (by decide)]
      rfl
    | removed | renamed =>
      rw [Server.changeAsked?]
      cases named : scriptName? path with
      | none => rfl
      | some name =>
        exact Operation.run_of_error
          (Catalog.delete_unknown (goneAlready (by decide) name named))
    | touched => rfl
  · exact Server.loadFolder_catalog
  · intro server count before after path none
    rw [Server.deployFiles_catalog, Server.deployFiles_catalog, List.filterMap_append,
      List.filterMap_append, List.filterMap_cons_none none]

/-- A server with a script that has been run once. -/
def ranOnce : Server :=
  { catalog := ({} : Catalog).after [.put {} "a" "print 1", .begin {} "0" "a" [], .cancel {} "0"] }

/-- A request to deploy another script under that name. -/
def redeployed : Request :=
  { method := "POST", target := "/v1/scripts", contentType := "application/json"
    body := "\x7b\"name\": \"a\", \"source\": \"print 2\"\x7d" }

/-- The name is taken, which is found out last of all. -/
theorem refusal_law_taken :
    (ranOnce.answer redeployed).1.status = 409 ∧
      (ranOnce.answer redeployed).2.catalog = ranOnce.catalog := by
  have taken : (ranOnce.answer redeployed).1.status = 409 := by decide +kernel
  refine ⟨taken, refusal_law.undisturbed ranOnce redeployed ?_ nofun⟩
  rw [taken]
  decide

end Service
end BigScript
