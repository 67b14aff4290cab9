import BigScript.Proofs.Service.Attendance
import BigScript.Proofs.Service.Revision
import BigScript.Proofs.StopCause

/-!
# What is deployed may run

Scripts get into the catalog by four ways: a client creates one or replaces its source, a folder is
loaded, and a file of a watched folder changes.  Each of them checks the source as it is written, and
each but the second the name; the second finds a script of that name in the catalog.  A run checks
the source again, after healing where that is asked for.

Whatever the server is asked to do, the scripts in its catalog have names that will do and sources
that use no reserved name.  So no run of them is refused, and no record says that one was.
-/

namespace BigScript
namespace Service

/-- Whether a script has a name that will do and a source that uses no reserved name. -/
structure Script.Deployable (script : Script) : Prop where
  name : isScriptName script.name = true
  source : offence? (scan script.source) = none

/-- Whether a run ended by something that can stop a source that is let through. -/
def Ending.Lawful (ending : Ending) : Prop :=
  ∀ fault, ending.fault = some fault → fault.cause.stopsRun = true

/-- Whether the record of an execution does not say that its source was refused. -/
def Execution.Admitted (execution : Execution) : Prop :=
  ∀ failure, execution.outcome.failure? = some failure → "SyntaxError" ∉ failure.tags

/-- Whether all scripts may be run, and none was refused. -/
structure Catalog.Sound (catalog : Catalog) : Prop where
  scripts : ∀ script ∈ catalog.scripts, script.Deployable
  executions : ∀ execution ∈ catalog.executions, execution.Admitted

/-- Whether what an operation puts into the catalog, or records there, has been checked. -/
inductive Operation.Checked : Operation → Prop where
  | put (now : Moment) {name source : String} (named : isScriptName name = true)
      (free : offence? (scan source) = none) : Checked (.put now name source)
  | create (now : Moment) {name source : String} (named : isScriptName name = true)
      (free : offence? (scan source) = none) : Checked (.create now name source)
  | delete (name : String) : Checked (.delete name)
  | begin (now : Moment) (id name : String) (args : List String) : Checked (.begin now id name args)
  | complete (now : Moment) (id output : String) (globals : Bindings) :
      Checked (.complete now id output globals)
  | fail (now : Moment) (id output : String) {fault : Fault} (stops : fault.cause.stopsRun = true) :
      Checked (.fail now id output fault)
  | cancel (now : Moment) (id : String) : Checked (.cancel now id)

theorem sourceProblem?_eq_none {source : String} (free : sourceProblem? source = none) :
    offence? (scan source) = none := Option.map_eq_none_iff.mp free

theorem isScriptName_of_scriptName? {path name : String} (named : scriptName? path = some name) :
    isScriptName name = true := by
  unfold scriptName? at named
  dsimp only at named
  split at named
  · cases named
  · split at named
    · rename_i fine
      cases named
      exact (Bool.and_eq_true_iff.mp fine).1
    · cases named

theorem Execution.admitted_of_stopsRun {execution : Execution} {output : String} {fault : Fault}
    (stops : fault.cause.stopsRun = true) (ended : execution.outcome = .failed output (.ofFault fault)) :
    execution.Admitted := by
  intro failure kept
  rw [ended] at kept
  obtain rfl := Option.some.inj kept
  intro refused
  exact Cause.tag_of_stopsRun stops (List.mem_singleton.mp refused).symm

/-! ## Operations -/

namespace Catalog.Sound

variable {catalog changed : Catalog}

theorem put (sound : catalog.Sound) (now : Moment) {name source : String}
    (named : isScriptName name = true) (free : offence? (scan source) = none) :
    (catalog.put now name source).2.2.Sound where
  scripts := by
    intro script member
    rcases Catalog.mem_placeScript member with rfl | before
    · exact ⟨named, free⟩
    · exact sound.scripts script before
  executions := sound.executions

/-- Ending an execution in a way that does not say that its source was refused. -/
theorem settle (sound : catalog.Sound) {now : Moment} {id : String} {outcome : Outcome}
    (admitted : ∀ execution : Execution, execution.outcome = outcome → execution.Admitted) :
    (catalog.settle now id outcome).Sound where
  scripts := sound.scripts
  executions := by
    intro execution member
    rcases List.mem_map.mp member with ⟨before, there, rfl⟩
    split
    · exact admitted _ rfl
    · exact sound.executions before there

theorem finish (sound : catalog.Sound) {now : Moment} {id : String} {outcome : Outcome}
    (admitted : ∀ execution : Execution, execution.outcome = outcome → execution.Admitted)
    (answer : catalog.finish now id outcome = .ok changed) : changed.Sound := by
  unfold Catalog.finish at answer
  split at answer
  · cases answer
  · split at answer
    · cases answer
      exact sound.settle admitted
    · cases answer
      exact sound

theorem run (sound : catalog.Sound) {operation : Operation} (checked : operation.Checked) :
    (operation.run catalog).Sound := by
  cases answer : operation.apply catalog with
  | error refusal =>
    rw [Operation.run_of_error answer]
    exact sound
  | ok changed =>
    rw [Operation.run_of_ok answer]
    cases checked with
    | put now named free =>
      cases answer
      exact sound.put now named free
    | create now named free =>
      rcases Operation.snd_of_map answer with ⟨script, created⟩
      unfold Catalog.create at created
      split at created
      · cases created
      · cases created
        exact sound.put now named free
    | delete name =>
      change catalog.delete name = .ok changed at answer
      unfold Catalog.delete at answer
      split at answer
      · cases answer
      · cases answer
        exact ⟨fun script member => sound.scripts script (List.mem_filter.mp member).1,
          sound.executions⟩
    | begin now id name args =>
      rcases Operation.snd_of_map answer with ⟨execution, begun⟩
      unfold Catalog.begin at begun
      split at begun
      · cases begun
      · cases begun
        refine ⟨sound.scripts, ?_⟩
        intro other member
        rcases List.mem_append.mp member with before | new
        · exact sound.executions other before
        · obtain rfl := List.mem_singleton.mp new
          intro failure kept
          cases kept
    | complete now id output globals =>
      refine sound.finish ?_ answer
      intro execution ended failure kept
      rw [ended] at kept
      cases kept
    | fail now id output stops =>
      refine sound.finish ?_ answer
      intro execution ended
      exact Execution.admitted_of_stopsRun stops ended
    | cancel now id =>
      change catalog.cancel now id = .ok changed at answer
      unfold Catalog.cancel at answer
      split at answer
      · cases answer
      · split at answer
        · cases answer
          refine sound.settle ?_
          intro execution ended failure kept
          rw [ended] at kept
          cases kept
        · cases answer

/-- A catalog to which nothing but checked operations is done stays sound, in whatever order clients
come. -/
theorem after (sound : catalog.Sound) {operations : List Operation}
    (checked : ∀ operation ∈ operations, operation.Checked) : (catalog.after operations).Sound := by
  induction operations generalizing catalog with
  | nil => exact sound
  | cons operation rest ih =>
    rcases List.forall_mem_cons.mp checked with ⟨first, others⟩
    exact ih (sound.run first) others

end Catalog.Sound

theorem Ending.Lawful.checked {ending : Ending} (lawful : ending.Lawful) (now : Moment) (id : String) :
    (ending.operation now id).Checked := by
  unfold Ending.operation
  split
  · exact .complete now id _ _
  · rename_i fault stopped
    split
    · exact .cancel now id
    · exact .fail now id _ (lawful fault stopped)

/-! ## Runs -/

namespace Server

variable {server after : Server}

/-- A machine of a server has not been stopped when it starts. -/
theorem machine_running (server : Server) (args : List String) (globals : List (String × String)) :
    (server.machine args globals).halt = none := by
  unfold machine Machine.start
  dsimp only
  split <;> rfl

/-- A source that uses no reserved name is not refused, however the server runs scripts. -/
theorem runSource_lawful (server : Server) {source : String}
    (free : offence? (scan source) = none) (args : List String) (globals : List (String × String)) :
    (server.runSource source args globals).1.Lawful := by
  intro fault stopped
  exact Machine.runSource_stopsRun free (server.machine_running args globals) stopped

/-- Whether all scripts of a server may be run, none was refused and none will turn out to have
been. -/
structure Sound (server : Server) : Prop where
  catalog : server.catalog.Sound
  running : ∀ run ∈ server.running, run.ending.Lawful

namespace Sound

theorem of_same (sound : server.Sound) (catalog : after.catalog = server.catalog)
    (running : after.running = server.running) : after.Sound where
  catalog := catalog ▸ sound.catalog
  running := running ▸ sound.running

theorem run (sound : server.Sound) {operation : Operation} (checked : operation.Checked)
    (changed : after.catalog = operation.run server.catalog)
    (running : after.running = server.running) : after.Sound where
  catalog := changed ▸ sound.catalog.run checked
  running := running ▸ sound.running

theorem record (sound : server.Sound) (id script : String) {ending : Ending}
    (lawful : ending.Lawful) : (server.record id script ending).Sound :=
  sound.run (lawful.checked server.now id) (server.record_catalog id script ending)
    (server.record_running id script ending)

theorem recordAll (sound : server.Sound) {runs : List Running}
    (lawful : ∀ run ∈ runs, run.ending.Lawful) : (server.recordAll runs).Sound := by
  induction runs generalizing server with
  | nil => exact sound
  | cons run rest ih =>
    rcases List.forall_mem_cons.mp lawful with ⟨first, others⟩
    exact ih (sound.record run.id run.script first) others

theorem settle (sound : server.Sound) : server.settle.Sound := by
  have going : ({ server with
      running := server.running.filter fun run => !server.isOver run } : Server).Sound :=
    ⟨sound.catalog, fun run member => sound.running run (List.mem_filter.mp member).1⟩
  rw [settle_eq]
  exact going.recordAll fun run member => sound.running run (List.mem_filter.mp member).1

theorem wait (sound : server.Sound) (nanoseconds : Nat) : (server.wait nanoseconds).Sound :=
  sound.of_same rfl rfl

theorem note (sound : server.Sound) (line : String) : (server.note line).Sound :=
  sound.of_same rfl rfl

theorem await (sound : server.Sound) (id : String) : (server.await id).Sound := by
  unfold Server.await
  split
  · exact sound
  · rename_i run found
    have later : ({ server with
        now := ⟨max server.now.nanoseconds run.ends.nanoseconds⟩ } : Server).Sound :=
      sound.of_same rfl rfl
    exact later.settle

/-- An execution begins with a run of a script of the catalog. -/
theorem launch (sound : server.Sound) {name : String} {args : List String} {execution : Execution}
    (launched : server.launch name args = .ok (execution, after)) : after.Sound := by
  unfold Server.launch at launched
  rcases ok_of_bind launched with ⟨script, looked, begun⟩
  rcases ok_of_bind begun with ⟨⟨record, catalog⟩, answer, rest⟩
  cases rest
  have member := Catalog.script?_mem (Catalog.script?_of_script looked)
  have applied : Operation.apply server.catalog
      (.begin server.now server.drawId.1 script.name args) = .ok catalog := by
    change (server.catalog.begin server.now server.drawId.1 script.name args).map Prod.snd = _
    exact congrArg (Except.map Prod.snd) answer
  constructor
  · have changed := sound.catalog.run (.begin server.now server.drawId.1 script.name args)
    rw [Operation.run_of_ok applied] at changed
    exact changed
  · intro run there
    rcases List.mem_append.mp there with before | new
    · exact sound.running run before
    · obtain rfl := List.mem_singleton.mp new
      exact runSource_lawful _ (sound.catalog.scripts script member).source args []

theorem execute (sound : server.Sound) {name : String} {args : List String} {execution : Execution}
    (executed : server.execute name args = .ok (execution, after)) : after.Sound := by
  unfold Server.execute at executed
  rcases ok_of_bind executed with ⟨⟨begun, launched⟩, start, rest⟩
  rcases ok_of_bind rest with ⟨record, -, last⟩
  cases last
  exact (sound.launch start).await _

theorem cancel (sound : server.Sound) {id : String} {execution : Execution}
    (cancelled : server.cancel id = .ok (execution, after)) : after.Sound := by
  unfold Server.cancel at cancelled
  rcases ok_of_bind cancelled with ⟨catalog, answer, rest⟩
  rcases ok_of_bind rest with ⟨record, -, last⟩
  cases last
  have applied : Operation.apply server.catalog (.cancel server.now id) = .ok catalog := answer
  constructor
  · have changed := sound.catalog.run (.cancel server.now id)
    rw [Operation.run_of_ok applied] at changed
    exact changed
  · exact fun run member => sound.running run (List.mem_filter.mp member).1

/-! ## Requests -/

theorem put (sound : server.Sound) {name source : String} (named : isScriptName name = true)
    (free : offence? (scan source) = none) :
    ({ server with catalog := (server.catalog.put server.now name source).2.2 } : Server).Sound :=
  ⟨sound.catalog.put server.now named free, sound.running⟩

theorem delete (sound : server.Sound) {name : String} {catalog : Catalog}
    (deleted : server.catalog.delete name = .ok catalog) :
    ({ server with catalog } : Server).Sound := by
  have applied : Operation.apply server.catalog (.delete name) = .ok catalog := deleted
  exact sound.run (.delete name) (Operation.run_of_ok applied).symm rfl

theorem createScript (sound : server.Sound) (request : Request) :
    (server.createScript request).2.Sound := by
  unfold Server.createScript
  split
  · exact sound
  · rename_i form accepted
    dsimp only
    generalize (if form.name.isEmpty then ((formFields request.query).lookup "name").getD ""
      else form.name) = name
    split
    · exact sound
    · rename_i named
      split
      · exact sound
      · split
        · exact sound
        · rename_i free
          split
          · exact sound
          · rename_i script catalog created
            have applied : Operation.apply server.catalog (.create server.now name form.source) =
                .ok catalog := by
              change (server.catalog.create server.now name form.source).map Prod.snd = _
              rw [created]
              rfl
            have fine : isScriptName name = true := by
              rwa [Bool.not_eq_true', Bool.not_eq_false] at named
            exact sound.run (.create server.now fine (sourceProblem?_eq_none free))
              (Operation.run_of_ok applied).symm rfl

/-- The name under which a source is replaced is that of a script of the catalog. -/
theorem updateScript (sound : server.Sound) (request : Request) (name : String) :
    (server.updateScript request name).2.Sound := by
  unfold Server.updateScript
  split
  · exact sound
  · rename_i script looked
    have found := Catalog.script?_of_script looked
    have named := (sound.catalog.scripts script (Catalog.script?_mem found)).name
    rw [Catalog.script?_name found] at named
    split
    · exact sound
    · split
      · exact sound
      · rename_i free
        exact sound.put named (sourceProblem?_eq_none free)

theorem deleteScript (sound : server.Sound) (name : String) :
    (server.deleteScript name).2.Sound := by
  unfold Server.deleteScript
  split
  · exact sound
  · rename_i catalog deleted
    exact sound.delete deleted

theorem createExecution (sound : server.Sound) (request : Request) (name : String) :
    (server.createExecution request name).2.Sound := by
  unfold Server.createExecution
  split
  · exact sound
  · dsimp only
    split
    · exact sound
    · rename_i execution after launched
      exact sound.launch launched

theorem runRequest (sound : server.Sound) (request : Request) (name : String) :
    (server.runRequest request name).2.Sound := by
  unfold Server.runRequest
  split
  · exact sound
  · dsimp only
    split
    · exact sound.of_same rfl rfl
    · split <;> exact sound.of_same rfl rfl

theorem answerRoute (sound : server.Sound) (request : Request) (route : Route) :
    (server.answerRoute request route).2.Sound := by
  unfold Server.answerRoute
  split
  · exact sound.createScript request
  · exact sound
  · split <;> exact sound
  · exact sound.updateScript request _
  · exact sound.deleteScript _
  · exact sound.createExecution request _
  · exact sound
  · split <;> exact sound
  · split
    · rename_i execution after cancelled
      exact sound.cancel cancelled
    · exact sound
  · exact sound.runRequest request _
  · exact sound
  · split <;> exact sound
  · split <;> exact sound
  · exact sound

theorem answer (sound : server.Sound) (request : Request) : (server.answer request).2.Sound := by
  have settled := (sound.wait requestTime).settle
  unfold Server.answer
  dsimp only
  split
  · rename_i route found
    exact settled.answerRoute request route
  · exact settled

/-! ## Jobs and files -/

theorem runJob (sound : server.Sound) (script : String) (args : List String) :
    (server.runJob script args).Sound := by
  unfold Server.runJob
  dsimp only
  split
  · exact sound.note _
  · rename_i execution after executed
    exact (sound.execute executed).note _

theorem deployFile (sound : server.Sound) {path : String}
    (deployed : server.deployFile path = .ok after) : after.Sound := by
  unfold Server.deployFile at deployed
  dsimp only at deployed
  split at deployed
  · cases deployed
  · rename_i name named
    split at deployed
    · cases deployed
    · split at deployed
      · cases deployed
      · rename_i free
        cases deployed
        have fine := isScriptName_of_scriptName? named
        exact (sound.put fine (sourceProblem?_eq_none free)).note _

theorem deployFiles (sound : server.Sound) (count : Nat) (paths : List String) :
    (server.deployFiles count paths).2.Sound := by
  induction paths generalizing server count with
  | nil => exact sound
  | cons path rest ih =>
    unfold Server.deployFiles
    split
    · rename_i after deployed
      exact ih ((sound.deployFile deployed).wait 1000) _
    · exact ih (sound.note _) _

theorem loadFolder (sound : server.Sound) {folder : String}
    (loaded : server.loadFolder folder = .ok after) : after.Sound := by
  unfold Server.loadFolder at loaded
  split at loaded
  · cases loaded
  · cases loaded
    exact (sound.deployFiles 0 _).note _

theorem follow (sound : server.Sound) (change : FileChange) (path : String) :
    (server.follow change path).Sound := by
  have dropped (name : String) : (follow.dropScript server name).Sound := by
    unfold follow.dropScript
    split
    · rename_i catalog deleted
      exact (sound.delete deleted).note _
    · exact sound
  have deployed : (follow.deployOrNote server path).Sound := by
    unfold follow.deployOrNote
    split
    · rename_i after deployed
      exact sound.deployFile deployed
    · exact sound.note _
  unfold Server.follow
  split
  · exact sound
  · rename_i name named
    cases change with
    | removed => exact dropped name
    | renamed => exact dropped name
    | created => exact deployed
    | written => exact deployed
    | touched => exact sound

theorem event (sound : server.Sound) (event : Event) : (event.run server).Sound := by
  cases event with
  | request request => exact sound.answer request
  | job script args => exact sound.runJob script args
  | folder path =>
    cases loaded : server.loadFolder path with
    | error problem =>
      rw [Event.run, loaded]
      exact sound
    | ok after =>
      rw [Event.run, loaded]
      exact sound.loadFolder loaded
  | change change path => exact sound.follow change path
  | pass nanoseconds => exact (sound.wait nanoseconds).settle

end Sound

/-- What is answered for a run carried out to its end is the record of it. -/
theorem execute_mem {name : String} {args : List String} {execution : Execution}
    (executed : server.execute name args = .ok (execution, after)) :
    execution ∈ after.catalog.executions := by
  unfold execute at executed
  rcases ok_of_bind executed with ⟨⟨begun, launched⟩, start, rest⟩
  rcases ok_of_bind rest with ⟨record, looked, last⟩
  cases last
  unfold Catalog.execution at looked
  split at looked
  · rename_i found
    cases looked
    exact List.mem_of_find?_eq_some found
  · cases looked

/-- The servers that come about from one that has no scripts, whatever it is asked to do and whatever
becomes of the files in the meantime. -/
inductive Reachable : Server → Prop where
  | start {server : Server} (empty : server.catalog = {}) (idle : server.running = []) :
      Reachable server
  | event {server : Server} (reached : Reachable server) (event : Event) :
      Reachable (event.run server)
  | files {server : Server} (reached : Reachable server) (files : FileTree) :
      Reachable { server with files }

theorem Reachable.sound (reached : Reachable server) : server.Sound := by
  induction reached with
  | start empty idle =>
    refine ⟨⟨?_, ?_⟩, ?_⟩
    · rw [empty]
      exact List.forall_mem_nil _
    · rw [empty]
      exact List.forall_mem_nil _
    · rw [idle]
      exact List.forall_mem_nil _
  | event _ event sound => exact sound.event event
  | files _ files sound => exact sound.of_same rfl rfl

end Server

/-! ## The law -/

/-- What is known about the scripts of a server and about their runs. -/
structure DeploymentLaw (server : Server) : Prop where
  names : ∀ script ∈ server.catalog.scripts, isScriptName script.name = true
  sources : ∀ script ∈ server.catalog.scripts, sourceProblem? script.source = none
  /-- No run of a script is refused, whoever begins it and whether or not its source is healed: it
  may be an execution, a scheduled run or a run that answers a request. -/
  runs : ∀ script ∈ server.catalog.scripts, ∀ (runner : Server) (args : List String)
    (globals : List (String × String)) (fault : Fault),
      (runner.runSource script.source args globals).1.fault = some fault →
        "SyntaxError" ∉ fault.tags
  /-- A source that the check does not let through would be refused by every run. -/
  checked : ∀ source, sourceProblem? source ≠ none → ∀ (runner : Server) (args : List String)
    (globals : List (String × String)), ∃ fault,
      (runner.runSource source args globals).1.fault = some fault ∧ "SyntaxError" ∈ fault.tags
  /-- No record says that a run was refused. -/
  records : ∀ execution ∈ server.catalog.executions, ∀ failure,
    execution.outcome.failure? = some failure → "SyntaxError" ∉ failure.tags
  /-- No record of a run that is still going on will. -/
  endings : ∀ run ∈ server.running, ∀ fault, run.ending.fault = some fault →
    "SyntaxError" ∉ fault.tags
  executed : ∀ (name : String) (args : List String) (execution : Execution) (after : Server),
    server.execute name args = .ok (execution, after) → ∀ failure,
      execution.outcome.failure? = some failure → "SyntaxError" ∉ failure.tags

theorem deployment_law (server : Server) (reached : server.Reachable) : DeploymentLaw server := by
  have sound := reached.sound
  have apart {fault : Fault} (stops : fault.cause.stopsRun = true) :
      "SyntaxError" ∉ fault.tags := by
    intro refused
    exact Cause.tag_of_stopsRun stops (List.mem_singleton.mp refused).symm
  constructor
  · exact fun script member => (sound.catalog.scripts script member).name
  · exact fun script member => Option.map_eq_none_iff.mpr (sound.catalog.scripts script member).source
  · intro script member runner args globals fault stopped
    have free := (sound.catalog.scripts script member).source
    exact apart (runner.runSource_lawful free args globals fault stopped)
  · intro source problem runner args globals
    cases offends : offence? (scan source) with
    | none => exact absurd (Option.map_eq_none_iff.mpr offends) problem
    | some report =>
      have refused := Machine.runSource_refused offends (runner.machine args globals)
      exact ⟨_, refused, List.mem_cons_self⟩
  · exact sound.catalog.executions
  · exact fun run member fault stopped => apart (sound.running run member fault stopped)
  · intro name args execution after executed
    exact (sound.execute executed).catalog.executions execution (Server.execute_mem executed)

/-- A server whose folder holds a script. -/
def watching : Server := { files := { entries := [(["a.big"], .file (.text "print 1"))] } }

/-- The script is deployed when the server hears of its file. -/
theorem deployment_law_watching :
    ((Event.change .created "a.big").run watching).Reachable ∧
      DeploymentLaw ((Event.change .created "a.big").run watching) ∧
      ((Event.change .created "a.big").run watching).catalog.scripts.map (·.name) = ["a"] := by
  have reached : ((Event.change .created "a.big").run watching).Reachable :=
    (Server.Reachable.start rfl rfl).event (.change .created "a.big")
  exact ⟨reached, deployment_law _ reached, by decide +kernel⟩

end Service
end BigScript
