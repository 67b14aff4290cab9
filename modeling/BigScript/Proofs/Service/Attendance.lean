import BigScript.Proofs.Service.Lifecycle
import BigScript.Service.Answer
import BigScript.Service.Scheduler

/-!
# The server attends to its executions

The catalog alone does not say that an execution ever ends.  The server sees to that: for every
execution that is active it has a run going on, and when the clock reaches the end of a run its
ending is recorded before the run is forgotten.  A request to cancel forgets the run and ends the
execution in one step.

Nothing here relies on ids being drawn only once.  Where one is drawn again, the record that is
found under it is the first one.
-/

namespace BigScript
namespace Service

namespace Ending

/-- Whether a run was stopped because it had been cancelled. -/
def isCancellation (ending : Ending) : Bool := ending.fault.any fun fault => fault.cause.isCancellation

/-- What is done to the catalog to record how a run ended. -/
def operation (now : Moment) (id : String) (ending : Ending) : Operation :=
  match ending.fault with
  | none => .complete now id ending.output ending.globals
  | some fault =>
    if fault.cause.isCancellation then .cancel now id else .fail now id ending.output fault

theorem operation_ends (ending : Ending) (now : Moment) (id : String) :
    (ending.operation now id).Ends id := by
  unfold operation
  split
  · exact .complete now ending.output ending.globals
  · split
    · exact .cancel now
    · exact .fail now ending.output _

end Ending

namespace Server

/-- Whether every active execution has a run that is going on. -/
def Attends (server : Server) : Prop :=
  ∀ id, server.catalog.ActiveIn id → ∃ run ∈ server.running, run.id = id

/-- What the server does is a sequence of operations on its catalog, and it goes on attending to its
executions. -/
structure Serves (before after : Server) : Prop where
  operations : ∃ operations, after.catalog = before.catalog.after operations
  attends : before.Attends → after.Attends

namespace Serves

variable {before middle after : Server}

theorem of_same (catalog : after.catalog = before.catalog) (running : after.running = before.running) :
    Serves before after where
  operations := ⟨[], catalog⟩
  attends := by
    intro attends
    unfold Attends
    rw [catalog, running]
    exact attends

theorem refl (server : Server) : Serves server server := of_same rfl rfl

theorem trans (first : Serves before middle) (second : Serves middle after) :
    Serves before after where
  operations := by
    rcases first.operations with ⟨early, reached⟩
    rcases second.operations with ⟨late, further⟩
    exact ⟨early ++ late, by rw [further, reached, Catalog.after_append]⟩
  attends := fun attends => second.attends (first.attends attends)

/-- An operation on scripts. -/
theorem of_scripts (operation : Operation) (changed : after.catalog = operation.run before.catalog)
    (executions : after.catalog.executions = before.catalog.executions)
    (running : after.running = before.running) : Serves before after where
  operations := ⟨[operation], changed⟩
  attends := by
    intro attends id active
    rw [running]
    rcases active with ⟨execution, found, going⟩
    rw [Catalog.execution?_of_executions executions] at found
    exact attends id ⟨execution, found, going⟩

end Serves

/-! ## Recording what ended -/

/-- What the catalog answers is kept, and a refusal changes nothing. -/
theorem keep_answer {server kept : Server} (operation : Operation)
    (accepted : ∀ after, operation.apply server.catalog = .ok after → kept.catalog = after)
    (refused : ∀ refusal, operation.apply server.catalog = .error refusal →
      kept.catalog = server.catalog) : kept.catalog = operation.run server.catalog := by
  cases answer : operation.apply server.catalog with
  | ok after => rw [Operation.run_of_ok answer, accepted after answer]
  | error refusal => rw [Operation.run_of_error answer, refused refusal answer]

/-- The end of a run is recorded by the operation that it asks for. -/
theorem record_catalog (server : Server) (id script : String) (ending : Ending) :
    (server.record id script ending).catalog =
      (ending.operation server.now id).run server.catalog := by
  unfold record
  split
  · rename_i stopped
    have asked : ending.operation server.now id =
        .complete server.now id ending.output ending.globals := by
      rw [Ending.operation, stopped]
    rw [asked]
    refine keep_answer _ ?_ ?_
    · intro after (answer : server.catalog.complete _ _ _ _ = _)
      rw [answer]
    · intro refusal (answer : server.catalog.complete _ _ _ _ = _)
      rw [answer]
  · rename_i fault stopped
    have asked : ending.operation server.now id =
        if fault.cause.isCancellation then .cancel server.now id
        else .fail server.now id ending.output fault := by
      rw [Ending.operation, stopped]
    rw [asked]
    split
    · refine keep_answer _ ?_ ?_
      · intro after (answer : server.catalog.cancel _ _ = _)
        rw [answer]
      · intro refusal (answer : server.catalog.cancel _ _ = _)
        rw [answer]
    · refine keep_answer _ ?_ ?_
      · intro after (answer : server.catalog.fail _ _ _ _ = _)
        dsimp only [note]
        rw [answer]
      · intro refusal (answer : server.catalog.fail _ _ _ _ = _)
        dsimp only [note]
        rw [answer]

/-- The end of a run is recorded by one of the operations that end its execution. -/
theorem record_operation (server : Server) (id script : String) (ending : Ending) :
    ∃ operation : Operation, operation.Ends id ∧
      (server.record id script ending).catalog = operation.run server.catalog :=
  ⟨_, ending.operation_ends server.now id, server.record_catalog id script ending⟩

theorem record_running (server : Server) (id script : String) (ending : Ending) :
    (server.record id script ending).running = server.running := by
  unfold record
  split
  · split <;> rfl
  · split
    · split <;> rfl
    · dsimp only
      split <;> rfl

/-- The endings of runs recorded one after another. -/
def recordAll (server : Server) (runs : List Running) : Server :=
  runs.foldl (fun server run => server.record run.id run.script run.ending) server

theorem recordAll_running (server : Server) (runs : List Running) :
    (server.recordAll runs).running = server.running := by
  induction runs generalizing server with
  | nil => rfl
  | cons run rest ih => exact (ih _).trans (server.record_running run.id run.script run.ending)

theorem recordAll_operations (server : Server) (runs : List Running) :
    ∃ operations, (server.recordAll runs).catalog = server.catalog.after operations := by
  induction runs generalizing server with
  | nil => exact ⟨[], rfl⟩
  | cons run rest ih =>
    rcases server.record_operation run.id run.script run.ending with ⟨operation, -, recorded⟩
    rcases ih (server.record run.id run.script run.ending) with ⟨operations, reached⟩
    refine ⟨operation :: operations, ?_⟩
    change ((server.record run.id run.script run.ending).recordAll rest).catalog = _
    rw [reached, recorded]
    rfl

/-- An execution that is active after endings have been recorded was active before, and none of the
endings was its own. -/
theorem recordAll_active {server : Server} {runs : List Running} {id : String}
    (active : (server.recordAll runs).catalog.ActiveIn id) :
    server.catalog.ActiveIn id ∧ ∀ run ∈ runs, run.id ≠ id := by
  induction runs generalizing server with
  | nil => exact ⟨active, nofun⟩
  | cons run rest ih =>
    rcases server.record_operation run.id run.script run.ending with ⟨operation, ends, recorded⟩
    rcases @ih (server.record run.id run.script run.ending) active with ⟨here, others⟩
    rw [recorded] at here
    rcases ends.active_before here with ⟨before, other⟩
    exact ⟨before, List.forall_mem_cons.mpr ⟨other, others⟩⟩

/-- Whether a run has come to its end. -/
def isOver (server : Server) (run : Running) : Bool := run.ends.nanoseconds ≤ server.now.nanoseconds

theorem settle_eq (server : Server) :
    server.settle =
      ({ server with running := server.running.filter fun run => !server.isOver run }).recordAll
        (server.running.filter server.isOver) := by
  unfold settle
  rw [List.partition_eq_filter_filter]
  rfl

theorem settle_serves (server : Server) : Serves server server.settle where
  operations := by
    rw [settle_eq]
    exact recordAll_operations _ _
  attends := by
    intro attends id active
    rw [settle_eq] at active ⊢
    rcases recordAll_active active with ⟨before, others⟩
    rcases attends id before with ⟨run, going, same⟩
    refine ⟨run, ?_, same⟩
    rw [recordAll_running, List.mem_filter]
    refine ⟨going, ?_⟩
    -- A run that is over would have been recorded.
    cases ended : server.isOver run with
    | false => rfl
    | true => exact absurd same (others run (List.mem_filter.mpr ⟨going, ended⟩))

/-- Once the clock has reached the end of a run, its execution is not active. -/
theorem settle_over {server : Server} {run : Running} (going : run ∈ server.running)
    (ended : server.isOver run = true) : ¬ server.settle.catalog.ActiveIn run.id := by
  intro active
  rw [settle_eq] at active
  exact (recordAll_active active).2 run (List.mem_filter.mpr ⟨going, ended⟩) rfl

theorem wait_serves (server : Server) (nanoseconds : Nat) :
    Serves server (server.wait nanoseconds) := .of_same rfl rfl

/-! ## Runs -/

theorem runSource_serves (server : Server) (source : String) (args : List String)
    (globals : List (String × String)) :
    Serves server (server.runSource source args globals).2.2 := .of_same rfl rfl

theorem ok_of_bind {ε α β : Type} {first : Except ε α} {next : α → Except ε β} {value : β}
    (answer : first >>= next = .ok value) : ∃ middle, first = .ok middle ∧ next middle = .ok value := by
  cases first with
  | error _ => cases answer
  | ok middle => exact ⟨middle, rfl, answer⟩

theorem ok_of_toOption {ε α : Type} {answer : Except ε α} {value : α}
    (answered : answer.toOption = some value) : answer = .ok value := by
  cases answer with
  | error _ => cases answered
  | ok _ => exact congrArg Except.ok (Option.some.inj answered)

/-- What is left of the server when an execution has begun: its record and its run. -/
theorem launch_eq {server after : Server} {name : String} {args : List String}
    {execution : Execution} (launched : server.launch name args = .ok (execution, after)) :
    ∃ (id script : String) (run : Running),
      server.catalog.begin server.now id script args = .ok (execution, after.catalog) ∧
        after.running = server.running ++ [run] ∧ run.id = id := by
  unfold launch at launched
  rcases ok_of_bind launched with ⟨script, -, begun⟩
  rcases ok_of_bind begun with ⟨⟨record, catalog⟩, answer, rest⟩
  cases rest
  exact ⟨_, script.name, _, answer, rfl, rfl⟩

/-- An execution begins with its run. -/
theorem launch_serves {server after : Server} {name : String} {args : List String}
    {execution : Execution} (launched : server.launch name args = .ok (execution, after)) :
    Serves server after := by
  rcases launch_eq launched with ⟨id, script, run, begun, running, same⟩
  have applied : Operation.apply server.catalog (.begin server.now id script args) =
      .ok after.catalog := by
    change (server.catalog.begin server.now id script args).map Prod.snd = _
    rw [begun]
    rfl
  constructor
  · exact ⟨[.begin server.now id script args], (Operation.run_of_ok applied).symm⟩
  · intro attends other active
    rw [running]
    rcases active with ⟨record, found, going⟩
    rw [(Catalog.begin_execution? begun other).1] at found
    cases known : server.catalog.execution? other with
    | some before =>
      rw [known, Option.some_or] at found
      cases found
      rcases attends other ⟨record, known, going⟩ with ⟨earlier, there, named⟩
      exact ⟨earlier, List.mem_append_left _ there, named⟩
    | none =>
      rw [known, Option.none_or] at found
      split at found
      · rename_i named
        exact ⟨run, List.mem_append_right _ List.mem_cons_self, same.trans (eq_of_beq named)⟩
      · cases found

theorem await_serves (server : Server) (id : String) : Serves server (server.await id) := by
  unfold await
  split
  · exact .refl server
  · refine Serves.trans ?_ (settle_serves _)
    exact .of_same rfl rfl

/-- Waiting for a run leads to its end. -/
theorem await_over {server : Server} {run : Running} (going : run ∈ server.running) :
    ¬ (server.await run.id).catalog.ActiveIn run.id := by
  unfold await
  split
  · rename_i none
    have other := List.find?_eq_none.mp none run going
    exact absurd (beq_self_eq_true run.id) other
  · rename_i first found
    have same : first.id = run.id := by
      have known := List.find?_some found
      exact eq_of_beq known
    rw [← same]
    refine settle_over (List.mem_of_find?_eq_some found) ?_
    exact decide_eq_true (Int.le_max_right _ _)

theorem execute_serves {server after : Server} {name : String} {args : List String}
    {execution : Execution} (executed : server.execute name args = .ok (execution, after)) :
    Serves server after := by
  unfold execute at executed
  rcases ok_of_bind executed with ⟨⟨begun, launched⟩, start, rest⟩
  rcases ok_of_bind rest with ⟨record, -, last⟩
  cases last
  exact (launch_serves start).trans (await_serves _ _)

/-- An execution that has been carried out to its end is not active. -/
theorem execute_final {server after : Server} {name : String} {args : List String}
    {execution : Execution} (executed : server.execute name args = .ok (execution, after)) :
    execution.outcome.isActive = false := by
  unfold execute at executed
  rcases ok_of_bind executed with ⟨⟨begun, launched⟩, start, rest⟩
  rcases ok_of_bind rest with ⟨record, looked, last⟩
  cases last
  rcases launch_eq start with ⟨id, script, run, answer, running, same⟩
  have named : begun.id = id := (Catalog.begin_execution? answer id).2.id
  have going : run ∈ launched.running := by
    rw [running]
    exact List.mem_append_right _ List.mem_cons_self
  have inactive := await_over going
  rw [same, ← named] at inactive
  have found : (launched.await begun.id).catalog.execution? begun.id = some execution := by
    unfold Catalog.execution at looked
    split at looked
    · rename_i there
      cases looked
      exact there
    · cases looked
  cases state : execution.outcome.isActive with
  | false => rfl
  | true => exact absurd ⟨execution, found, state⟩ inactive

theorem cancel_serves {server after : Server} {id : String} {execution : Execution}
    (cancelled : server.cancel id = .ok (execution, after)) : Serves server after := by
  unfold cancel at cancelled
  rcases ok_of_bind cancelled with ⟨catalog, answer, rest⟩
  rcases ok_of_bind rest with ⟨record, -, last⟩
  cases last
  have applied : Operation.apply server.catalog (.cancel server.now id) = .ok catalog := answer
  have changed := Operation.run_of_ok applied
  constructor
  · exact ⟨[.cancel server.now id], changed.symm⟩
  · intro attends other active
    change catalog.ActiveIn other at active
    rw [← changed] at active
    rcases (Operation.Ends.cancel server.now).active_before active with ⟨before, apart⟩
    rcases attends other before with ⟨run, going, same⟩
    refine ⟨run, List.mem_filter.mpr ⟨going, ?_⟩, same⟩
    rw [same]
    exact bne_iff_ne.mpr apart.symm

/-! ## Requests, jobs and files -/

theorem put_serves (server : Server) (name source : String) :
    Serves server { server with catalog := (server.catalog.put server.now name source).2.2 } :=
  .of_scripts (.put server.now name source) rfl rfl rfl

theorem create_serves {server : Server} {name source : String} {script : Script} {catalog : Catalog}
    (created : server.catalog.create server.now name source = .ok (script, catalog)) :
    Serves server { server with catalog } := by
  refine .of_scripts (.create server.now name source) ?_ (Catalog.create_executions created) rfl
  refine (Operation.run_of_ok ?_).symm
  change (server.catalog.create server.now name source).map Prod.snd = _
  rw [created]
  rfl

theorem delete_serves {server : Server} {name : String} {catalog : Catalog}
    (deleted : server.catalog.delete name = .ok catalog) :
    Serves server { server with catalog } := by
  have applied : Operation.apply server.catalog (.delete name) = .ok catalog := deleted
  exact .of_scripts (.delete name) (Operation.run_of_ok applied).symm
    (Catalog.delete_executions deleted) rfl

theorem note_serves (server : Server) (line : String) : Serves server (server.note line) :=
  .of_same rfl rfl

theorem createScript_serves (server : Server) (request : Request) :
    Serves server (server.createScript request).2 := by
  unfold createScript
  split
  · exact .refl server
  · rename_i form accepted
    dsimp only
    generalize (if form.name.isEmpty then ((formFields request.query).lookup "name").getD ""
      else form.name) = name
    split
    · exact .refl server
    · split
      · exact .refl server
      · split
        · exact .refl server
        · split
          · exact .refl server
          · rename_i script catalog created
            exact create_serves created

theorem updateScript_serves (server : Server) (request : Request) (name : String) :
    Serves server (server.updateScript request name).2 := by
  unfold updateScript
  split
  · exact .refl server
  · split
    · exact .refl server
    · split
      · exact .refl server
      · exact put_serves server name _

theorem deleteScript_serves (server : Server) (name : String) :
    Serves server (server.deleteScript name).2 := by
  unfold deleteScript
  split
  · exact .refl server
  · rename_i catalog deleted
    exact delete_serves deleted

theorem createExecution_serves (server : Server) (request : Request) (name : String) :
    Serves server (server.createExecution request name).2 := by
  unfold createExecution
  split
  · exact .refl server
  · dsimp only
    split
    · exact .refl server
    · rename_i execution after launched
      exact launch_serves launched

theorem runRequest_serves (server : Server) (request : Request) (name : String) :
    Serves server (server.runRequest request name).2 := by
  unfold runRequest
  split
  · exact .refl server
  · rename_i script found
    have ran := (runSource_serves server script.source [] [("RequestBody", request.body),
      ("RequestPath", request.target), ("RequestMethod", request.method)])
    generalize server.runSource script.source [] _ = result at ran ⊢
    rcases result with ⟨ending, time, after⟩
    have waited := ran.trans (wait_serves after time)
    dsimp only
    split
    · exact waited
    · split <;> exact waited

theorem answerRoute_serves (server : Server) (request : Request) (route : Route) :
    Serves server (server.answerRoute request route).2 := by
  unfold answerRoute
  split
  · exact createScript_serves server request
  · exact .refl server
  · split <;> exact .refl server
  · exact updateScript_serves server request _
  · exact deleteScript_serves server _
  · exact createExecution_serves server request _
  · exact .refl server
  · split <;> exact .refl server
  · split
    · rename_i execution after cancelled
      exact cancel_serves cancelled
    · exact .refl server
  · exact runRequest_serves server request _
  · exact .refl server
  · split <;> exact .refl server
  · split <;> exact .refl server
  · exact .refl server

theorem answer_serves (server : Server) (request : Request) :
    Serves server (server.answer request).2 := by
  have settled := (wait_serves server requestTime).trans (settle_serves _)
  unfold answer
  dsimp only
  split
  · rename_i route found
    exact settled.trans (answerRoute_serves _ request route)
  · exact settled

theorem runJob_serves (server : Server) (script : String) (args : List String) :
    Serves server (server.runJob script args) := by
  unfold runJob
  dsimp only
  split
  · exact note_serves server _
  · rename_i execution after executed
    exact (execute_serves executed).trans (note_serves after _)

theorem deployFile_serves {server after : Server} {path : String}
    (deployed : server.deployFile path = .ok after) : Serves server after := by
  unfold deployFile at deployed
  dsimp only at deployed
  split at deployed
  · cases deployed
  · split at deployed
    · cases deployed
    · split at deployed
      · cases deployed
      · cases deployed
        exact (put_serves server _ _).trans (note_serves _ _)

theorem deployFiles_serves (server : Server) (count : Nat) (paths : List String) :
    Serves server (server.deployFiles count paths).2 := by
  induction paths generalizing server count with
  | nil => exact .refl server
  | cons path rest ih =>
    unfold deployFiles
    split
    · rename_i after deployed
      exact ((deployFile_serves deployed).trans (wait_serves after 1000)).trans (ih _ _)
    · exact (note_serves server _).trans (ih _ _)

theorem loadFolder_serves {server after : Server} {folder : String}
    (loaded : server.loadFolder folder = .ok after) : Serves server after := by
  unfold loadFolder at loaded
  split at loaded
  · cases loaded
  · cases loaded
    exact (deployFiles_serves server 0 _).trans (note_serves _ _)

theorem follow_serves (server : Server) (change : FileChange) (path : String) :
    Serves server (server.follow change path) := by
  have dropped (name : String) : Serves server (follow.dropScript server name) := by
    unfold follow.dropScript
    split
    · rename_i catalog deleted
      exact (delete_serves deleted).trans (note_serves _ _)
    · exact .refl server
  have deployed : Serves server (follow.deployOrNote server path) := by
    unfold follow.deployOrNote
    split
    · rename_i after deployed
      exact deployFile_serves deployed
    · exact note_serves server _
  unfold follow
  split
  · exact .refl server
  · rename_i name named
    cases change with
    | removed => exact dropped name
    | renamed => exact dropped name
    | created => exact deployed
    | written => exact deployed
    | touched => exact .refl server

end Server

/-- Something that a server is asked to do. -/
inductive Event where
  | request (request : Request)
  | job (script : String) (args : List String)
  | folder (path : String)
  | change (change : FileChange) (path : String)
  | pass (nanoseconds : Nat)

/-- The server after an event. -/
def Event.run (server : Server) : Event → Server
  | .request sent => (server.answer sent).2
  | .job script args => server.runJob script args
  | .folder path => (server.loadFolder path).toOption.getD server
  | .change what path => server.follow what path
  | .pass nanoseconds => (server.wait nanoseconds).settle

namespace Server

/-- The server after events in their order. -/
def later (server : Server) (events : List Event) : Server := events.foldl Event.run server

theorem later_serves (server : Server) (events : List Event) :
    Serves server (server.later events) := by
  induction events generalizing server with
  | nil => exact .refl server
  | cons event rest ih =>
    have step : Serves server (event.run server) := by
      cases event with
      | request request => exact answer_serves server request
      | job script args => exact runJob_serves server script args
      | folder path =>
        cases loaded : server.loadFolder path with
        | error problem =>
          rw [Event.run, loaded]
          exact .refl server
        | ok after =>
          rw [Event.run, loaded]
          exact loadFolder_serves loaded
      | change change path => exact follow_serves server change path
      | pass nanoseconds => exact (wait_serves server nanoseconds).trans (settle_serves _)
    exact step.trans (ih (event.run server))

end Server

/-! ## The law -/

theorem Outcome.state_active_iff (outcome : Outcome) :
    outcome.state = "ACTIVE" ↔ outcome.isActive = true := by
  cases outcome <;> simp [state, isActive]

theorem Outcome.failure?_iff (outcome : Outcome) :
    outcome.failure?.isSome = true ↔ outcome.state = "FAILED" := by
  cases outcome <;> simp [failure?, state]

theorem Outcome.globals?_state (outcome : Outcome) (kept : outcome.globals?.isSome = true) :
    outcome.state = "SUCCEEDED" := by
  cases outcome with
  | succeeded output globals => rfl
  | active => cases kept
  | failed output failure => cases kept
  | cancelled => cases kept

/-- However a run ends and whatever comes before and after, its execution is not active once the end
has been recorded. -/
theorem Server.record_final (server : Server) {id : String} (script : String) (ending : Ending)
    {execution : Execution} (found : server.catalog.execution? id = some execution)
    (more : List Operation) :
    ∃ final, ((server.record id script ending).catalog.after more).execution? id = some final ∧
      final.outcome.isActive = false := by
  rcases server.record_operation id script ending with ⟨operation, ends, recorded⟩
  rw [recorded]
  rcases operation.moves found with ⟨moved, here, -⟩
  have inactive : moved.outcome.isActive = false := by
    cases state : moved.outcome.isActive with
    | false => rfl
    | true => exact absurd ⟨moved, here, state⟩ ends.final
  exact ⟨moved, Catalog.after_settled more here inactive, inactive⟩

/-- The life of an execution, under every sequence of operations on an empty catalog. -/
structure LifecycleLaw : Prop where
  /-- An execution leaves the active state at most once. -/
  once : ∀ (operations : List Operation) (id : String) (first second : Nat),
    ({} : Catalog).LeavesAt operations id first → ({} : Catalog).LeavesAt operations id second →
      first = second
  /-- Once an execution is not active, nothing about its record changes. -/
  settled : ∀ (operations more : List Operation) (id : String) (execution : Execution),
    (({} : Catalog).after operations).execution? id = some execution →
      execution.outcome.state ≠ "ACTIVE" →
        (({} : Catalog).after (operations ++ more)).execution? id = some execution
  /-- The record stays, and which run it is the record of never changes. -/
  kept : ∀ (operations more : List Operation) (id : String) (execution : Execution),
    (({} : Catalog).after operations).execution? id = some execution →
      ∃ later, (({} : Catalog).after (operations ++ more)).execution? id = some later ∧
        SameRun execution later
  /-- What is in a record depends on its state. -/
  dated : ∀ (operations : List Operation) (id : String) (execution : Execution),
    (({} : Catalog).after operations).execution? id = some execution →
      (execution.ended.isSome = true ↔ execution.outcome.state ≠ "ACTIVE")
  failure : ∀ execution : Execution,
    execution.outcome.failure?.isSome = true ↔ execution.outcome.state = "FAILED"
  globals : ∀ execution : Execution,
    execution.outcome.globals?.isSome = true → execution.outcome.state = "SUCCEEDED"
  /-- Cancelling succeeds exactly where there is an active execution. -/
  cancel : ∀ (operations : List Operation) (now : Moment) (id : String),
    (∃ after, (({} : Catalog).after operations).cancel now id = .ok after) ↔
      ∃ execution, (({} : Catalog).after operations).execution? id = some execution ∧
        execution.outcome.state = "ACTIVE"
  /-- When the end of a run has been recorded, its execution is not active, whatever has been done to
  it during the run and whatever is done later. -/
  ending : ∀ (operations more : List Operation) (server : Server) (id script : String)
    (ending : Ending) (execution : Execution), server.catalog = ({} : Catalog).after operations →
      server.catalog.execution? id = some execution →
        ∃ final, ((server.record id script ending).catalog.after more).execution? id = some final ∧
          final.outcome.state ≠ "ACTIVE"
  /-- The record that a run carried out to its end is answered with is not active. -/
  executed : ∀ (server after : Server) (name : String) (args : List String) (execution : Execution),
    server.execute name args = .ok (execution, after) → execution.outcome.state ≠ "ACTIVE"
  /-- A server does nothing to its catalog but such operations, and for every active execution it has
  a run that is still going on. -/
  attended : ∀ (server : Server) (events : List Event), server.catalog = {} →
    (∃ operations, (server.later events).catalog = ({} : Catalog).after operations) ∧
      (server.later events).Attends

theorem lifecycle_law : LifecycleLaw := by
  have idle {outcome : Outcome} (final : outcome.isActive = false) : outcome.state ≠ "ACTIVE" := by
    rw [Ne, outcome.state_active_iff, final]
    exact Bool.false_ne_true
  have final {outcome : Outcome} (idle : outcome.state ≠ "ACTIVE") : outcome.isActive = false := by
    rwa [Ne, outcome.state_active_iff, Bool.not_eq_true] at idle
  constructor
  · intro operations id first second one other
    exact one.unique other
  · intro operations more id execution found left
    rw [Catalog.after_append]
    exact Catalog.after_settled more found (final left)
  · intro operations more id execution found
    rw [Catalog.after_append]
    exact Catalog.after_sameRun more found
  · intro operations id execution found
    have dated := Catalog.empty_dated.after operations id execution found
    rw [Execution.Dated] at dated
    exact dated.trans ⟨idle, final⟩
  · intro execution
    exact execution.outcome.failure?_iff
  · intro execution kept
    exact execution.outcome.globals?_state kept
  · intro operations now id
    rw [Catalog.cancel_ok_iff]
    simp only [Catalog.ActiveIn, Outcome.state_active_iff]
  · intro operations more server id script ending execution reached found
    rcases server.record_final script ending found more with ⟨record, there, inactive⟩
    exact ⟨record, there, idle inactive⟩
  · intro server after name args execution executed
    exact idle (Server.execute_final executed)
  · intro server events empty
    have serves := server.later_serves events
    rcases serves.operations with ⟨operations, reached⟩
    rw [empty] at reached
    refine ⟨⟨operations, reached⟩, serves.attends ?_⟩
    rintro id ⟨execution, found, -⟩
    rw [empty] at found
    cases found

/-- A run that is cancelled before it comes to its end. -/
def interrupted : List Operation :=
  [.put {} "a" "print 1", .begin {} "0" "a" [], .cancel {} "0"]

theorem lifecycle_law_interrupted :
    ((({} : Catalog).after interrupted).execution? "0").map (·.outcome.state) = some "CANCELLED" ∧
      (({} : Catalog).after (interrupted ++ [.complete {} "0" "1\n" {}])).execution? "0" =
        (({} : Catalog).after interrupted).execution? "0" := by
  have cancelled : (({} : Catalog).after interrupted).execution? "0" = some
      { id := "0", script := "a", args := [], revision := 1, started := {}, outcome := .cancelled,
        ended := some {} } := by
    decide
  have left : Outcome.cancelled.state ≠ "ACTIVE" := by decide
  rw [cancelled]
  exact ⟨rfl, lifecycle_law.settled interrupted _ "0" _ cancelled left⟩

end Service
end BigScript
