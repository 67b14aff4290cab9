import BigScript.Proofs.Service.Attendance
import Mathlib.Data.List.Induction

/-!
# The course of an execution that is cancelled

An execution begins in three steps: its record is made, its run becomes known to the server, and the
run goes on from statement to statement.  When the run is over, its end is recorded and the server
forgets it.  A request to cancel the execution takes two steps of its own: it cancels the run, if the
server knows it, and then it ends the record, if that is still active.  A run that has been cancelled
stops where it comes to its next statement.

Each of these steps is indivisible, and those of different clients come in any order.  `Advances`
says once what a step can do, and `Coherent` what holds after all of them.
-/

namespace BigScript
namespace Service

namespace Operation

/-- Whether an operation is about the record of an execution. -/
def concerns (id : String) : Operation → Bool
  | .begin _ other _ _ => other == id
  | .complete _ other _ _ => other == id
  | .fail _ other _ _ => other == id
  | .cancel _ other => other == id
  | _ => false

variable {catalog : Catalog} {operation : Operation} {id : String}

theorem settle_apart {now : Moment} {other : String} {outcome : Outcome} (apart : (other == id) = false) :
    (catalog.settle now other outcome).execution? id = catalog.execution? id := by
  rw [Catalog.settle_execution?]
  cases known : catalog.execution? id with
  | none => rfl
  | some execution =>
    have different : ¬ (execution.id == other) = true := by
      rw [Catalog.execution?_id known]
      intro same
      exact beq_eq_false_iff_ne.mp apart (eq_of_beq same).symm
    rw [Option.map_some, if_neg different]

theorem finish_apart {changed : Catalog} {now : Moment} {other : String} {outcome : Outcome}
    (apart : (other == id) = false) (answer : catalog.finish now other outcome = .ok changed) :
    changed.execution? id = catalog.execution? id := by
  unfold Catalog.finish at answer
  split at answer
  · cases answer
  · split at answer
    · cases answer
      exact settle_apart apart
    · cases answer
      rfl

/-- An operation on other executions. -/
theorem run_execution? (apart : operation.concerns id = false) :
    (operation.run catalog).execution? id = catalog.execution? id := by
  cases answer : operation.apply catalog with
  | error refusal => rw [run_of_error answer]
  | ok changed =>
    rw [run_of_ok answer]
    cases operation with
    | put now name source =>
      cases answer
      rfl
    | create now name source =>
      rcases snd_of_map answer with ⟨script, created⟩
      exact Catalog.execution?_of_executions (Catalog.create_executions created) id
    | delete name => exact Catalog.execution?_of_executions (Catalog.delete_executions answer) id
    | begin now other name args =>
      rcases snd_of_map answer with ⟨execution, begun⟩
      have different : ¬ (other == id) = true := Bool.eq_false_iff.mp apart
      rw [(Catalog.begin_execution? begun id).1, if_neg different, Option.or_none]
    | complete now other output globals => exact finish_apart apart answer
    | fail now other output fault => exact finish_apart apart answer
    | cancel now other =>
      change catalog.cancel now other = .ok changed at answer
      unfold Catalog.cancel at answer
      split at answer
      · cases answer
      · split at answer
        · cases answer
          exact settle_apart apart
        · cases answer

end Operation

namespace Catalog

variable {catalog : Catalog} {id : String} {execution : Execution}

theorem cancel_of_active (found : catalog.execution? id = some execution)
    (active : execution.outcome.isActive = true) (now : Moment) :
    catalog.cancel now id = .ok (catalog.settle now id .cancelled) := by
  unfold cancel
  rw [found]
  exact if_pos active

theorem settle_found (found : catalog.execution? id = some execution) (now : Moment)
    (outcome : Outcome) : (catalog.settle now id outcome).execution? id =
      some { execution with outcome, ended := some now } := by
  rw [settle_execution?, found, Option.map_some, execution?_id found, beq_self_eq_true, if_pos rfl]

end Catalog

/-- How far an execution has come. -/
inductive Phase where
  | absent
  | begun
  | known
  | running
  | past (ending : Ending)
  | recorded
  | forgotten

namespace Phase

/-- Whether the record is there. -/
def isThere : Phase → Bool
  | .absent => false
  | _ => true

/-- Whether the run can come to a statement. -/
def isGoing : Phase → Bool
  | .known | .running => true
  | _ => false

/-- Whether the server knows the run. -/
def isKnown : Phase → Bool
  | .known | .running | .past _ | .recorded => true
  | _ => false

/-- Whether the record is there and the end of the run has not been recorded. -/
def isOpen : Phase → Bool
  | .begun | .known | .running | .past _ => true
  | _ => false

/-- Whether the end of the run has been recorded. -/
def isClosed : Phase → Bool
  | .recorded | .forgotten => true
  | _ => false

variable {phase : Phase}

theorem isOpen_of_isGoing (going : phase.isGoing = true) :
    phase.isThere = true ∧ phase.isOpen = true ∧ phase.isClosed = false := by
  cases phase with
  | known => exact ⟨rfl, rfl, rfl⟩
  | running => exact ⟨rfl, rfl, rfl⟩
  | absent | begun | past | recorded | forgotten => cases going

theorem isThere_of_isOpen (opened : phase.isOpen = true) : phase.isThere = true := by
  cases phase with
  | absent => cases opened
  | begun | known | running | past | recorded | forgotten => rfl

theorem isOpen_or_isClosed (there : phase.isThere = true) :
    phase.isOpen = true ∨ phase.isClosed = true := by
  cases phase with
  | absent => cases there
  | begun | known | running | past => exact .inl rfl
  | recorded | forgotten => exact .inr rfl

end Phase

/-- How far a request to cancel the execution has come: whether it has reached the run, and what it
has been answered. -/
inductive Demand where
  | unsent
  | signalled (reached : Bool)
  | answered (reached : Bool) (answer : Except Refusal Execution)

/-- Whether a request has reached the run, once it has tried. -/
def Demand.reached? : Demand → Option Bool
  | .unsent => none
  | .signalled reached => some reached
  | .answered reached _ => some reached

/-- The state of an execution and of the requests to cancel it. -/
structure Course where
  catalog : Catalog := {}
  phase : Phase := .absent
  /-- Whether the run has been told to stop. -/
  cancelled : Bool := false
  /-- The number of statements that have been carried out. -/
  statements : Nat := 0
  demands : Nat → Demand := fun _ => .unsent

/-- A step of the execution, of a request to cancel it, or of somebody else. -/
inductive Happening where
  | begin (now : Moment) (name : String) (args : List String)
  | know
  | statement
  | stop (ending : Ending)
  | finish (ending : Ending)
  | record (now : Moment)
  | forget
  | signal (client : Nat)
  | cancel (client : Nat) (now : Moment)
  | other (operation : Operation)

namespace Course

/-- Whether a request has reached the run. -/
def Reached (course : Course) (client : Nat) : Prop := (course.demands client).reached? = some true

/-- Whether a request has been answered with success, by the record of the execution. -/
def Granted (course : Course) (client : Nat) (execution : Execution) : Prop :=
  ∃ reached, course.demands client = .answered reached (.ok execution)

/-- The course once a request has come further. -/
def tell (course : Course) (client : Nat) (demand : Demand) : Course :=
  { course with demands := fun other => if other = client then demand else course.demands other }

/-- A request cancels the run if the server knows it. -/
def signal (course : Course) (client : Nat) : Course :=
  { course with cancelled := course.cancelled || course.phase.isKnown }.tell client
    (.signalled course.phase.isKnown)

/-- A request ends the record and is answered with it.  Once it has ended it never changes, so that it
makes no difference when it is looked up. -/
def answer (id : String) (course : Course) (client : Nat) (now : Moment) (reached : Bool) : Course :=
  { course with catalog := (Operation.cancel now id).run course.catalog }.tell client
    (.answered reached (do (← course.catalog.cancel now id).execution id))

/-- The course after a step.  A client learns the id from the record, so that no request comes before
it.  Steps that are out of turn change nothing. -/
def step (id : String) (course : Course) : Happening → Course
  | .begin now name args =>
    match course.phase, course.catalog.begin now id name args with
    | .absent, .ok (_, catalog) => { course with catalog, phase := .begun }
    | _, _ => course
  | .know =>
    match course.phase with
    | .begun => { course with phase := .known }
    | _ => course
  | .statement =>
    if course.phase.isGoing && !course.cancelled then
      { course with phase := .running, statements := course.statements + 1 }
    else course
  | .stop ending =>
    if course.phase.isGoing && course.cancelled && ending.isCancellation then
      { course with phase := .past ending }
    else course
  | .finish ending =>
    if course.phase.isGoing && !ending.isCancellation then { course with phase := .past ending }
    else course
  | .record now =>
    match course.phase with
    | .past ending =>
      { course with catalog := (ending.operation now id).run course.catalog, phase := .recorded }
    | _ => course
  | .forget =>
    match course.phase with
    | .recorded => { course with phase := .forgotten, cancelled := true }
    | _ => course
  | .signal client =>
    match course.demands client with
    | .unsent => if course.phase.isThere then course.signal client else course
    | _ => course
  | .cancel client now =>
    match course.demands client with
    | .signalled reached => course.answer id client now reached
    | _ => course
  | .other operation => { course with catalog := operation.run course.catalog }

/-- The course after steps in their order. -/
def after (id : String) (course : Course) (happenings : List Happening) : Course :=
  happenings.foldl (step id) course

/-- What a step can do. -/
inductive Advances (id : String) (course : Course) : Happening → Course → Prop where
  | idle (happening : Happening) : Advances id course happening course
  | begins {now : Moment} {name : String} {args : List String} {execution : Execution}
      {catalog : Catalog} (absent : course.phase = .absent)
      (made : course.catalog.begin now id name args = .ok (execution, catalog)) :
      Advances id course (.begin now name args) { course with catalog, phase := .begun }
  | knows (begun : course.phase = .begun) : Advances id course .know { course with phase := .known }
  | goes (going : course.phase.isGoing = true) (heedless : course.cancelled = false) :
      Advances id course .statement
        { course with phase := .running, statements := course.statements + 1 }
  | stops {ending : Ending} (going : course.phase.isGoing = true) (told : course.cancelled = true)
      (cancelled : ending.isCancellation = true) :
      Advances id course (.stop ending) { course with phase := .past ending }
  | finishes {ending : Ending} (going : course.phase.isGoing = true)
      (own : ending.isCancellation = false) :
      Advances id course (.finish ending) { course with phase := .past ending }
  | records {now : Moment} {ending : Ending} (past : course.phase = .past ending) :
      Advances id course (.record now)
        { course with catalog := (ending.operation now id).run course.catalog, phase := .recorded }
  | forgets (recorded : course.phase = .recorded) :
      Advances id course .forget { course with phase := .forgotten, cancelled := true }
  | signals {client : Nat} (there : course.phase.isThere = true)
      (unsent : course.demands client = .unsent) :
      Advances id course (.signal client) (course.signal client)
  | answers {client : Nat} {now : Moment} {reached : Bool}
      (signalled : course.demands client = .signalled reached) :
      Advances id course (.cancel client now) (course.answer id client now reached)
  | other (operation : Operation) :
      Advances id course (.other operation)
        { course with catalog := operation.run course.catalog }

theorem advances (id : String) (course : Course) (happening : Happening) :
    Advances id course happening (course.step id happening) := by
  cases happening with
  | begin now name args =>
    dsimp only [step]
    split
    · rename_i absent made
      exact .begins absent made
    · exact .idle _
  | know =>
    dsimp only [step]
    split
    · rename_i begun
      exact .knows begun
    · exact .idle _
  | statement =>
    dsimp only [step]
    split
    · rename_i free
      rw [Bool.and_eq_true, Bool.not_eq_true'] at free
      exact .goes free.1 free.2
    · exact .idle _
  | stop ending =>
    dsimp only [step]
    split
    · rename_i told
      rw [Bool.and_eq_true, Bool.and_eq_true] at told
      exact .stops told.1.1 told.1.2 told.2
    · exact .idle _
  | finish ending =>
    dsimp only [step]
    split
    · rename_i own
      rw [Bool.and_eq_true, Bool.not_eq_true'] at own
      exact .finishes own.1 own.2
    · exact .idle _
  | record now =>
    dsimp only [step]
    split
    · rename_i past
      exact .records past
    · exact .idle _
  | forget =>
    dsimp only [step]
    split
    · rename_i recorded
      exact .forgets recorded
    · exact .idle _
  | signal client =>
    dsimp only [step]
    split
    · rename_i unsent
      split
      · rename_i there
        exact .signals there unsent
      · exact .idle _
    · exact .idle _
  | cancel client now =>
    dsimp only [step]
    split
    · rename_i signalled
      exact .answers signalled
    · exact .idle _
  | other operation => exact .other operation

/-! ## What a step does to a request -/

section Demands

variable {id : String} {course next : Course} {happening : Happening} {client other : Nat}
variable {demand : Demand} {execution : Execution}

theorem tell_self : (course.tell client demand).demands client = demand := if_pos rfl

theorem tell_other (apart : other ≠ client) :
    (course.tell client demand).demands other = course.demands other := if_neg apart

/-- What a step can do to a request. -/
inductive Proceeds (id : String) (course : Course) (client : Nat) : Happening → Demand → Prop where
  | stays (happening : Happening) : Proceeds id course client happening (course.demands client)
  | signals (there : course.phase.isThere = true) (unsent : course.demands client = .unsent) :
      Proceeds id course client (.signal client) (.signalled course.phase.isKnown)
  | answers {now : Moment} {reached : Bool} (signalled : course.demands client = .signalled reached) :
      Proceeds id course client (.cancel client now)
        (.answered reached (do (← course.catalog.cancel now id).execution id))

theorem Advances.proceeds (advances : Advances id course happening next) (client : Nat) :
    Proceeds id course client happening (next.demands client) := by
  cases advances with
  | @signals mover there unsent =>
    by_cases same : client = mover
    · subst same
      rw [signal, tell_self]
      exact .signals there unsent
    · rw [signal, tell_other same]
      exact .stays _
  | @answers mover now reached signalled =>
    by_cases same : client = mover
    · subst same
      rw [answer, tell_self]
      exact .answers signalled
    · rw [answer, tell_other same]
      exact .stays _
  | idle => exact .stays _
  | begins => exact .stays _
  | knows => exact .stays _
  | goes => exact .stays _
  | stops => exact .stays _
  | finishes => exact .stays _
  | records => exact .stays _
  | forgets => exact .stays _
  | other => exact .stays _

/-- Whether a request has reached the run does not change any more. -/
theorem Advances.reached? (advances : Advances id course happening next) {flag : Bool}
    (tried : (course.demands client).reached? = some flag) :
    (next.demands client).reached? = some flag := by
  have moves := advances.proceeds client
  generalize next.demands client = after at moves ⊢
  cases moves with
  | stays => exact tried
  | signals there unsent =>
    rw [unsent] at tried
    cases tried
  | answers signalled =>
    rw [signalled] at tried
    exact tried

/-- A request reaches the run with its signal, or it never does: it depends on whether the server
knows the run. -/
theorem Advances.tries (advances : Advances id course happening next) {flag : Bool}
    (tried : (next.demands client).reached? = some flag) :
    (course.demands client).reached? = some flag ∨
      (happening = .signal client ∧ course.demands client = .unsent ∧
        course.phase.isThere = true ∧ course.phase.isKnown = flag) := by
  have moves := advances.proceeds client
  generalize next.demands client = after at moves tried
  cases moves with
  | stays => exact .inl tried
  | signals there unsent => exact .inr ⟨rfl, unsent, there, Option.some.inj tried⟩
  | answers signalled =>
    rw [signalled]
    exact .inl tried

/-- An answer stands. -/
theorem Advances.answered (advances : Advances id course happening next) {reached : Bool}
    {answer : Except Refusal Execution} (answered : course.demands client = .answered reached answer) :
    next.demands client = .answered reached answer := by
  have moves := advances.proceeds client
  generalize next.demands client = after at moves ⊢
  cases moves with
  | stays => exact answered
  | signals _ unsent => cases unsent.symm.trans answered
  | answers signalled => cases signalled.symm.trans answered

end Demands

/-! ## The run and the requests that have reached it -/

/-- Whether the run has been told to stop exactly by the requests that have reached it.  Once the
server forgets a run, it tells it to stop in any case. -/
structure Signalled (course : Course) : Prop where
  reached : ∀ client, course.Reached client → course.cancelled = true
  caused : course.cancelled = true → course.phase ≠ .forgotten → ∃ client, course.Reached client
  stopped : ∀ ending, course.phase = .past ending → ending.isCancellation = true →
    course.cancelled = true
  forgotten : course.phase = .forgotten → course.cancelled = true

namespace Signalled

variable {id : String} {course next : Course} {happening : Happening}

theorem opening (catalog : Catalog) : Signalled { catalog } where
  reached := by
    intro client reached
    cases reached
  caused := by
    intro told
    cases told
  stopped := by
    intro ending past
    cases past
  forgotten := by
    intro forgotten
    cases forgotten

/-- A step that only changes how far the run has come. -/
theorem keeps (signalled : Signalled course) (cancelled : next.cancelled = course.cancelled)
    (demands : next.demands = course.demands) (before : course.phase ≠ .forgotten)
    (after : next.phase ≠ .forgotten)
    (stopped : ∀ ending, next.phase = .past ending → ending.isCancellation = true →
      course.cancelled = true) : Signalled next where
  reached := by
    unfold Reached
    rw [cancelled, demands]
    exact signalled.reached
  caused := by
    unfold Reached
    rw [cancelled, demands]
    exact fun told _ => signalled.caused told before
  stopped := by
    rw [cancelled]
    exact stopped
  forgotten := fun phase => absurd phase after

theorem step (signalled : Signalled course) (advances : Advances id course happening next) :
    Signalled next := by
  have going (going : course.phase.isGoing = true) : course.phase ≠ .forgotten := by
    intro forgotten
    rw [forgotten] at going
    cases going
  have moves := advances
  cases advances with
  | idle => exact signalled
  | other => exact ⟨signalled.reached, signalled.caused, signalled.stopped, signalled.forgotten⟩
  | begins absent =>
    refine signalled.keeps rfl rfl (absent ▸ Phase.noConfusion) Phase.noConfusion ?_
    exact fun ending past => Phase.noConfusion past
  | knows begun =>
    refine signalled.keeps rfl rfl (begun ▸ Phase.noConfusion) Phase.noConfusion ?_
    exact fun ending past => Phase.noConfusion past
  | goes free =>
    refine signalled.keeps rfl rfl (going free) Phase.noConfusion ?_
    exact fun ending past => Phase.noConfusion past
  | stops free told =>
    exact signalled.keeps rfl rfl (going free) Phase.noConfusion fun _ _ _ => told
  | finishes free own =>
    refine signalled.keeps rfl rfl (going free) Phase.noConfusion ?_
    intro ending past cancellation
    cases past
    rw [own] at cancellation
    cases cancellation
  | records past =>
    refine signalled.keeps rfl rfl (past ▸ Phase.noConfusion) Phase.noConfusion ?_
    exact fun ending past => Phase.noConfusion past
  | forgets =>
    exact ⟨fun _ _ => rfl, fun _ phase => absurd rfl phase, fun ending past => Phase.noConfusion past,
      fun _ => rfl⟩
  | @signals mover there unsent =>
    have still (told : course.cancelled = true) : (course.signal mover).cancelled = true := by
      change (course.cancelled || course.phase.isKnown) = true
      rw [told, Bool.true_or]
    refine ⟨?_, ?_, fun ending past cancellation => still (signalled.stopped ending past cancellation),
      fun forgotten => still (signalled.forgotten forgotten)⟩
    · intro client reached
      rcases moves.tries reached with before | ⟨-, -, -, known⟩
      · exact still (signalled.reached client before)
      · change (course.cancelled || course.phase.isKnown) = true
        rw [known, Bool.or_true]
    · intro told phase
      rcases Bool.or_eq_true_iff.mp told with before | known
      · rcases signalled.caused before phase with ⟨client, reached⟩
        exact ⟨client, moves.reached? reached⟩
      · exact ⟨mover, congrArg Demand.reached? (tell_self.trans (congrArg Demand.signalled known))⟩
  | answers =>
    refine ⟨?_, ?_, signalled.stopped, signalled.forgotten⟩
    · intro client reached
      rcases moves.tries reached with before | ⟨signal, -⟩
      · exact signalled.reached client before
      · cases signal
    · intro told phase
      rcases signalled.caused told phase with ⟨client, reached⟩
      exact ⟨client, moves.reached? reached⟩

end Signalled

/-! ## The record and the answers to the requests -/

/-- The record fits how far the execution has come, and what requests have been answered fits the
record. -/
structure Recorded (id : String) (course : Course) : Prop where
  absent : course.phase.isThere = false →
    course.catalog.execution? id = none ∧ ∀ client, course.demands client = .unsent
  opened : course.phase.isOpen = true → ∃ execution,
    course.catalog.execution? id = some execution ∧
      (execution.outcome.isActive = true ∨ ∃ client, course.Granted client execution)
  closed : course.phase.isClosed = true → ∃ execution,
    course.catalog.execution? id = some execution ∧ execution.outcome.isActive = false
  granted : ∀ client execution, course.Granted client execution →
    course.catalog.execution? id = some execution ∧ execution.outcome = .cancelled
  refused : ∀ client reached refusal, course.demands client = .answered reached (.error refusal) →
    ∃ execution, course.catalog.execution? id = some execution ∧
      execution.outcome.isActive = false ∧ refusal = .notActive id execution.outcome.state

section Answers

variable {id : String} {course : Course} {execution : Execution}
variable (client : Nat) (now : Moment) (reached : Bool)

/-- A request that finds the record active ends it and is answered with it. -/
theorem answer_active (found : course.catalog.execution? id = some execution)
    (active : execution.outcome.isActive = true) :
    (course.answer id client now reached).catalog.execution? id =
        some { execution with outcome := .cancelled, ended := some now } ∧
      (course.answer id client now reached).demands client =
        .answered reached (.ok { execution with outcome := .cancelled, ended := some now }) := by
  have cancelled := Catalog.cancel_of_active found active now
  have ended := Catalog.settle_found found now .cancelled
  have run : (Operation.cancel now id).run course.catalog =
      course.catalog.settle now id .cancelled := Operation.run_of_ok cancelled
  constructor
  · change ((Operation.cancel now id).run course.catalog).execution? id = _
    rw [run, ended]
  · rw [answer, tell_self, cancelled]
    change Demand.answered reached ((course.catalog.settle now id .cancelled).execution id) = _
    rw [Catalog.execution, ended]

/-- A request that finds the record ended changes nothing and is told how it ended. -/
theorem answer_ended (found : course.catalog.execution? id = some execution)
    (ended : execution.outcome.isActive = false) :
    (course.answer id client now reached).catalog = course.catalog ∧
      (course.answer id client now reached).demands client =
        .answered reached (.error (.notActive id execution.outcome.state)) := by
  have refused : course.catalog.cancel now id =
      .error (.notActive id execution.outcome.state) := by
    unfold Catalog.cancel
    rw [found]
    dsimp only
    rw [ended, if_neg Bool.false_ne_true]
  constructor
  · exact Operation.run_of_error refused
  · rw [answer, tell_self, refused]
    rfl

end Answers

/-- Whether nobody else does anything to the record. -/
def Apart (id : String) (happenings : List Happening) : Prop :=
  ∀ operation, .other operation ∈ happenings → operation.concerns id = false

namespace Recorded

variable {id : String} {course next : Course} {happening : Happening}

theorem opening {catalog : Catalog} (unknown : catalog.execution? id = none) :
    Recorded id { catalog } where
  absent := fun _ => ⟨unknown, fun _ => rfl⟩
  opened := by
    intro opened
    cases opened
  closed := by
    intro closed
    cases closed
  granted := by
    rintro client execution ⟨reached, told⟩
    cases told
  refused := by
    intro client reached refusal told
    cases told

/-- A step that leaves the record and the requests alone, and the phase where it counts. -/
theorem keeps (recorded : Recorded id course)
    (record : next.catalog.execution? id = course.catalog.execution? id)
    (demands : next.demands = course.demands)
    (there : next.phase.isThere = course.phase.isThere)
    (opened : next.phase.isOpen = course.phase.isOpen)
    (closed : next.phase.isClosed = course.phase.isClosed) : Recorded id next := by
  constructor
  · rw [there, record, demands]
    exact recorded.absent
  · unfold Granted
    rw [opened, record, demands]
    exact recorded.opened
  · rw [closed, record]
    exact recorded.closed
  · unfold Granted
    rw [record, demands]
    exact recorded.granted
  · rw [record, demands]
    exact recorded.refused

theorem begins (recorded : Recorded id course) (absent : course.phase = .absent) {now : Moment}
    {name : String} {args : List String} {execution : Execution} {catalog : Catalog}
    (made : course.catalog.begin now id name args = .ok (execution, catalog)) :
    Recorded id { course with catalog, phase := .begun } := by
  rcases recorded.absent (absent ▸ rfl) with ⟨unknown, unsent⟩
  rcases Catalog.begin_execution? made id with ⟨looked, fresh⟩
  rw [unknown, beq_self_eq_true, if_pos rfl, Option.none_or] at looked
  constructor
  · intro there
    cases there
  · exact fun _ => ⟨execution, looked, .inl (fresh.active ▸ rfl)⟩
  · intro closed
    cases closed
  · rintro client other ⟨reached, told⟩
    cases (unsent client).symm.trans told
  · intro client reached refusal told
    cases (unsent client).symm.trans told

theorem records (recorded : Recorded id course) {now : Moment} {ending : Ending}
    (past : course.phase = .past ending) :
    Recorded id { course with
      catalog := (ending.operation now id).run course.catalog, phase := .recorded } := by
  rcases recorded.opened (past ▸ rfl) with ⟨execution, found, -⟩
  have still {ended : Execution} (here : course.catalog.execution? id = some ended)
      (final : ended.outcome.isActive = false) :
      ((ending.operation now id).run course.catalog).execution? id = some ended :=
    Catalog.after_settled [ending.operation now id] here final
  constructor
  · intro there
    cases there
  · intro opened
    cases opened
  · intro _
    rcases (ending.operation now id).moves found with ⟨moved, here, -⟩
    refine ⟨moved, here, ?_⟩
    rw [← Bool.not_eq_true]
    exact fun active => (ending.operation_ends now id).final ⟨moved, here, active⟩
  · intro client granted told
    rcases recorded.granted client granted told with ⟨here, cancelled⟩
    exact ⟨still here (cancelled ▸ rfl), cancelled⟩
  · intro client reached refusal told
    rcases recorded.refused client reached refusal told with ⟨ended, here, final, same⟩
    exact ⟨ended, still here final, final, same⟩

theorem signals (recorded : Recorded id course) {client : Nat}
    (there : course.phase.isThere = true) (unsent : course.demands client = .unsent) :
    Recorded id (course.signal client) := by
  have before {other : Nat} {reached : Bool} {answer : Except Refusal Execution}
      (told : (course.signal client).demands other = .answered reached answer) :
      course.demands other = .answered reached answer := by
    by_cases same : other = client
    · subst same
      cases tell_self.symm.trans told
    · exact (tell_other same).symm.trans told
  constructor
  · intro absent
    cases there.symm.trans absent
  · intro opened
    rcases recorded.opened opened with ⟨execution, found, active | ⟨other, reached, told⟩⟩
    · exact ⟨execution, found, .inl active⟩
    · refine ⟨execution, found, .inr ⟨other, reached, (tell_other ?_).trans told⟩⟩
      rintro rfl
      cases unsent.symm.trans told
  · exact recorded.closed
  · rintro other execution ⟨reached, told⟩
    exact recorded.granted other execution ⟨reached, before told⟩
  · intro other reached refusal told
    exact recorded.refused other reached refusal (before told)

/-- No request comes before the record is there. -/
theorem isThere_of_signalled (recorded : Recorded id course) {client : Nat} {reached : Bool}
    (signalled : course.demands client = .signalled reached) : course.phase.isThere = true := by
  cases absent : course.phase.isThere with
  | true => rfl
  | false => cases ((recorded.absent absent).2 client).symm.trans signalled

theorem answers (recorded : Recorded id course) {client : Nat} {now : Moment} {reached : Bool}
    (signalled : course.demands client = .signalled reached) :
    Recorded id (course.answer id client now reached) := by
  have there := recorded.isThere_of_signalled signalled
  have record : ∃ execution, course.catalog.execution? id = some execution := by
    rcases Phase.isOpen_or_isClosed there with opened | closed
    · exact (recorded.opened opened).imp fun _ known => known.1
    · exact (recorded.closed closed).imp fun _ known => known.1
  rcases record with ⟨execution, found⟩
  cases state : execution.outcome.isActive with
  | true =>
    rcases answer_active client now reached found state with ⟨ended, told⟩
    have active {other : Execution} (here : course.catalog.execution? id = some other) :
        other.outcome.isActive = true := by
      obtain rfl := Option.some.inj (found.symm.trans here)
      exact state
    constructor
    · intro absent
      cases there.symm.trans absent
    · exact fun _ => ⟨_, ended, .inr ⟨client, reached, told⟩⟩
    · intro closed
      rcases recorded.closed closed with ⟨other, here, final⟩
      cases (active here).symm.trans final
    · rintro other granted ⟨gone, said⟩
      by_cases same : other = client
      · subst same
        cases told.symm.trans said
        exact ⟨ended, rfl⟩
      · rcases recorded.granted other granted ⟨gone, (tell_other same).symm.trans said⟩ with
          ⟨here, cancelled⟩
        have going := active here
        rw [cancelled] at going
        cases going
    · intro other gone refusal said
      by_cases same : other = client
      · subst same
        cases told.symm.trans said
      · rcases recorded.refused other gone refusal ((tell_other same).symm.trans said) with
          ⟨settled, here, final, -⟩
        cases (active here).symm.trans final
  | false =>
    rcases answer_ended client now reached found state with ⟨unchanged, told⟩
    constructor
    · intro absent
      cases there.symm.trans absent
    · intro opened
      rw [unchanged]
      rcases recorded.opened opened with ⟨other, here, active | ⟨asker, gone, said⟩⟩
      · exact ⟨other, here, .inl active⟩
      · refine ⟨other, here, .inr ⟨asker, gone, (tell_other ?_).trans said⟩⟩
        rintro rfl
        cases signalled.symm.trans said
    · rw [unchanged]
      exact recorded.closed
    · rw [unchanged]
      rintro other granted ⟨gone, said⟩
      by_cases same : other = client
      · subst same
        cases told.symm.trans said
      · exact recorded.granted other granted ⟨gone, (tell_other same).symm.trans said⟩
    · rw [unchanged]
      intro other gone refusal said
      by_cases same : other = client
      · subst same
        cases told.symm.trans said
        exact ⟨execution, found, state, rfl⟩
      · exact recorded.refused other gone refusal ((tell_other same).symm.trans said)

theorem step (recorded : Recorded id course) (advances : Advances id course happening next)
    (apart : Apart id [happening]) : Recorded id next := by
  have going {phase : Phase} (before : course.phase.isGoing = true) (after : phase.isThere = true ∧
      phase.isOpen = true ∧ phase.isClosed = false) {cancelled : Bool} {statements : Nat} :
      Recorded id { course with phase, cancelled, statements } := by
    rcases Phase.isOpen_of_isGoing before with ⟨there, opened, closed⟩
    exact recorded.keeps rfl rfl (after.1.trans there.symm) (after.2.1.trans opened.symm)
      (after.2.2.trans closed.symm)
  cases advances with
  | idle => exact recorded
  | begins absent made => exact recorded.begins absent made
  | knows begun => exact recorded.keeps rfl rfl (begun ▸ rfl) (begun ▸ rfl) (begun ▸ rfl)
  | goes free => exact going free ⟨rfl, rfl, rfl⟩
  | stops free => exact going free ⟨rfl, rfl, rfl⟩
  | finishes free => exact going free ⟨rfl, rfl, rfl⟩
  | records past => exact recorded.records past
  | forgets closed => exact recorded.keeps rfl rfl (closed ▸ rfl) (closed ▸ rfl) (closed ▸ rfl)
  | signals there unsent => exact recorded.signals there unsent
  | answers signalled => exact recorded.answers signalled
  | other operation =>
    refine recorded.keeps ?_ rfl rfl rfl rfl
    exact Operation.run_execution? (apart operation List.mem_cons_self)

end Recorded

/-! ## Sequences of steps -/

section Sequences

variable {id : String} {course : Course} {happenings : List Happening} {client : Nat}

theorem after_append (early late : List Happening) :
    after id course (early ++ late) = after id (after id course early) late :=
  List.foldl_append

theorem Apart.of_append {early late : List Happening} (apart : Apart id (early ++ late)) :
    Apart id early ∧ Apart id late :=
  ⟨fun operation member => apart operation (List.mem_append_left _ member),
    fun operation member => apart operation (List.mem_append_right _ member)⟩

theorem Apart.of_cons {happening : Happening} {rest : List Happening}
    (apart : Apart id (happening :: rest)) : Apart id [happening] ∧ Apart id rest :=
  (show Apart id ([happening] ++ rest) from apart).of_append

theorem Signalled.after (signalled : Signalled course) (id : String) (happenings : List Happening) :
    Signalled (course.after id happenings) := by
  induction happenings generalizing course with
  | nil => exact signalled
  | cons happening rest ih => exact ih (signalled.step (advances id course happening))

theorem Recorded.after (recorded : Recorded id course) (apart : Apart id happenings) :
    Recorded id (course.after id happenings) := by
  induction happenings generalizing course with
  | nil => exact recorded
  | cons happening rest ih =>
    rcases apart.of_cons with ⟨here, further⟩
    exact ih (recorded.step (advances id course happening) here) further

theorem after_reached (happenings : List Happening) (reached : course.Reached client) :
    (course.after id happenings).Reached client := by
  induction happenings generalizing course with
  | nil => exact reached
  | cons happening rest ih => exact ih ((advances id course happening).reached? reached)

theorem after_answered {reached : Bool} {answer : Except Refusal Execution} (id : String)
    (happenings : List Happening) (answered : course.demands client = .answered reached answer) :
    (course.after id happenings).demands client = .answered reached answer := by
  induction happenings generalizing course with
  | nil => exact answered
  | cons happening rest ih => exact ih ((advances id course happening).answered answered)

/-- A request that has tried to reach the run did so with its signal, when the record was there. -/
theorem signal_of_tried {flag : Bool} (course : Course) (fresh : course.demands client = .unsent)
    (tried : ((after id course happenings).demands client).reached? = some flag) :
    ∃ early late, happenings = early ++ .signal client :: late ∧
      (after id course early).demands client = .unsent ∧
      (after id course early).phase.isThere = true ∧
      (after id course early).phase.isKnown = flag := by
  induction happenings using List.reverseRecOn with
  | nil =>
    change (course.demands client).reached? = _ at tried
    rw [fresh] at tried
    cases tried
  | append_singleton before happening ih =>
    rw [after_append] at tried
    rcases (advances id _ happening).tries tried with already | ⟨rfl, unsent, there, known⟩
    · rcases ih already with ⟨early, late, rfl, facts⟩
      exact ⟨early, late ++ [happening], by rw [List.append_assoc, List.cons_append], facts⟩
    · exact ⟨before, [], rfl, unsent, there, known⟩

end Sequences

end Course

/-! ## The server -/

namespace Server

variable {server after : Server} {id : String} {execution : Execution}

/-- A server that takes both steps of a request at once ends the record of an active execution and
forgets its run. -/
theorem cancel_of_active (found : server.catalog.execution? id = some execution)
    (active : execution.outcome.isActive = true) :
    server.cancel id = .ok ({ execution with outcome := .cancelled, ended := some server.now },
      { server with
        running := server.running.filter (·.id != id)
        catalog := server.catalog.settle server.now id .cancelled }) := by
  unfold cancel
  dsimp only
  rw [Catalog.cancel_of_active found active]
  change (server.catalog.settle server.now id .cancelled).execution id >>= _ = _
  rw [Catalog.execution, Catalog.settle_found found]
  rfl

theorem active_of_cancel (cancelled : server.cancel id = .ok (execution, after)) :
    server.catalog.ActiveIn id := by
  unfold cancel at cancelled
  rcases ok_of_bind cancelled with ⟨catalog, answer, -⟩
  exact (Catalog.cancel_ok_iff server.catalog server.now id).mp ⟨catalog, answer⟩

end Server

/-- A catalog with a single script. -/
def deployed : Catalog := (({} : Catalog).put {} "a" "print 1").2.2

end Service
end BigScript
