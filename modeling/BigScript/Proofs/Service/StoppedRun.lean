import BigScript.Proofs.BugProtocol
import BigScript.Proofs.Service.Cancellation

/-!
# Whether a cancelled execution is stopped

A request to cancel an execution is answered with success where it ends the record.  Whether it also
stops the run is another matter: it does if the server knew the run when the request came.

The record is there before the server knows the run.  A request that comes in between finds nothing
to cancel, and then it ends the record all the same.  `cancellation_law` says that this is the only
case, and that in it nothing but another request keeps the run from being carried out.
-/

namespace BigScript

/-! ## A machine that has been told to stop -/

namespace Machine

/-- At whatever token a cancelled machine arrives, it stops there and carries nothing out. -/
theorem exec_cancelled (steps : Nat) (toks : TokenStream) (i : Nat) (m : Machine)
    (inside : i < toks.size) (going : m.isStopped = false) (cancelled : m.cancelled = true) :
    ∃ fault, fault.cause.isCancellation = true ∧
      exec (steps + 1) toks i m =
        { m with halt := some fault, output := m.output ++ fault.report } := by
  have called : m.cancellation? = some "context canceled" := by
    rw [cancellation?, cancelled, if_pos rfl]
  have arrival : m.arrive toks i = .ends (m.stop (.cancelled (some "context canceled"))) := by
    rw [arrive, dif_pos inside, going, if_neg Bool.false_ne_true, called]
  refine ⟨m.annotate { cause := .cancelled (some "context canceled") }, ?_, ?_⟩
  · rw [annotate_cause]
    rfl
  · rw [exec_succ, arrival, ← m.stop_of_running _ (halt_of_not_isStopped going)]

end Machine

namespace Service
namespace Course

variable {id : String} {catalog : Catalog} {course next : Course} {happening : Happening}
variable {happenings early late : List Happening} {client : Nat}

/-! ## What goes on in a run that has been told to stop -/

theorem Advances.cancelled (advances : Advances id course happening next)
    (cancelled : course.cancelled = true) :
    next.cancelled = true ∧ next.statements = course.statements := by
  cases advances with
  | goes _ heedless => cases cancelled.symm.trans heedless
  | forgets => exact ⟨rfl, rfl⟩
  | signals =>
    refine ⟨?_, rfl⟩
    change (course.cancelled || course.phase.isKnown) = true
    rw [cancelled, Bool.true_or]
  | idle => exact ⟨cancelled, rfl⟩
  | begins => exact ⟨cancelled, rfl⟩
  | knows => exact ⟨cancelled, rfl⟩
  | stops => exact ⟨cancelled, rfl⟩
  | finishes => exact ⟨cancelled, rfl⟩
  | records => exact ⟨cancelled, rfl⟩
  | answers => exact ⟨cancelled, rfl⟩
  | other => exact ⟨cancelled, rfl⟩

theorem after_cancelled (happenings : List Happening) (cancelled : course.cancelled = true) :
    (course.after id happenings).cancelled = true ∧
      (course.after id happenings).statements = course.statements := by
  induction happenings generalizing course with
  | nil => exact ⟨cancelled, rfl⟩
  | cons happening rest ih =>
    rcases (advances id course happening).cancelled cancelled with ⟨still, same⟩
    rcases ih still with ⟨told, count⟩
    exact ⟨told, count.trans same⟩

/-- Whether the run has been told to stop, or is going to be before its first statement. -/
def Heeded (id : String) (course : Course) : Prop :=
  course.cancelled = true ∨
    ∀ more, (course.after id more).cancelled = false → (course.after id more).statements = 0

/-- A run that is known to the server and has not been told to stop may carry out its next
statement. -/
theorem not_heeded_of_going (going : course.phase.isGoing = true)
    (heedless : course.cancelled = false) : ¬ Heeded id course := by
  have carried : course.after id [.statement] =
      { course with phase := .running, statements := course.statements + 1 } := by
    refine if_pos ?_
    rw [going, heedless]
    rfl
  rintro (cancelled | never)
  · cases heedless.symm.trans cancelled
  · have none := never [.statement]
    rw [carried] at none
    exact Nat.succ_ne_zero _ (none heedless)

theorem not_heeded_of_begun (begun : course.phase = .begun) (heedless : course.cancelled = false) :
    ¬ Heeded id course := by
  have known : course.after id [.know] = { course with phase := .known } := by
    change course.step id .know = _
    dsimp only [step]
    rw [begun]
  rintro (cancelled | never)
  · cases heedless.symm.trans cancelled
  · have still : Heeded id { course with phase := .known } := by
      refine .inr ?_
      intro more
      rw [← known, ← after_append]
      exact never ([.know] ++ more)
    refine absurd still (not_heeded_of_going ?_ ?_)
    · rfl
    · exact heedless

/-! ## When a request comes -/

/-- What a step does to the catalog is a sequence of operations. -/
theorem Advances.operations (advances : Advances id course happening next) :
    ∃ operations, next.catalog = course.catalog.after operations := by
  cases advances with
  | @begins now name args execution catalog absent made =>
    refine ⟨[.begin now id name args], (Operation.run_of_ok ?_).symm⟩
    change (course.catalog.begin now id name args).map Prod.snd = _
    rw [made]
    rfl
  | @records now ending => exact ⟨[ending.operation now id], rfl⟩
  | @answers _ now => exact ⟨[.cancel now id], rfl⟩
  | other operation => exact ⟨[operation], rfl⟩
  | idle => exact ⟨[], rfl⟩
  | knows => exact ⟨[], rfl⟩
  | goes => exact ⟨[], rfl⟩
  | stops => exact ⟨[], rfl⟩
  | finishes => exact ⟨[], rfl⟩
  | forgets => exact ⟨[], rfl⟩
  | signals => exact ⟨[], rfl⟩

/-- Once the record has ended, nobody is answered with success any more. -/
theorem not_granted_of_ended {ended execution : Execution}
    (found : course.catalog.execution? id = some ended) (final : ended.outcome.isActive = false)
    (before : ¬ course.Granted client execution) (happenings : List Happening) :
    ¬ (course.after id happenings).Granted client execution := by
  induction happenings generalizing course with
  | nil => exact before
  | cons happening rest ih =>
    have advances := advances id course happening
    rcases advances.operations with ⟨operations, changed⟩
    have still : (course.step id happening).catalog.execution? id = some ended := by
      rw [changed]
      exact Catalog.after_settled operations found final
    refine ih still ?_
    · rintro ⟨reached, told⟩
      have moves := advances.proceeds client
      generalize demand : (course.step id happening).demands client = after at moves told
      cases moves with
      | stays => exact before ⟨reached, told⟩
      | signals => cases told
      | @answers now flag signalled =>
        have answered := (answer_ended client now flag found final).2
        rw [answer, tell_self, told] at answered
        cases answered

/-- A request that is answered with success has reached the run, or it came before the server knew
the run. -/
theorem reached_of_granted {execution : Execution} (unknown : catalog.execution? id = none)
    (apart : Apart id happenings) (granted : (after id { catalog } happenings).Granted client execution) :
    (after id { catalog } happenings).Reached client ∨
      ∃ early late, happenings = early ++ .signal client :: late ∧
        (after id { catalog } early).phase = .begun := by
  rcases granted with ⟨flag, told⟩
  have tried : ((after id { catalog } happenings).demands client).reached? = some flag :=
    congrArg Demand.reached? told
  cases flag with
  | true => exact .inl tried
  | false =>
    rcases signal_of_tried { catalog } rfl tried with ⟨early, late, rfl, unsent, there, known⟩
    refine .inr ⟨early, late, rfl, ?_⟩
    have recorded := (Recorded.opening unknown).after apart.of_append.1
    rw [after_append] at told
    generalize after id { catalog } early = course at unsent there known recorded told ⊢
    cases phase : course.phase with
    | begun => rfl
    | forgotten =>
      -- The record has ended by then, and the request is refused.
      rcases recorded.closed (phase ▸ rfl) with ⟨ended, found, final⟩
      refine absurd ⟨false, told⟩ (not_granted_of_ended found final ?_ _)
      rintro ⟨flag, said⟩
      cases unsent.symm.trans said
    | absent =>
      rw [phase] at there
      cases there
    | known | running | past | recorded =>
      rw [phase] at known
      cases known

/-- Whether the server knows the run as soon as the record is made. -/
def Prompt (happenings : List Happening) : Prop :=
  ∀ early late now name args next,
    happenings = early ++ .begin now name args :: next :: late → next = .know

theorem Advances.begun (advances : Advances id course happening next) (begun : next.phase = .begun) :
    course.phase = .begun ∨ ∃ now name args, happening = .begin now name args := by
  cases advances with
  | begins => exact .inr ⟨_, _, _, rfl⟩
  | idle => exact .inl begun
  | signals => exact .inl begun
  | answers => exact .inl begun
  | other => exact .inl begun
  | knows => cases begun
  | goes => cases begun
  | stops => cases begun
  | finishes => cases begun
  | records => cases begun
  | forgets => cases begun

/-- Where the server knows the run as soon as the record is made, nothing comes between the two. -/
theorem Prompt.last (prompt : Prompt happenings)
    (begun : (after id { catalog } happenings).phase = .begun) :
    ∃ before now name args, happenings = before ++ [.begin now name args] := by
  induction happenings using List.reverseRecOn with
  | nil => cases begun
  | append_singleton before happening ih =>
    rw [after_append] at begun
    rcases (advances id _ happening).begun begun with already | ⟨now, name, args, rfl⟩
    · have earlier : Prompt before := by
        intro early late now name args next split
        refine prompt early (late ++ [happening]) now name args next ?_
        rw [split, List.append_assoc]
        rfl
      rcases ih earlier already with ⟨first, now, name, args, split⟩
      have next : happening = .know := by
        refine prompt first [] now name args happening ?_
        rw [split, List.append_assoc]
        rfl
      rw [next] at begun
      change (step id _ .know).phase = _ at begun
      dsimp only [step] at begun
      rw [already] at begun
      cases begun
    · exact ⟨before, now, name, args, rfl⟩

theorem Prompt.reached {execution : Execution} (prompt : Prompt happenings)
    (unknown : catalog.execution? id = none) (apart : Apart id happenings)
    (granted : (after id { catalog } happenings).Granted client execution) :
    (after id { catalog } happenings).Reached client := by
  rcases reached_of_granted unknown apart granted with reached | ⟨early, late, split, begun⟩
  · exact reached
  · have earlier : Prompt early := by
      intro first rest now name args next inside
      refine prompt first (rest ++ .signal client :: late) now name args next ?_
      rw [split, inside, List.append_assoc]
      rfl
    rcases earlier.last begun with ⟨before, now, name, args, last⟩
    have wrong := prompt before late now name args (.signal client) (by
      rw [split, last, List.append_assoc]
      rfl)
    cases wrong

end Course

/-! ## The law -/

/-- What a request to cancel an execution does to its run.

A request that is answered with success ends the record for good.  It need not stop the run, and the
law says exactly when it does: the server has to know the run when the request comes. -/
structure CancellationLaw (id : String) (catalog : Catalog) (happenings : List Happening) : Prop where
  /-- A request that has reached the run has stopped it: it carries out no further statement. -/
  stopped : ∀ client, (Course.after id { catalog } happenings).Reached client → ∀ more,
    (Course.after id { catalog } (happenings ++ more)).cancelled = true ∧
      (Course.after id { catalog } (happenings ++ more)).statements =
        (Course.after id { catalog } happenings).statements
  /-- As long as the run is not over, it has been told to stop, or will be before its first statement,
  exactly if some request has reached it. -/
  heeded : (Course.after id { catalog } happenings).phase = .begun ∨
      (Course.after id { catalog } happenings).phase.isGoing = true →
    ((Course.after id { catalog } happenings).Heeded id ↔
      ∃ client, (Course.after id { catalog } happenings).Reached client)
  /-- A request that is answered with success is answered with a record that never changes again. -/
  granted : ∀ client execution, (Course.after id { catalog } happenings).Granted client execution →
    execution.outcome = .cancelled ∧ ∀ more, Course.Apart id more →
      (Course.after id { catalog } (happenings ++ more)).catalog.execution? id = some execution
  /-- It has reached the run, or it came between the record and the server's knowing the run. -/
  missed : ∀ client execution, (Course.after id { catalog } happenings).Granted client execution →
    (Course.after id { catalog } happenings).Reached client ∨
      ∃ early late, happenings = early ++ .signal client :: late ∧
        (Course.after id { catalog } early).phase = .begun
  prompt : Course.Prompt happenings → ∀ client execution,
    (Course.after id { catalog } happenings).Granted client execution →
      (Course.after id { catalog } happenings).Reached client
  /-- A server that takes the steps at once has stopped the run of every execution that it cancels. -/
  atonce : ∀ (server after : Server) (execution : Execution),
    server.cancel id = .ok (execution, after) →
      execution.outcome = .cancelled ∧ ∀ run ∈ after.running, run.id ≠ id
  /-- To stop a run is to stop the machine that carries it out at the next token it arrives at. -/
  machine : ∀ (steps : Nat) (toks : TokenStream) (i : Nat) (m : Machine), i < toks.size →
    m.isStopped = false → m.cancelled = true → ∃ fault, fault.cause.isCancellation = true ∧
      m.exec (steps + 1) toks i = { m with halt := some fault, output := m.output ++ fault.report }

theorem cancellation_law (id : String) (catalog : Catalog) (happenings : List Happening)
    (unknown : catalog.execution? id = none) (apart : Course.Apart id happenings) :
    CancellationLaw id catalog happenings := by
  have signalled := (Course.Signalled.opening catalog).after id happenings
  have recorded := (Course.Recorded.opening unknown).after apart
  constructor
  · intro client reached more
    rw [Course.after_append]
    exact Course.after_cancelled more (signalled.reached client reached)
  · intro phase
    constructor
    · intro heeded
      have cancelled : (Course.after id { catalog } happenings).cancelled = true := by
        cases told : (Course.after id { catalog } happenings).cancelled with
        | true => rfl
        | false =>
          rcases phase with begun | going
          · exact absurd heeded (Course.not_heeded_of_begun begun told)
          · exact absurd heeded (Course.not_heeded_of_going going told)
      refine signalled.caused cancelled ?_
      intro forgotten
      rw [forgotten] at phase
      rcases phase with begun | going
      · cases begun
      · cases going
    · rintro ⟨client, reached⟩
      exact .inl (signalled.reached client reached)
  · intro client execution granted
    refine ⟨(recorded.granted client execution granted).2, ?_⟩
    intro more further
    rcases granted with ⟨flag, told⟩
    rw [Course.after_append]
    exact ((recorded.after further).granted client execution
      ⟨flag, Course.after_answered id more told⟩).1
  · exact fun client execution granted => Course.reached_of_granted unknown apart granted
  · exact fun prompt client execution granted => prompt.reached unknown apart granted
  · intro server after execution cancelled
    rcases Server.active_of_cancel cancelled with ⟨active, found, going⟩
    rw [Server.cancel_of_active found going] at cancelled
    cases cancelled
    refine ⟨rfl, ?_⟩
    intro run member
    exact bne_iff_ne.mp (List.mem_filter.mp member).2
  · intro steps toks i m inside going cancelled
    exact Machine.exec_cancelled steps toks i m inside going cancelled

/-- A request comes when the record has been made, but the server does not know the run yet. -/
def missedRequest : List Happening :=
  [.begin {} "a" [], .signal 0, .cancel 0 {}, .know, .statement]

/-- The record of the execution as the request leaves it. -/
def missedExecution : Execution :=
  { id := "0", script := "a", args := [], revision := 1, started := {}, outcome := .cancelled,
    ended := some {} }

theorem missedRequest_apart : Course.Apart "0" missedRequest := by
  intro operation member
  simp [missedRequest] at member

theorem missedRequest_granted :
    (Course.after "0" { catalog := deployed } missedRequest).Granted 0 missedExecution :=
  ⟨false, rfl⟩

/-- It is answered with success, and the run goes on. -/
theorem cancellation_law_missedRequest :
    CancellationLaw "0" deployed missedRequest ∧
      (Course.after "0" { catalog := deployed } missedRequest).statements = 1 :=
  ⟨cancellation_law "0" deployed missedRequest rfl missedRequest_apart, rfl⟩

theorem granted_not_heeded : ¬ ∀ (id : String) (catalog : Catalog) (happenings : List Happening)
    (client : Nat) (execution : Execution), catalog.execution? id = none →
      Course.Apart id happenings → (Course.after id { catalog } happenings).Granted client execution →
        (Course.after id { catalog } happenings).Heeded id := by
  intro always
  have heeded := always "0" deployed missedRequest 0 missedExecution rfl missedRequest_apart
    missedRequest_granted
  exact Course.not_heeded_of_going rfl rfl heeded

end Service
end BigScript
