import BigScript.Proofs.Service.Cancellation

/-!
# How a request to cancel is answered

A request cancels the run first and ends the record afterwards.  The run ends the record too, once it
has stopped because it was cancelled.  If it is the first of the two to do so, the request finds the
record ended by what it has itself brought about, and it is refused.

`acknowledgement_law` is about the only request to cancel an execution.  It is answered with success
exactly if it takes its second step before the end of the run is recorded.
-/

namespace BigScript
namespace Service
namespace Course

variable {id : String} {catalog : Catalog} {course next : Course} {happening : Happening}
variable {happenings : List Happening} {client : Nat}

/-- Whether a client is the only one that asks for the execution to be cancelled. -/
def Sole (client : Nat) (happenings : List Happening) : Prop :=
  ∀ other, .signal other ∈ happenings → other = client

/-! ## What the answer depends on -/

/-- An answer is given in the second step of a request. -/
theorem cancel_of_answered {reached : Bool} {answer : Except Refusal Execution}
    (told : (after id { catalog } happenings).demands client = .answered reached answer) :
    ∃ early now late, happenings = early ++ .cancel client now :: late ∧
      (after id { catalog } early).demands client = .signalled reached := by
  induction happenings using List.reverseRecOn with
  | nil => cases told
  | append_singleton before happening ih =>
    rw [after_append] at told
    have moves := (advances id (after id { catalog } before) happening).proceeds client
    change (step id (after id { catalog } before) happening).demands client = _ at told
    rw [told] at moves
    generalize demand : Demand.answered reached answer = after at moves
    cases moves with
    | stays =>
      rcases ih demand.symm with ⟨early, now, late, rfl, signalled⟩
      exact ⟨early, now, late ++ [happening], by rw [List.append_assoc, List.cons_append], signalled⟩
    | signals => cases demand
    | @answers now flag signalled =>
      cases demand
      exact ⟨before, now, [], rfl, signalled⟩

/-- As long as the end of the run is not recorded, the only request finds the record active. -/
theorem active_of_isOpen (recorded : Recorded id (after id { catalog } happenings))
    (sole : Sole client happenings) {reached : Bool}
    (signalled : (after id { catalog } happenings).demands client = .signalled reached)
    (opened : (after id { catalog } happenings).phase.isOpen = true) :
    ∃ execution, (after id { catalog } happenings).catalog.execution? id = some execution ∧
      execution.outcome.isActive = true := by
  rcases recorded.opened opened with ⟨execution, found, active | ⟨other, flag, told⟩⟩
  · exact ⟨execution, found, active⟩
  · rcases signal_of_tried { catalog } rfl (congrArg Demand.reached? told) with
      ⟨early, late, split, -⟩
    have same := sole other (split ▸ List.mem_append_right _ List.mem_cons_self)
    subst same
    cases signalled.symm.trans told

/-! ## Who has asked for it -/

/-- A run that ends in another way does not make its execution a cancelled one. -/
theorem cancelled_of_finished {changed : Catalog} {now : Moment} {outcome : Outcome}
    {execution : Execution} (other : outcome ≠ .cancelled)
    (answer : catalog.finish now id outcome = .ok changed)
    (found : changed.execution? id = some execution) (cancelled : execution.outcome = .cancelled) :
    catalog.execution? id = some execution := by
  unfold Catalog.finish at answer
  split at answer
  · cases answer
  · split at answer
    · cases answer
      rw [Catalog.settle_execution?] at found
      rcases Option.map_eq_some_iff.mp found with ⟨before, known, rfl⟩
      rw [Catalog.execution?_id known, if_pos (beq_self_eq_true id)] at cancelled
      exact absurd cancelled other
    · cases answer
      exact found

/-- The end of a run is recorded as a cancellation only where the run was stopped because it had been
cancelled, or where the record said so before. -/
theorem cancelled_of_recorded {ending : Ending} {now : Moment} {execution : Execution}
    (found : ((ending.operation now id).run catalog).execution? id = some execution)
    (cancelled : execution.outcome = .cancelled) :
    catalog.execution? id = some execution ∨ ending.isCancellation = true := by
  cases own : ending.isCancellation with
  | true => exact .inr rfl
  | false =>
    refine .inl ?_
    cases answer : (ending.operation now id).apply catalog with
    | error refusal =>
      rw [Operation.run_of_error answer] at found
      exact found
    | ok changed =>
      rw [Operation.run_of_ok answer] at found
      unfold Ending.operation at answer
      unfold Ending.isCancellation at own
      cases stopped : ending.fault with
      | none =>
        rw [stopped] at answer
        exact cancelled_of_finished Outcome.noConfusion answer found cancelled
      | some fault =>
        rw [stopped] at answer own
        have failed : ¬ fault.cause.isCancellation = true := Bool.eq_false_iff.mp own
        dsimp only at answer
        rw [if_neg failed] at answer
        exact cancelled_of_finished Outcome.noConfusion answer found cancelled

/-- Whether the record says that the execution was cancelled only where somebody has asked for it. -/
def Asked (id : String) (course : Course) : Prop :=
  ∀ execution, course.catalog.execution? id = some execution → execution.outcome = .cancelled →
    ∃ client flag, (course.demands client).reached? = some flag

theorem Asked.step (asked : Asked id course) (signalled : Signalled course)
    (advances : Advances id course happening next) (apart : Apart id [happening]) :
    Asked id next := by
  have before {execution : Execution} (found : course.catalog.execution? id = some execution)
      (cancelled : execution.outcome = .cancelled) :
      ∃ client flag, (next.demands client).reached? = some flag := by
    rcases asked execution found cancelled with ⟨client, flag, tried⟩
    exact ⟨client, flag, advances.reached? tried⟩
  intro execution found cancelled
  cases advances with
  | @begins now name args made catalog absent begun =>
    change catalog.execution? id = _ at found
    rcases Catalog.begin_execution? begun id with ⟨looked, fresh⟩
    cases known : course.catalog.execution? id with
    | some old =>
      rw [looked, known, Option.some_or] at found
      exact before (known.trans found) cancelled
    | none =>
      rw [looked, known, beq_self_eq_true, if_pos rfl, Option.none_or] at found
      cases found
      cases fresh.active.symm.trans cancelled
  | @records now ending past =>
    rcases cancelled_of_recorded found cancelled with same | own
    · exact before same cancelled
    · have stopped := signalled.stopped ending past own
      rcases signalled.caused stopped (past ▸ Phase.noConfusion) with ⟨client, reached⟩
      exact ⟨client, true, reached⟩
  | @answers client now flag => exact ⟨client, flag, congrArg Demand.reached? tell_self⟩
  | other operation =>
    have same : (operation.run course.catalog).execution? id = course.catalog.execution? id :=
      Operation.run_execution? (apart operation List.mem_cons_self)
    exact before (same.symm.trans found) cancelled
  | idle => exact before found cancelled
  | knows => exact before found cancelled
  | goes => exact before found cancelled
  | stops => exact before found cancelled
  | finishes => exact before found cancelled
  | forgets => exact before found cancelled
  | signals => exact before found cancelled

theorem Asked.after (asked : Asked id course) (signalled : Signalled course)
    (apart : Apart id happenings) : Asked id (course.after id happenings) := by
  induction happenings generalizing course with
  | nil => exact asked
  | cons happening rest ih =>
    rcases apart.of_cons with ⟨here, further⟩
    have advances := advances id course happening
    exact ih (asked.step signalled advances here) (signalled.step advances) further

/-! ## The two steps of a request -/

theorem step_cancel {now : Moment} {reached : Bool}
    (signalled : course.demands client = .signalled reached) :
    course.step id (.cancel client now) = course.answer id client now reached := by
  dsimp only [step]
  rw [signalled]

theorem step_signal (id : String) (unsent : course.demands client = .unsent)
    (there : course.phase.isThere = true) :
    course.step id (.signal client) = course.signal client := by
  dsimp only [step]
  rw [unsent]
  exact if_pos there

/-! ## What the request is answered -/

section Answers

variable (unknown : catalog.execution? id = none) (apart : Apart id happenings)
  (sole : Sole client happenings)

include unknown apart sole

/-- The answer depends on whether the end of the run has been recorded by then. -/
theorem answer_cases {reached : Bool} {answer : Except Refusal Execution}
    (told : (after id { catalog } happenings).demands client = .answered reached answer) :
    ∃ early now late execution, happenings = early ++ .cancel client now :: late ∧
      (after id { catalog } happenings).catalog.execution? id = some execution ∧
      (((after id { catalog } early).phase.isOpen = true ∧ answer = .ok execution ∧
          execution.outcome = .cancelled) ∨
        ((after id { catalog } early).phase.isClosed = true ∧
          answer = .error (.notActive id execution.outcome.state))) := by
  have recorded := (Recorded.opening unknown).after apart
  rcases cancel_of_answered told with ⟨early, now, late, rfl, sent⟩
  have before := (Recorded.opening unknown).after apart.of_append.1
  have alone : Sole client early := fun other member => sole other (List.mem_append_left _ member)
  -- What the request is told in its second step is what it has been told in the end.
  have given {given : Except Refusal Execution}
      (answered : (Course.answer id (after id { catalog } early) client now reached).demands client =
        .answered reached given) : answer = given := by
    rw [← step_cancel sent] at answered
    have stands := after_answered id late answered
    rw [after_append] at told
    exact (Demand.answered.inj (told.symm.trans stands)).2
  rcases Phase.isOpen_or_isClosed (before.isThere_of_signalled sent) with opened | closed
  · rcases active_of_isOpen before alone sent opened with ⟨active, found, going⟩
    have answered := given (answer_active client now reached found going).2
    rw [answered] at told
    rcases recorded.granted client _ ⟨reached, told⟩ with ⟨here, cancelled⟩
    exact ⟨early, now, late, _, rfl, here, .inl ⟨opened, answered, cancelled⟩⟩
  · rcases before.closed closed with ⟨ended, found, final⟩
    have answered := given (answer_ended client now reached found final).2
    rw [answered] at told
    rcases recorded.refused client reached _ told with ⟨execution, here, -, same⟩
    exact ⟨early, now, late, execution, rfl, here, .inr ⟨closed, answered.trans (same ▸ rfl)⟩⟩

/-- A request that takes both steps at once finds the record active unless the end of the run has
been recorded. -/
theorem granted_of_together {early late : List Happening} {now : Moment}
    (split : happenings = (early ++ [.signal client]) ++ .cancel client now :: late)
    (unsent : (after id { catalog } early).demands client = .unsent)
    (opened : (after id { catalog } early).phase.isOpen = true) :
    ∃ execution, (after id { catalog } happenings).Granted client execution := by
  have signals : after id { catalog } (early ++ [.signal client]) =
      (after id { catalog } early).signal client := by
    rw [after_append]
    exact step_signal id unsent (Phase.isThere_of_isOpen opened)
  have told : (after id { catalog } (early ++ [.signal client])).demands client =
      .signalled (after id { catalog } early).phase.isKnown := by
    rw [signals, signal, tell_self]
  have before := (Recorded.opening unknown).after (split ▸ apart).of_append.1
  have alone : Sole client (early ++ [.signal client]) := fun other member =>
    sole other (split ▸ List.mem_append_left _ member)
  rcases active_of_isOpen before alone told (signals ▸ opened) with ⟨active, found, going⟩
  have answered := (answer_active client now (after id { catalog } early).phase.isKnown found going).2
  rw [← step_cancel told] at answered
  have stands := after_answered id late answered
  rw [split, after_append]
  exact ⟨_, _, stands⟩

/-- An execution is cancelled only where the request has come. -/
theorem tried_of_cancelled {execution : Execution}
    (found : (after id { catalog } happenings).catalog.execution? id = some execution)
    (cancelled : execution.outcome = .cancelled) :
    ((after id { catalog } happenings).demands client).reached?.isSome = true := by
  have asked : Asked id { catalog } := by
    intro other known
    cases unknown.symm.trans known
  rcases asked.after (Signalled.opening catalog) apart execution found cancelled with
    ⟨other, flag, tried⟩
  rcases signal_of_tried { catalog } rfl tried with ⟨early, late, split, -⟩
  rw [← sole other (split ▸ List.mem_append_right _ List.mem_cons_self), tried]
  rfl

end Answers
end Course

/-! ## The law -/

/-- What the only request to cancel an execution is answered.

The run may have recorded its end before the request takes its second step, and then the request is
refused although it is what has ended the execution. -/
structure AcknowledgementLaw (id : String) (catalog : Catalog) (happenings : List Happening)
    (client : Nat) : Prop where
  /-- The request is answered with success, by the record of an execution that was cancelled, or it
  is told in which state the execution is.  It depends on whether the end of the run has been
  recorded when the request takes its second step. -/
  answered : ∀ reached answer,
    (Course.after id { catalog } happenings).demands client = .answered reached answer →
    ∃ early now late execution, happenings = early ++ .cancel client now :: late ∧
      (Course.after id { catalog } happenings).catalog.execution? id = some execution ∧
      (((Course.after id { catalog } early).phase.isOpen = true ∧ answer = .ok execution ∧
          execution.outcome = .cancelled) ∨
        ((Course.after id { catalog } early).phase.isClosed = true ∧
          answer = .error (.notActive id execution.outcome.state)))
  /-- An execution is cancelled only where the request has come. -/
  asked : ∀ execution,
    (Course.after id { catalog } happenings).catalog.execution? id = some execution →
      execution.outcome = .cancelled →
        ((Course.after id { catalog } happenings).demands client).reached?.isSome = true
  /-- A request that takes both steps at once before the end of the run is recorded is answered with
  success. -/
  together : ∀ early now late,
    happenings = (early ++ [.signal client]) ++ .cancel client now :: late →
    (Course.after id { catalog } early).demands client = .unsent →
      (Course.after id { catalog } early).phase.isOpen = true →
        ∃ execution, (Course.after id { catalog } happenings).Granted client execution
  /-- A server that takes both steps at once answers every request for an active execution with
  success. -/
  atonce : ∀ (server : Server) (request : Request), server.catalog.ActiveIn id →
    (server.answerRoute request (.cancelExecution id)).1.status = 200
  response : ∀ state, Response.refusal (.notActive id state) =
    Response.refused 400 "FAILED_PRECONDITION" (Refusal.text (.notActive id state))

theorem acknowledgement_law (id : String) (catalog : Catalog) (happenings : List Happening)
    (client : Nat) (unknown : catalog.execution? id = none) (apart : Course.Apart id happenings)
    (sole : Course.Sole client happenings) : AcknowledgementLaw id catalog happenings client where
  answered := fun _ _ told => Course.answer_cases unknown apart sole told
  asked := fun _ found cancelled => Course.tried_of_cancelled unknown apart sole found cancelled
  together := fun _ _ _ split unsent opened =>
    Course.granted_of_together unknown apart sole split unsent opened
  atonce := by
    rintro server request ⟨execution, found, active⟩
    unfold Server.answerRoute
    dsimp only
    rw [Server.cancel_of_active found active]
    rfl
  response := fun _ => rfl

/-- How a run ends that has been cancelled before it has printed anything. -/
def interruption : Ending := ⟨some { cause := .cancelled (some "context canceled") }, "", {}⟩

/-- A request cancels a run, and the run records its end before the request takes its second step. -/
def overtaken : List Happening :=
  [.begin {} "a" [], .know, .statement, .signal 0, .stop interruption, .record {}, .cancel 0 {}]

theorem overtaken_apart : Course.Apart "0" overtaken := by
  intro operation member
  simp [overtaken] at member

theorem overtaken_sole : Course.Sole 0 overtaken := by
  intro other member
  simpa [overtaken] using member

/-- The record of the execution as its own run leaves it. -/
def overtakenExecution : Execution :=
  { id := "0", script := "a", args := [], revision := 1, started := {}, outcome := .cancelled,
    ended := some {} }

theorem overtaken_recorded :
    (Course.after "0" { catalog := deployed } overtaken).catalog.execution? "0" =
      some overtakenExecution := rfl

theorem overtaken_answered :
    (Course.after "0" { catalog := deployed } overtaken).demands 0 =
      .answered true (.error (.notActive "0" "CANCELLED")) := rfl

theorem acknowledgement_law_overtaken :
    AcknowledgementLaw "0" deployed overtaken 0 ∧
      (Course.after "0" { catalog := deployed } overtaken).demands 0 =
        .answered true (.error (.notActive "0" "CANCELLED")) :=
  ⟨acknowledgement_law "0" deployed overtaken 0 rfl overtaken_apart overtaken_sole,
    overtaken_answered⟩

/-- Whether the request comes while the run carries out statements. -/
def Course.Interrupts (id : String) (catalog : Catalog) (happenings : List Happening) (client : Nat) :
    Prop :=
  ∃ early late, happenings = early ++ .signal client :: late ∧
    (Course.after id { catalog } early).demands client = .unsent ∧
    (Course.after id { catalog } early).phase = .running

theorem cancelled_not_acknowledged : ¬ ∀ (id : String) (catalog : Catalog)
    (happenings : List Happening) (client : Nat) (reached : Bool) (execution : Execution)
    (answer : Except Refusal Execution), catalog.execution? id = none → Course.Apart id happenings →
      Course.Sole client happenings → Course.Interrupts id catalog happenings client →
        (Course.after id { catalog } happenings).catalog.execution? id = some execution →
          execution.outcome = .cancelled →
            (Course.after id { catalog } happenings).demands client = .answered reached answer →
              ∃ record, answer = .ok record := by
  intro always
  have interrupts : Course.Interrupts "0" deployed overtaken 0 :=
    ⟨[.begin {} "a" [], .know, .statement], [.stop interruption, .record {}, .cancel 0 {}],
      rfl, rfl, rfl⟩
  rcases always "0" deployed overtaken 0 true overtakenExecution _ rfl overtaken_apart
    overtaken_sole interrupts overtaken_recorded rfl overtaken_answered with ⟨record, wrong⟩
  cases wrong

end Service
end BigScript
