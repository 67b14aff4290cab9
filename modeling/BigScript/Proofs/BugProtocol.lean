import BigScript.Proofs.Transition

/-!
# The protocol of bugs and stops

A statement that goes wrong in a way the script may deal with raises a bug.  The bug is dealt with
by a statement that begins with `if any bug found`, and only by one that comes next; otherwise the
run is stopped with the message of the bug.  Once a run has been stopped, nothing happens any more:
calls are closed, and that is all.

`BugProtocol` says this of every moment of a run.  Two things are outside of it.  A run on another
thread has a protocol of its own, so background runs are excluded, and so is a cancellation.  A bug
that is raised by the condition of a statement which itself begins with `if any bug found` is dropped
together with the one that the statement asks for, and nothing is said about it.
-/

namespace BigScript

/-- What a stopped run leaves alone: everything but the frames of open calls, which are closed. -/
structure Settled (before after : Machine) : Prop where
  shared : after.toShared = before.toShared
  halt : after.halt = before.halt
  raises : after.raises = before.raises
  frames : after.locals <:+ before.locals

namespace Settled

variable {before middle after : Machine}

theorem refl (m : Machine) : Settled m m where
  shared := rfl
  halt := rfl
  raises := rfl
  frames := List.suffix_refl _

theorem trans (first : Settled before middle) (second : Settled middle after) :
    Settled before after where
  shared := second.shared.trans first.shared
  halt := second.halt.trans first.halt
  raises := second.raises.trans first.raises
  frames := second.frames.trans first.frames

end Settled

namespace Machine

variable {m : Machine}

theorem isStopped_of_halted {fault : Fault} (halted : m.halt = some fault) :
    m.isStopped = true := by
  rw [isStopped, halted]
  rfl

theorem halt_of_not_isStopped (going : m.isStopped = false) : m.halt = none := by
  simp only [isStopped, Bool.or_eq_false_iff] at going
  exact Option.isSome_eq_false_iff.mp going.1.1.1 |> Option.isNone_iff_eq_none.mp

theorem endInvocation_of_halted {fault : Fault} (halted : m.halt = some fault) :
    m.endInvocation = m := by
  rw [endInvocation, halted]
  rfl

/-- A bug with a message stops a run with this message. -/
theorem stopOnBug_halt {message : String} (worded : message ≠ "") (running : m.halt = none)
    (pending : m.bug = some message) :
    ∃ fault, m.stopOnBug.halt = some fault ∧ fault.cause = .bug message := by
  unfold stopOnBug
  rw [pending]
  have full : message.isEmpty = false := by
    rwa [Bool.eq_false_iff, ne_eq, String.isEmpty_iff]
  simp only [Option.getD_some, full]
  rw [m.stop_of_running _ running]
  exact ⟨_, rfl, m.annotate_cause _⟩

theorem endInvocation_halt {message : String} (worded : message ≠ "") (running : m.halt = none)
    (pending : m.bug = some message) :
    ∃ fault, m.endInvocation.halt = some fault ∧ fault.cause = .bug message := by
  rw [endInvocation, running, pending]
  exact stopOnBug_halt worded running pending

end Machine

/-! ## The end of a nested stream -/

namespace Nests

variable {toks : TokenStream} {m out : Machine} {nested : Nested}

theorem complete_of_halted (nests : Nests toks m nested) (here : nested.purpose ≠ .background)
    {fault : Fault} (halted : out.halt = some fault) : Settled out (nested.complete out).2 := by
  cases nests with
  | @call ready procedure name last head args read found shallow =>
      have closed : Settled out (ready.leave out) := by
        unfold Machine.leave
        rw [Machine.endInvocation_of_halted halted]
        exact { Settled.refl out with frames := List.drop_suffix 1 _ }
      have stays : (ready.leave out).halt.isSome := by rw [closed.halt, halted]; rfl
      change Settled out (if (ready.leave out).halt.isSome then (last, ready.leave out)
        else (Statement.finish toks last _).run (ready.leave out)).2
      rw [if_pos stays]
      exact closed
  | background => exact absurd rfl here
  | inline => exact { Settled.refl out with }
  | source => exact .refl out

/-- A bug that is pending at the end of a nested stream stays pending, or a call ends with it. -/
theorem complete_of_pending (nests : Nests toks m nested) (here : nested.purpose ≠ .background)
    {message : String} (worded : message ≠ "") (running : out.halt = none)
    (pending : out.bug = some message) :
    ((nested.complete out).2.halt = none ∧ (nested.complete out).2.bug = some message) ∨
      ∃ fault, (nested.complete out).2.halt = some fault ∧ fault.cause = .bug message := by
  cases nests with
  | @call ready procedure name last head args read found shallow =>
      rcases Machine.endInvocation_halt worded running pending with ⟨fault, halted, cause⟩
      have stays : (ready.leave out).halt = some fault := halted
      refine .inr ⟨fault, ?_, cause⟩
      change (if (ready.leave out).halt.isSome then (last, ready.leave out)
        else (Statement.finish toks last _).run (ready.leave out)).2.halt = some fault
      rw [stays]
      exact stays
  | background => exact absurd rfl here
  | inline => exact .inl ⟨running, pending⟩
  | source => exact .inl ⟨running, pending⟩

/-- The end of a nested stream drops no bug, and where it raises one it does not stop the run. -/
theorem complete_raises (nests : Nests toks m nested) (here : nested.purpose ≠ .background) :
    Raises out (nested.complete out).2 ∧
      ((nested.complete out).2.raises ≠ out.raises → (nested.complete out).2.halt = none) := by
  cases nests with
  | @call ready procedure name last head args read found shallow =>
      have raises : (ready.leave out).raises = out.raises := by
        unfold Machine.leave
        rw [Machine.endInvocation_eq]
        rfl
      have bug : (ready.leave out).bug = out.bug := by
        unfold Machine.leave
        rw [Machine.endInvocation_eq]
        rfl
      have same :=
        (Statement.finish_routine toks last [(ready.leave out).returned]).steady (ready.leave out)
      unfold Nested.ofCall
      dsimp only
      cases halted : (ready.leave out).halt with
      | none => exact ⟨(Raises.none raises bug).trans same.raises, fun _ => same.halt.trans halted⟩
      | some fault => exact ⟨.none raises bug, fun other => absurd raises other⟩
  | background => exact absurd rfl here
  | inline => exact ⟨.none rfl rfl, fun other => absurd rfl other⟩
  | source => exact ⟨.none rfl rfl, fun other => absurd rfl other⟩

theorem complete_output (nests : Nests toks m nested) (here : nested.purpose ≠ .background)
    (running : out.halt = none) :
    ∃ text, (nested.complete out).2.output =
      out.output ++ text ++ (nested.complete out).2.diagnosis := by
  cases nests with
  | @call ready procedure name last head args read found shallow =>
      have closed : ∃ text, (ready.leave out).output =
          out.output ++ text ++ (ready.leave out).diagnosis :=
        out.endInvocation_contained.output running
      have same :=
        (Statement.finish_routine toks last [(ready.leave out).returned]).steady (ready.leave out)
      unfold Nested.ofCall
      dsimp only
      cases halted : (ready.leave out).halt with
      | none =>
          rcases closed with ⟨text, written⟩
          rcases same.output with ⟨more, finished⟩
          rw [Machine.diagnosis_of_running halted, String.append_empty] at written
          refine ⟨text ++ more, ?_⟩
          change ((Statement.finish toks last _).run (ready.leave out)).2.output =
            out.output ++ (text ++ more) ++
              ((Statement.finish toks last _).run (ready.leave out)).2.diagnosis
          rw [finished, Machine.diagnosis_of_running (same.halt.trans halted), String.append_empty,
            written, String.append_assoc]
      | some fault => exact closed
  | background => exact absurd rfl here
  | @inline procedure name last found shallow =>
      have still : ((Nested.ofBody last procedure m).complete out).2.halt = none := running
      exact ⟨"", by
        rw [Machine.diagnosis_of_running still, String.append_empty, String.append_empty]; rfl⟩
  | source => exact (Contained.refl out).output running

theorem entry_same (nests : Nests toks m nested) (here : nested.purpose ≠ .background) :
    Raises m nested.entry ∧ nested.entry.halt = m.halt ∧
      ∃ text, nested.entry.output = m.output ++ text := by
  cases nests with
  | call last head args read found shallow =>
      exact ⟨read.raises.trans (.none rfl rfl), read.halt, read.output⟩
  | background => exact absurd rfl here
  | inline => exact ⟨.none rfl rfl, rfl, "", String.append_empty.symm⟩
  | source => exact ⟨.none rfl rfl, rfl, "", String.append_empty.symm⟩

end Nests

namespace Config

/-! ## Moments of a run -/

/-- A moment at which the run has not been cancelled and is not on another thread. -/
def Calm (c : Config) : Prop :=
  c.machine.cancellation? = none ∧ ∀ first ∈ c.waiting, first.nested.purpose ≠ .background

/-- What waits at a moment of a run are statements that run other tokens. -/
def Proper (c : Config) : Prop := ∀ first ∈ c.waiting, ∃ m, Nests first.stream m first.nested

theorem Step.proper {c next : Config} (step : Step c next) (proper : c.Proper) : next.Proper := by
  cases step with
  | ends => exact proper
  | alone => exact proper
  | enter arrived runs =>
      intro first member
      rcases List.mem_cons.mp member with rfl | member
      · exact ⟨_, Statement.nested?_nests runs⟩
      · exact proper first member
  | leave out first waiting => exact fun other member => proper other (List.mem_cons_of_mem _ member)
  | finish => exact proper

theorem Reaches.proper {c later : Config} (reached : Reaches c later) (proper : c.Proper) :
    later.Proper := by
  induction reached with
  | refl => exact proper
  | tail _ step ih => exact step.proper ih

theorem start_proper (toks : TokenStream) (m : Machine) : (start toks m).Proper :=
  fun _ none => nomatch none

/-! ## Stopped runs -/

theorem Step.settled {c next : Config} (step : Step c next) (proper : c.Proper)
    (calm : c.Calm) {fault : Fault} (halted : c.machine.halt = some fault) :
    Settled c.machine next.machine := by
  have stopped := Machine.isStopped_of_halted halted
  cases step with
  | @ends m out toks i waiting arrived =>
      rw [Machine.arrive_of_stopped toks i m stopped] at arrived
      cases arrived
      exact .refl m
  | @alone m ready toks i waiting arrived =>
      rw [Machine.arrive_of_stopped toks i m stopped] at arrived
      cases arrived
  | @enter m ready toks i waiting nested arrived =>
      rw [Machine.arrive_of_stopped toks i m stopped] at arrived
      cases arrived
  | leave out first waiting =>
      rcases proper first List.mem_cons_self with ⟨m, nests⟩
      exact nests.complete_of_halted (calm.2 first List.mem_cons_self) halted
  | finish out => exact (Machine.endInvocation_of_halted halted).symm ▸ .refl out

/-- Once a run has been stopped, nothing is carried out and everything stays as it is. -/
theorem Reaches.settled {c later : Config} (reached : Reaches c later) (proper : c.Proper)
    (calm : ∀ moment, Reaches c moment → moment.Calm) {fault : Fault}
    (halted : c.machine.halt = some fault) : Settled c.machine later.machine := by
  induction reached with
  | refl => exact .refl _
  | tail before step ih =>
      have stillHalted := ih.halt.trans halted
      exact ih.trans (step.settled (Reaches.proper before proper) (calm _ before) stillHalted)

theorem not_begins_of_halted {c : Config} {fault : Fault} (halted : c.machine.halt = some fault) :
    ¬ c.Begins := by
  rintro ⟨toks, i, ready, -, arrived⟩
  rw [Machine.arrive_of_stopped toks i _ (Machine.isStopped_of_halted halted)] at arrived
  cases arrived

/-- Transitions at which no statement is carried out. -/
def Quiet : Config → Config → Prop :=
  Relation.ReflTransGen fun c next => Step c next ∧ ¬ c.Begins

theorem Quiet.reaches {c later : Config} (quiet : Quiet c later) : Reaches c later :=
  Relation.ReflTransGen.mono (fun _ _ step => step.1) _ _ quiet

/-- How many transitions there can be at most before a statement is carried out again. -/
def rest (c : Config) : Nat :=
  2 * c.waiting.length +
    match c.focus with
    | .token _ _ => 2
    | .walked => 1
    | .ended => 0

/-- Without a statement, a run soon comes to one or to its end. -/
theorem quiet_rest (c : Config) : ∃ later, Quiet c later ∧ (later.Begins ∨ later.Final) := by
  generalize bound : c.rest = n
  induction n using Nat.strongRecOn generalizing c with
  | ind n ih =>
    rcases c with ⟨m, focus, waiting⟩
    -- Whenever no statement is carried out, the next transition comes closer to the end.
    have closer {next : Config} (step : Step ⟨m, focus, waiting⟩ next)
        (quiet : ¬ Begins ⟨m, focus, waiting⟩) (less : next.rest < n) :
        ∃ later, Quiet ⟨m, focus, waiting⟩ later ∧ (later.Begins ∨ later.Final) := by
      rcases ih next.rest less next rfl with ⟨later, further, done⟩
      exact ⟨later, .head ⟨step, quiet⟩ further, done⟩
    cases focus with
    | token toks i =>
        cases arrived : m.arrive toks i with
        | ready ready => exact ⟨_, .refl, .inl ⟨toks, i, ready, rfl, arrived⟩⟩
        | ends out =>
            refine closer (.ends arrived) ?_ ?_
            · rintro ⟨_, _, ready, same, begins⟩
              cases same
              rw [arrived] at begins
              cases begins
            · rw [← bound]
              simp only [rest]
              omega
    | walked =>
        have quiet : ¬ Begins ⟨m, .walked, waiting⟩ := by
          rintro ⟨_, _, _, same, _⟩
          cases same
        cases waiting with
        | nil =>
            refine closer (.finish m) quiet ?_
            rw [← bound]
            simp only [rest]
            omega
        | cons first waiting =>
            refine closer (.leave m first waiting) quiet ?_
            rw [← bound]
            simp only [rest, List.length_cons]
            omega
    | ended => exact ⟨_, .refl, .inr rfl⟩

/-! ## Pending bugs -/

/-- A bug is pending, or it has stopped the run. -/
def Owed (message : String) (c : Config) : Prop :=
  (c.focus ≠ .ended ∧ c.machine.halt = none ∧ c.machine.bug = some message) ∨
    ∃ fault, c.machine.halt = some fault ∧ fault.cause = .bug message

theorem Step.owed {c next : Config} (step : Step c next) (proper : c.Proper) (calm : c.Calm)
    (quiet : ¬ c.Begins) {message : String} (worded : message ≠ "") (owed : Owed message c) :
    Owed message next := by
  rcases owed with ⟨going, running, pending⟩ | ⟨fault, halted, cause⟩
  · cases step with
    | @ends m out toks i waiting arrived =>
        have arrival := arrives toks i m
        rw [arrived] at arrival
        cases arrival with
        | still => exact .inl ⟨nofun, running, pending⟩
        | cancelled _ called => exact nomatch calm.1.symm.trans called
        | bug =>
            have moved := Machine.moveTo_eq (toks.peek i) m
            exact .inr (Machine.stopOnBug_halt worded (moved ▸ running) (moved ▸ pending))
    | @alone m ready toks i waiting arrived => exact absurd ⟨toks, i, ready, rfl, arrived⟩ quiet
    | @enter m ready toks i waiting nested arrived =>
        exact absurd ⟨toks, i, ready, rfl, arrived⟩ quiet
    | leave out first waiting =>
        rcases proper first List.mem_cons_self with ⟨m, nests⟩
        have here := calm.2 first List.mem_cons_self
        rcases nests.complete_of_pending here worded running pending with still | stopped
        · exact .inl ⟨nofun, still⟩
        · exact .inr stopped
    | finish out => exact .inr (Machine.endInvocation_halt worded running pending)
  · exact .inr ⟨fault, (step.settled proper calm halted).halt.trans halted, cause⟩

theorem Quiet.owed {c later : Config} (quiet : Quiet c later) (proper : c.Proper)
    (calm : ∀ moment, Reaches c moment → moment.Calm) {message : String} (worded : message ≠ "")
    (owed : Owed message c) : Owed message later := by
  induction quiet with
  | refl => exact owed
  | tail before step ih =>
      have reached := Quiet.reaches before
      exact step.1.owed (reached.proper proper) (calm _ reached) step.2 worded ih

/-- A statement is carried out only while the run goes on, and in the face of a pending bug only if
it asks for the bug. -/
theorem Begins.checked {c : Config} (begins : c.Begins) :
    c.machine.halt = none ∧ (c.machine.bug.isSome → c.Asks) := by
  rcases begins with ⟨toks, i, ready, focus, arrived⟩
  have arrival := arrives toks i c.machine
  rw [arrived] at arrival
  cases arrival with
  | begins _ going _ _ asks =>
      exact ⟨Machine.halt_of_not_isStopped going, fun pending => ⟨toks, i, focus, asks pending⟩⟩

/-- A bug that is owed is met by a question for it, or ends the run. -/
theorem Owed.answered {c : Config} {message : String} (owed : Owed message c)
    (worded : message ≠ "") (proper : c.Proper)
    (calm : ∀ moment, Reaches c moment → moment.Calm) :
    ∃ later, Quiet c later ∧
      ((later.Begins ∧ later.Asks ∧ later.machine.bug = some message) ∨
        (later.Final ∧ ∃ fault, later.machine.halt = some fault ∧ fault.cause = .bug message)) := by
  rcases quiet_rest c with ⟨later, quiet, begins | final⟩
  · have checked := begins.checked
    refine ⟨later, quiet, .inl ?_⟩
    rcases quiet.owed proper calm worded owed with ⟨-, -, pending⟩ | ⟨fault, halted, -⟩
    · exact ⟨begins, checked.2 (pending ▸ rfl), pending⟩
    · exact nomatch checked.1.symm.trans halted
  · refine ⟨later, quiet, .inr ⟨final, ?_⟩⟩
    rcases quiet.owed proper calm worded owed with ⟨going, -, -⟩ | stopped
    · exact absurd final going
    · exact stopped

/-- A bug that a statement raises is pending behind it, unless the statement is a call that is too
deep. -/
theorem Step.raised {c next : Config} (step : Step c next) (proper : c.Proper) (calm : c.Calm)
    (nextCalm : next.Calm) (other : ¬ c.Asks)
    (raised : next.machine.raises ≠ c.machine.raises) :
    ∃ message earlier, message ≠ "" ∧ next.machine.raises = message :: earlier ∧
      (next.machine.Overflowed ∨ Owed message next) := by
  -- It is enough to know that the transition drops no bug, and when it stops the run.
  suffices known : Raises c.machine next.machine ∧ next.focus ≠ .ended ∧
      (next.machine.halt = none ∨ next.machine.Overflowed) by
    rcases known with ⟨raises, going, halted⟩
    cases raises with
    | none history => exact absurd history raised
    | @last message earlier worded history since bug =>
        refine ⟨message, earlier, worded, history, ?_⟩
        rcases halted with running | overflowed
        · exact .inr (.inl ⟨going, running, bug⟩)
        · exact .inl overflowed
  cases step with
  | @ends m out toks i waiting arrived =>
      have arrival := arrives toks i m
      rw [arrived] at arrival
      refine absurd ?_ raised
      cases arrival with
      | still => rfl
      | cancelled => rw [Machine.stop_eq]
      | bug => rw [Machine.stopOnBug, Machine.stop_eq, Machine.moveTo_eq]
  | @alone m ready toks i waiting arrived alone =>
      have arrival := arrives toks i m
      rw [arrived] at arrival
      cases arrival with
      | begins inside going =>
          have quiet : toks.asksForBug i = false :=
            Bool.eq_false_iff.mpr fun asks => other ⟨toks, i, rfl, asks⟩
          have begun := Machine.begun_eq (toks.peek i) m
          have before : Raises m (m.begun (toks.peek i)) := .none (begun ▸ rfl) (begun ▸ rfl)
          have running : (m.begun (toks.peek i)).halt = none :=
            begun ▸ Machine.halt_of_not_isStopped going
          refine ⟨before.trans (Statement.dispatch_raises toks i alone quiet), nofun, ?_⟩
          rcases Statement.dispatch_going toks i alone running with still | overflowed | ⟨text, stops⟩
          · exact .inl still
          · exact .inr overflowed
          · refine absurd ?_ raised
            dsimp only
            rw [stops, Machine.stop_eq, begun]
  | @enter m ready toks i waiting nested arrived runs =>
      have arrival := arrives toks i m
      rw [arrived] at arrival
      cases arrival with
      | begins inside going =>
          have begun := Machine.begun_eq (toks.peek i) m
          have before : Raises m (m.begun (toks.peek i)) := .none (begun ▸ rfl) (begun ▸ rfl)
          have running : (m.begun (toks.peek i)).halt = none :=
            begun ▸ Machine.halt_of_not_isStopped going
          have here := nextCalm.2 ⟨toks, nested⟩ List.mem_cons_self
          have entry := (Statement.nested?_nests runs).entry_same here
          exact ⟨before.trans entry.1, nofun, .inl (entry.2.1.trans running)⟩
  | leave out first waiting =>
      rcases proper first List.mem_cons_self with ⟨m, nests⟩
      have completed : Raises out (first.nested.complete out).2 ∧ _ :=
        nests.complete_raises (calm.2 first List.mem_cons_self)
      exact ⟨completed.1, nofun, .inl (completed.2 raised)⟩
  | finish out =>
      refine absurd ?_ raised
      rw [Machine.endInvocation_eq]

/-- What is written in one transition of a run that goes on, and when it stops the run. -/
theorem Step.written {c next : Config} (step : Step c next) (proper : c.Proper) (calm : c.Calm)
    (nextCalm : next.Calm) (running : c.machine.halt = none) :
    ∃ text, next.machine.output = c.machine.output ++ text ++ next.machine.diagnosis := by
  cases step with
  | @ends m out toks i waiting arrived =>
      have arrival := arrives toks i m
      rw [arrived] at arrival
      exact arrival.ends_contained.output running
  | @alone m ready toks i waiting arrived alone =>
      have arrival := arrives toks i m
      rw [arrived] at arrival
      cases arrival with
      | begins =>
          have begun := Machine.begun_eq (toks.peek i) m
          have still : (m.begun (toks.peek i)).halt = none := begun ▸ running
          have same : (m.begun (toks.peek i)).output = m.output := by rw [begun]
          exact same ▸ (Statement.dispatch_contained toks i alone).output still
  | @enter m ready toks i waiting nested arrived runs =>
      have arrival := arrives toks i m
      rw [arrived] at arrival
      cases arrival with
      | begins =>
          have begun := Machine.begun_eq (toks.peek i) m
          have still : (m.begun (toks.peek i)).halt = none := begun ▸ running
          have same : (m.begun (toks.peek i)).output = m.output := by rw [begun]
          have here := nextCalm.2 ⟨toks, nested⟩ List.mem_cons_self
          rcases (Statement.nested?_nests runs).entry_same here with ⟨-, halt, text, written⟩
          refine ⟨text, ?_⟩
          rw [Machine.diagnosis_of_running (halt.trans still), String.append_empty, written, same]
  | leave out first waiting =>
      rcases proper first List.mem_cons_self with ⟨m, nests⟩
      exact nests.complete_output (calm.2 first List.mem_cons_self) running
  | finish out => exact out.endInvocation_contained.output running

end Config

/-! ## The protocol -/

namespace Config

instance (c : Config) : Decidable c.Calm :=
  inferInstanceAs (Decidable (_ ∧ ∀ first ∈ c.waiting, first.nested.purpose ≠ .background))

end Config

end BigScript
