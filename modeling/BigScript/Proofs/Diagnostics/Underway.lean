import BigScript.Proofs.CallDepth
import BigScript.Proofs.Definitions
import BigScript.Proofs.StopCause
import Mathlib.Data.List.Forall2

/-!
# The statement that is under way

A thread keeps the line and the column of the statement that it came to last, and a fault takes them
from there.  A transition of a run does not name that statement.  `Track` goes along with the
transitions and does: it keeps the statement that the innermost thread came to last, and the indices at
which the statements wait that run other streams.

`Track.placed` is the invariant that ties this to the machine, and `Halts.fault_eq` what a fault looks
like that stops a thread at some moment.  `Track.halts` says that all faults come about in this way.
-/

namespace BigScript

/-! ## Faults -/

namespace Machine

/-- A fault is placed where the thread stands and lists the open calls, each with the line of its
number. -/
theorem annotate_eq (m : Machine) (cause : Cause) : m.annotate { cause } =
    { cause, line := m.line, column := m.column, trigger := m.sourceLine m.line
      stack := m.calls.map fun call => { call with source := m.sourceLine call.line } } := by
  have unplaced : ((0 : Int) = 0) := rfl
  unfold annotate Fault.placed
  dsimp only
  rw [if_pos unplaced]
  rfl

end Machine

/-- The thread stands where it stood, and lines are quoted from the same source. -/
structure SamePlace (before after : Machine) : Prop where
  line : after.line = before.line
  column : after.column = before.column
  lines : after.lines = before.lines

/-- The thread stands where it stood, and if it has been stopped meanwhile, the fault says so. -/
structure Sited (before after : Machine) : Prop extends SamePlace before after where
  calls : after.calls = before.calls
  halt : after.halt = before.halt ∨
    before.halt = none ∧ ∃ cause, after.halt = some (before.annotate { cause })

namespace Sited

variable {before middle after : Machine}

theorem annotate (sited : Sited before after) (cause : Cause) :
    after.annotate { cause } = before.annotate { cause } := by
  have quotes (n : Int) : after.sourceLine n = before.sourceLine n := by
    unfold Machine.sourceLine
    rw [sited.lines]
  simp only [Machine.annotate_eq, quotes, sited.line, sited.column, sited.calls]

theorem trans (first : Sited before middle) (second : Sited middle after) : Sited before after where
  line := second.line.trans first.line
  column := second.column.trans first.column
  lines := second.lines.trans first.lines
  calls := second.calls.trans first.calls
  halt := by
    rcases second.halt with same | ⟨running, cause, halted⟩
    · rw [same]
      exact first.halt
    · rcases first.halt with same | ⟨-, other, stopped⟩
      · exact .inr ⟨same.symm.trans running, cause, by rw [halted, first.annotate]⟩
      · cases running.symm.trans stopped

end Sited

theorem sited_lasting : Lasting Sited where
  trans := Sited.trans
  same same := ⟨⟨same.line, same.column, same.lines⟩, same.calls, .inl same.halt⟩
  control _ _ _ _ _ _ := ⟨⟨rfl, rfl, rfl⟩, rfl, .inl rfl⟩
  stop m cause := by
    cases halted : m.halt with
    | some fault =>
      rw [m.stop_of_halted cause halted]
      exact ⟨⟨rfl, rfl, rfl⟩, rfl, .inl rfl⟩
    | none =>
      rw [m.stop_of_running cause halted]
      exact ⟨⟨rfl, rfl, rfl⟩, rfl, .inr ⟨halted, cause, rfl⟩⟩

theorem Sited.endInvocation (m : Machine) : Sited m m.endInvocation := by
  unfold Machine.endInvocation
  split
  · exact sited_lasting.stop m _
  · exact sited_lasting.refl m

theorem Statement.dispatch_sited {toks : TokenStream} {i : Nat} {m : Machine}
    (alone : nested? toks i m = none) : Sited m ((dispatch idle toks i).run m).2 := by
  rcases dispatch_lasts sited_lasting toks i alone with sited | defined
  · exact sited
  · rw [defined]
    exact ⟨⟨rfl, rfl, rfl⟩, rfl, .inl rfl⟩

/-! ## Arrivals -/

namespace Machine

/-- Whether a walk that comes to an index moves on to the statement there. -/
def comesTo (toks : TokenStream) (i : Nat) (m : Machine) : Bool :=
  !m.isStopped && m.cancellation?.isNone && !(toks.peek i).isFinish

variable {toks : TokenStream} {i : Nat} {m : Machine}

theorem arrive_of_comesTo (comes : m.comesTo toks i = true) :
    m.arrive toks i =
      if m.bug.isSome && !toks.asksForBug i then .ends (m.moveTo (toks.peek i)).stopOnBug
      else .ready (m.begun (toks.peek i)) := by
  simp only [comesTo, Bool.and_eq_true, Bool.not_eq_true', Option.isNone_iff_eq_none] at comes
  rcases comes with ⟨⟨going, calm⟩, unfinished⟩
  have inside := TokenStream.lt_of_not_finish unfinished
  rw [arrive, dif_pos inside, ← TokenStream.peek_of_lt inside, going, calm, unfinished,
    moveTo_bug]
  rfl

theorem arrive_of_not_comesTo (stays : m.comesTo toks i = false) :
    ∃ out, m.arrive toks i = .ends out ∧ Sited m out := by
  have still : Sited m m := sited_lasting.refl m
  unfold arrive
  split
  case isFalse => exact ⟨m, rfl, still⟩
  case isTrue inside =>
    cases stopped : m.isStopped with
    | true => exact ⟨m, if_pos rfl, still⟩
    | false =>
      cases calm : m.cancellation? with
      | some reason => exact ⟨_, rfl, sited_lasting.stop m _⟩
      | none =>
        have finished : toks[i].isFinish = true := by
          simpa [comesTo, stopped, calm, TokenStream.peek_of_lt inside] using stays
        exact ⟨m, by simp [finished], still⟩

end Machine

namespace Config

open Statement

/-! ## Moments -/

/-- The innermost thread at the statement that it comes to at a moment, if it comes to one. -/
def settled : Config → Machine
  | ⟨m, .token toks i, _⟩ => if m.comesTo toks i then m.moveTo (toks.peek i) else m
  | ⟨m, _, _⟩ => m

/-- The innermost thread after a moment, before it goes on elsewhere. -/
def outcome : Config → Machine
  | ⟨m, .token toks i, _⟩ =>
    match m.arrive toks i with
    | .ends out => out
    | .ready ready =>
      match nested? toks i ready with
      | some _ => ready
      | none => ((dispatch idle toks i).run ready).2
  | ⟨m, .walked, []⟩ => m.endInvocation
  | ⟨m, .walked, first :: _⟩ =>
    if first.nested.purpose = .call ∨ first.nested.purpose = .background then m.endInvocation else m
  | ⟨m, .ended, _⟩ => m

/-- A fault stops the innermost thread at a moment. -/
def Halts (c : Config) (fault : Fault) : Prop :=
  c.machine.halt = none ∧ c.outcome.halt = some fault

theorem outcome_sited (c : Config) : Sited c.settled c.outcome := by
  rcases c with ⟨m, focus, waiting⟩
  cases focus with
  | ended => exact sited_lasting.refl m
  | walked =>
    cases waiting with
    | nil => exact .endInvocation m
    | cons first waiting =>
      change Sited m (if _ then m.endInvocation else m)
      split
      · exact .endInvocation m
      · exact sited_lasting.refl m
  | token toks i =>
    cases comes : m.comesTo toks i with
    | false =>
      rcases Machine.arrive_of_not_comesTo comes with ⟨out, arrived, sited⟩
      simp only [settled, outcome, comes, arrived, Bool.false_eq_true, if_false]
      exact sited
    | true =>
      have begun : Sited (m.moveTo (toks.peek i)) (m.begun (toks.peek i)) :=
        ⟨⟨rfl, rfl, rfl⟩, rfl, .inl rfl⟩
      simp only [settled, outcome, comes, if_true, Machine.arrive_of_comesTo comes]
      split
      case h_1 out ends =>
        split at ends
        · cases ends
          exact sited_lasting.stop _ _
        · cases ends
      case h_2 ready begins =>
        split at begins
        · cases begins
        · cases begins
          cases alone : nested? toks i (m.begun (toks.peek i)) with
          | some nested => exact begun
          | none => exact begun.trans (dispatch_sited alone)

theorem settled_halt (c : Config) : c.settled.halt = c.machine.halt := by
  rcases c with ⟨m, focus, waiting⟩
  cases focus with
  | token toks i =>
    unfold settled
    dsimp only
    split
    · rw [Machine.moveTo_eq]
    · rfl
  | walked => rfl
  | ended => rfl

theorem settled_calls (c : Config) : c.settled.calls = c.machine.calls := by
  rcases c with ⟨m, focus, waiting⟩
  cases focus with
  | token toks i =>
    unfold settled
    dsimp only
    split
    · rw [Machine.moveTo_eq]
    · rfl
  | walked => rfl
  | ended => rfl

theorem Halts.fault_eq {c : Config} {fault : Fault} (halts : c.Halts fault) :
    ∃ cause, fault = c.settled.annotate { cause } := by
  rcases c.outcome_sited.halt with same | ⟨-, cause, halted⟩
  · rw [c.settled_halt, halts.1] at same
    cases same.symm.trans halts.2
  · exact ⟨cause, Option.some.inj (halts.2.symm.trans halted)⟩

/-- Where nothing is entered or left, the next moment is as the thread is then. -/
theorem Step.machine_eq {c next : Config} (step : Step c next) (same : next.waiting = c.waiting) :
    next.machine = c.outcome := by
  cases step with
  | ends arrived => simp only [outcome, arrived]
  | alone arrived alone => simp only [outcome, arrived, alone]
  | enter => exact absurd same (List.cons_ne_self _ _)
  | leave => exact absurd same (List.ne_cons_self)
  | finish => rfl

/-- What is left when a statement has entered its stream. -/
theorem Step.enter_inv {c next : Config} {stream : TokenStream} {i : Nat} {nested : Nested}
    (step : Step c next) (here : c.focus = .token stream i)
    (waits : next.waiting = ⟨stream, nested⟩ :: c.waiting) :
    ∃ ready, c.machine.arrive stream i = .ready ready ∧ nested? stream i ready = some nested ∧
      next.machine = nested.entry ∧ next.focus = .token nested.inner 0 := by
  cases step with
  | ends | alone => exact absurd waits List.ne_cons_self
  | leave | finish => cases here
  | enter arrived runs =>
    cases here
    cases waits
    exact ⟨_, arrived, runs, rfl, rfl⟩

/-- What is left when a stream is over and the statement that has run it goes on. -/
theorem Step.leave_inv {c next : Config} {first : Waiting} (step : Step c next)
    (waits : c.waiting = first :: next.waiting) :
    c.focus = .walked ∧ next.machine = (first.nested.complete c.machine).2 ∧
      ∃ i, next.focus = .token first.stream i := by
  cases step with
  | ends | alone => exact absurd waits.symm (List.cons_ne_self _ _)
  | enter =>
    have longer := congrArg List.length waits
    simp only [List.length_cons] at longer
    omega
  | finish => cases waits
  | leave out first waiting =>
    cases waits
    exact ⟨rfl, rfl, _, rfl⟩

/-! ## The statement of a thread -/

end Config

/-- A statement of a stream. -/
structure Mark where
  stream : TokenStream
  index : Nat

/-- The token that a statement begins with. -/
def Mark.token (mark : Mark) : Token := mark.stream.peek mark.index

/-- A thread stands at the beginning of a statement. -/
structure Mark.Placed (mark : Mark) (m : Machine) : Prop where
  line : m.line = mark.token.line
  column : m.column = mark.token.column
  unfinished : mark.token.isFinish = false

/-- Where a thread stands: at the statement that it came to last, or at the line that it started with. -/
def Stands (first : Nat) : Option Mark → Machine → Prop
  | some mark, m => mark.Placed m
  | none, m => m.line = first

theorem Stands.of_same {first : Nat} {last : Option Mark} {m after : Machine}
    (stands : Stands first last m) (same : SamePlace m after) : Stands first last after := by
  cases last with
  | none => exact same.line.trans stands
  | some mark => exact ⟨same.line.trans stands.line, same.column.trans stands.column, stands.unfinished⟩

namespace Config

open Statement

/-- The statement that is under way in the innermost thread: the one that it comes to at this moment, or
the last one before. -/
def statement? : Config → Option Mark → Option Mark
  | ⟨m, .token toks i, _⟩, last => if m.comesTo toks i then some ⟨toks, i⟩ else last
  | ⟨_, _, _⟩, last => last

/-- The transitions of a run, with the statement that the innermost thread came to last and with the
indices at which statements wait. -/
inductive Track (toks : TokenStream) (m : Machine) : Config → Option Mark → List Nat → Prop where
  | start : Track toks m (.start toks m) none []
  | walk {c next : Config} {last : Option Mark} {sites : List Nat} (before : Track toks m c last sites)
      (step : Step c next) (same : next.waiting = c.waiting) :
      Track toks m next (c.statement? last) sites
  /-- A thread of its own has not come to any statement when it starts. -/
  | enter {c next : Config} {last : Option Mark} {sites : List Nat} {stream : TokenStream} {i : Nat}
      {nested : Nested} (before : Track toks m c last sites) (step : Step c next)
      (here : c.focus = .token stream i) (waits : next.waiting = ⟨stream, nested⟩ :: c.waiting) :
      Track toks m next (if nested.purpose = .background then none else some ⟨stream, i⟩) (i :: sites)
  /-- When it is over, the thread goes on that has started it. -/
  | leave {c next : Config} {last : Option Mark} {site : Nat} {sites : List Nat} {first : Waiting}
      (before : Track toks m c last (site :: sites)) (step : Step c next)
      (waits : c.waiting = first :: next.waiting) :
      Track toks m next
        (if first.nested.purpose = .background then some ⟨first.stream, site⟩ else last) sites

namespace Track

variable {toks : TokenStream} {m : Machine} {c : Config} {last : Option Mark} {sites : List Nat}

theorem reaches (track : Track toks m c last sites) : Reaches (.start toks m) c := by
  induction track with
  | start => exact .refl
  | walk _ step _ ih => exact ih.tail step
  | enter _ step _ _ ih => exact ih.tail step
  | leave _ step _ ih => exact ih.tail step

theorem length_sites (track : Track toks m c last sites) : sites.length = c.waiting.length := by
  induction track with
  | start => rfl
  | walk _ _ same ih => rw [same, ih]
  | enter _ _ _ waits ih => rw [waits, List.length_cons, List.length_cons, ih]
  | leave _ _ waits ih =>
    rw [waits, List.length_cons, List.length_cons] at ih
    exact Nat.succ.inj ih

end Track

/-- Every moment of a run can be tracked. -/
theorem Reaches.tracked {toks : TokenStream} {m : Machine} {c : Config}
    (reached : Reaches (.start toks m) c) : ∃ last sites, Track toks m c last sites := by
  induction reached with
  | refl => exact ⟨_, _, .start⟩
  | tail _ step ih =>
    rcases ih with ⟨last, sites, track⟩
    cases step with
    | ends arrived => exact ⟨_, _, track.walk (.ends arrived) rfl⟩
    | alone arrived alone => exact ⟨_, _, track.walk (.alone arrived alone) rfl⟩
    | enter arrived runs => exact ⟨_, _, track.enter (.enter arrived runs) rfl rfl⟩
    | leave out first waiting =>
      cases sites with
      | nil => cases track.length_sites
      | cons site sites => exact ⟨_, _, track.leave (.leave out first waiting) rfl⟩
    | finish out => exact ⟨_, _, track.walk (.finish out) rfl⟩

/-! ## Where the thread stands -/

end Config

namespace Nests

variable {toks : TokenStream} {m out : Machine} {nested : Nested}

theorem entry_place (nests : Nests toks m nested) (stays : nested.purpose ≠ .background) :
    SamePlace m nested.entry := by
  cases nests with
  | call last head args read => exact ⟨read.line, read.column, read.lines⟩
  | background => exact absurd rfl stays
  | inline => exact ⟨rfl, rfl, rfl⟩
  | source => exact ⟨rfl, rfl, rfl⟩

theorem entry_background (nests : Nests toks m nested) (own : nested.purpose = .background) :
    nested.entry.line = 0 ∧ nested.entry.lines = m.lines := by
  cases nests with
  | background => exact ⟨rfl, rfl⟩
  | call | inline | source => cases own

theorem complete_place (nests : Nests toks m nested) (out : Machine)
    (stays : nested.purpose ≠ .background) :
    SamePlace out (nested.complete out).2 := by
  cases nests with
  | @call ready procedure name last head args =>
    have ended := Sited.endInvocation out
    have left : SamePlace out (ready.leave out) := ⟨ended.line, ended.column, ended.lines⟩
    change SamePlace out (if (ready.leave out).halt.isSome then (last, ready.leave out)
      else (Statement.finish toks last _).run (ready.leave out)).2
    split
    · exact left
    · have same := (Statement.finish_routine toks last [(ready.leave out).returned]).steady
        (ready.leave out)
      exact ⟨same.line.trans left.line, same.column.trans left.column, same.lines.trans left.lines⟩
  | background => exact absurd rfl stays
  | inline => exact ⟨rfl, rfl, rfl⟩
  | source => exact ⟨rfl, rfl, rfl⟩

/-- The thread that has started another one goes on from where it was, whether that one has been stopped
or not. -/
theorem complete_background (nests : Nests toks m nested) (own : nested.purpose = .background)
    (same : out.lines = m.lines) :
    SamePlace m (nested.complete out).2 ∧ (nested.complete out).2.halt = m.halt := by
  cases nests with
  | background => exact ⟨⟨rfl, rfl, (Sited.endInvocation out).lines.trans same⟩, rfl⟩
  | call | inline | source => cases own

theorem complete_halt (nests : Nests toks m nested) (stays : nested.purpose ≠ .background) :
    (nested.complete out).2.halt =
      (if nested.purpose = .call ∨ nested.purpose = .background then out.endInvocation else out).halt := by
  cases nests with
  | @call ready procedure name last head args =>
    change (if (ready.leave out).halt.isSome then (last, ready.leave out)
      else (Statement.finish toks last _).run (ready.leave out)).2.halt = out.endInvocation.halt
    split
    · rfl
    · exact ((Statement.finish_routine toks last _).steady _).halt
  | background => exact absurd rfl stays
  | inline => rfl
  | source => rfl

end Nests

namespace Config

open Statement

/-- The line that the innermost thread starts with: that of the run for its main thread, and none for a
thread that a statement has started. -/
def firstLine (m : Machine) (waiting : List Waiting) : Nat :=
  match ground waiting with
  | [] => m.line
  | _ :: _ => 0

section FirstLine

variable {first : Waiting} (m : Machine) (rest : List Waiting)

theorem firstLine_background (own : first.nested.purpose = .background) :
    firstLine m (first :: rest) = 0 := by
  simp [firstLine, ground, own]

theorem firstLine_within (stays : first.nested.purpose ≠ .background) :
    firstLine m (first :: rest) = firstLine m rest := by
  simp [firstLine, ground, stays]

end FirstLine

/-- A statement waits in the machine in which it has begun. -/
structure Suspended (lines : List String) (first : Waiting) (site : Nat) (ready : Machine) : Prop where
  runs : nested? first.stream site ready = some first.nested
  placed : Mark.Placed ⟨first.stream, site⟩ ready
  lines : ready.lines = lines
  running : ready.halt = none

/-- What holds of the places at a moment of a run. -/
structure Placed (m : Machine) (c : Config) (last : Option Mark) (sites : List Nat) : Prop where
  lines : c.machine.lines = m.lines
  stands : Stands (firstLine m c.waiting) last c.machine
  waits : List.Forall₂ (fun first site => ∃ ready, Suspended m.lines first site ready) c.waiting sites

variable {toks : TokenStream} {m : Machine} {c : Config} {last : Option Mark} {sites : List Nat}

/-- The statement that is under way is where the thread has moved to. -/
theorem Placed.settled (placed : Placed m c last sites) :
    Stands (firstLine m c.waiting) (c.statement? last) c.settled ∧ c.settled.lines = m.lines := by
  rcases c with ⟨before, focus, waiting⟩
  cases focus with
  | walked => exact ⟨placed.stands, placed.lines⟩
  | ended => exact ⟨placed.stands, placed.lines⟩
  | token stream i =>
    simp only [Config.settled, statement?]
    cases comes : before.comesTo stream i with
    | false => exact ⟨placed.stands, placed.lines⟩
    | true =>
      simp only [Machine.comesTo, Bool.and_eq_true, Bool.not_eq_true'] at comes
      refine ⟨⟨rfl, rfl, comes.2⟩, ?_⟩
      rw [if_pos rfl, Machine.moveTo_eq]
      exact placed.lines

theorem placed_of_arrive {stream : TokenStream} {i : Nat} {before ready : Machine}
    (arrived : before.arrive stream i = .ready ready) : Mark.Placed ⟨stream, i⟩ ready := by
  have place := arrive_place arrived
  have arrival := arrives stream i before
  rw [arrived] at arrival
  cases arrival with
  | begins _ _ _ unfinished => exact ⟨place.1, place.2.1, unfinished⟩

/-- The thread stands at the statement that it came to last, at every moment of a run. -/
theorem Track.placed (track : Track toks m c last sites) : Placed m c last sites := by
  induction track with
  | start => exact ⟨rfl, rfl, .nil⟩
  | @walk c next last sites _ step same ih =>
    have moved := Step.machine_eq step same
    have sited := c.outcome_sited
    rcases ih.settled with ⟨stands, lines⟩
    constructor
    case lines => rw [moved, sited.lines, lines]
    case stands =>
      rw [same, moved]
      exact stands.of_same sited.toSamePlace
    case waits =>
      rw [same]
      exact ih.waits
  | @enter c next last sites stream i nested _ step here waits ih =>
    rcases step.enter_inv here waits with ⟨ready, arrived, runs, entered, -⟩
    rcases arrive_place arrived with ⟨-, -, same, running⟩
    have nests := nested?_nests runs
    have begun := placed_of_arrive arrived
    have lines : ready.lines = m.lines := same.trans ih.lines
    have suspended : Suspended m.lines ⟨stream, nested⟩ i ready := ⟨runs, begun, lines, running⟩
    have waiting := List.Forall₂.cons ⟨ready, suspended⟩ ih.waits
    by_cases own : nested.purpose = .background
    · rcases nests.entry_background own with ⟨line, kept⟩
      refine ⟨entered ▸ kept.trans lines, ?_, waits ▸ waiting⟩
      rw [if_pos own, waits, entered]
      exact line.trans (firstLine_background m c.waiting own).symm
    · have place := nests.entry_place own
      refine ⟨entered ▸ place.lines.trans lines, ?_, waits ▸ waiting⟩
      rw [if_neg own, entered]
      exact Stands.of_same begun place
  | @leave c next last site sites first _ step waits ih =>
    rcases step.leave_inv waits with ⟨-, completed, -⟩
    rcases List.forall₂_cons.mp (waits ▸ ih.waits) with ⟨⟨ready, suspended⟩, below⟩
    have nests := nested?_nests suspended.runs
    by_cases own : first.nested.purpose = .background
    · have place := (nests.complete_background own (ih.lines.trans suspended.lines.symm)).1
      refine ⟨completed ▸ place.lines.trans suspended.lines, ?_, below⟩
      rw [if_pos own, completed]
      exact Stands.of_same suspended.placed place
    · have place := nests.complete_place c.machine own
      have stands := ih.stands
      rw [waits, firstLine_within m next.waiting own] at stands
      refine ⟨completed ▸ place.lines.trans ih.lines, ?_, below⟩
      rw [if_neg own, completed]
      exact stands.of_same place

/-! ## Where faults come from -/

/-- A thread that has been stopped at some moment was running before, or was stopped by the same fault. -/
theorem halts_of_outcome {fault : Fault} (halted : c.outcome.halt = some fault) :
    c.Halts fault ∨ c.machine.halt = some fault := by
  rcases c.outcome_sited.halt with same | ⟨running, -⟩
  · rw [settled_halt] at same
    exact .inr (same.symm.trans halted)
  · rw [settled_halt] at running
    exact .inl ⟨running, halted⟩

theorem outcome_of_walked {first : Waiting} {rest : List Waiting} (walked : c.focus = .walked)
    (waits : c.waiting = first :: rest) :
    c.outcome = if first.nested.purpose = .call ∨ first.nested.purpose = .background
      then c.machine.endInvocation else c.machine := by
  rcases c with ⟨before, focus, waiting⟩
  cases walked
  cases waits
  rfl

/-- A fault that a thread is stopped by has stopped a thread on the same ground at some moment. -/
theorem Track.halts (track : Track toks m c last sites) (running : m.halt = none) {fault : Fault}
    (halted : c.machine.halt = some fault) :
    ∃ before last sites, Track toks m before last sites ∧ before.Halts fault ∧
      ground before.waiting = ground c.waiting := by
  induction track with
  | start => cases running.symm.trans halted
  | @walk c next last sites before step same ih =>
    rw [Step.machine_eq step same] at halted
    rcases halts_of_outcome halted with halts | earlier
    · exact ⟨c, last, sites, before, halts, congrArg ground same.symm⟩
    · rw [same]
      exact ih earlier
  | enter _ step here waits =>
    rcases step.enter_inv here waits with ⟨ready, arrived, runs, entered, -⟩
    have going := (nested?_nests runs).entry_running (arrive_place arrived).2.2.2
    cases (entered ▸ going).symm.trans halted
  | @leave c next last site sites first before step waits ih =>
    rcases step.leave_inv waits with ⟨walked, completed, -⟩
    have placed := before.placed
    rcases List.forall₂_cons.mp (waits ▸ placed.waits) with ⟨⟨ready, suspended⟩, -⟩
    have nests := nested?_nests suspended.runs
    rw [completed] at halted
    by_cases own : first.nested.purpose = .background
    · have still := (nests.complete_background own (placed.lines.trans suspended.lines.symm)).2
      cases (still.trans suspended.running).symm.trans halted
    · have outcome : c.outcome.halt = some fault := by
        rw [outcome_of_walked walked waits, ← nests.complete_halt own]
        exact halted
      have within : ground c.waiting = ground next.waiting := by rw [waits, ground, if_neg own]
      rcases halts_of_outcome outcome with halts | earlier
      · exact ⟨c, last, _, before, halts, within⟩
      · rw [← within]
        exact ih earlier

end Config
end BigScript
