import BigScript.Proofs.Chain

/-!
# Where open loops come from

An open loop remembers where its body begins as an index into the stream that its header stands in.
`LoopStep` lists what a statement can do to the open loops: a header opens one, `keep` puts the
innermost one back with its counters changed, and `keep` and the words for leaving loops close some.

A call, a body run in the current scope and a background run start without open loops and put back
the loops that were open before.  A source that is included starts with the open loops of the stream
that includes it, and leaves its own behind.  So the loops that a `keep` finds need not be those of
the stream it stands in: `loop_law` says where they come from.
-/

namespace BigScript

/-- What a statement that runs no other tokens does to the open loops. -/
inductive LoopStep (toks : TokenStream) (i : Nat) : List LoopFrame → List LoopFrame → Prop where
  | same {loops : List LoopFrame} : LoopStep toks i loops loops
  | opened {loops : List LoopFrame} (frame : LoopFrame) (header : toks.opensLoop i = true)
      (resume : frame.resume = toks.lineEnd i + 1) : LoopStep toks i loops (frame :: loops)
  | turned {rest : List LoopFrame} (frame again : LoopFrame) (resume : again.resume = frame.resume) :
      LoopStep toks i (frame :: rest) (again :: rest)
  | closed {loops : List LoopFrame} (n : Nat) : LoopStep toks i loops (loops.drop n)

/-- The loop at a height; the outermost one has height zero. -/
def loopAt? (loops : List LoopFrame) (height : Nat) : Option LoopFrame := loops.reverse[height]?

theorem loopAt?_lt {loops : List LoopFrame} {height : Nat} {frame : LoopFrame}
    (found : loopAt? loops height = some frame) : height < loops.length := by
  have less := (List.getElem?_eq_some_iff.mp found).1
  rwa [List.length_reverse] at less

theorem loopAt?_cons_of_lt {loops : List LoopFrame} {height : Nat} (below : height < loops.length)
    (frame : LoopFrame) : loopAt? (frame :: loops) height = loopAt? loops height := by
  unfold loopAt?
  rw [List.reverse_cons, List.getElem?_append_left (by rwa [List.length_reverse])]

theorem loopAt?_cons_length (frame : LoopFrame) (loops : List LoopFrame) :
    loopAt? (frame :: loops) loops.length = some frame := by
  unfold loopAt?
  rw [List.reverse_cons, List.getElem?_append_right (Nat.le_of_eq List.length_reverse),
    List.length_reverse, Nat.sub_self]
  rfl

theorem loopAt?_drop {loops : List LoopFrame} {height n : Nat} {frame : LoopFrame}
    (found : loopAt? (loops.drop n) height = some frame) : loopAt? loops height = some frame := by
  unfold loopAt? at *
  rw [List.reverse_drop, List.getElem?_take] at found
  split at found
  · exact found
  · cases found

namespace LoopStep

variable {toks : TokenStream} {i : Nat} {before after : List LoopFrame}

theorem of_eq (same : after = before) : LoopStep toks i before after := same ▸ .same

/-- A loop that is open after a statement was open at the same height before, or the statement is its
header. -/
theorem origin (turns : LoopStep toks i before after) {height : Nat} {frame : LoopFrame}
    (found : loopAt? after height = some frame) :
    (∃ old, loopAt? before height = some old ∧ old.resume = frame.resume) ∨
      height = before.length ∧ toks.opensLoop i = true ∧ frame.resume = toks.lineEnd i + 1 := by
  have room := loopAt?_lt found
  cases turns with
  | same => exact .inl ⟨frame, found, rfl⟩
  | opened new header resume =>
      rcases Nat.lt_succ_iff_lt_or_eq.mp room with below | top
      · exact .inl ⟨frame, loopAt?_cons_of_lt below new ▸ found, rfl⟩
      · rw [top, loopAt?_cons_length] at found
        exact .inr ⟨top, header, Option.some.inj found ▸ resume⟩
  | turned old again resume =>
      rcases Nat.lt_succ_iff_lt_or_eq.mp room with below | top
      · rw [loopAt?_cons_of_lt below] at found
        exact .inl ⟨frame, loopAt?_cons_of_lt below old ▸ found, rfl⟩
      · rw [top, loopAt?_cons_length] at found
        rw [top]
        exact .inl ⟨old, loopAt?_cons_length old _, Option.some.inj found ▸ resume.symm⟩
  | closed n => exact .inl ⟨frame, loopAt?_drop found, rfl⟩

end LoopStep

/-! ## Single statements -/

/-- An action that does to the open loops what the statement at an index may do. -/
def Turns (toks : TokenStream) (i : Nat) {α : Type} (act : Act α) : Prop :=
  ∀ m : Machine, LoopStep toks i m.loops (act.run m).2.loops

namespace Turns

variable {toks : TokenStream} {i : Nat} {α β : Type}

theorem of_steady {act : Act α} (steady : Steady act) : Turns toks i act := fun m =>
  .of_eq (steady m).loops

theorem bind {first : Act α} {next : α → Act β} (steady : Steady first)
    (turns : ∀ value, Turns toks i (next value)) : Turns toks i (first >>= next) := fun m =>
  (steady m).loops ▸ turns (first.run m).1 (first.run m).2

theorem modify {change : Machine → Machine} (steps : ∀ m, LoopStep toks i m.loops (change m).loops) :
    Turns toks i (modify change : Act Unit) := steps

/-- Working out the answer after the last change adds nothing. -/
theorem answer {first : Act α} {next : α → Act β} (turns : Turns toks i first)
    (still : ∀ value m, ((next value).run m).2 = m) : Turns toks i (first >>= next) := fun m =>
  (still (first.run m).1 (first.run m).2).symm ▸ turns m

theorem ite {condition : Prop} [Decidable condition] {first second : Act α}
    (firstTurns : condition → Turns toks i first) (secondTurns : ¬ condition → Turns toks i second) :
    Turns toks i (if condition then first else second) := by
  split
  · exact firstTurns ‹_›
  · exact secondTurns ‹_›

end Turns

theorem Machine.stop_loops (m : Machine) (cause : Cause) : (m.stop cause).loops = m.loops := by
  rw [Machine.stop_eq]

theorem Statement.Idles.loops {m after : Machine} (idles : Statement.Idles m after) :
    after.loops = m.loops := by
  cases idles with
  | steady same => exact same.loops
  | overflow same => exact (Machine.stop_loops _ _).trans same.loops
  | ends => rfl

namespace Statement

variable (toks : TokenStream) (i : Nat)

theorem giveBack_turns : Turns toks i (giveBack toks i) := by
  refine .ite (fun _ => .answer (.modify fun _ => .same) fun _ _ => rfl) fun _ => ?_
  refine .bind (Operand.assigned_routine toks _).steady fun _ => .bind .get fun _ => ?_
  exact .ite (fun _ => .of_steady (.pure _)) fun _ => .answer (.modify fun _ => .same) fun _ _ => rfl

theorem define_turns : Turns toks i (define toks i) := by
  unfold define
  refine .answer (.modify fun _ => .same) fun _ _ => ?_
  split <;> rfl

theorem openLoop_turns (header : toks.opensLoop i = true) (options : Nat) :
    Turns toks i (openLoop toks i options) := by
  refine .bind (loopLimit_routine toks _ _).steady fun _ =>
    .bind (loopWalk?_routine toks _ _).steady fun walk => ?_
  dsimp only
  split
  · rename_i walk
    refine .ite (fun _ => .of_steady (.pure _)) fun _ => .answer (.modify fun m => ?_) fun _ _ => rfl
    exact .opened _ header rfl
  · exact .answer (.modify fun m => .opened _ header rfl) fun _ _ => rfl

theorem start_turns (head : (toks.peek i).kind = .word .start) : Turns toks i (start toks i) := by
  refine .ite (fun loop => ?_) fun _ => .ite (fun _ => define_turns toks i) fun _ => ?_
  · refine openLoop_turns toks i ?_ _
    unfold TokenStream.opensLoop TokenStream.kindAt
    rw [head]
    simpa [Token.isWord] using loop
  · exact .ite (fun _ => .of_steady ((printLine_routine _).steady.bind fun _ => .pure _))
      fun _ => .of_steady (.pure _)

theorem leaveLoop_turns (j : Nat) : Turns toks i (leaveLoop toks j) := by
  intro m
  unfold leaveLoop
  rw [Act.run_bind, Act.run_get]
  dsimp only
  cases open_ : m.loops with
  | nil => exact .of_eq ((m.stop_loops _).trans open_)
  | cons frame rest => exact .closed 1

theorem stop_turns : Turns toks i (stop toks i) := by
  refine .ite (fun _ => leaveLoop_turns toks i (i + 1)) fun _ => ?_
  refine .ite (fun _ => .answer (.modify fun _ => .same) fun _ _ => rfl) fun _ => ?_
  refine .ite (fun _ => .bind .get fun m => ?_) fun _ => .of_steady (.pure _)
  refine .answer (.modify fun m => ?_) fun _ _ => ?_
  · have none := @LoopStep.closed toks i m.loops m.loops.length
    rwa [List.drop_length] at none
  · split <;> rfl

/-- What comes behind the closing of the innermost loop: the loop stays closed, or goes back. -/
def Closes (frame : LoopFrame) {α : Type} (act : Act α) : Prop :=
  ∀ m : Machine, (act.run m).2.loops = m.loops ∨
    ∃ again : LoopFrame, again.resume = frame.resume ∧ (act.run m).2.loops = again :: m.loops

theorem Closes.of_steady {frame : LoopFrame} {α : Type} {act : Act α} (steady : Steady act) :
    Closes frame act := fun m => .inl (steady m).loops

theorem Closes.bind {frame : LoopFrame} {α β : Type} {first : Act α} {next : α → Act β}
    (steady : Steady first) (closes : ∀ value, Closes frame (next value)) :
    Closes frame (first >>= next) := fun m =>
  (steady m).loops ▸ closes (first.run m).1 (first.run m).2

theorem Closes.ite {frame : LoopFrame} {condition : Prop} [Decidable condition] {α : Type}
    {first second : Act α} (firstCloses : Closes frame first) (secondCloses : Closes frame second) :
    Closes frame (if condition then first else second) := by
  split
  · exact firstCloses
  · exact secondCloses

theorem goBack_closes {frame again : LoopFrame} (resume : again.resume = frame.resume) :
    Closes frame (goBack again) := fun _ => .inr ⟨again, resume, rfl⟩

theorem keep_turns : Turns toks i (keep toks i) := by
  intro m
  unfold keep
  rw [Act.run_bind, Act.run_get]
  dsimp only
  cases open_ : m.loops with
  | nil => exact .of_eq ((m.stop_loops _).trans open_)
  | cons frame rest =>
      rw [Act.run_bind, Act.run_modify]
      generalize same : ({ m with loops := rest } : Machine) = closed
      have left : closed.loops = rest := same ▸ rfl
      dsimp only
      suffices closes : Closes frame _ by
        rcases closes closed with kept | ⟨again, resume, turned⟩
        · exact kept.trans left ▸ LoopStep.closed 1
        · exact (left ▸ turned) ▸ LoopStep.turned frame again resume
      refine .ite (.of_steady (.pure _)) ?_
      split
      · refine .ite ?_ (.of_steady (.pure _))
        exact .bind (.modify (bindItem_sameControl _)) fun _ => goBack_closes rfl
      · refine .ite (.of_steady (.pure _)) (.ite (goBack_closes rfl) ?_)
        refine .bind (Condition.holds_routine _).steady fun _ => .ite (goBack_closes rfl) ?_
        exact .of_steady (.pure _)

theorem branch_turns : Turns toks i (branch toks i) := by
  intro m
  rw [branch_run]
  have same : SameControl m (condition toks i m).2 := (Condition.holds_routine _).steady m
  cases toks.asksForBug i <;> exact .of_eq same.loops

theorem alternative_turns : Turns toks i (alternative toks i) := fun m =>
  .of_eq (by rw [alternative_run])

theorem direct_turns : Turns toks i (direct toks i) := by
  have assigns : Turns toks i (assignWord toks i) :=
    fun m => .of_eq ((assignWord_routine toks i).steady m).loops
  unfold direct
  split
  · exact giveBack_turns toks i
  · exact branch_turns toks i
  · exact alternative_turns toks i
  · exact start_turns toks i ‹_›
  · rename_i head
    refine openLoop_turns toks i ?_ _
    unfold TokenStream.opensLoop TokenStream.kindAt
    rw [head, beq_self_eq_true, Bool.or_true]
  · exact keep_turns toks i
  · exact stop_turns toks i
  · exact leaveLoop_turns toks i i
  · exact .of_steady (step_routine toks i).steady
  · exact assigns
  · exact assigns
  · exact assigns
  · exact .of_steady (.pure _)
  · exact .of_steady (.pure _)
  · exact .of_steady (.pure _)
  · exact .of_steady (.ite (.pure _) (.pure _))
  · exact .of_steady (.pure _)
  · exact .of_steady (plain_routine toks i).steady

/-- What a statement that runs no other tokens does to the open loops. -/
theorem dispatch_loops {m : Machine} (alone : nested? toks i m = none) :
    LoopStep toks i m.loops ((dispatch idle toks i).run m).2.loops := by
  unfold dispatch
  split
  · rename_i head
    exact .of_eq (runWord_idles toks i head alone).loops
  · rename_i head
    simp only [nested?, head] at alone
    exact .of_eq (inline_idles toks i alone).loops
  · rename_i head
    simp only [nested?, head] at alone
    exact .of_eq (use_idles toks i alone).loops
  · split
    · rename_i verb found
      exact .of_eq (Verb.lookup_steady (fun _ => .pure ()) found toks i m).loops
    · exact direct_turns toks i m

end Statement

/-- Calls, bodies run in the current scope and background runs start without open loops and put back
the loops that were open; an included source shares the loops of the stream that includes it. -/
theorem Nests.complete_loops {toks : TokenStream} {m : Machine} {nested : Nested}
    (nests : Nests toks m nested) :
    (nested.purpose ≠ .source ∧ nested.entry.loops = [] ∧
        ∀ out, (nested.complete out).2.loops = m.loops) ∨
      (nested.purpose = .source ∧ nested.entry.loops = m.loops ∧
        ∀ out, (nested.complete out).2.loops = out.loops) := by
  cases nests with
  | @call ready procedure name last head args read found shallow =>
      refine .inl ⟨nofun, rfl, fun out => ?_⟩
      change (if (ready.leave out).halt.isSome then (last, ready.leave out)
        else (Statement.finish toks last _).run (ready.leave out)).2.loops = m.loops
      split
      · exact read.loops
      · exact ((Statement.finish_routine toks last _).steady _).loops.trans read.loops
  | background => exact .inl ⟨nofun, rfl, fun _ => rfl⟩
  | inline => exact .inl ⟨nofun, rfl, fun _ => rfl⟩
  | source => exact .inr ⟨rfl, rfl, fun _ => rfl⟩

namespace Config

open Statement

/-- The loops that the invocation above some waiting statements has open: those that are left open
when everything that is run within it has ended. -/
def openLoops (waiting : List Waiting) (c : Config) : List LoopFrame :=
  (unwind (c.waiting.take (c.waiting.length - waiting.length)) c.machine).loops

/-- Whether a moment of a run is in the invocation above some waiting statements: in its own stream or
in a source that it includes. -/
def InInvocation (waiting : List Waiting) (c : Config) : Prop :=
  ∃ inner, c.waiting = inner ++ waiting ∧ ∀ first ∈ inner, first.nested.purpose = .source

/-- Transitions of a walk and of what it runs, through moments of a kind. -/
def Path (waiting : List Waiting) (kind : Config → Prop) : Config → Config → Prop :=
  Relation.ReflTransGen fun c next => Step c next ∧ waiting <:+ next.waiting ∧ kind next

variable {waiting inner : List Waiting} {c next : Config} {m other : Machine}

theorem openLoops_eq {focus : Focus} {stack : List Waiting} (above : stack = inner ++ waiting) :
    openLoops waiting ⟨m, focus, stack⟩ = (unwind inner m).loops := by
  unfold openLoops
  rw [above, List.length_append, Nat.add_sub_cancel, List.take_left]

/-- What is left open does not depend on anything but the loops open now, and within a call not even
on them. -/
theorem unwind_loops (proper : ∀ first ∈ inner, ∃ m, Nests first.stream m first.nested)
    (same : m.loops = other.loops ∨ ∃ first ∈ inner, first.nested.purpose ≠ .source) :
    (unwind inner m).loops = (unwind inner other).loops := by
  induction inner generalizing m other with
  | nil =>
      rcases same with same | ⟨_, none, _⟩
      · exact same
      · cases none
  | cons first inner ih =>
      refine ih (fun other member => proper other (List.mem_cons_of_mem _ member)) ?_
      rcases proper first List.mem_cons_self with ⟨before, nests⟩
      rcases nests.complete_loops with ⟨-, -, restores⟩ | ⟨purpose, -, keeps⟩
      · exact .inl ((restores m).trans (restores other).symm)
      · rcases same with same | ⟨call, member, apart⟩
        · exact .inl (((keeps m).trans same).trans (keeps other).symm)
        · rcases List.mem_cons.mp member with rfl | member
          · exact absurd purpose apart
          · exact .inr ⟨call, member, apart⟩

/-- In an invocation, the loops it has open are those of the machine. -/
theorem unwind_sources (proper : ∀ first ∈ inner, ∃ m, Nests first.stream m first.nested)
    (sources : ∀ first ∈ inner, first.nested.purpose = .source) :
    (unwind inner m).loops = m.loops := by
  induction inner generalizing m with
  | nil => rfl
  | cons first inner ih =>
      have rest : (unwind inner (first.nested.complete m).2).loops =
          (first.nested.complete m).2.loops :=
        ih (fun other member => proper other (List.mem_cons_of_mem _ member))
          (fun other member => sources other (List.mem_cons_of_mem _ member))
      refine rest.trans ?_
      rcases proper first List.mem_cons_self with ⟨before, nests⟩
      rcases nests.complete_loops with ⟨apart, -⟩ | ⟨-, -, keeps⟩
      · exact absurd (sources first List.mem_cons_self) apart
      · exact keeps m

theorem ends_loops {toks : TokenStream} {i : Nat} {m out : Machine}
    (arrived : m.arrive toks i = .ends out) : out.loops = m.loops := by
  have arrival := arrives toks i m
  rw [arrived] at arrival
  cases arrival with
  | still => rfl
  | cancelled => exact m.stop_loops _
  | bug => rw [Machine.stopOnBug, Machine.stop_loops, Machine.moveTo_eq]

theorem ready_loops {toks : TokenStream} {i : Nat} {m ready : Machine}
    (arrived : m.arrive toks i = .ready ready) : ready.loops = m.loops := by
  have arrival := arrives toks i m
  rw [arrived] at arrival
  cases arrival with
  | begins => rw [Machine.begun_eq]

/-- The statements that wait above some others, each with the stream it runs. -/
def Stacked (waiting inner : List Waiting) (c : Config) : Prop :=
  c.waiting = inner ++ waiting ∧ ∀ first ∈ inner, ∃ m, Nests first.stream m first.nested

theorem Step.stacked (step : Step c next) (stays : waiting <:+ next.waiting)
    (stacked : Stacked waiting inner c) : ∃ others, Stacked waiting others next := by
  rcases stacked with ⟨stack, proper⟩
  cases step with
  | ends | alone => exact ⟨inner, stack, proper⟩
  | @enter m ready toks i stackedBelow nested arrived runs =>
      refine ⟨⟨toks, nested⟩ :: inner, congrArg (_ :: ·) stack, fun first member => ?_⟩
      rcases List.mem_cons.mp member with rfl | member
      · exact ⟨ready, nested?_nests runs⟩
      · exact proper first member
  | leave out first below =>
      cases inner with
      | nil =>
          have short := stays.length_le
          rw [List.nil_append] at stack
          rw [← stack, List.length_cons] at short
          exact absurd short (Nat.not_succ_le_self _)
      | cons top inner =>
          cases stack
          exact ⟨inner, rfl, fun other member => proper other (List.mem_cons_of_mem _ member)⟩
  | finish out => exact ⟨inner, stack, proper⟩

/-- A transition leaves the open loops of an invocation as they are, unless a statement of the
invocation is carried out; then it does what that statement does. -/
theorem Step.openLoops (step : Step c next) (stays : waiting <:+ next.waiting)
    (stacked : Stacked waiting inner c) :
    openLoops waiting next = openLoops waiting c ∨
      ∃ toks i ready, InInvocation waiting c ∧ c.focus = .token toks i ∧
        c.machine.arrive toks i = .ready ready ∧
        LoopStep toks i (openLoops waiting c) (openLoops waiting next) := by
  rcases stacked with ⟨stack, proper⟩
  rcases c with ⟨m, focus, below⟩
  have before : openLoops waiting ⟨m, focus, below⟩ = (unwind inner m).loops := openLoops_eq stack
  rw [before]
  cases step with
  | ends arrived =>
      rw [openLoops_eq stack]
      exact .inl (unwind_loops proper (.inl (ends_loops arrived)))
  | @alone _ ready toks i _ arrived alone =>
      rw [openLoops_eq stack]
      by_cases sources : ∀ first ∈ inner, first.nested.purpose = .source
      · refine .inr ⟨toks, i, ready, ⟨inner, stack, sources⟩, rfl, arrived, ?_⟩
        rw [unwind_sources proper sources, unwind_sources proper sources]
        exact ready_loops arrived ▸ dispatch_loops toks i alone
      · simp only [Classical.not_forall] at sources
        rcases sources with ⟨call, member, apart⟩
        exact .inl (unwind_loops proper (.inr ⟨call, member, apart⟩))
  | @enter _ ready toks i _ nested arrived runs =>
      have grown : (⟨toks, nested⟩ : Waiting) :: below = (⟨toks, nested⟩ :: inner) ++ waiting :=
        congrArg (_ :: ·) stack
      rw [openLoops_eq grown]
      have back : (nested.complete nested.entry).2.loops = m.loops := by
        rw [← ready_loops arrived]
        rcases (nested?_nests runs).complete_loops with ⟨-, -, restores⟩ | ⟨-, entry, keeps⟩
        · exact restores _
        · exact (keeps _).trans entry
      exact .inl (unwind_loops proper (.inl back))
  | leave _ first rest =>
      cases inner with
      | nil =>
          have short := stays.length_le
          rw [List.nil_append] at stack
          rw [← stack, List.length_cons] at short
          exact absurd short (Nat.not_succ_le_self _)
      | cons top inner =>
          cases stack
          exact .inl (openLoops_eq rfl)
  | finish out =>
      rw [openLoops_eq stack]
      have same : m.endInvocation.loops = m.loops := by rw [Machine.endInvocation_eq]
      exact .inl (unwind_loops proper (.inl same))

/-! ## Origins -/

/-- Transitions during which the loop at a height stays open; the outermost loop has height zero. -/
def Holds (waiting : List Waiting) (height : Nat) : Config → Config → Prop :=
  Path waiting fun c => height < (openLoops waiting c).length

/-- The header at a moment of a run opens the loop that a later moment finds at a height.  `resume` is
where the body of the loop begins. -/
structure Opens (waiting : List Waiting) (height resume : Nat) (head later : Config) : Prop where
  invoked : InInvocation waiting head
  header : ∃ toks i ready, head.focus = .token toks i ∧
    head.machine.arrive toks i = .ready ready ∧ toks.opensLoop i = true ∧
    resume = toks.lineEnd i + 1
  open_ : ∃ opened, Step head opened ∧ (openLoops waiting head).length = height ∧
    Holds waiting height opened later

theorem Opens.tail {height resume : Nat} {head : Config} (opens : Opens waiting height resume head c)
    (step : Step c next) (stays : waiting <:+ next.waiting)
    (open_ : height < (openLoops waiting next).length) : Opens waiting height resume head next :=
  { opens with open_ := opens.open_.imp fun _ found =>
      ⟨found.1, found.2.1, found.2.2.tail ⟨step, stays, open_⟩⟩ }

/-- Every loop that an invocation has open was opened by a header carried out in the invocation, or
was open at its start and has been open ever since. -/
theorem Path.origin {kind : Config → Prop} {first : Config} (path : Path waiting kind first c)
    (start : first.waiting = waiting) :
    (∃ inner, Stacked waiting inner c) ∧
      ∀ height frame, loopAt? (openLoops waiting c) height = some frame →
        (∃ head, Path waiting kind first head ∧ Opens waiting height frame.resume head c) ∨
          ∃ old, loopAt? (openLoops waiting first) height = some old ∧ old.resume = frame.resume ∧
            Holds waiting height first c := by
  induction path with
  | refl =>
      refine ⟨⟨[], start, fun _ none => absurd none List.not_mem_nil⟩, fun height frame found => ?_⟩
      exact .inr ⟨frame, found, rfl, .refl⟩
  | @tail c next path step ih =>
      rcases ih with ⟨⟨inner, stacked⟩, origins⟩
      rcases step with ⟨step, stays, is⟩
      refine ⟨step.stacked stays stacked, fun height frame found => ?_⟩
      have room := loopAt?_lt found
      -- A loop that was open before keeps its origin.
      have kept {old : LoopFrame} (before : loopAt? (openLoops waiting c) height = some old)
          (resume : old.resume = frame.resume) :
          (∃ head, Path waiting kind first head ∧ Opens waiting height frame.resume head next) ∨
            ∃ old, loopAt? (openLoops waiting first) height = some old ∧
              old.resume = frame.resume ∧ Holds waiting height first next := by
        rcases origins height old before with ⟨head, reached, opens⟩ | ⟨oldest, there, same, holds⟩
        · exact .inl ⟨head, reached, resume ▸ opens.tail step stays room⟩
        · exact .inr ⟨oldest, there, same.trans resume, holds.tail ⟨step, stays, room⟩⟩
      rcases step.openLoops stays stacked with same | ⟨toks, i, ready, invoked, here, arrived, turns⟩
      · exact kept (same ▸ found) rfl
      · rcases turns.origin found with ⟨old, before, resume⟩ | ⟨height, header, resume⟩
        · exact kept before resume
        · exact .inl ⟨c, path, invoked, ⟨toks, i, ready, here, arrived, header, resume⟩,
            next, step, height.symm, .refl⟩

theorem Within.path {later : Config} (within : Within waiting c later) :
    Path waiting (fun _ => True) c later :=
  Relation.ReflTransGen.mono (fun _ _ step => ⟨step.1, step.2, trivial⟩) _ _ within

theorem Path.within {kind : Config → Prop} {later : Config} (path : Path waiting kind c later) :
    Within waiting c later :=
  Relation.ReflTransGen.mono (fun _ _ step => ⟨step.1, step.2.1⟩) _ _ path

/-- In an invocation, the loops that it has open are those of the machine. -/
theorem InInvocation.openLoops (invoked : InInvocation waiting c) (stacked : Stacked waiting inner c) :
    openLoops waiting c = c.machine.loops := by
  rcases invoked with ⟨others, stack, sources⟩
  have same : others = inner := List.append_cancel_right (stack.symm.trans stacked.1)
  rcases c with ⟨m, focus, below⟩
  exact (openLoops_eq stacked.1).trans (unwind_sources stacked.2 (same ▸ sources))

/-! ## The stream of an invocation -/

/-- Whether an invocation includes no source at this moment. -/
def Sourceless (waiting : List Waiting) (c : Config) : Prop :=
  InInvocation waiting c → c.waiting = waiting

/-- Whether a walk through a stream waits above some statements, or stands in the stream itself. -/
def OfStream (toks : TokenStream) (waiting : List Waiting) (c : Config) : Prop :=
  (∃ inner bottom, c.waiting = inner ++ bottom :: waiting ∧ bottom.stream = toks) ∨
    c.waiting = waiting ∧ ∀ stream i, c.focus = .token stream i → stream = toks

theorem Step.ofStream {toks : TokenStream} (step : Step c next) (stays : waiting <:+ next.waiting)
    (before : OfStream toks waiting c) : OfStream toks waiting next := by
  rcases before with ⟨inner, bottom, stack, stream⟩ | ⟨stack, stream⟩
  · cases step with
    | ends | alone | finish => exact .inl ⟨inner, bottom, stack, stream⟩
    | enter => exact .inl ⟨_ :: inner, bottom, congrArg (_ :: ·) stack, stream⟩
    | leave out first below =>
        cases inner with
        | nil =>
            cases stack
            exact .inr ⟨rfl, fun _ _ here => by cases here; exact stream⟩
        | cons top inner =>
            cases stack
            exact .inl ⟨inner, bottom, rfl, stream⟩
  · cases step with
    | ends => exact .inr ⟨stack, nofun⟩
    | alone => exact .inr ⟨stack, fun _ _ here => by cases here; exact stream _ _ rfl⟩
    | enter => exact .inl ⟨[], _, congrArg (_ :: ·) stack, stream _ _ rfl⟩
    | leave out first below =>
        have short := stays.length_le
        rw [← stack, List.length_cons] at short
        exact absurd short (Nat.not_succ_le_self _)
    | finish => exact .inr ⟨stack, nofun⟩

theorem Path.ofStream {kind : Config → Prop} {toks : TokenStream} {first : Config}
    (path : Path waiting kind first c) (start : OfStream toks waiting first) :
    OfStream toks waiting c := by
  induction path with
  | refl => exact start
  | tail _ step ih => exact step.1.ofStream step.2.1 ih

theorem OfStream.focus {toks stream : TokenStream} {i : Nat} (is : OfStream toks waiting c)
    (back : c.waiting = waiting) (here : c.focus = .token stream i) : stream = toks := by
  rcases is with ⟨inner, bottom, stack, -⟩ | ⟨-, same⟩
  · have long := congrArg List.length (back.symm.trans stack)
    simp only [List.length_append, List.length_cons] at long
    omega
  · exact same stream i here

end Config

/-! ## The law -/

open Config Statement

/-- Where the loops come from that a walk through a stream finds open. -/
structure LoopLaw (toks : TokenStream) (m : Machine) (waiting : List Waiting) : Prop where
  /-- Every loop that is open in the invocation was opened by a header carried out in the invocation
  since the walk began, or was open when the walk began and has been open ever since. -/
  origin : ∀ c, Within waiting ⟨m, .token toks 0, waiting⟩ c → InInvocation waiting c →
    ∀ height frame, loopAt? c.machine.loops height = some frame →
      (∃ head, Within waiting ⟨m, .token toks 0, waiting⟩ head ∧
        Opens waiting height frame.resume head c) ∨
      ∃ old, loopAt? m.loops height = some old ∧ old.resume = frame.resume ∧
        Holds waiting height ⟨m, .token toks 0, waiting⟩ c
  /-- A walk that begins without open loops, and includes no source, opens every loop it finds open by
  a header in its own stream. -/
  own : m.loops = [] → ∀ c, Path waiting (Sourceless waiting) ⟨m, .token toks 0, waiting⟩ c →
    c.waiting = waiting → ∀ height frame, loopAt? c.machine.loops height = some frame →
      ∃ head i, Path waiting (Sourceless waiting) ⟨m, .token toks 0, waiting⟩ head ∧
        head.waiting = waiting ∧ head.focus = .token toks i ∧ toks.opensLoop i = true ∧
        frame.resume = toks.lineEnd i + 1 ∧ Opens waiting height frame.resume head c
  /-- Calls, bodies run in the current scope and background runs begin without open loops, and put
  back those that were open, however they end. -/
  apart : ∀ i ready nested, nested? toks i ready = some nested → nested.purpose ≠ .source →
    nested.entry.loops = [] ∧ ∀ out, (nested.complete out).2.loops = ready.loops
  /-- A source that is included begins with the open loops of the stream that includes it, and leaves
  behind those that it ends with. -/
  shared : ∀ i ready nested, nested? toks i ready = some nested → nested.purpose = .source →
    nested.entry.loops = ready.loops ∧ ∀ out, (nested.complete out).2.loops = out.loops

theorem loop_law (toks : TokenStream) (m : Machine) (waiting : List Waiting) :
    LoopLaw toks m waiting := by
  have first : openLoops waiting ⟨m, .token toks 0, waiting⟩ = m.loops :=
    openLoops_eq (List.nil_append waiting).symm
  refine ⟨?origin, ?own, ?apart, ?shared⟩
  case origin =>
    intro c within invoked height frame found
    rcases within.path.origin rfl with ⟨⟨inner, stacked⟩, origins⟩
    rw [← invoked.openLoops stacked] at found
    rcases origins height frame found with ⟨head, path, opens⟩ | ⟨old, there, resume, holds⟩
    · exact .inl ⟨head, path.within, opens⟩
    · exact .inr ⟨old, first ▸ there, resume, holds⟩
  case own =>
    intro none c path back height frame found
    have invoked : InInvocation waiting c := ⟨[], back, fun _ member => absurd member List.not_mem_nil⟩
    rcases path.origin rfl with ⟨⟨inner, stacked⟩, origins⟩
    rw [← invoked.openLoops stacked] at found
    rcases origins height frame found with ⟨head, reached, opens⟩ | ⟨old, there, -, -⟩
    · rcases opens.header with ⟨stream, i, ready, here, -, header, resume⟩
      have below : head.waiting = waiting := by
        rcases Relation.ReflTransGen.cases_tail reached with same | ⟨_, -, step⟩
        · rw [same]
        · exact step.2.2 opens.invoked
      have start : OfStream toks waiting ⟨m, .token toks 0, waiting⟩ :=
        .inr ⟨rfl, fun _ _ here => by cases here; rfl⟩
      cases (reached.ofStream start).focus below here
      exact ⟨head, i, reached, below, here, header, resume, opens⟩
    · rw [first, none] at there
      cases there
  case apart =>
    intro i ready nested runs other
    rcases (nested?_nests runs).complete_loops with ⟨-, fresh, restores⟩ | ⟨source, -⟩
    · exact ⟨fresh, restores⟩
    · exact absurd source other
  case shared =>
    intro i ready nested runs source
    rcases (nested?_nests runs).complete_loops with ⟨other, -⟩ | ⟨-, entry, keeps⟩
    · exact absurd source other
    · exact ⟨entry, keeps⟩

/-- A loop that attaches an environment in each of its two turns. -/
def attachingLoop : String :=
  "start loop.r.3\n    print 1\n    attach half\nkeep 1 = 1"

/-- An environment with a header that no `keep` closes. -/
def openEnvironment : FileTree :=
  { entries := [(["env_lib"], .folder), (["env_lib", "half.bigenv"], .file (.text "start loop"))] }

/-- The environment leaves a loop open, and the `keep` of the script closes that one instead of its
own: there is no second turn. -/
theorem attachingLoop_closesOther :
    (Machine.runSource attachingLoop (.start { files := openEnvironment })).2.output = "1\n" ∧
      (Machine.runSource attachingLoop (.start {})).2.output = "1\n1\n" := by
  decide +kernel

end BigScript
