import BigScript.Proofs.Nesting
import BigScript.Proofs.Routine.Statement

/-!
# What a single statement leaves in place

Statements of the control flow are not steady: they open and close loops, set the flag of a chain of
branches, stop the run.  What they still leave alone is collected in two layers.  Every statement is
contained: it keeps the frames and the open calls, and it writes at most one diagnostic block, which
is the last thing it writes.  Every statement but an `if` or an `or` is also orderly: it keeps a
pending bug and the flag of a chain, and unless it does nothing but stop the run, the only stop it
can make is that of a call that is too deep.

Statements that run other tokens are looked at under a runner that runs nothing; what their streams
do is added where whole runs are studied.
-/

namespace BigScript

namespace Machine

/-- The diagnostic block that has been written about a machine. -/
def diagnosis (m : Machine) : String :=
  match m.halt with
  | some fault => fault.report
  | none => ""

theorem diagnosis_of_running {m : Machine} (running : m.halt = none) : m.diagnosis = "" := by
  rw [diagnosis, running]

/-- Whether a call that was too deep has stopped the run. -/
def Overflowed (m : Machine) : Prop :=
  ∃ fault, m.halt = some fault ∧ fault.cause = .stackOverflow deepestCall

end Machine

/-- What a single statement leaves in place. -/
structure Contained (before after : Machine) (free : String → Prop := fun _ => False) : Prop
    extends Scoped before after free where
  calls : after.calls = before.calls
  depth : after.depth = before.depth
  exhausted : after.exhausted = before.exhausted
  named : before.bug ≠ some "" → after.bug ≠ some ""
  history : before.raises <:+ after.raises
  output : before.halt = none → ∃ text, after.output = before.output ++ text ++ after.diagnosis

/-- What a single statement leaves in place that is no part of a chain of branches. -/
structure Ordered (before after : Machine) (free : String → Prop := fun _ => False) : Prop
    extends Contained before after free where
  raises : Raises before after
  taken : after.taken = before.taken
  going : before.halt = none → after.halt = none ∨ after.Overflowed

namespace Contained

variable {before middle after : Machine} {free other : String → Prop}

theorem of_same (same : SameControl before after free) : Contained before after free where
  toScoped := same.toScoped
  calls := same.calls
  depth := same.depth
  exhausted := same.exhausted
  named := same.raises.named
  history := same.raises.history
  output := fun running => by
    rcases same.output with ⟨text, written⟩
    refine ⟨text, ?_⟩
    rw [Machine.diagnosis_of_running (same.halt.trans running), written, String.append_empty]

theorem refl (m : Machine) : Contained m m := of_same (.refl m)

/-- What is done before the run stops and what is done then. -/
theorem trans (first : Contained before middle free) (going : middle.halt = before.halt)
    (second : Contained middle after free) : Contained before after free where
  toScoped := first.toScoped.trans second.toScoped
  calls := second.calls.trans first.calls
  depth := second.depth.trans first.depth
  exhausted := second.exhausted.trans first.exhausted
  named := fun fine => second.named (first.named fine)
  history := first.history.trans second.history
  output := fun running => by
    have stillRunning := going.trans running
    rcases first.output running with ⟨text, written⟩
    rcases second.output stillRunning with ⟨more, ending⟩
    refine ⟨text ++ more, ?_⟩
    rw [Machine.diagnosis_of_running stillRunning, String.append_empty] at written
    simp only [ending, written, String.append_assoc]

theorem mono (contained : Contained before after free) (wider : ∀ name, free name → other name) :
    Contained before after other :=
  { contained with toScoped := contained.toScoped.mono wider }

end Contained

namespace Ordered

variable {before middle after : Machine} {free other : String → Prop}

theorem of_same (same : SameControl before after free) : Ordered before after free :=
  { Contained.of_same same with
    raises := same.raises
    taken := same.taken
    going := fun running => .inl (same.halt.trans running) }

theorem trans (first : Ordered before middle free) (going : middle.halt = before.halt)
    (second : Ordered middle after free) : Ordered before after free :=
  { first.toContained.trans going second.toContained with
    raises := first.raises.trans second.raises
    taken := second.taken.trans first.taken
    going := fun running => second.going (going.trans running) }

theorem mono (ordered : Ordered before after free) (wider : ∀ name, free name → other name) :
    Ordered before after other :=
  { ordered with toContained := ordered.toContained.mono wider }

theorem widen (ordered : Ordered before after) : Ordered before after free :=
  ordered.mono fun _ => False.elim

theorem after_same (same : SameControl before middle free) (ordered : Ordered middle after free) :
    Ordered before after free := (of_same same).trans same.halt ordered

/-- A machine that differs in nothing but its loops, its functions, and whether it goes on. -/
theorem of_fields (threads : after.toThread = { before.toThread with
      loops := after.loops, returning := after.returning })
    (exhausted : after.exhausted = before.exhausted) (output : after.output = before.output)
    (globals : after.globals = before.globals) : Ordered before after free := by
  have field {α : Type} (part : Thread → α) :
      part after.toThread = part { before.toThread with
        loops := after.loops, returning := after.returning } := congrArg part threads
  have raises : Raises before after := .none (field Thread.raises) (field Thread.bug)
  have halt : after.halt = before.halt := field Thread.halt
  exact {
    toScoped := .of_eq (field Thread.locals) globals
    calls := field Thread.calls
    depth := field Thread.depth
    exhausted
    named := raises.named
    history := raises.history
    output := fun running => ⟨"", by
      rw [Machine.diagnosis_of_running (halt.trans running), output, String.append_empty,
        String.append_empty]⟩
    raises
    taken := field Thread.taken
    going := fun running => .inl (halt.trans running) }

end Ordered

namespace Machine

theorem stop_contained (m : Machine) (cause : Cause) : Contained m (m.stop cause) := by
  rcases Option.eq_none_or_eq_some m.halt with running | ⟨fault, halted⟩
  · rw [m.stop_of_running cause running]
    exact { Contained.refl m with
      output := fun _ => ⟨"", by rw [String.append_empty]; rfl⟩ }
  · rw [m.stop_of_halted cause halted]
    exact .of_same (.refl m)

/-- Filling in the place of a fault leaves its cause alone. -/
theorem annotate_cause (m : Machine) (fault : Fault) : (m.annotate fault).cause = fault.cause := by
  unfold annotate
  dsimp only
  generalize first : (if fault.line = 0 then fault.placed m.line m.column else fault) = placed
  have same : placed.cause = fault.cause := by
    rw [← first]
    split <;> rfl
  generalize second : (if placed.trigger.isEmpty
    then { placed with trigger := m.sourceLine placed.line } else placed) = quoted
  have quotedSame : quoted.cause = placed.cause := by
    rw [← second]
    split <;> rfl
  rw [← same, ← quotedSame]
  split <;> rfl

theorem overflow_ordered (m : Machine) : Ordered m (m.stop (.stackOverflow deepestCall)) where
  toContained := m.stop_contained _
  raises := by
    rw [stop_eq]
    exact .none rfl rfl
  taken := by rw [stop_eq]
  going := fun running => by
    rw [m.stop_of_running _ running]
    exact .inr ⟨_, rfl, m.annotate_cause _⟩

end Machine

/-! ## Orderly actions -/

/-- An action that leaves in place what a statement outside a chain of branches does. -/
def Orderly {α : Type} (act : Act α) (free : String → Prop := fun _ => False) : Prop :=
  ∀ m : Machine, Ordered m (act.run m).2 free

namespace Orderly

variable {α β : Type}

theorem of_steady {act : Act α} {free : String → Prop} (steady : Steady act free) :
    Orderly act free := fun m => .of_same (steady m)

theorem modify {change : Machine → Machine} (ordered : ∀ m, Ordered m (change m)) :
    Orderly (modify change : Act Unit) := ordered

/-- Changes of the control state come last in a statement: what stands before them is steady. -/
theorem bind {first : Act α} {next : α → Act β} (firstSteady : Steady first)
    (nextOrderly : ∀ value, Orderly (next value)) : Orderly (first >>= next) := fun m =>
  .after_same (firstSteady m) (nextOrderly (first.run m).1 (first.run m).2)

/-- Working out the answer after the last change adds nothing. -/
theorem answer {first : Act α} {next : α → Act β} (firstOrderly : Orderly first)
    (still : ∀ value m, ((next value).run m).2 = m) : Orderly (first >>= next) := fun m =>
  (still (first.run m).1 (first.run m).2).symm ▸ firstOrderly m

theorem ite {condition : Prop} [Decidable condition] {first second : Act α}
    (firstOrderly : Orderly first) (secondOrderly : Orderly second) :
    Orderly (if condition then first else second) := by
  split
  · exact firstOrderly
  · exact secondOrderly

end Orderly

/-- An action that is orderly unless all it does is to stop the run because of a block. -/
def Guarded {α : Type} (act : Act α) (free : String → Prop := fun _ => False) : Prop :=
  ∀ m : Machine, Ordered m (act.run m).2 free ∨ ∃ text, (act.run m).2 = m.stop (.badBlock text)

theorem Orderly.guarded {α : Type} {act : Act α} {free : String → Prop} (orderly : Orderly act free) :
    Guarded act free := fun m => .inl (orderly m)

theorem Guarded.widen {α : Type} {act : Act α} {free : String → Prop} (guarded : Guarded act) :
    Guarded act free := fun m => (guarded m).imp_left Ordered.widen

namespace Statement

variable (toks : TokenStream) (i : Nat)

/-! ## The control flow -/

theorem giveBack_orderly : Orderly (giveBack toks i) := by
  have gives (value : String) (m : Machine) :
      Ordered m { m.setGlobal "ReturnValue" value with returning := true } :=
    .after_same (m.setGlobal_sameControl value (.inl (by decide))) (.of_fields rfl rfl rfl rfl)
  refine .ite (gives "") ?_
  refine .bind (Operand.assigned_routine toks _).steady fun read => .bind .get fun _ => ?_
  exact .ite (.of_steady (.pure _)) (gives read.1)

theorem define_orderly : Orderly (define toks i) := by
  unfold define
  refine .answer (.modify fun m => .of_fields rfl rfl rfl rfl) fun _ m => ?_
  split <;> rfl

theorem bindItem_sameControl (walk : Walk) (m : Machine) : SameControl m (walk.bindItem m) := by
  unfold Walk.bindItem
  dsimp only
  have named : SameControl m (if walk.itemName.isEmpty then m
      else m.assign walk.itemName (walk.items.getD walk.cursor "")) := by
    split
    · exact .refl m
    · exact Machine.assign_sameControl _ _ m
  refine named.trans ?_
  generalize (if walk.itemName.isEmpty then m
      else m.assign walk.itemName (walk.items.getD walk.cursor "")) = bound
  split
  · exact .refl _
  · split <;> exact Machine.assign_sameControl _ _ _

theorem openLoop_orderly (options : Nat) : Orderly (openLoop toks i options) := by
  refine .bind (loopLimit_routine toks _ _).steady fun _ =>
    .bind (loopWalk?_routine toks _ _).steady fun walk => ?_
  dsimp only
  split
  · refine .ite (.of_steady (.pure _)) (.answer (.modify fun m => ?_) fun _ _ => rfl)
    exact .after_same (bindItem_sameControl _ m) (.of_fields rfl rfl rfl rfl)
  · exact .answer (.modify fun m => .of_fields rfl rfl rfl rfl) fun _ _ => rfl

theorem start_orderly : Orderly (start toks i) := by
  refine .ite (openLoop_orderly toks i _) (.ite (define_orderly toks i) ?_)
  exact .ite (.of_steady ((printLine_routine _).steady.bind fun _ => .pure _)) (.of_steady (.pure _))

theorem goBack_orderly (frame : LoopFrame) : Orderly (goBack frame) :=
  .answer (.modify fun _ => .of_fields rfl rfl rfl rfl) fun _ _ => rfl

private theorem setLoops_ordered (loops : List LoopFrame) (m : Machine) :
    Ordered m { m with loops } := .of_fields rfl rfl rfl rfl

private theorem stopped_guarded (text : String) (last : Nat) :
    Guarded (do modify (Machine.stop (.badBlock text)); return last : Act Nat) :=
  fun _ => .inr ⟨text, rfl⟩

theorem leaveLoop_guarded : Guarded (leaveLoop toks i) := by
  intro m
  unfold leaveLoop
  rw [Act.run_bind, Act.run_get]
  dsimp only
  split
  · exact stopped_guarded _ _ m
  · exact .inl (setLoops_ordered _ m)

theorem stop_guarded : Guarded (stop toks i) := by
  intro m
  unfold stop
  dsimp only
  split
  · exact leaveLoop_guarded toks (i + 1) m
  · suffices rest : Orderly _ from .inl (rest m)
    refine .ite ?_ (.ite ?_ (.of_steady (.pure _)))
    · exact .answer (.modify fun m => .of_fields rfl rfl rfl rfl) fun _ _ => rfl
    · refine .bind .get fun _ => .answer (.modify (setLoops_ordered [])) fun _ _ => ?_
      split <;> rfl

theorem keep_guarded : Guarded (keep toks i) := by
  intro m
  unfold keep
  rw [Act.run_bind, Act.run_get]
  dsimp only
  split
  · exact stopped_guarded _ _ m
  · rename_i frame rest _
    -- The loop is closed first, and the rest is read in the machine without it.
    suffices turn : Orderly _ from .inl ((setLoops_ordered rest m).trans rfl (turn _))
    refine .ite (.of_steady (.pure _)) ?_
    split
    · rename_i walk _
      refine .ite ?_ (.of_steady (.pure _))
      exact .bind (.modify (bindItem_sameControl _)) fun _ => goBack_orderly _
    · refine .ite (.of_steady (.pure _)) (.ite (goBack_orderly _) ?_)
      refine .bind (Condition.holds_routine _).steady fun _ => .ite (goBack_orderly _) ?_
      exact .of_steady (.pure _)

/-! ## Chains of branches -/

/-- The index behind the condition of the `if` at an index. -/
def conditionEnd : Nat := i + 1 + toks.conditionRun (toks.peek i).line (i + 1)

/-- The answer to the condition of the `if` at an index, with the machine it leaves behind. -/
def condition (m : Machine) : Bool × Machine :=
  (Condition.holds (toks.slice (i + 1) (conditionEnd toks i))).run m

/-- The index of the last token of an `if` whose condition has been answered. -/
def branchLast (answer : Bool) : Nat :=
  if answer then
    if (toks.peek (conditionEnd toks i)).isSymbol .ampersand &&
        (toks.peek (conditionEnd toks i)).line == (toks.peek i).line
    then conditionEnd toks i else conditionEnd toks i - 1
  else toks.skipBlock i (toks.peek i).column

theorem branch_run (m : Machine) :
    (branch toks i).run m =
      (branchLast toks i (condition toks i m).1,
        { (if toks.asksForBug i then (condition toks i m).2.clearBug else (condition toks i m).2) with
          taken := (condition toks i m).1 }) := by
  unfold branch
  rw [Act.run_bind]
  change StateT.run _ (condition toks i m).2 = _
  generalize same : condition toks i m = read
  rcases read with ⟨answer, read⟩
  have answered : ((Condition.holds (toks.slice (i + 1) (conditionEnd toks i))).run m).1 = answer :=
    congrArg Prod.fst same
  unfold conditionEnd at answered
  rw [answered]
  unfold branchLast conditionEnd
  generalize toks.conditionRun (toks.peek i).line (i + 1) = length
  generalize ((toks.peek (i + 1 + length)).isSymbol .ampersand &&
    (toks.peek (i + 1 + length)).line == (toks.peek i).line) = joined
  cases toks.asksForBug i <;> cases answer <;> cases joined <;> rfl

/-- Whatever the condition does, an `if` that does not ask for a pending bug keeps one. -/
theorem branch_raises (other : toks.asksForBug i = false) (m : Machine) :
    Raises m ((branch toks i).run m).2 := by
  rw [branch_run, other]
  exact ((Condition.holds_routine _).steady m).raises.trans (.none rfl rfl)

theorem branch_halt (m : Machine) : ((branch toks i).run m).2.halt = m.halt := by
  rw [branch_run]
  have same : SameControl m (condition toks i m).2 := (Condition.holds_routine _).steady m
  cases toks.asksForBug i <;> exact same.halt

theorem branch_contained (m : Machine) : Contained m ((branch toks i).run m).2 := by
  rw [branch_run]
  have same : SameControl m (condition toks i m).2 := (Condition.holds_routine _).steady m
  cases toks.asksForBug i with
  | false => exact (Contained.of_same same).trans same.halt {
      Contained.of_same (.refl (condition toks i m).2) with }
  | true => exact (Contained.of_same same).trans same.halt {
      Contained.of_same (.refl (condition toks i m).2) with
      named := fun _ empty => nomatch empty }

theorem alternative_run (m : Machine) :
    (alternative toks i).run m =
      (if m.taken then toks.blockEnd (toks.peek i).column false (toks.lineEnd i + 1) - 1 else i,
        { m with taken := true }) := by
  unfold alternative
  rw [Act.run_bind, Act.run_get]
  cases flag : m.taken with
  | true =>
    rw [if_pos rfl, if_pos rfl, ← flag]
    rfl
  | false => rfl

theorem alternative_contained (m : Machine) : Contained m ((alternative toks i).run m).2 := by
  rw [alternative_run]
  exact { Contained.refl m with }

/-! ## Statements that could run other tokens and do not -/

theorem undefinedFunction_ne (name : String) : undefinedFunction name ≠ "" := by
  simp [undefinedFunction]

/-- What a statement that could run other tokens does when it runs none. -/
inductive Idles (m : Machine) : Machine → Prop where
  | steady {after : Machine} (same : SameControl m after) : Idles m after
  | overflow {ready : Machine} (same : SameControl m ready) :
      Idles m (ready.stop (.stackOverflow deepestCall))
  | ends : Idles m { m with ended := true }

theorem Idles.ordered {m after : Machine} (idles : Idles m after) : Ordered m after := by
  cases idles with
  | steady same => exact .of_same same
  | overflow same => exact .after_same same (Machine.overflow_ordered _)
  | ends => exact .of_fields rfl rfl rfl rfl

theorem call_idles (head : Token) {m : Machine} (alone : callNested? toks i m head = none) :
    Idles m ((call idle head toks i).run m).2 := by
  unfold callNested? at alone
  unfold call
  rw [Act.run_bind]
  have same := (callArguments_routine toks i).steady m
  generalize (callArguments toks i).run m = read at alone same ⊢
  rcases read with ⟨⟨args, last⟩, ready⟩
  dsimp only at alone same ⊢
  rw [Act.run_bind, Act.run_get]
  cases found : ready.procedure? (toks.peek i).rawName with
  | none =>
    exact .steady (same.trans
      ((raise_routine (undefinedFunction_ne _)).steady.bind (fun _ => .pure last) ready))
  | some procedure =>
    rw [found] at alone
    by_cases deep : ready.depth + 1 > deepestCall
    · dsimp only
      rw [Act.run_bind, invoke_run, if_pos deep, Act.run_bind, Act.run_get]
      rw [if_pos (ready.stop_halt _)]
      exact .overflow same
    · simp only [if_neg deep, reduceCtorEq] at alone

theorem callInBackground_idles {m : Machine} (alone : backgroundNested? toks i m = none) :
    Idles m ((callInBackground idle toks i).run m).2 := by
  unfold backgroundNested? at alone
  unfold callInBackground
  rw [Act.run_bind, Act.run_get]
  cases found : m.procedure? (toks.peek i).rawName with
  | none => exact .steady ((raise_routine (undefinedFunction_ne _)).steady.bind (fun _ => .pure i) m)
  | some procedure =>
    rw [found] at alone
    cases alone

theorem inline_idles {m : Machine} (alone : inlineNested? toks i m = none) :
    Idles m ((inline idle toks i).run m).2 := by
  unfold inlineNested? at alone
  unfold inline
  dsimp only at alone ⊢
  by_cases ending : (toks.peek (i + 1)).isWord .endWord
  · rw [if_pos ending]
    exact .ends
  · rw [if_neg ending] at alone ⊢
    rw [Act.run_bind, Act.run_get]
    cases found : m.procedure? (toks.peek (i + 1)).rawName with
    | none => exact .steady ((raise_routine (undefinedFunction_ne _)).steady.bind (fun _ => .pure _) m)
    | some procedure =>
      rw [found] at alone
      by_cases deep : m.depth + 1 > deepestCall
      · dsimp only
        rw [Act.run_bind, Act.run_get, Act.run_bind, Act.run_modify, if_pos deep]
        have stopped : Idles m (m.stop (.stackOverflow deepestCall)) := .overflow (.refl m)
        rwa [← stop_deeper] at stopped
      · simp only [if_neg deep, reduceCtorEq] at alone

theorem use_idles {m : Machine} (alone : useNested? toks i m = none) :
    Idles m ((use idle toks i).run m).2 := by
  unfold useNested? at alone
  unfold use
  rw [Act.run_bind, Act.run_get]
  cases included : includedFile? toks i m with
  | none => exact .steady ((useFeature_routine toks i).steady m)
  | some file =>
    rw [included] at alone
    rcases file with ⟨path, last⟩
    dsimp only at alone ⊢
    unfold sourceNested? at alone
    unfold includeFile
    rw [Act.run_bind, Act.run_bind, Act.run_get]
    cases found : m.files.read (includePath m path) with
    | error _ => exact .steady ((raise_routine (by simp)).steady m)
    | ok source => simp only [found, reduceCtorEq] at alone

/-- A run word that runs no other tokens. -/
theorem runWord_idles {m : Machine} (head : (toks.peek i).kind = .word .run)
    (alone : nested? toks i m = none) : Idles m ((runWord idle toks i).run m).2 := by
  unfold nested? at alone
  rw [head] at alone
  dsimp only at alone
  unfold runWord
  dsimp only
  by_cases sql : (toks.peek (i + 1)).isWord .sql
  · rw [if_pos sql]
    exact .steady ((Verb.sql_routine toks (i + 1)).steady m)
  · rw [if_neg sql] at alone ⊢
    by_cases background : (toks.peek (i + 1)).isWord .background
    · rw [if_pos background] at alone ⊢
      exact callInBackground_idles toks (i + 2) alone
    · rw [if_neg background] at alone ⊢
      exact call_idles toks (i + 1) (toks.peek i) alone

/-! ## Every statement -/

theorem dispatch_branch (run : Runner) (head : (toks.peek i).kind = .word .ifWord) :
    dispatch run toks i = branch toks i := by
  unfold dispatch direct
  rw [head]
  rfl

theorem dispatch_alternative (run : Runner) (head : (toks.peek i).kind = .word .orWord) :
    dispatch run toks i = alternative toks i := by
  unfold dispatch direct
  rw [head]
  rfl

theorem direct_guarded (noIf : (toks.peek i).kind ≠ .word .ifWord)
    (noOr : (toks.peek i).kind ≠ .word .orWord) : Guarded (direct toks i) (opens toks i) := by
  unfold direct
  split
  · exact (giveBack_orderly toks i).guarded.widen
  · contradiction
  · contradiction
  · exact (start_orderly toks i).guarded.widen
  · exact (openLoop_orderly toks i _).guarded.widen
  · exact (keep_guarded toks i).widen
  · exact (stop_guarded toks i).widen
  · exact (leaveLoop_guarded toks i).widen
  · exact (Orderly.of_steady (step_routine toks i).steady).guarded.widen
  · exact (Orderly.of_steady (assignWord_routine toks i).steady).guarded
  · exact (Orderly.of_steady (assignWord_routine toks i).steady).guarded
  · exact (Orderly.of_steady (assignWord_routine toks i).steady).guarded
  · exact (Orderly.of_steady (.pure _)).guarded.widen
  · exact (Orderly.of_steady (.pure _)).guarded.widen
  · exact (Orderly.of_steady (.pure _)).guarded.widen
  · exact (Orderly.of_steady (.ite (.pure _) (.pure _))).guarded.widen
  · exact (Orderly.of_steady (.pure _)).guarded.widen
  · exact (Orderly.of_steady (plain_routine toks i).steady).guarded.widen

/-- A statement outside a chain of branches is orderly, unless all it does is to stop the run. -/
theorem dispatch_guarded {m : Machine} (alone : nested? toks i m = none)
    (noIf : (toks.peek i).kind ≠ .word .ifWord) (noOr : (toks.peek i).kind ≠ .word .orWord) :
    Ordered m ((dispatch idle toks i).run m).2 (opens toks i) ∨
      ∃ text, ((dispatch idle toks i).run m).2 = m.stop (.badBlock text) := by
  unfold dispatch
  split
  · rename_i head
    exact .inl (runWord_idles toks i head alone).ordered.widen
  · rename_i head
    simp only [nested?, head] at alone
    exact .inl (inline_idles toks i alone).ordered.widen
  · rename_i head
    simp only [nested?, head] at alone
    exact .inl (use_idles toks i alone).ordered.widen
  · split
    · rename_i verb found
      have same := Verb.lookup_steady (fun _ => .pure ()) found toks i m
      exact .inl (.of_same (same.mono fun _ => .inr))
    · exact direct_guarded toks i noIf noOr m

/-- Every statement that runs no other tokens is contained. -/
theorem dispatch_contained {m : Machine} (alone : nested? toks i m = none) :
    Contained m ((dispatch idle toks i).run m).2 (opens toks i) := by
  by_cases branching : (toks.peek i).kind = .word .ifWord
  · rw [dispatch_branch toks i idle branching]
    exact (branch_contained toks i m).mono fun _ => False.elim
  · by_cases going : (toks.peek i).kind = .word .orWord
    · rw [dispatch_alternative toks i idle going]
      exact (alternative_contained toks i m).mono fun _ => False.elim
    · rcases dispatch_guarded toks i alone branching going with ordered | ⟨text, stopped⟩
      · exact ordered.toContained
      · rw [stopped]
        exact (m.stop_contained _).mono fun _ => False.elim

/-- Only the question for a pending bug drops one. -/
theorem dispatch_raises {m : Machine} (alone : nested? toks i m = none)
    (other : toks.asksForBug i = false) : Raises m ((dispatch idle toks i).run m).2 := by
  by_cases branching : (toks.peek i).kind = .word .ifWord
  · rw [dispatch_branch toks i idle branching]
    exact branch_raises toks i other m
  · by_cases going : (toks.peek i).kind = .word .orWord
    · rw [dispatch_alternative toks i idle going, alternative_run]
      exact .none rfl rfl
    · rcases dispatch_guarded toks i alone branching going with ordered | ⟨text, stopped⟩
      · exact ordered.raises
      · rw [stopped, Machine.stop_eq]
        exact .none rfl rfl

/-- A statement that raises a bug does not stop the run, unless it is a call that is too deep. -/
theorem dispatch_going {m : Machine} (alone : nested? toks i m = none) (running : m.halt = none) :
    ((dispatch idle toks i).run m).2.halt = none ∨ ((dispatch idle toks i).run m).2.Overflowed ∨
      ∃ text, ((dispatch idle toks i).run m).2 = m.stop (.badBlock text) := by
  by_cases branching : (toks.peek i).kind = .word .ifWord
  · rw [dispatch_branch toks i idle branching]
    exact .inl ((branch_halt toks i m).trans running)
  · by_cases going : (toks.peek i).kind = .word .orWord
    · rw [dispatch_alternative toks i idle going, alternative_run]
      exact .inl running
    · rcases dispatch_guarded toks i alone branching going with ordered | stopped
      · exact (ordered.going running).imp_right .inl
      · exact .inr (.inr stopped)

end Statement
end BigScript
