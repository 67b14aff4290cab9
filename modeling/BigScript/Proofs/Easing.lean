import BigScript.Proofs.Assignment

/-!
# Steps towards a target that cannot be computed

A step reads its target as an assignment reads its value, but it does not look at the pending bug
before it moves the variable.  A division by zero in the target is zero, and the variable is eased
towards what the rest of the formula makes of that.  `easing_law` says where it comes to, whether a
bug was raised or not: a failed step leaves the variable alone only where it would have come to its
old value anyway.
-/

namespace BigScript

open Machine

namespace Easing

/-- What a step makes of a variable, as it is stored. -/
def reached (m : Machine) (name : String) (target speed : Float) : String :=
  Number.format (advance (Number.parseOrZero (m.getD name "")) target speed (stepTime m))

/-- The time of a step is kept for the next one. -/
def stamped (m : Machine) : Machine := { m with lastStep := some m.elapsed }

theorem reached_of_unbound {before after : Machine} (unbound : Unbound before after) {name : String}
    (plain : Plain name) (other : name ≠ "BugType") (target speed : Float) :
    reached after name target speed = reached before name target speed := by
  have time : stepTime after = stepTime before := by
    rw [unbound.rest]
    rfl
  rw [reached, reached, time, getD, getD, unbound.get? plain other]

/-- A step is written at an index: a name, a target, and a rate where there is a word for one. -/
structure Written (toks : TokenStream) (i : Nat) (m : Machine) (speed : Float) : Prop where
  head : (toks.peek i).kind = .word .step
  towards : (toks.peek ((toks.bracedName (i + 1)).2 + 1)).isWord .towards = true
  rated : ∃ last, Statement.stepSpeed toks
    ((Operand.measure toks ((toks.bracedName (i + 1)).2 + 2)).run m).1.2 = .ok (speed, last)

/-- What a step does once its target has been computed: the variable is bound to what it has come
to, also with a bug pending. -/
structure Moves (name : String) (speed : Float) (m : Machine)
    (computed : (Float × Nat) × Machine) (after : Machine) : Prop where
  divided : ∃ times, computed.2 = m.divided times
  binds : Binds (storedName name) (reached computed.2 name computed.1.1 speed)
    (stamped computed.2) after
  pending : after.bug = computed.2.bug
  moved : Plain name → m.isHidden name = false →
    after.get? name = some (reached computed.2 name computed.1.1 speed)
  kept : Plain name → name ≠ "BugType" → m.isHidden name = false →
    (after.get? name = m.get? name ↔
      m.get? name = some (reached m name computed.1.1 speed))

end Easing

namespace Statement

variable {toks : TokenStream} {i : Nat} {m : Machine} {speed : Float}

theorem step_run (written : Easing.Written toks i m speed) :
    let name := toks.bracedName (i + 1)
    let computed := (Operand.measure toks (name.2 + 2)).run m
    ((step toks i).run m).2 =
      (Easing.stamped computed.2).assign name.1
        (Easing.reached computed.2 name.1 computed.1.1 speed) := by
  intro name computed
  rcases written.rated with ⟨last, rated⟩
  unfold step
  dsimp only
  rw [if_pos written.towards, Act.run_bind, rated]
  dsimp only
  rw [Act.run_bind, Act.run_get]
  dsimp only
  rw [Act.run_bind, Act.run_modify, Act.run_bind, Act.run_modify, Act.run_pure, Easing.reached,
    Easing.stamped]

theorem dispatch_step (run : Runner) (head : (toks.peek i).kind = .word .step) :
    dispatch run toks i = step toks i := by
  unfold dispatch
  rw [head]
  simp only [direct, head]
  rfl

/-- Whether the computation of its target has raised a bug or not, a step moves its variable. -/
theorem easing_law (run : Runner) (written : Easing.Written toks i m speed) :
    Easing.Moves (toks.bracedName (i + 1)).1 speed m
      ((Operand.measure toks ((toks.bracedName (i + 1)).2 + 2)).run m)
      ((dispatch run toks i).run m).2 := by
  have computes := Operand.measure_computes toks ((toks.bracedName (i + 1)).2 + 2)
  have divided := computes m
  have unbound := computes.unbound m
  rw [dispatch_step run written.head, step_run written]
  generalize (Operand.measure toks ((toks.bracedName (i + 1)).2 + 2)).run m = computed at *
  generalize (toks.bracedName (i + 1)).1 = name
  have binds := assign_binds name (Easing.reached computed.2 name computed.1.1 speed)
    (Easing.stamped computed.2)
  generalize (Easing.stamped computed.2).assign name _ = after at *
  have moved (plain : Plain name) (shown : m.isHidden name = false) :
      after.get? name = some (Easing.reached computed.2 name computed.1.1 speed) := by
    rw [plain.own] at binds
    refine plain.get?_of_binds binds ?_
    rwa [isHidden, ← unbound.locals] at shown
  refine ⟨divided, binds, ?_, moved, fun plain other shown => ?_⟩
  · rw [binds.rest]
    rfl
  · rw [moved plain shown, Easing.reached_of_unbound unbound plain other]
    exact eq_comm

end Statement

/-- A step towards a quotient by zero, in a function: the local variable has gone to zero. -/
theorem easing_law_divided :
    let toks := scan "step X towards 1 / 0"
    let m : Machine := (Machine.start {}).pushScope (.ofList [("X", "0.25")])
    let after := ((Statement.dispatch Statement.idle toks 0).run m).2
    Easing.Written toks 0 m 1 ∧ after.bug.isSome = true ∧ after.get? "X" = some "0" := by
  intro toks m after
  have ⟨head, name, towards, unrated⟩ : (toks.peek 0).kind = .word .step ∧
      toks.bracedName (0 + 1) = ("X", 1) ∧ (toks.peek 2).isWord .towards = true ∧
        (toks.peek 6).isWord .speed = false := by
    decide +kernel
  have ⟨last, failed, gone⟩ : ((Operand.measure toks 3).run m).1.2 = 5 ∧
      ((Operand.measure toks 3).run m).2.bug.isSome = true ∧
        Easing.reached ((Operand.measure toks 3).run m).2 "X"
          ((Operand.measure toks 3).run m).1.1 1 = "0" := by
    decide +kernel
  have ⟨named, unread, undotted, own⟩ : "X" ≠ "" ∧ Text.lower "X" ∉ readings ∧ '.' ∉ "X".toList ∧
      storedName "X" = "X" := by
    decide +kernel
  have written : Easing.Written toks 0 m 1 := by
    constructor
    · exact head
    · rw [name]
      exact towards
    · rw [name, last]
      exact ⟨5, if_neg (Bool.eq_false_iff.mp unrated)⟩
  have moves := Statement.easing_law Statement.idle written
  rw [name] at moves
  exact ⟨written, moves.pending ▸ failed, gone ▸ moves.moved ⟨named, unread, undotted, own⟩ rfl⟩

/-- A script that asks for the bug of a step. -/
def failedStep : String := "X = 0.25\nstep X towards 1 / 0\nif any bug found\n    print X"

/-- The variable is not where it was before the step. -/
theorem failedStep_moves :
    let ran := Machine.runSource failedStep (.start {})
    ran.1.isNone = true ∧ ran.2.globals.valueOf? "X" = some "0" ∧
      ran.2.globals.valueOf? "BugType" = some "DivisionByZero" ∧ ran.2.output = "0\n" := by
  decide +kernel

end BigScript
