import BigScript.Proofs.Heedless.Basic
import BigScript.Proofs.Steady.Basic

/-!
# Routine actions

What a statement does besides control flow is steady and heedless at once, and both are seen along
the same way through it: it looks at variables and clocks, prints, assigns, raises bugs, and changes
the world around the run.  `Routine` puts the two together, so that every reader and every verb is
walked through only once.
-/

namespace BigScript

/-- An action that leaves the control state alone and does not look back. -/
structure Routine {α : Type} (act : Act α) (free : String → Prop := fun _ => False) : Prop where
  steady : Steady act free
  heedless : Heedless act

namespace Routine

variable {α β : Type} {free : String → Prop}

theorem pure (value : α) : Routine (Pure.pure value : Act α) free := ⟨.pure value, .pure value⟩

theorem modify {change : Machine → Machine} (same : ∀ m, SameControl m (change m) free)
    (blind : Blind change) :
    Routine (modify change : Act Unit) free := ⟨.modify same, .modify blind⟩

theorem bind {first : Act α} {next : α → Act β} (firstRoutine : Routine first free)
    (nextRoutine : ∀ value, Routine (next value) free) : Routine (first >>= next) free where
  steady := firstRoutine.steady.bind fun value => (nextRoutine value).steady
  heedless := firstRoutine.heedless.bind fun value => (nextRoutine value).heedless

/-- Sequencing where what follows relies on something about the answer. -/
theorem bindOf {first : Act α} {next : α → Act β} (holds : α → Prop) (firstRoutine : Routine first free)
    (answers : ∀ m, holds (first.run m).1)
    (nextRoutine : ∀ value, holds value → Routine (next value) free) :
    Routine (first >>= next) free where
  steady := .bindOf holds firstRoutine.steady answers fun value held => (nextRoutine value held).steady
  heedless :=
    .bindOf holds firstRoutine.heedless answers fun value held => (nextRoutine value held).heedless

theorem look {next : Machine → Act β}
    (aside : (fun written diary m => next (Machine.recalling written diary m)) = fun _ _ => next)
    (routine : ∀ m, Routine (next m) free) : Routine (get >>= next) free where
  steady := Steady.get.bind fun m => (routine m).steady
  heedless := .look aside fun m => (routine m).heedless

theorem ite {condition : Prop} [Decidable condition] {first second : Act α}
    (firstRoutine : Routine first free) (secondRoutine : Routine second free) :
    Routine (if condition then first else second) free :=
  ⟨.ite firstRoutine.steady secondRoutine.steady, .ite firstRoutine.heedless secondRoutine.heedless⟩

/-- What leaves all globals alone leaves those alone that are not free to change. -/
theorem widen {act : Act α} (routine : Routine act) : Routine act free :=
  ⟨routine.steady.widen, routine.heedless⟩

theorem mapM {change : α → Act β} (each : ∀ value, Routine (change value) free) (values : List α) :
    Routine (values.mapM change) free :=
  ⟨.mapM (fun value => (each value).steady) values, .mapM (fun value => (each value).heedless) values⟩

end Routine

namespace Machine

theorem print_routine (text : String) : Routine (modify (print text) : Act Unit) :=
  .modify (print_sameControl text) (print_blind text)

theorem assign_routine (name value : String) : Routine (modify (assign name value) : Act Unit) :=
  .modify (assign_sameControl name value) (assign_blind name value)

theorem raiseBug_routine {message : String} (worded : message ≠ "") :
    Routine (modify (raiseBug message) : Act Unit) :=
  .modify (raiseBug_sameControl worded) (raiseBug_blind message)

theorem sleep_routine (nanoseconds : Nat) : Routine (modify (sleep nanoseconds) : Act Unit) :=
  .modify (sleep_sameControl nanoseconds) (sleep_blind nanoseconds)

theorem enable_routine (feature : String) : Routine (modify (enable feature) : Act Unit) :=
  .modify (enable_sameControl feature) (enable_blind feature)

end Machine

/-!
## Reading operands

Formulas, operands, conditions, targets and tails of results are read and bound without touching the
control state, and none of what they are read from is in the diary.  The only thing that reading can
do besides answering is to raise the bug of a division by zero.
-/

namespace Formula

theorem reduce_routine (row : List Item) : Routine (reduce row) :=
  .ite ((Machine.raiseBug_routine (by decide)).bind fun _ => .pure _) (.pure _)

mutual
theorem termValue_routine : (term : Term) → Routine (termValue term)
  | .absent => by unfold termValue; exact .pure _
  | .constant _ => by unfold termValue; exact .pure _
  | .tick => by unfold termValue; exact .look rfl fun _ => .pure _
  | .frame => by unfold termValue; exact .look rfl fun _ => .pure _
  | .length _ => by unfold termValue; exact .look rfl fun _ => .pure _
  | .token _ => by unfold termValue; exact .look rfl fun _ => .pure _
  | .group row => by unfold termValue; exact (rowItems_routine row).bind fun _ => reduce_routine _
  | .apply _ argument => by
      unfold termValue
      exact (termValue_routine argument).bind fun _ => .pure _
  | .least first second => by
      unfold termValue
      exact (termValue_routine first).bind fun _ => (termValue_routine second).bind fun _ => .pure _
  | .greatest first second => by
      unfold termValue
      exact (termValue_routine first).bind fun _ => (termValue_routine second).bind fun _ => .pure _

theorem rowItems_routine : (row : List Cell) → Routine (rowItems row)
  | [] => by unfold rowItems; exact .pure _
  | .operator _ :: rest => by unfold rowItems; exact (rowItems_routine rest).bind fun _ => .pure _
  | .term term :: rest => by
      unfold rowItems
      exact (termValue_routine term).bind fun _ => (rowItems_routine rest).bind fun _ => .pure _
end

theorem evaluate_routine (toks : List Token) : Routine (evaluate toks) :=
  (rowItems_routine (read toks)).bind fun row => reduce_routine row

end Formula

namespace Operand

theorem warp_routine (toks : TokenStream) (i : Nat) : Routine (warp toks i) :=
  .look rfl fun _ => .pure _

theorem solve_routine (toks : TokenStream) (i : Nat) : Routine (solve toks i) :=
  (Formula.evaluate_routine _).bind fun _ => .pure _

theorem valueAt_routine (toks : TokenStream) (i : Nat) : Routine (valueAt toks i) := by
  refine .look rfl fun m => ?_
  refine .ite (.pure _) (.ite (.pure _) (.ite (.pure _) (.ite (warp_routine toks i) (.ite ?_ ?_))))
  · exact (solve_routine toks i).bind fun _ => .pure _
  · split <;> exact .pure _

theorem value_routine (toks : TokenStream) (i : Nat) : Routine (value toks i) :=
  valueAt_routine toks (toks.skipAts i)

theorem text_routine (toks : TokenStream) (i : Nat) : Routine (text toks i) :=
  (value_routine toks i).bind fun _ => .look rfl fun _ => .pure _

theorem assigned_routine (toks : TokenStream) (i : Nat) : Routine (assigned toks i) := by
  refine .ite (warp_routine toks i) (.ite ?_ (.ite ?_ (.ite (.pure _) (value_routine toks i))))
  · exact (solve_routine toks i).bind fun _ => .pure _
  · exact (Formula.evaluate_routine _).bind fun _ => .pure _

theorem measure_routine (toks : TokenStream) (i : Nat) : Routine (measure toks i) :=
  .ite (.pure _) ((Formula.evaluate_routine _).bind fun _ => .pure _)

end Operand

namespace Condition

theorem joined_recalling (m : Machine) (written : String) (diary : Diary) (toks : List Token) :
    joined (m.recalling written diary) toks = joined m toks := by
  have value (t : Token) :
      joined.sideValue (m.recalling written diary) t = joined.sideValue m t := rfl
  have found (name : String) : (m.recalling written diary).get? name = m.get? name := rfl
  fun_induction joined m toks
  all_goals simp only [joined, *, if_true]
  all_goals rfl

theorem side_routine (toks : List Token) : Routine (side toks) := by
  refine .ite ((Formula.evaluate_routine toks).bind fun _ => .pure _) ?_
  refine .look ?_ fun _ => .pure _
  funext written diary m
  rw [joined_recalling]

theorem holds_routine (toks : List Token) : Routine (holds toks) := by
  refine .ite (.pure _) (.ite (.look rfl fun _ => .pure _) ?_)
  split
  · exact (side_routine _).bind fun _ => (side_routine _).bind fun _ => .pure _
  · exact (Formula.evaluate_routine toks).bind fun _ => .pure _

end Condition

namespace Results

theorem bindNames_routine (toks : TokenStream) (line : Nat) (results : List String) (j : Nat) :
    Routine (bindNames toks line results j) := by
  unfold bindNames
  split
  · refine .ite ?_ (.pure _)
    exact (Machine.assign_routine _ _).bind fun _ =>
      bindNames_routine toks line (results.drop 1) ((toks.bracedName j).2 + 1)
  · exact .pure _
termination_by toks.size - j
decreasing_by
  have := toks.le_bracedName j
  omega

theorem setAs_routine (toks : TokenStream) (i : Nat) (results : List String) :
    Routine (setAs toks i results) := by
  refine .ite (.ite ?_ ?_) (.pure _)
  · exact (Machine.assign_routine _ _).bind fun _ => .pure _
  · exact (bindNames_routine _ _ _ _).bind fun _ => .pure _

theorem checkAt_routine (toks : TokenStream) (i : Nat) : Routine (checkAt toks i) := by
  refine .ite ?_ (.ite ?_ (.pure _))
  · exact (Machine.print_routine _).bind fun _ => .pure _
  · exact (Machine.print_routine _).bind fun _ => .pure _

theorem targetName?_routine (toks : TokenStream) (i : Nat) : Routine (targetName? toks i) :=
  .ite ((checkAt_routine toks i).bind fun _ => .ite (.pure _) (.pure _)) (.pure _)

theorem targetValue?_routine (toks : TokenStream) (i : Nat) : Routine (targetValue? toks i) :=
  .ite ((checkAt_routine toks i).bind fun _ =>
    .ite ((Operand.text_routine toks (i + 1)).bind fun _ => .pure _) (.pure _)) (.pure _)

end Results

namespace Statement

theorem finish_routine (toks : TokenStream) (last : Nat) (results : List String) :
    Routine (finish toks last results) := Results.setAs_routine toks last results

theorem printLine_routine (line : String) : Routine (printLine line) :=
  Machine.print_routine (line ++ "\n")

theorem raise_routine {message : String} (worded : message ≠ "") : Routine (raise message) :=
  Machine.raiseBug_routine worded

end Statement
end BigScript
