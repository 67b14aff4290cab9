import BigScript.Proofs.Expression.Written

/-!
# What computing a value changes

Formulas and operands are read in a running script, and all that reading them can do to it is to show
divisions by zero: each of them raises a bug, and the last bug is the value of one global variable.
`Computes` says so of an action, and `Unbound` says what is left alone then.
-/

namespace BigScript

namespace Machine

variable (m : Machine) (times : Nat)

theorem divided_divided (more : Nat) :
    (m.divided times).divided more = m.divided (more + times) := by
  induction more with
  | zero => rw [Nat.zero_add]; rfl
  | succ more ih => rw [divided_succ, ih, Nat.succ_add, divided_succ]

/-- Divisions by zero change nothing but the pending bug, the history of bugs and a global
variable. -/
theorem divided_eq : m.divided times =
    { m with
      bug := (m.divided times).bug
      raises := (m.divided times).raises
      globals := (m.divided times).globals } := by
  cases times with
  | zero => rfl
  | succ times =>
      rw [divided_succ_eq]
      rfl

theorem divided_globals {name : String} (other : name ≠ "BugType") :
    (m.divided times).globals.valueOf? name = m.globals.valueOf? name := by
  induction times with
  | zero => rfl
  | succ times ih => exact (Bindings.valueOf?_set_of_ne _ other _).trans ih

/-- A bug is pending after a division by zero. -/
theorem divided_bug (positive : 0 < times) : (m.divided times).bug = some "DivisionByZero" := by
  cases times with
  | zero => cases positive
  | succ times => rfl

/-- Every division by zero is kept in the history of bugs. -/
theorem divided_raises : (m.divided times).raises.length = times + m.raises.length := by
  induction times with
  | zero => rw [Nat.zero_add]; rfl
  | succ times ih =>
      rw [divided_succ, raiseBug, List.length_cons, ih]
      omega

/-- Where no bug was raised, there was no division by zero. -/
theorem divided_unraised (calm : (m.divided times).raises = m.raises) : m.divided times = m := by
  have length := m.divided_raises times
  rw [calm] at length
  have never : times = 0 := by omega
  rw [never]
  rfl

end Machine

/-- What is left alone where nothing is bound: of the global variables all but the one for bugs, and
everything else but the state of bugs. -/
structure Unbound (before after : Machine) : Prop where
  globals : ∀ name, name ≠ "BugType" → after.globals.valueOf? name = before.globals.valueOf? name
  rest : after = { before with bug := after.bug, raises := after.raises, globals := after.globals }

theorem unbound_divided (m : Machine) (times : Nat) : Unbound m (m.divided times) where
  globals := fun _ => m.divided_globals times
  rest := m.divided_eq times

namespace Unbound

variable {before after : Machine}

theorem locals (unbound : Unbound before after) : after.locals = before.locals := by
  rw [unbound.rest]

theorem procedures (unbound : Unbound before after) : after.procedures = before.procedures := by
  rw [unbound.rest]

end Unbound

/-! ## Actions that compute -/

/-- An action that does nothing to a machine but to show divisions by zero. -/
def Computes {α : Type} (act : Act α) : Prop :=
  ∀ m : Machine, ∃ times, (act.run m).2 = m.divided times

namespace Computes

variable {α β : Type}

theorem pure (value : α) : Computes (Pure.pure value : Act α) := fun _ => ⟨0, rfl⟩

theorem bind {first : Act α} {next : α → Act β} (firstComputes : Computes first)
    (nextComputes : ∀ value, Computes (next value)) : Computes (first >>= next) := by
  intro m
  rcases firstComputes m with ⟨times, shown⟩
  rcases nextComputes (first.run m).1 (first.run m).2 with ⟨more, further⟩
  refine ⟨more + times, ?_⟩
  rw [Act.run_bind, further, shown, Machine.divided_divided]

/-- A look at the machine, and what follows it. -/
theorem look {next : Machine → Act β} (nextComputes : ∀ m, Computes (next m)) :
    Computes (get >>= next) := fun m => nextComputes m m

theorem ite {condition : Prop} [Decidable condition] {first second : Act α}
    (firstComputes : Computes first) (secondComputes : Computes second) :
    Computes (if condition then first else second) := by
  split
  · exact firstComputes
  · exact secondComputes

theorem unbound {act : Act α} (computes : Computes act) (m : Machine) :
    Unbound m (act.run m).2 := by
  rcases computes m with ⟨times, shown⟩
  exact shown ▸ unbound_divided m times

/-- With no bug pending behind it, a computation has changed nothing. -/
theorem unchanged {act : Act α} (computes : Computes act) {m : Machine}
    (fine : (act.run m).2.bug = none) : (act.run m).2 = m := by
  rcases computes m with ⟨_ | times, shown⟩
  · exact shown
  · rw [shown, m.divided_bug _ (Nat.succ_pos times)] at fine
    cases fine

/-- A computation that raises no bug changes nothing, also with a bug pending. -/
theorem unraised {act : Act α} (computes : Computes act) {m : Machine}
    (calm : (act.run m).2.raises = m.raises) : (act.run m).2 = m := by
  rcases computes m with ⟨times, shown⟩
  rw [shown] at calm ⊢
  exact m.divided_unraised times calm

end Computes

namespace Formula

theorem reduce_computes (row : List Item) : Computes (reduce row) :=
  .ite (.bind (fun _ => ⟨1, rfl⟩) fun _ => .pure _) (.pure _)

mutual
theorem termValue_computes : (term : Term) → Computes (termValue term)
  | .absent => by unfold termValue; exact .pure _
  | .constant _ => by unfold termValue; exact .pure _
  | .tick => by unfold termValue; exact .look fun _ => .pure _
  | .frame => by unfold termValue; exact .look fun _ => .pure _
  | .length _ => by unfold termValue; exact .look fun _ => .pure _
  | .token _ => by unfold termValue; exact .look fun _ => .pure _
  | .group row => by unfold termValue; exact (rowItems_computes row).bind reduce_computes
  | .apply _ argument => by
      unfold termValue
      exact (termValue_computes argument).bind fun _ => .pure _
  | .least first second => by
      unfold termValue
      exact (termValue_computes first).bind fun _ =>
        (termValue_computes second).bind fun _ => .pure _
  | .greatest first second => by
      unfold termValue
      exact (termValue_computes first).bind fun _ =>
        (termValue_computes second).bind fun _ => .pure _

theorem rowItems_computes : (row : List Cell) → Computes (rowItems row)
  | [] => by unfold rowItems; exact .pure _
  | .operator _ :: rest => by unfold rowItems; exact (rowItems_computes rest).bind fun _ => .pure _
  | .term term :: rest => by
      unfold rowItems
      exact (termValue_computes term).bind fun _ => (rowItems_computes rest).bind fun _ => .pure _
end

theorem evaluate_computes (toks : List Token) : Computes (evaluate toks) :=
  (rowItems_computes (read toks)).bind reduce_computes

end Formula

namespace Operand

theorem warp_computes (toks : TokenStream) (i : Nat) : Computes (warp toks i) :=
  .look fun _ => .pure _

theorem solve_computes (toks : TokenStream) (i : Nat) : Computes (solve toks i) :=
  (Formula.evaluate_computes _).bind fun _ => .pure _

theorem valueAt_computes (toks : TokenStream) (i : Nat) : Computes (valueAt toks i) := by
  refine .look fun m => ?_
  refine .ite (.pure _) (.ite (.pure _) (.ite (.pure _) (.ite (warp_computes toks i) (.ite ?_ ?_))))
  · exact (solve_computes toks i).bind fun _ => .pure _
  · split <;> exact .pure _

theorem value_computes (toks : TokenStream) (i : Nat) : Computes (value toks i) :=
  valueAt_computes toks _

theorem text_computes (toks : TokenStream) (i : Nat) : Computes (text toks i) :=
  (value_computes toks i).bind fun _ => .look fun _ => .pure _

theorem assigned_computes (toks : TokenStream) (i : Nat) : Computes (assigned toks i) := by
  refine .ite (warp_computes toks i) (.ite ?_ (.ite ?_ (.ite (.pure _) (value_computes toks _))))
  · exact (solve_computes toks i).bind fun _ => .pure _
  · exact (Formula.evaluate_computes _).bind fun _ => .pure _

theorem measure_computes (toks : TokenStream) (i : Nat) : Computes (measure toks i) :=
  .ite (.pure _) ((Formula.evaluate_computes _).bind fun _ => .pure _)

end Operand
end BigScript
