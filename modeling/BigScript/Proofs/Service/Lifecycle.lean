import BigScript.Proofs.Service.Operation

/-!
# The lifecycle of an execution

Completion, failure, cancellation on request and cancellation at the end of its time race for the
record of an execution.  Whatever their order, the first of them that comes decides: the record is
active from the beginning until then and never changes afterwards.
-/

namespace BigScript
namespace Service

/-- What a record keeps as long as it exists. -/
structure SameRun (before after : Execution) : Prop where
  id : after.id = before.id
  script : after.script = before.script
  args : after.args = before.args
  revision : after.revision = before.revision
  started : after.started = before.started

/-- The time at which an execution ended is recorded once it is not active any more. -/
def Execution.Dated (execution : Execution) : Prop :=
  execution.ended.isSome = true ↔ execution.outcome.isActive = false

theorem SameRun.refl (execution : Execution) : SameRun execution execution :=
  ⟨rfl, rfl, rfl, rfl, rfl⟩

theorem SameRun.trans {first second third : Execution} (early : SameRun first second)
    (late : SameRun second third) : SameRun first third where
  id := late.id.trans early.id
  script := late.script.trans early.script
  args := late.args.trans early.args
  revision := late.revision.trans early.revision
  started := late.started.trans early.started

namespace Moves

variable {before after : Execution}

theorem sameRun (moves : Moves before after) : SameRun before after := by
  cases moves with
  | stays => exact .refl before
  | ends => exact ⟨rfl, rfl, rfl, rfl, rfl⟩

theorem settled (moves : Moves before after) (final : before.outcome.isActive = false) :
    after = before := by
  cases moves with
  | stays => rfl
  | ends active =>
    rw [final] at active
    cases active

theorem dated (moves : Moves before after) (dated : before.Dated) : after.Dated := by
  cases moves with
  | stays => exact dated
  | ends active final => exact ⟨fun _ => final, fun _ => rfl⟩

end Moves

theorem Begun.dated {id : String} {execution : Execution} (begun : Begun id execution) :
    execution.Dated := by
  unfold Execution.Dated
  rw [begun.active, begun.unended]
  exact ⟨nofun, nofun⟩

namespace Catalog

variable {catalog : Catalog} {id : String} {execution : Execution}

/-! ## Records under sequences of operations -/

theorem after_sameRun (operations : List Operation)
    (found : catalog.execution? id = some execution) :
    ∃ later, (catalog.after operations).execution? id = some later ∧ SameRun execution later := by
  induction operations generalizing catalog execution with
  | nil => exact ⟨execution, found, .refl execution⟩
  | cons operation rest ih =>
    rcases operation.moves found with ⟨moved, here, moves⟩
    rcases ih here with ⟨later, there, same⟩
    exact ⟨later, there, moves.sameRun.trans same⟩

theorem after_settled (operations : List Operation)
    (found : catalog.execution? id = some execution)
    (final : execution.outcome.isActive = false) :
    (catalog.after operations).execution? id = some execution := by
  induction operations generalizing catalog with
  | nil => exact found
  | cons operation rest ih =>
    rcases operation.moves found with ⟨moved, here, moves⟩
    rw [moves.settled final] at here
    exact ih here

/-- Whether all records are dated. -/
def Dated (catalog : Catalog) : Prop :=
  ∀ id execution, catalog.execution? id = some execution → execution.Dated

theorem Dated.run (dated : catalog.Dated) (operation : Operation) :
    (operation.run catalog).Dated := by
  intro id execution found
  cases known : catalog.execution? id with
  | none => exact (operation.begins known found).dated
  | some before =>
    rcases operation.moves known with ⟨moved, here, moves⟩
    obtain rfl : moved = execution := Option.some.inj (here.symm.trans found)
    exact moves.dated (dated id before known)

theorem Dated.after (dated : catalog.Dated) (operations : List Operation) :
    (catalog.after operations).Dated := by
  induction operations generalizing catalog with
  | nil => exact dated
  | cons operation rest ih => exact ih (dated.run operation)

theorem empty_dated : ({} : Catalog).Dated := by
  intro id execution found
  cases found

/-! ## Leaving the active state -/

/-- Whether the record of an execution is there and active. -/
def ActiveIn (catalog : Catalog) (id : String) : Prop :=
  ∃ execution, catalog.execution? id = some execution ∧ execution.outcome.isActive = true

/-- Whether the operation at a position makes an active execution leave that state. -/
structure LeavesAt (catalog : Catalog) (operations : List Operation) (id : String)
    (position : Nat) : Prop where
  inside : position < operations.length
  before : (catalog.after (operations.take position)).ActiveIn id
  after : ¬ (catalog.after (operations.take (position + 1))).ActiveIn id

/-- A record that has left the active state is not active at any later position. -/
theorem LeavesAt.left {operations : List Operation} {position later : Nat}
    (leaves : catalog.LeavesAt operations id position) (order : position < later) :
    ¬ (catalog.after (operations.take later)).ActiveIn id := by
  rcases leaves.before with ⟨execution, found, active⟩
  have step : catalog.after (operations.take (position + 1)) = _ := after_take (Nat.le_succ _)
  rcases after_sameRun ((operations.take (position + 1)).drop position) found with ⟨left, here, -⟩
  rw [← step] at here
  have final : left.outcome.isActive = false := by
    cases state : left.outcome.isActive with
    | false => rfl
    | true => exact absurd ⟨left, here, state⟩ leaves.after
  have rest := after_settled ((operations.take later).drop (position + 1)) here final
  rw [← after_take order] at rest
  rintro ⟨other, there, stillActive⟩
  rw [rest] at there
  cases there
  rw [final] at stillActive
  cases stillActive

theorem LeavesAt.unique {operations : List Operation} {first second : Nat}
    (one : catalog.LeavesAt operations id first) (other : catalog.LeavesAt operations id second) :
    first = second := by
  rcases Nat.lt_trichotomy first second with earlier | same | later
  · exact absurd other.before (one.left earlier)
  · exact same
  · exact absurd one.before (other.left later)

/-! ## Ending an execution -/

theorem settle_final {now : Moment} {outcome : Outcome} (final : outcome.isActive = false) :
    ¬ (catalog.settle now id outcome).ActiveIn id := by
  rintro ⟨execution, found, active⟩
  rw [settle_execution?] at found
  rcases Option.map_eq_some_iff.mp found with ⟨before, known, rfl⟩
  rw [execution?_id known, if_pos (beq_self_eq_true id)] at active
  exact absurd (final.symm.trans active) (by decide)

/-- Cancelling succeeds exactly where the execution is active, and says so in its record. -/
theorem cancel_ok_iff (catalog : Catalog) (now : Moment) (id : String) :
    (∃ after, catalog.cancel now id = .ok after) ↔ catalog.ActiveIn id := by
  unfold cancel
  constructor
  · rintro ⟨after, answer⟩
    split at answer
    · cases answer
    · rename_i execution found
      split at answer
      · rename_i active
        exact ⟨execution, found, active⟩
      · cases answer
  · rintro ⟨execution, found, active⟩
    rw [found]
    dsimp only
    rw [if_pos active]
    exact ⟨_, rfl⟩

end Catalog

/-- Whether an operation is one of those that end an execution. -/
inductive Operation.Ends (id : String) : Operation → Prop where
  | complete (now : Moment) (output : String) (globals : Bindings) :
      Ends id (.complete now id output globals)
  | fail (now : Moment) (output : String) (fault : Fault) : Ends id (.fail now id output fault)
  | cancel (now : Moment) : Ends id (.cancel now id)

namespace Operation

variable {catalog changed : Catalog} {id : String} {operation : Operation}

theorem finish_final {now : Moment} {outcome : Outcome} (final : outcome.isActive = false)
    (answer : catalog.finish now id outcome = .ok changed) : ¬ changed.ActiveIn id := by
  unfold Catalog.finish at answer
  split at answer
  · cases answer
  · rename_i execution found
    split at answer
    · cases answer
      exact Catalog.settle_final final
    · rename_i idle
      cases answer
      rintro ⟨other, there, active⟩
      rw [found] at there
      cases there
      exact idle active

theorem finish_refused {now : Moment} {outcome : Outcome} {refusal : Refusal}
    (answer : catalog.finish now id outcome = .error refusal) : ¬ catalog.ActiveIn id := by
  unfold Catalog.finish at answer
  split at answer
  · rename_i unknown
    rintro ⟨execution, found, -⟩
    rw [unknown] at found
    cases found
  · split at answer <;> cases answer

/-- Whichever operation comes to end an execution, it is not active afterwards: either this
operation has ended it, or it had ended before. -/
theorem Ends.final (ends : operation.Ends id) : ¬ (operation.run catalog).ActiveIn id := by
  unfold run
  cases answer : operation.apply catalog with
  | ok changed =>
    cases ends with
    | complete now output globals => exact finish_final rfl answer
    | fail now output fault => exact finish_final rfl answer
    | cancel now =>
      change catalog.cancel now id = .ok changed at answer
      unfold Catalog.cancel at answer
      split at answer
      · cases answer
      · split at answer
        · cases answer
          exact Catalog.settle_final rfl
        · cases answer
  | error refusal =>
    cases ends with
    | complete now output globals => exact finish_refused answer
    | fail now output fault => exact finish_refused answer
    | cancel now =>
      intro active
      rcases (catalog.cancel_ok_iff now id).mpr active with ⟨after, fine⟩
      change catalog.cancel now id = .error refusal at answer
      rw [fine] at answer
      cases answer

theorem Ends.unknown (ends : operation.Ends id) {other : String}
    (unknown : catalog.execution? other = none) :
    (operation.run catalog).execution? other = none := by
  cases answer : operation.apply catalog with
  | error refusal =>
    rw [run_of_error answer]
    exact unknown
  | ok changed =>
    rw [run_of_ok answer]
    cases ends with
    | complete now output globals => exact Catalog.finish_unknown answer unknown
    | fail now output fault => exact Catalog.finish_unknown answer unknown
    | cancel now => exact Catalog.cancel_unknown answer unknown

/-- What is active afterwards was active before, and is another execution. -/
theorem Ends.active_before (ends : operation.Ends id) {other : String}
    (active : (operation.run catalog).ActiveIn other) : catalog.ActiveIn other ∧ id ≠ other := by
  constructor
  · rcases active with ⟨execution, found, going⟩
    cases known : catalog.execution? other with
    | none =>
      rw [ends.unknown known] at found
      cases found
    | some before =>
      rcases operation.moves known with ⟨moved, here, moves⟩
      obtain rfl : moved = execution := Option.some.inj (here.symm.trans found)
      cases moves with
      | stays => exact ⟨before, known, going⟩
      | ends _ final =>
        change _ = true at going
        rw [final] at going
        cases going
  · rintro rfl
    exact ends.final active

end Operation

end Service
end BigScript
