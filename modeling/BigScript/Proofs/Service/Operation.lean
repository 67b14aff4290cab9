import BigScript.Service.Catalog

/-!
# Operations on the catalog

Everything that changes the catalog is one of seven operations, each of them indivisible.  Clients and
runs carry them out in any order, so that what can happen to the catalog is what a sequence of
operations can do to it.  Looking scripts and executions up changes nothing and is no operation.

`Operation.moves` says once what an operation can do to the record of an execution: nothing, or end
it while it is active.  Everything that is known about the records follows from this.
-/

namespace BigScript
namespace Service

/-- Something that changes the catalog. -/
inductive Operation where
  | put (now : Moment) (name source : String)
  | create (now : Moment) (name source : String)
  | delete (name : String)
  | begin (now : Moment) (id name : String) (args : List String)
  | complete (now : Moment) (id output : String) (globals : Bindings)
  | fail (now : Moment) (id output : String) (fault : Fault)
  | cancel (now : Moment) (id : String)

namespace Operation

/-- What the catalog answers to an operation. -/
def apply (catalog : Catalog) : Operation → Except Refusal Catalog
  | .put now name source => .ok (catalog.put now name source).2.2
  | .create now name source => (catalog.create now name source).map Prod.snd
  | .delete name => catalog.delete name
  | .begin now id name args => (catalog.begin now id name args).map Prod.snd
  | .complete now id output globals => catalog.complete now id output globals
  | .fail now id output fault => catalog.fail now id output fault
  | .cancel now id => catalog.cancel now id

/-- The catalog after an operation.  One that is refused leaves it as it was. -/
def run (catalog : Catalog) (operation : Operation) : Catalog :=
  match operation.apply catalog with
  | .ok after => after
  | .error _ => catalog

theorem run_of_ok {catalog after : Catalog} {operation : Operation}
    (answer : operation.apply catalog = .ok after) : operation.run catalog = after := by
  rw [run, answer]

theorem run_of_error {catalog : Catalog} {refusal : Refusal} {operation : Operation}
    (answer : operation.apply catalog = .error refusal) : operation.run catalog = catalog := by
  rw [run, answer]

end Operation

/-- What an operation can do to the record of an execution. -/
inductive Moves (before : Execution) : Execution → Prop where
  | stays : Moves before before
  | ends {now : Moment} {outcome : Outcome} (active : before.outcome.isActive = true)
      (final : outcome.isActive = false) :
      Moves before { before with outcome, ended := some now }

/-- The record of an execution that has just begun. -/
structure Begun (id : String) (execution : Execution) : Prop where
  id : execution.id = id
  active : execution.outcome = .active
  unended : execution.ended = none

namespace Catalog

/-- The catalog after operations in their order. -/
def after (catalog : Catalog) (operations : List Operation) : Catalog :=
  operations.foldl Operation.run catalog

theorem after_append (catalog : Catalog) (first second : List Operation) :
    catalog.after (first ++ second) = (catalog.after first).after second :=
  List.foldl_append

theorem after_take {catalog : Catalog} {operations : List Operation} {first second : Nat}
    (order : first ≤ second) :
    catalog.after (operations.take second) =
      (catalog.after (operations.take first)).after ((operations.take second).drop first) := by
  rw [← after_append]
  congr 1
  have cut := List.take_append_drop first (operations.take second)
  rw [List.take_take, Nat.min_eq_left order] at cut
  exact cut.symm

/-! ## Records under a single operation -/

variable {catalog changed : Catalog} {id name : String} {execution : Execution} {now : Moment}

theorem execution?_id (found : catalog.execution? id = some execution) : execution.id = id := by
  have same := List.find?_some found
  exact eq_of_beq same

theorem settle_execution? (catalog : Catalog) (now : Moment) (id other : String)
    (outcome : Outcome) :
    (catalog.settle now id outcome).execution? other =
      (catalog.execution? other).map fun execution =>
        if execution.id == id then { execution with outcome, ended := some now } else execution := by
  unfold settle execution?
  rw [List.find?_map]
  congr 1
  congr 1
  funext execution
  dsimp only [Function.comp]
  split <;> rfl

/-- Ending an execution touches no other one. -/
theorem settle_moves (active : ∀ ended ∈ catalog.execution? id, ended.outcome.isActive = true)
    {outcome : Outcome} (final : outcome.isActive = false) {other : String}
    (found : catalog.execution? other = some execution) :
    ∃ moved, (catalog.settle now id outcome).execution? other = some moved ∧
      Moves execution moved := by
  rw [settle_execution?, found]
  refine ⟨_, rfl, ?_⟩
  dsimp only
  split
  · rename_i same
    obtain rfl : other = id := (execution?_id found).symm.trans (eq_of_beq same)
    exact .ends (active _ found) final
  · exact .stays

theorem finish_moves {outcome : Outcome} (final : outcome.isActive = false) {other : String}
    (answer : catalog.finish now id outcome = .ok changed)
    (found : catalog.execution? other = some execution) :
    ∃ moved, changed.execution? other = some moved ∧ Moves execution moved := by
  unfold finish at answer
  split at answer
  · cases answer
  · rename_i ended known
    split at answer
    · rename_i active
      cases answer
      refine settle_moves ?_ final found
      intro same here
      rw [known] at here
      cases here
      exact active
    · cases answer
      exact ⟨execution, found, .stays⟩

theorem cancel_moves {other : String} (answer : catalog.cancel now id = .ok changed)
    (found : catalog.execution? other = some execution) :
    ∃ moved, changed.execution? other = some moved ∧ Moves execution moved := by
  unfold cancel at answer
  split at answer
  · cases answer
  · rename_i ended known
    split at answer
    · rename_i active
      cases answer
      refine settle_moves ?_ rfl found
      intro same here
      rw [known] at here
      cases here
      exact active
    · cases answer

theorem settle_unknown {outcome : Outcome} {other : String}
    (unknown : catalog.execution? other = none) :
    (catalog.settle now id outcome).execution? other = none := by
  rw [settle_execution?, unknown]
  rfl

/-- What ends an execution makes no record. -/
theorem finish_unknown {outcome : Outcome} {other : String}
    (answer : catalog.finish now id outcome = .ok changed)
    (unknown : catalog.execution? other = none) : changed.execution? other = none := by
  unfold finish at answer
  split at answer
  · cases answer
  · split at answer
    · cases answer
      exact settle_unknown unknown
    · cases answer
      exact unknown

theorem cancel_unknown {other : String} (answer : catalog.cancel now id = .ok changed)
    (unknown : catalog.execution? other = none) : changed.execution? other = none := by
  unfold cancel at answer
  split at answer
  · cases answer
  · split at answer
    · cases answer
      exact settle_unknown unknown
    · cases answer

/-- An execution that begins leaves the records alone that are there. -/
theorem begin_execution? {args : List String} {begun : Execution}
    (answer : catalog.begin now id name args = .ok (begun, changed)) (other : String) :
    changed.execution? other =
      (catalog.execution? other).or (if id == other then some begun else none) ∧
      Begun id begun := by
  unfold begin at answer
  split at answer
  · cases answer
  · cases answer
    refine ⟨?_, rfl, rfl, rfl⟩
    unfold execution?
    rw [List.find?_append]
    congr 1
    rw [List.find?_cons]
    cases id == other <;> rfl

theorem create_executions {source : String} {script : Script}
    (answer : catalog.create now name source = .ok (script, changed)) :
    changed.executions = catalog.executions := by
  unfold create at answer
  split at answer
  · cases answer
  · cases answer
    rfl

theorem delete_executions (answer : catalog.delete name = .ok changed) :
    changed.executions = catalog.executions := by
  unfold delete at answer
  split at answer
  · cases answer
  · cases answer
    rfl

/-- An operation on scripts finds the records as they were. -/
theorem execution?_of_executions (same : changed.executions = catalog.executions) (id : String) :
    changed.execution? id = catalog.execution? id := by
  rw [execution?, execution?, same]

end Catalog

namespace Operation

variable {catalog changed : Catalog} {id : String} {execution : Execution}

theorem snd_of_map {α : Type} {answer : Except Refusal (α × Catalog)}
    (mapped : answer.map Prod.snd = .ok changed) : ∃ value, answer = .ok (value, changed) := by
  cases answer with
  | error _ => cases mapped
  | ok pair =>
    cases mapped
    exact ⟨pair.1, rfl⟩

theorem apply_moves {operation : Operation} (answer : operation.apply catalog = .ok changed)
    (found : catalog.execution? id = some execution) :
    ∃ moved, changed.execution? id = some moved ∧ Moves execution moved := by
  have scripts (same : changed.executions = catalog.executions) :
      ∃ moved, changed.execution? id = some moved ∧ Moves execution moved :=
    ⟨execution, (Catalog.execution?_of_executions same id).trans found, .stays⟩
  cases operation with
  | put now name source =>
    cases answer
    exact scripts rfl
  | create now name source =>
    rcases snd_of_map answer with ⟨script, created⟩
    exact scripts (Catalog.create_executions created)
  | delete name => exact scripts (Catalog.delete_executions answer)
  | begin now other name args =>
    rcases snd_of_map answer with ⟨begun, started⟩
    refine ⟨execution, ?_, .stays⟩
    rw [(Catalog.begin_execution? started id).1, found]
    rfl
  | complete now other output globals => exact Catalog.finish_moves rfl answer found
  | fail now other output fault => exact Catalog.finish_moves rfl answer found
  | cancel now other => exact Catalog.cancel_moves answer found

/-- The record of an execution stays, or ends while it is active. -/
theorem moves (operation : Operation) (found : catalog.execution? id = some execution) :
    ∃ moved, (operation.run catalog).execution? id = some moved ∧ Moves execution moved := by
  cases answer : operation.apply catalog with
  | error refusal =>
    rw [run_of_error answer]
    exact ⟨execution, found, .stays⟩
  | ok changed =>
    rw [run_of_ok answer]
    exact apply_moves answer found

/-- A record appears as that of an execution that has just begun. -/
theorem begins (operation : Operation) (unknown : catalog.execution? id = none)
    (found : (operation.run catalog).execution? id = some execution) : Begun id execution := by
  cases answer : operation.apply catalog with
  | error refusal =>
    rw [run_of_error answer, unknown] at found
    cases found
  | ok changed =>
    rw [run_of_ok answer] at found
    have absent (still : changed.execution? id = none) : Begun id execution := by
      rw [still] at found
      cases found
    have scripts (same : changed.executions = catalog.executions) : Begun id execution :=
      absent ((Catalog.execution?_of_executions same id).trans unknown)
    cases operation with
    | put now name source =>
      cases answer
      exact scripts rfl
    | create now name source =>
      rcases snd_of_map answer with ⟨script, created⟩
      exact scripts (Catalog.create_executions created)
    | delete name => exact scripts (Catalog.delete_executions answer)
    | begin now other name args =>
      rcases snd_of_map answer with ⟨begun, started⟩
      rcases Catalog.begin_execution? started id with ⟨looked, fresh⟩
      rw [looked, unknown, Option.none_or] at found
      split at found
      · rename_i same
        cases found
        exact eq_of_beq same ▸ fresh
      · cases found
    | complete now other output globals => exact absent (Catalog.finish_unknown answer unknown)
    | fail now other output fault => exact absent (Catalog.finish_unknown answer unknown)
    | cancel now other => exact absent (Catalog.cancel_unknown answer unknown)

end Operation
end Service
end BigScript
