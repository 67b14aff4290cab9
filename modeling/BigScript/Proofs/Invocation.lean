import BigScript.Proofs.Activation

/-!
# Calls put back the control state

A call opens a local frame, an entry in the list of open calls and a level of depth, and it starts
its body with no open loop.  The body may end in any way: at its end, by a `return` inside loops,
by a stop of the run, by a bug nobody checked, or because the bound on steps is used up.  However it
ends, the call leaves the frames, the open calls, the depth, the loops and the flag of a chain of
branches as they were.

Frames, open calls and depth are balanced over every walk through tokens, by induction on the bound
on steps.  Loops and the flag are not: a walk may leave loops open and set the flag.  The call puts
them back itself, whatever its body has done.
-/

namespace BigScript

/-- What every walk through tokens leaves as it was. -/
structure Balanced (before after : Machine) : Prop where
  frames : after.locals.length = before.locals.length
  calls : after.calls = before.calls
  depth : after.depth = before.depth

namespace Balanced

variable {before middle after : Machine}

theorem trans (first : Balanced before middle) (second : Balanced middle after) :
    Balanced before after where
  frames := second.frames.trans first.frames
  calls := second.calls.trans first.calls
  depth := second.depth.trans first.depth

theorem of_contained {free : String → Prop} (contained : Contained before after free) :
    Balanced before after where
  frames := contained.frames
  calls := contained.calls
  depth := contained.depth

theorem of_same (same : SameControl before after) : Balanced before after :=
  of_contained (.of_same same)

end Balanced

namespace Machine

/-- What a call has opened it closes again. -/
theorem leave_balanced {before out : Machine} (procedure : Procedure) (args : List String)
    (line column : Nat) (inner : Balanced (before.entered procedure args line column) out) :
    Balanced before (before.leave out) := by
  have ended := out.endInvocation_contained
  exact {
    frames := by
      change (out.endInvocation.locals.drop 1).length = before.locals.length
      rw [List.length_drop, ended.frames, inner.frames]
      rfl
    calls := by
      change out.endInvocation.calls.drop 1 = before.calls
      rw [ended.calls, inner.calls]
      rfl
    depth := by
      change out.endInvocation.depth - 1 = before.depth
      rw [ended.depth, inner.depth]
      rfl }

end Machine

theorem Nests.balanced {toks : TokenStream} {m out : Machine} {nested : Nested}
    (nests : Nests toks m nested) (inner : Balanced nested.entry out) :
    Balanced m (nested.complete out).2 := by
  cases nests with
  | @call ready procedure name last head args read found shallow =>
      have left : Balanced m (ready.leave out) :=
        (Balanced.of_same read).trans (Machine.leave_balanced _ _ _ _ inner)
      change Balanced m (if (ready.leave out).halt.isSome then (last, ready.leave out)
        else (Statement.finish toks last _).run (ready.leave out)).2
      split
      · exact left
      · exact left.trans (.of_same ((Statement.finish_routine toks last _).steady _))
  | background last found =>
      exact { frames := rfl, calls := rfl, depth := rfl }
  | inline last found shallow =>
      exact {
        frames := inner.frames
        calls := inner.calls
        depth := by
          change out.depth - 1 = m.depth
          rw [inner.depth]
          rfl }
  | source last found => exact inner

namespace Machine

/-- Every walk through tokens leaves the frames, the open calls and the depth as they were. -/
theorem exec_balanced (steps : Nat) (toks : TokenStream) (i : Nat) (m : Machine) :
    Balanced m (exec steps toks i m) := by
  induction steps generalizing toks i m with
  | zero => exact { frames := rfl, calls := rfl, depth := rfl }
  | succ steps ih =>
      rw [exec_succ]
      have arrival := arrives toks i m
      cases arrived : m.arrive toks i with
      | ends out =>
          rw [arrived] at arrival
          exact .of_contained arrival.ends_contained
      | ready ready =>
          rw [arrived] at arrival
          refine (Balanced.of_contained arrival.ready_contained).trans ?_
          dsimp only
          cases runs : Statement.nested? toks i ready with
          | none =>
              have alone := Statement.dispatch_contained toks i runs
              exact (Balanced.of_contained alone).trans (ih toks _ _)
          | some nested =>
              have inner := ih nested.inner 0 nested.entry
              have completed := (Statement.nested?_nests runs).balanced inner
              exact completed.trans (ih toks _ _)

end Machine

namespace Statement

/-- However the body of a function ends, a call of it leaves the frames, the open calls, the depth,
the loops and the flag of a chain as they were, and no `return` is under way unless the body was not
entered and one was under way before. -/
theorem invoke_discipline (steps : Nat) (procedure : Procedure) (args : List String)
    (line column : Nat) (m : Machine) :
    let run : Runner := fun inner => modify (Machine.exec steps inner 0)
    let after := ((invoke run procedure args line column).run m).2
    after.locals.length = m.locals.length ∧ after.calls = m.calls ∧ after.depth = m.depth ∧
      after.loops = m.loops ∧ after.taken = m.taken ∧
      after.returning = (m.returning && decide (m.depth + 1 > deepestCall)) := by
  intro run after
  by_cases deep : m.depth + 1 > deepestCall
  · have stopped : after = m.stop (.stackOverflow deepestCall) := by
      change ((invoke run procedure args line column).run m).2 = _
      rw [invoke_run, if_pos deep]
    rw [stopped, Machine.stop_eq, decide_eq_true deep, Bool.and_true]
    exact ⟨rfl, rfl, rfl, rfl, rfl, rfl⟩
  · have left : after = m.leave (Machine.exec steps procedure.body 0
        (m.entered procedure args line column)) := by
      change ((invoke run procedure args line column).run m).2 = _
      rw [invoke_run, if_neg deep]
      rfl
    have balanced := Machine.leave_balanced procedure args line column
      (Machine.exec_balanced steps procedure.body 0 (m.entered procedure args line column))
    rw [← left] at balanced
    refine ⟨balanced.frames, balanced.calls, balanced.depth, ?_, ?_, ?_⟩
    · rw [left]
      rfl
    · rw [left]
      rfl
    · rw [left, decide_eq_false deep, Bool.and_false]
      rfl

end Statement
end BigScript
