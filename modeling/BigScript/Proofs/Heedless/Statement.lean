import BigScript.Proofs.Checked.Run
import BigScript.Proofs.Routine.Statement

/-!
# No statement looks back

The control flow reads loops, calls, flags and the pending bug, and never the diary.  What a statement
hands to its runner is heedless as soon as the runner is, so that by induction on its steps a whole
walk is: `exec_heedless`.
-/

namespace BigScript

theorem Walk.bindItem_blind (walk : Walk) : Blind walk.bindItem := by
  let item := walk.items.getD walk.cursor ""
  have named : Blind fun m => if walk.itemName.isEmpty then m else m.assign walk.itemName item :=
    .ite .id (Machine.assign_blind walk.itemName item)
  have valued : Blind fun m =>
      if walk.valueName.isEmpty then m
      else if walk.isMap then m.assign walk.valueName (Value.fieldOrNothing walk.raw item)
      else m.assign walk.valueName (Number.digitText (walk.cursor + 1)) :=
    .ite .id (.ite (Machine.assign_blind walk.valueName _) (Machine.assign_blind walk.valueName _))
  exact named.comp valued

namespace Statement

variable (toks : TokenStream) (i : Nat)

/-! ## The control flow -/

theorem giveBack_heedless : Heedless (giveBack toks i) := by
  have gives (value : String) :
      Blind fun m => { m.setGlobal "ReturnValue" value with returning := true } :=
    .plain rfl rfl
  refine .ite (.bind (.modify (gives "")) fun _ => .pure _) ?_
  refine (Operand.assigned_routine toks _).heedless.bind fun _ => .look rfl fun _ => ?_
  exact .ite (.pure _) (.bind (.modify (gives _)) fun _ => .pure _)

theorem define_heedless : Heedless (define toks i) := by
  unfold define
  refine .bind (.modify (.plain rfl rfl)) fun _ => ?_
  exact .ite (.pure _) (.pure _)

theorem openLoop_heedless (options : Nat) : Heedless (openLoop toks i options) := by
  refine (loopLimit_routine toks _ _).heedless.bind fun limit =>
    (loopWalk?_routine toks _ _).heedless.bind fun walk => ?_
  have opened (walk : Walk) (frame : LoopFrame) :
      Blind fun m => { walk.bindItem m with loops := frame :: m.loops } := by
    refine ⟨walk.bindItem_blind.settings, fun m written diary => ?_⟩
    rcases walk.bindItem_blind.diary m written diary with ⟨later, same⟩
    refine ⟨later, ?_⟩
    rw [same]
    rfl
  dsimp only
  split
  · exact .ite (.pure _) (.bind (.modify (opened _ _)) fun _ => .pure _)
  · exact .bind (.modify (.plain rfl rfl)) fun _ => .pure _

theorem start_heedless : Heedless (start toks i) := by
  refine .ite (openLoop_heedless toks i _) (.ite (define_heedless toks i) ?_)
  exact .ite ((printLine_routine _).heedless.bind fun _ => .pure _) (.pure _)

theorem goBack_heedless (frame : LoopFrame) : Heedless (goBack frame) :=
  .bind (.modify (.plain rfl rfl)) fun _ => .pure _

theorem setLoops_blind (loops : List LoopFrame) : Blind fun m => { m with loops } :=
  .plain rfl rfl

theorem stopped_heedless (cause : Cause) (last : Nat) :
    Heedless (do modify (Machine.stop cause); return last : Act Nat) :=
  .bind (.modify (Machine.stop_blind cause)) fun _ => .pure _

theorem leaveLoop_heedless : Heedless (leaveLoop toks i) := by
  refine .look rfl fun m => ?_
  split
  · exact stopped_heedless _ _
  · exact .bind (.modify (setLoops_blind _)) fun _ => .pure _

theorem stop_heedless : Heedless (stop toks i) := by
  refine .ite (leaveLoop_heedless toks _) (.ite ?_ (.ite ?_ (.pure _)))
  · exact .bind (.modify (.plain rfl rfl)) fun _ => .pure _
  · exact .look rfl fun _ => .bind (.modify (setLoops_blind [])) fun _ => .ite (.pure _) (.pure _)

theorem keep_heedless : Heedless (keep toks i) := by
  refine .look rfl fun m => ?_
  split
  · exact stopped_heedless _ _
  · refine .bind (.modify (setLoops_blind _)) fun _ => .ite (.pure _) ?_
    split
    · exact .ite (.bind (.modify (Walk.bindItem_blind _)) fun _ => goBack_heedless _) (.pure _)
    · refine .ite (.pure _) (.ite (goBack_heedless _) ?_)
      exact (Condition.holds_routine _).heedless.bind fun _ => .ite (goBack_heedless _) (.pure _)

theorem branch_heedless : Heedless (branch toks i) := by
  refine (Condition.holds_routine _).heedless.bind fun taken => ?_
  have entered : Heedless (do
      modify fun m => { m with taken }
      if taken then
        if (toks.peek (i + 1 + toks.conditionRun (toks.peek i).line (i + 1))).isSymbol .ampersand &&
            (toks.peek (i + 1 + toks.conditionRun (toks.peek i).line (i + 1))).line ==
              (toks.peek i).line
        then return i + 1 + toks.conditionRun (toks.peek i).line (i + 1)
        else return i + 1 + toks.conditionRun (toks.peek i).line (i + 1) - 1
      else return toks.skipBlock i (toks.peek i).column : Act Nat) :=
    .bind (.modify (.plain rfl rfl)) fun _ =>
      .ite (.ite (.pure _) (.pure _)) (.pure _)
  exact .ite (.bind (.modify (.plain rfl rfl)) fun _ => entered) entered

theorem alternative_heedless : Heedless (alternative toks i) := by
  refine .look rfl fun m => .ite (.pure _) ?_
  exact .bind (.modify (.plain rfl rfl)) fun _ => .pure _

theorem direct_heedless : Heedless (direct toks i) := by
  unfold direct
  split
  · exact giveBack_heedless toks i
  · exact branch_heedless toks i
  · exact alternative_heedless toks i
  · exact start_heedless toks i
  · exact openLoop_heedless toks i _
  · exact keep_heedless toks i
  · exact stop_heedless toks i
  · exact leaveLoop_heedless toks i
  · exact (step_routine toks i).heedless
  · exact (assignWord_routine toks i).heedless
  · exact (assignWord_routine toks i).heedless
  · exact (assignWord_routine toks i).heedless
  · exact .pure _
  · exact .pure _
  · exact .pure _
  · exact .ite (.pure _) (.pure _)
  · exact .pure _
  · exact (plain_routine toks i).heedless

/-! ## Statements that run other tokens -/

section Runner

variable {run : Runner} (inner : ∀ toks, Heedless (run toks))
include inner

theorem invoke_heedless (procedure : Procedure) (args : List String) (line column : Nat) :
    Heedless (invoke run procedure args line column) := by
  refine .look rfl fun before => ?_
  refine .bind (.modify (.plain rfl rfl)) fun _ => .ite ?_ ?_
  · refine .bind (.modify (Machine.stop_blind _)) fun _ => ?_
    exact .bind (.modify (.plain rfl rfl)) fun _ => .pure _
  · refine .bind (.modify (.plain rfl rfl)) fun _ => ?_
    refine .bind (.modify (.plain rfl rfl)) fun _ => (inner _).bind fun _ => ?_
    refine .bind (.modify Machine.endInvocation_blind) fun _ => ?_
    refine .bind (.modify (.plain rfl rfl)) fun _ => .look rfl fun _ => .pure _

/-- The thread of the caller comes back as it was, with its part of the diary. -/
theorem inBackground_heedless (procedure : Procedure) : Heedless (inBackground run procedure) where
  settings m :=
    (invoke_heedless inner procedure [] m.line m.column).settings
      { m with toThread := { lastReading := m.elapsed } }
  diary m written diary := by
    have called := invoke_heedless inner procedure [] m.line m.column
    rcases called.diary { m with toThread := { lastReading := m.elapsed } } written
        { log := diary.log, traced := 0, raises := [] } with ⟨later, same⟩
    refine ⟨{ log := later.log, traced := diary.traced, raises := diary.raises }, Prod.ext rfl ?_⟩
    change { ((invoke run procedure [] m.line m.column).run (Machine.recalling written
        { log := diary.log, traced := 0, raises := [] }
        { m with toThread := { lastReading := m.elapsed } })).2 with
      toThread := (m.recalling written diary).toThread } = _
    rw [same]
    rfl

theorem call_heedless (head : Token) : Heedless (call run head toks i) := by
  refine (callArguments_routine toks i).heedless.bind fun read => .look rfl fun m => ?_
  split
  · exact (raise_routine (undefinedFunction_ne _)).heedless.bind fun _ => .pure _
  · refine (invoke_heedless inner _ _ _ _).bind fun _ => .look rfl fun _ => .ite (.pure _) ?_
    exact (finish_routine toks _ _).heedless

theorem callInBackground_heedless : Heedless (callInBackground run toks i) := by
  refine .look rfl fun m => ?_
  split
  · exact (raise_routine (undefinedFunction_ne _)).heedless.bind fun _ => .pure _
  · exact (inBackground_heedless inner _).bind fun _ => .pure _

theorem inline_heedless : Heedless (inline run toks i) := by
  refine .ite (.bind (.modify (.plain rfl rfl)) fun _ => .pure _) ?_
  refine .look rfl fun m => ?_
  split
  · exact (raise_routine (undefinedFunction_ne _)).heedless.bind fun _ => .pure _
  · refine .look rfl fun before => ?_
    refine .bind (.modify (.plain rfl rfl)) fun _ => .ite ?_ ?_
    · refine .bind (.modify (Machine.stop_blind _)) fun _ => ?_
      exact .bind (.modify (.plain rfl rfl)) fun _ => .pure _
    · refine .bind (.modify (setLoops_blind [])) fun _ => (inner _).bind fun _ => ?_
      exact .bind (.modify (.plain rfl rfl)) fun _ => .pure _

theorem includeFile_heedless (path : String) : Heedless (includeFile run path) := by
  refine .look rfl fun m => ?_
  split
  · exact (raise_routine (by simp)).heedless
  · exact inner _

theorem use_heedless : Heedless (use run toks i) := by
  refine .look rfl fun m => ?_
  split
  · exact (includeFile_heedless inner _).bind fun _ => .pure _
  · exact (useFeature_routine toks i).heedless

theorem runWord_heedless : Heedless (runWord run toks i) :=
  .ite (Verb.sql_routine toks _).heedless
    (.ite (callInBackground_heedless toks _ inner) (call_heedless toks _ inner _))

theorem dispatch_heedless : Heedless (dispatch run toks i) := by
  unfold dispatch
  split
  · exact runWord_heedless toks i inner
  · exact inline_heedless toks i inner
  · exact use_heedless toks i inner
  · split
    · rename_i found
      exact Verb.lookup_heedless inner found toks i
    · exact direct_heedless toks i

end Runner
end Statement

/-! ## Walks -/

namespace Machine

theorem trace_blind (t : Token) : Blind (trace t) where
  settings m := by
    unfold trace
    split <;> rfl
  diary m written diary := by
    -- Whether the line is logged depends on what was logged last, which is in the diary itself.
    unfold trace
    split
    · split <;> exact ⟨{ log := _, traced := _, raises := diary.raises }, rfl⟩
    · split <;> exact ⟨{ log := _, traced := _, raises := diary.raises }, rfl⟩

theorem moveTo_blind (t : Token) : Blind (moveTo t) := by
  have placed : Blind fun m => { m with line := t.line, column := t.column } :=
    .plain rfl rfl
  exact (trace_blind t).comp placed

end Machine

namespace Statement

theorem exec_heedless (steps : Nat) (toks : TokenStream) (i : Nat) :
    Heedless (modify (Machine.exec steps toks i) : Act Unit) := by
  induction steps generalizing toks i with
  | zero => exact .modify (.plain rfl rfl)
  | succ steps ih =>
    rw [Checked.exec_act]
    refine .ite (.look rfl fun m => .ite (.pure _) ?_) (.pure _)
    split
    · exact .modify (Machine.stop_blind _)
    · refine .ite (.pure _) (.bind (.modify (Machine.moveTo_blind _)) fun _ => .look rfl fun m => ?_)
      refine .ite (.modify Machine.stopOnBug_blind) ?_
      refine .bind (.modify (.plain rfl rfl)) fun _ => ?_
      exact (dispatch_heedless toks i fun inner => ih inner 0).bind fun last => ih toks (last + 1)

end Statement

theorem Machine.exec_blind (steps : Nat) (toks : TokenStream) (i : Nat) : Blind (exec steps toks i) where
  settings := (Statement.exec_heedless steps toks i).settings
  diary m written diary := by
    rcases (Statement.exec_heedless steps toks i).diary m written diary with ⟨later, same⟩
    exact ⟨later, congrArg Prod.snd same⟩

end BigScript
