import BigScript.Proofs.Forward.Verb

/-!
# Only `keep` goes back

A statement answers with the index of its last token, and the run goes on behind it.  Of all
statements only the `keep` line of a loop answers with an index before its own: with the one before
the first line of the loop.  Every other statement, whatever it runs in between and whatever state it
finds, answers with an index that is not before its own.
-/

namespace BigScript

namespace TokenStream

variable (toks : TokenStream)

theorem le_bodyEnd (j : Nat) : j ≤ toks.bodyEnd j := by
  fun_induction bodyEnd toks j <;> omega

theorem le_paramsEnd (j : Nat) : j ≤ toks.paramsEnd j := by
  fun_induction paramsEnd toks j <;> omega

/-- Looking for the end of a loop from an index inside the script leads there or further. -/
theorem le_afterKeep {i j : Nat} (inside : i < toks.size) (behind : i ≤ j) (depth : Nat) :
    i ≤ toks.afterKeep depth j := by
  fun_induction afterKeep toks depth j with
  | case1 => omega
  | case2 depth j ahead open_ starts ih => exact ih (Nat.le_succ_of_le behind)
  | case3 j => exact Nat.le_trans behind (le_lineEnd j)
  | case4 depth j ahead open_ plain ends more ih => exact ih (Nat.le_succ_of_le behind)
  | case5 depth j ahead open_ plain other ih => exact ih (Nat.le_succ_of_le behind)
  | case6 => omega

end TokenStream

namespace Statement

variable (toks : TokenStream) (i : Nat)

/-! ## Assignments and branches -/

theorem assignAt_forward : Yields (assignAt toks i) (i ≤ ·.1) := by
  refine .ite (.andThen fun m => ?_) (.andThen fun m => ?_)
  · dsimp only
    split
    · exact .andThen fun _ => .pure (Nat.le_add_right i 4)
    · exact .pure (Nat.le_add_right i 4)
  · refine (Operand.assigned_forward toks (i + 2)).bind fun read further => .andThen fun later => ?_
    have ahead : i ≤ read.2 := by omega
    exact .ite (.pure ahead) (.andThen fun _ => .pure ahead)

theorem assign_forward : Forward i (assign toks i) :=
  (assignAt_forward toks i).bind fun _ ahead => .pure ahead

theorem assignWord_forward : Forward i (assignWord toks i) := by
  unfold assignWord
  refine .ite ((assignAt_forward toks (i + 1)).bind fun read further => ?_) (abandon_forward toks i)
  have ahead : i ≤ read.1 := Nat.le_of_succ_le further
  dsimp only
  split
  · split
    · refine .andThen fun m => ?_
      split
      · exact .ite (.andThen fun _ => .pure ahead) (.pure ahead)
      · exact .pure ahead
    · exact .pure ahead
  · exact .pure ahead

theorem giveBack_forward : Forward i (giveBack toks i) := by
  refine .ite (.andThen fun _ => .pure (Nat.le_refl i)) ?_
  refine (Operand.assigned_forward toks (i + 1)).bind fun read further => .andThen fun m => ?_
  have ahead : i ≤ read.2 := Nat.le_of_succ_le_succ further
  exact .ite (.pure ahead) (.andThen fun _ => .pure ahead)

theorem branch_forward : Forward i (branch toks i) := by
  have block := toks.le_skipBlock i (toks.peek i).column
  unfold branch
  dsimp only
  generalize toks.conditionRun (toks.peek i).line (i + 1) = length
  refine .andThen fun taken => ?_
  have goes : Forward i (if taken then
      if (toks.peek (i + 1 + length)).isSymbol .ampersand &&
          (toks.peek (i + 1 + length)).line == (toks.peek i).line
      then return i + 1 + length else return i + 1 + length - 1
      else return toks.skipBlock i (toks.peek i).column : Act Nat) :=
    .ite (.ite (.pure (by omega)) (.pure (by omega))) (.pure block)
  exact .ite (.andThen fun _ => .andThen fun _ => goes) (.andThen fun _ => goes)

theorem alternative_forward : Forward i (alternative toks i) := by
  have line : i ≤ toks.lineEnd i := TokenStream.le_lineEnd i
  have block : toks.lineEnd i + 1 ≤
      toks.blockEnd (toks.peek i).column false (toks.lineEnd i + 1) :=
    TokenStream.le_blockEnd _ false _
  refine .andThen fun m => .ite (.pure ?_) (.andThen fun _ => .pure (Nat.le_refl i))
  omega

theorem step_forward : Forward i (step toks i) := by
  have name := toks.le_bracedName (i + 1)
  unfold step
  refine .ite ?_ (abandon_forward toks i)
  refine (Operand.measure_forward toks ((toks.bracedName (i + 1)).2 + 2)).bind fun read further => ?_
  dsimp only
  unfold stepSpeed
  split
  · exact .andThen fun _ => abandon_forward toks i
  · rename_i speed last rate
    have behind : read.2 ≤ last := by
      split at rate
      · split at rate
        · cases rate; exact Nat.le_add_right _ _
        · cases rate
      · cases rate; exact Nat.le_refl _
    have ahead : i ≤ last := by omega
    exact .andThen fun _ => .andThen fun _ => .andThen fun _ => .pure ahead

/-! ## Functions and loops -/

theorem define_forward : Forward i (define toks i) := by
  have first : i + 3 ≤ (parameters toks (i + 2)).2 := by
    have closed := toks.le_paramsEnd (i + 2 + 2)
    unfold parameters
    split
    · change i + 3 ≤ toks.paramsEnd (i + 2 + 2) + 1
      omega
    · exact Nat.le_refl _
  unfold define
  generalize parameters toks (i + 2) = read at first ⊢
  have body := toks.le_bodyEnd read.2
  exact .andThen fun _ => .ite (.pure (by omega)) (.pure (by omega))

theorem openLoop_forward (options : Nat) (inside : i < toks.size) :
    Forward i (openLoop toks i options) := by
  have line : i ≤ toks.lineEnd i := TokenStream.le_lineEnd i
  unfold openLoop
  refine .andThen fun limit => .andThen fun walk => ?_
  dsimp only
  split
  · refine .ite (.pure (toks.le_afterKeep inside (Nat.le_succ_of_le line) 1)) ?_
    exact .andThen fun _ => .pure line
  · exact .andThen fun _ => .pure line

theorem leaveLoop_forward {j : Nat} (inside : i < toks.size) (behind : i ≤ j) :
    Forward i (leaveLoop toks j) := by
  refine .andThen fun m => ?_
  split
  · exact .andThen fun _ => .pure behind
  · exact .andThen fun _ => .pure (toks.le_afterKeep inside (Nat.le_succ_of_le behind) 1)

theorem stop_forward (inside : i < toks.size) : Forward i (stop toks i) := by
  have one : i ≤ i + 1 := Nat.le_succ i
  refine .ite (leaveLoop_forward toks i inside one) (.ite (.andThen fun _ => .pure one) (.ite ?_ ?_))
  · refine .andThen fun m => .andThen fun _ => .ite (.pure one) (.pure ?_)
    exact toks.le_afterKeep inside (Nat.le_add_right i 2) _
  · exact abandon_forward toks i

theorem skipBlock_forward : Forward i (skipBlock toks i) := .pure (toks.le_skipBlock i _)

theorem start_forward (inside : i < toks.size) : Forward i (start toks i) := by
  refine .ite (openLoop_forward toks i _ inside) (.ite (define_forward toks i) ?_)
  exact .ite (.andThen fun _ => skipBlock_forward toks i) (skipBlock_forward toks i)

/-! ## Statements that run other tokens -/

theorem arguments_forward (steps j : Nat) (read : List String) :
    ReadsFrom j (arguments toks steps j read) := by
  induction steps generalizing j read with
  | zero => exact .pure (Nat.le_refl j)
  | succ steps ih =>
    refine .ite (.pure (Nat.le_refl j)) (.ite ?_ ?_)
    · exact (ih (j + 1) read).mono fun _ further => Nat.le_of_succ_le further
    · refine (Operand.value_forward toks j).bind fun value ahead => ?_
      exact (ih (value.2 + 1) _).mono fun _ further => by omega

theorem callArguments_forward : ReadsFrom i (callArguments toks i) := by
  refine .ite ((arguments_forward toks _ (i + 2) []).bind fun read further => ?_)
    (.pure (Nat.le_refl i))
  exact .pure (toks.le_lastOf (Nat.le_of_succ_le further))

theorem call_forward (run : Runner) (head : Token) : Forward i (call run head toks i) := by
  refine (callArguments_forward toks i).bind fun read ahead => .andThen fun m => ?_
  split
  · exact .andThen fun _ => .pure ahead
  · exact .andThen fun _ => .andThen fun _ => .ite (.pure ahead) (finish_forward toks ahead _)

theorem callInBackground_forward (run : Runner) : Forward i (callInBackground run toks i) := by
  refine .andThen fun m => ?_
  split <;> exact .andThen fun _ => .pure (Nat.le_refl i)

theorem inline_forward (run : Runner) : Forward i (inline run toks i) := by
  have one : i ≤ i + 1 := Nat.le_succ i
  refine .ite (.andThen fun _ => .pure one) (.andThen fun m => ?_)
  split
  · exact .andThen fun _ => .pure one
  · refine .andThen fun _ => .andThen fun _ => .ite ?_ ?_
    · exact .andThen fun _ => .andThen fun _ => .pure one
    · exact .andThen fun _ => .andThen fun _ => .andThen fun _ => .pure one

theorem useFeature_forward : Forward i (useFeature toks i) := by
  have one : i ≤ i + 1 := Nat.le_succ i
  unfold useFeature
  dsimp only
  split
  · exact .andThen fun _ => .pure one
  · exact .andThen fun _ => .pure one
  · exact .andThen fun _ => .pure one
  · exact .ite (.andThen fun _ => .pure one) (.pure (Nat.le_refl i))
  · exact .ite (.andThen fun _ => .pure one) (.pure (Nat.le_refl i))

theorem use_forward (run : Runner) : Forward i (use run toks i) := by
  refine .andThen fun m => ?_
  split
  · rename_i path last included
    have ahead : i ≤ last := by
      unfold includedFile? at included
      split at included <;> cases included <;> omega
    exact .andThen fun _ => .pure ahead
  · exact useFeature_forward toks i

theorem runWord_forward (run : Runner) : Forward i (runWord run toks i) := by
  refine .ite ?sql (.ite ?background ?call)
  case sql => exact (Verb.sql_forward toks (i + 1)).mono fun _ => Nat.le_of_succ_le
  case background =>
    exact (callInBackground_forward toks (i + 2) run).mono fun _ further => by omega
  case call => exact (call_forward toks (i + 1) run _).mono fun _ => Nat.le_of_succ_le

/-! ## Every statement -/

theorem plain_forward : Forward i (plain toks i) :=
  .ite (assign_forward toks i) (.ite (abandon_forward toks i) (.pure (Nat.le_refl i)))

theorem direct_forward (inside : i < toks.size) (other : (toks.peek i).kind ≠ .word .keep) :
    Forward i (direct toks i) := by
  unfold direct
  split
  · exact giveBack_forward toks i
  · exact branch_forward toks i
  · exact alternative_forward toks i
  · exact start_forward toks i inside
  · exact openLoop_forward toks i _ inside
  · contradiction
  · exact stop_forward toks i inside
  · exact leaveLoop_forward toks i inside (Nat.le_refl i)
  · exact step_forward toks i
  · exact assignWord_forward toks i
  · exact assignWord_forward toks i
  · exact assignWord_forward toks i
  · exact skipBlock_forward toks i
  · exact skipBlock_forward toks i
  · exact skipBlock_forward toks i
  · exact .ite (skipBlock_forward toks i) (.pure (Nat.le_refl i))
  · exact .pure (Nat.le_refl i)
  · exact plain_forward toks i

/-- Behind the tokens of a script there is nothing to carry out. -/
theorem dispatch_outside (run : Runner) (outside : toks.size ≤ i) :
    dispatch run toks i = pure i := by
  have absent : toks.peek i = Token.absent := TokenStream.peek_of_le outside
  unfold dispatch direct plain TokenStream.isAssignment
  rw [absent]
  rfl

/-- Only `keep` goes back: any other statement, in whatever state and whatever it runs in between,
answers with its own index or a later one. -/
theorem dispatch_forward (run : Runner) (other : (toks.peek i).kind ≠ .word .keep) :
    Forward i (dispatch run toks i) := by
  rcases Nat.lt_or_ge i toks.size with inside | outside
  · unfold dispatch
    split
    · exact runWord_forward toks i run
    · exact inline_forward toks i run
    · exact use_forward toks i run
    · split
      · rename_i verb found
        exact Verb.lookup_forward found toks i
      · exact direct_forward toks i inside other
  · rw [dispatch_outside toks i run outside]
    exact .pure (Nat.le_refl i)

/-- However a nested stream ends, the statement that has run it does not go back either. -/
theorem complete_forward {m : Machine} {nested : Nested} (runs : nested? toks i m = some nested)
    (out : Machine) : i ≤ (nested.complete out).1 := by
  have other : (toks.peek i).kind ≠ .word .keep := by
    intro keeps
    simp only [nested?, keeps, reduceCtorEq] at runs
  -- A runner that leaves the given machine behind, whatever it is to run.
  have ahead := dispatch_forward toks i (fun _ => set out) other m
  rw [dispatch_run, runs] at ahead
  exact ahead

end Statement
end BigScript
