import BigScript.Proofs.Layout
import BigScript.Proofs.Steady.Statement

/-!
# Walks through tokens

`exec` walks through a stream and runs nested streams by calling itself.  Here it is taken apart:
`arrive` says what happens when the walk comes to a token, before any statement is carried out, and
`exec_succ` puts a walk together from arrivals, single statements and nested streams.  `Arrives` and
`Nests` list what an arrival and a nested stream can be, once and with everything that later
arguments need to know about each case.
-/

namespace BigScript

/-- What happens when a walk comes to a token: the walk is over, or a statement begins. -/
inductive Arrival where
  | ends (machine : Machine)
  | ready (machine : Machine)

namespace Arrival

/-- Whether a statement begins, in a machine that passes a check. -/
def readyFor (check : Machine → Bool) : Arrival → Bool
  | ends _ => false
  | ready m => check m

theorem exists_of_readyFor {check : Machine → Bool} {arrival : Arrival}
    (passes : arrival.readyFor check = true) : ∃ m, arrival = ready m ∧ check m = true := by
  cases arrival with
  | ends out => cases passes
  | ready m => exact ⟨m, rfl, passes⟩

end Arrival

namespace Machine

open Statement

/-- The machine in which the statement at a token begins. -/
def begun (t : Token) (m : Machine) : Machine :=
  { m.moveTo t with elapsed := (m.moveTo t).elapsed + statementTime }

variable (toks : TokenStream) (i : Nat) (m : Machine)

/-- Comes to the token at an index. -/
def arrive : Arrival :=
  if h : i < toks.size then
    if m.isStopped then .ends m
    else
      match m.cancellation? with
      | some reason => .ends (m.stop (.cancelled (some reason)))
      | none =>
        if toks[i].isFinish then .ends m
        else
          if (m.moveTo toks[i]).bug.isSome && !toks.asksForBug i
          then .ends (m.moveTo toks[i]).stopOnBug
          else .ready (m.begun toks[i])
  else .ends m

theorem arrive_of_stopped (stopped : m.isStopped = true) : m.arrive toks i = .ends m := by
  unfold arrive
  by_cases inside : i < toks.size
  · rw [dif_pos inside, if_pos stopped]
  · rw [dif_neg inside]

theorem exec_succ (steps : Nat) :
    exec (steps + 1) toks i m =
      match m.arrive toks i with
      | .ends m => m
      | .ready m =>
        match nested? toks i m with
        | some nested =>
          let done := nested.complete (exec steps nested.inner 0 nested.entry)
          exec steps toks (done.1 + 1) done.2
        | none =>
          let done := (dispatch idle toks i).run m
          exec steps toks (done.1 + 1) done.2 := by
  rw [exec]
  unfold arrive
  split
  case isFalse => rfl
  case isTrue inside =>
    by_cases stopped : m.isStopped
    · rw [if_pos stopped, if_pos stopped]
    · rw [if_neg stopped, if_neg stopped]
      cases m.cancellation? with
      | some reason => rfl
      | none =>
        dsimp only
        by_cases finished : toks[i].isFinish
        · rw [if_pos finished, if_pos finished]
        · rw [if_neg finished, if_neg finished]
          by_cases bugged : (m.moveTo toks[i]).bug.isSome && !toks.asksForBug i
          · rw [if_pos bugged, if_pos bugged]
          · rw [if_neg bugged, if_neg bugged, dispatch_run]
            dsimp only
            change (match (match nested? toks i (m.begun toks[i]) with
                | some nested => nested.outcome fun inner => modify (exec steps inner 0)
                | none => (dispatch idle toks i).run (m.begun toks[i])) with
              | (last, m) => exec steps toks (last + 1) m) = _
            cases nested? toks i (m.begun toks[i]) <;> rfl

end Machine

/-! ## Arrivals -/

/-- What an arrival can be. -/
inductive Arrives (toks : TokenStream) (i : Nat) (m : Machine) : Arrival → Prop where
  /-- The stream has come to its end, or the walk has been stopped before. -/
  | still (settled : m.isStopped ∨ (toks.peek i).isFinish) : Arrives toks i m (.ends m)
  | cancelled {reason : String} (going : m.isStopped = false)
      (called : m.cancellation? = some reason) :
      Arrives toks i m (.ends (m.stop (.cancelled (some reason))))
  | bug (going : m.isStopped = false) (pending : m.bug.isSome) (other : toks.asksForBug i = false) :
      Arrives toks i m (.ends (m.moveTo (toks.peek i)).stopOnBug)
  | begins (inside : i < toks.size) (going : m.isStopped = false) (calm : m.cancellation? = none)
      (unfinished : (toks.peek i).isFinish = false)
      (asks : m.bug.isSome → toks.asksForBug i) :
      Arrives toks i m (.ready (m.begun (toks.peek i)))

namespace Machine

/-- Moving to a token changes the place and what is traced, nothing else. -/
theorem moveTo_eq (t : Token) (m : Machine) :
    m.moveTo t = { m with
      log := (m.moveTo t).log, line := t.line, column := t.column, traced := (m.moveTo t).traced } := by
  unfold moveTo trace
  split <;> rfl

theorem moveTo_bug (t : Token) (m : Machine) : (m.moveTo t).bug = m.bug := by
  rw [moveTo_eq]

theorem begun_eq (t : Token) (m : Machine) :
    m.begun t = { m with
      log := (m.moveTo t).log, elapsed := m.elapsed + statementTime
      line := t.line, column := t.column, traced := (m.moveTo t).traced } := by
  unfold begun
  rw [moveTo_eq]

theorem moveTo_contained (t : Token) (m : Machine) : Contained m (m.moveTo t) := by
  rw [moveTo_eq]
  exact { Contained.refl m with }

theorem endInvocation_contained (m : Machine) : Contained m m.endInvocation := by
  unfold endInvocation
  split
  · exact m.stop_contained _
  · exact .of_same (.refl m)

theorem begun_contained (t : Token) (m : Machine) : Contained m (m.begun t) := by
  rw [begun_eq]
  exact { Contained.refl m with }

end Machine

theorem arrives (toks : TokenStream) (i : Nat) (m : Machine) : Arrives toks i m (m.arrive toks i) := by
  unfold Machine.arrive
  split
  case isFalse outside =>
    refine .still (.inr ?_)
    rw [TokenStream.peek_of_le (Nat.le_of_not_lt outside)]
    rfl
  case isTrue inside =>
    rw [← TokenStream.peek_of_lt inside]
    by_cases stopped : m.isStopped
    · rw [if_pos stopped]
      exact .still (.inl stopped)
    · rw [if_neg stopped]
      rw [Bool.not_eq_true] at stopped
      cases called : m.cancellation? with
      | some reason => exact .cancelled stopped called
      | none =>
        dsimp only
        by_cases finished : (toks.peek i).isFinish
        · rw [if_pos finished]
          exact .still (.inr finished)
        · rw [if_neg finished]
          by_cases bugged : (m.moveTo (toks.peek i)).bug.isSome && !toks.asksForBug i
          · rw [if_pos bugged]
            rw [Bool.and_eq_true, Bool.not_eq_true'] at bugged
            exact .bug stopped (Machine.moveTo_bug _ m ▸ bugged.1) bugged.2
          · rw [if_neg bugged]
            refine .begins inside stopped called ((Bool.not_eq_true _).mp finished) fun pending => ?_
            rw [Machine.moveTo_bug, pending, Bool.true_and, Bool.not_eq_true', Bool.not_eq_false]
              at bugged
            exact bugged

namespace Arrives

variable {toks : TokenStream} {i : Nat} {m out ready : Machine}

theorem ends_contained (arrival : Arrives toks i m (.ends out)) : Contained m out := by
  cases arrival with
  | still => exact .of_same (.refl m)
  | cancelled => exact m.stop_contained _
  | bug =>
      have halt : (m.moveTo (toks.peek i)).halt = m.halt := by rw [Machine.moveTo_eq]
      exact (Machine.moveTo_contained _ m).trans halt (Machine.stop_contained _ _)

theorem ready_contained (arrival : Arrives toks i m (.ready ready)) : Contained m ready := by
  cases arrival with
  | begins => exact Machine.begun_contained _ m

end Arrives

/-! ## Nested streams -/

/-- What a nested stream can be. -/
inductive Nests (toks : TokenStream) (m : Machine) : Nested → Prop where
  | call {ready : Machine} {procedure : Procedure} {name : String} (last : Nat) (head : Token)
      (args : List String) (read : SameControl m ready)
      (found : ready.procedure? name = some procedure)
      (shallow : ready.depth + 1 ≤ deepestCall) :
      Nests toks m (.ofCall toks last head procedure args ready)
  | background {procedure : Procedure} {name : String} (last : Nat)
      (found : m.procedure? name = some procedure) : Nests toks m (.ofBackground last procedure m)
  | inline {procedure : Procedure} {name : String} (last : Nat)
      (found : m.procedure? name = some procedure) (shallow : m.depth + 1 ≤ deepestCall) :
      Nests toks m (.ofBody last procedure m)
  | source {path source : String} (last : Nat) (found : m.files.read path = .ok source) :
      Nests toks m (.ofSource last source m)

namespace Statement

variable {toks : TokenStream} {i : Nat} {m : Machine} {nested : Nested}

theorem sourceNested?_nests {path : String} {last : Nat}
    (runs : sourceNested? m path last = some nested) : Nests toks m nested := by
  unfold sourceNested? at runs
  cases found : m.files.read path with
  | error _ => rw [found] at runs; cases runs
  | ok source =>
      rw [found] at runs
      cases runs
      exact .source last found

theorem callNested?_nests {head : Token} (runs : callNested? toks i m head = some nested) :
    Nests toks m nested := by
  unfold callNested? at runs
  have read := (callArguments_routine toks i).steady m
  generalize (callArguments toks i).run m = answer at runs read
  rcases answer with ⟨⟨args, last⟩, ready⟩
  dsimp only at runs
  cases found : ready.procedure? (toks.peek i).rawName with
  | none => rw [found] at runs; cases runs
  | some procedure =>
      rw [found] at runs
      dsimp only at runs
      split at runs
      · cases runs
      · cases runs
        exact .call last head args read found (by omega)

theorem backgroundNested?_nests (runs : backgroundNested? toks i m = some nested) :
    Nests toks m nested := by
  rcases Option.map_eq_some_iff.mp runs with ⟨procedure, found, rfl⟩
  exact .background i found

theorem inlineNested?_nests (runs : inlineNested? toks i m = some nested) :
    Nests toks m nested := by
  unfold inlineNested? at runs
  dsimp only at runs
  split at runs
  · cases runs
  · cases found : m.procedure? (toks.peek (i + 1)).rawName with
    | none => rw [found] at runs; cases runs
    | some procedure =>
        rw [found] at runs
        dsimp only at runs
        split at runs
        · cases runs
        · cases runs
          exact .inline (i + 1) found (by omega)

theorem nested?_nests (runs : nested? toks i m = some nested) : Nests toks m nested := by
  unfold nested? at runs
  split at runs
  · dsimp only at runs
    split at runs
    · cases runs
    · split at runs
      · exact backgroundNested?_nests runs
      · exact callNested?_nests runs
  · exact inlineNested?_nests runs
  · unfold useNested? at runs
    split at runs
    · exact sourceNested?_nests runs
    · cases runs
  · unfold attachNested? at runs
    dsimp only at runs
    split at runs
    · cases runs
    · exact sourceNested?_nests runs
  · cases runs

end Statement
end BigScript
