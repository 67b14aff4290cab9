import BigScript.Proofs.Transition

/-!
# Stretches of a walk

A walk is bounded by a number of steps.  To put walks together, `Leads` says that a number of steps
takes a walk from one token to another, whatever bound is left for the rest, and `Closes` that they
take it to its end.  A walk that was not cut short by its bound has taken every stretch it begins
with.
-/

namespace BigScript
namespace Machine

open Statement

variable {toks : TokenStream} {i j : Nat} {m after out : Machine}

/-- A walk that was not cut short ends the same with a larger bound. -/
theorem exec_more (steps more : Nat) (toks : TokenStream) (i : Nat) (m : Machine)
    (enough : (exec steps toks i m).exhausted = false) :
    exec (steps + more) toks i m = exec steps toks i m := by
  induction steps generalizing toks i m with
  | zero => cases enough
  | succ steps ih =>
      rw [Nat.add_right_comm, exec_succ, exec_succ]
      rw [exec_succ] at enough
      cases arrived : m.arrive toks i with
      | ends out => rfl
      | ready ready =>
          rw [arrived] at enough
          dsimp only at enough ⊢
          cases runs : nested? toks i ready with
          | none =>
              rw [runs] at enough
              exact ih toks _ _ enough
          | some nested =>
              rw [runs] at enough
              dsimp only at enough ⊢
              have inner : (exec steps nested.inner 0 nested.entry).exhausted = false := by
                cases used : (exec steps nested.inner 0 nested.entry).exhausted with
                | false => rfl
                | true =>
                    rw [← (nested?_nests runs).complete_exhausted] at used
                    rw [exec_exhausted steps toks _ used] at enough
                    cases enough
              rw [ih nested.inner 0 nested.entry inner]
              exact ih toks _ _ enough

/-- A number of steps takes a walk from one token to another. -/
def Leads (toks : TokenStream) (used i : Nat) (m : Machine) (j : Nat) (after : Machine) : Prop :=
  ∀ more, exec (used + more) toks i m = exec more toks j after

/-- A number of steps takes a walk to its end. -/
def Closes (toks : TokenStream) (used i : Nat) (m out : Machine) : Prop :=
  ∀ more, exec (used + more) toks i m = out

theorem Leads.refl (toks : TokenStream) (i : Nat) (m : Machine) : Leads toks 0 i m i m :=
  fun more => congrArg (exec · toks i m) (Nat.zero_add more)

theorem Leads.trans {used further k : Nat} {last : Machine} (first : Leads toks used i m j after)
    (second : Leads toks further j after k last) : Leads toks (used + further) i m k last := by
  intro more
  rw [Nat.add_assoc, first, second]

theorem Leads.closes {used further : Nat} (first : Leads toks used i m j after)
    (second : Closes toks further j after out) : Closes toks (used + further) i m out := by
  intro more
  rw [Nat.add_assoc, first, second]

/-- A walk that was not cut short has taken every stretch it begins with, and some steps more. -/
theorem Leads.rest {used steps : Nat} (leads : Leads toks used i m j after)
    (enough : (exec steps toks i m).exhausted = false) :
    ∃ fewer, steps = used + fewer ∧ (exec fewer toks j after).exhausted = false := by
  rcases Nat.le_total used steps with beyond | under
  · rcases Nat.exists_eq_add_of_le beyond with ⟨fewer, rfl⟩
    rw [leads] at enough
    exact ⟨fewer, rfl, enough⟩
  · rcases Nat.exists_eq_add_of_le under with ⟨missing, rfl⟩
    have same := leads 0
    rw [Nat.add_zero, exec_more steps missing toks i m enough] at same
    rw [same] at enough
    cases enough

theorem Closes.result {used steps : Nat} (closes : Closes toks used i m out)
    (enough : (exec steps toks i m).exhausted = false) : exec steps toks i m = out := by
  rw [← exec_more steps used toks i m enough, Nat.add_comm]
  exact closes steps

/-! ## Single steps -/

theorem closes_of_arrive (arrived : m.arrive toks i = .ends out) : Closes toks 1 i m out := by
  intro more
  rw [Nat.add_comm, exec_succ, arrived]

theorem leads_of_arrive {ready : Machine} (arrived : m.arrive toks i = .ready ready)
    (alone : nested? toks i ready = none) :
    Leads toks 1 i m (((dispatch idle toks i).run ready).1 + 1)
      ((dispatch idle toks i).run ready).2 := by
  intro more
  rw [Nat.add_comm, exec_succ, arrived]
  dsimp only
  rw [alone]

/-! ## The end of a stream -/

/-- At the end of a stream a walk still notices that it has been cancelled. -/
def settle (m : Machine) : Machine :=
  if m.isStopped then m
  else
    match m.cancellation? with
    | some reason => m.stop (.cancelled (some reason))
    | none => m

theorem isStopped_stop (m : Machine) (cause : Cause) : (m.stop cause).isStopped = true := by
  rw [isStopped, m.stop_halt cause]
  rfl

/-- A machine that the end of a stream does not stop is left as it is. -/
theorem settle_going (going : m.settle.isStopped = false) : m.settle = m := by
  unfold settle at going ⊢
  split at going
  · rename_i stopped
    rw [stopped] at going
    cases going
  · rename_i running
    rw [if_neg running]
    split at going
    · rw [isStopped_stop] at going
      cases going
    · rfl

theorem arrive_of_finish (inside : i < toks.size) (finish : (toks.peek i).isFinish = true) :
    m.arrive toks i = .ends m.settle := by
  rw [TokenStream.peek_of_lt inside] at finish
  unfold arrive settle
  rw [dif_pos inside]
  by_cases stopped : m.isStopped = true
  · rw [if_pos stopped, if_pos stopped]
  · rw [if_neg stopped, if_neg stopped]
    cases m.cancellation? with
    | some reason => rfl
    | none => exact if_pos finish

/-- Whatever the end of a stream would stop is stopped in front of any other token too. -/
theorem arrive_of_settled (inside : i < toks.size) (stopped : m.settle.isStopped = true) :
    m.arrive toks i = .ends m.settle := by
  unfold arrive
  unfold settle at stopped ⊢
  rw [dif_pos inside]
  by_cases before : m.isStopped = true
  · rw [if_pos before, if_pos before]
  · rw [if_neg before] at stopped
    rw [if_neg before, if_neg before]
    cases called : m.cancellation? with
    | some reason => rfl
    | none =>
      rw [called] at stopped
      exact absurd stopped before

/-- A walk that ends in front of a statement has been stopped. -/
theorem arrive_ends_stopped (unfinished : (toks.peek i).isFinish = false)
    (arrived : m.arrive toks i = .ends out) : out.isStopped = true := by
  have arrival := arrives toks i m
  rw [arrived] at arrival
  cases arrival with
  | still settled =>
    refine settled.resolve_right fun finished => ?_
    rw [unfinished] at finished
    cases finished
  | cancelled => exact isStopped_stop m _
  | bug => exact isStopped_stop _ _

end Machine

/-! ## Strides

A walk through one stream goes from statement to statement.  A stride is one of these steps, with
everything that the statement runs within it: `Stride` relates the index and the machine in front of
a statement to those behind it.

Strides forget the bound on steps.  `exec_strides` and `Strides.exec` connect them with walks: a walk
that was not cut short is a sequence of strides up to where it ends, and every sequence of strides is
what a walk does whose bound is large enough. -/

open Statement Machine

/-- Where a walk stands: at an index, with a machine. -/
abbrev Spot := Nat × Machine

/-- A statement is carried out and the walk goes on behind it. -/
inductive Stride (toks : TokenStream) : Spot → Spot → Prop where
  | alone {i : Nat} {m ready : Machine} (arrived : m.arrive toks i = .ready ready)
      (alone : nested? toks i ready = none) :
      Stride toks (i, m)
        (((dispatch idle toks i).run ready).1 + 1, ((dispatch idle toks i).run ready).2)
  | nested {i steps : Nat} {m ready : Machine} {nested : Nested}
      (arrived : m.arrive toks i = .ready ready) (runs : nested? toks i ready = some nested)
      (enough : (exec steps nested.inner 0 nested.entry).exhausted = false) :
      Stride toks (i, m)
        ((nested.complete (exec steps nested.inner 0 nested.entry)).1 + 1,
          (nested.complete (exec steps nested.inner 0 nested.entry)).2)

/-- Any number of strides. -/
abbrev Strides (toks : TokenStream) : Spot → Spot → Prop := Relation.ReflTransGen (Stride toks)

variable {toks : TokenStream} {i j : Nat} {m after : Machine}

/-- Two walks that were not cut short end the same. -/
theorem Machine.exec_unique {steps other : Nat} (enough : (exec steps toks i m).exhausted = false)
    (others : (exec other toks i m).exhausted = false) :
    exec steps toks i m = exec other toks i m := by
  rw [← exec_more steps other toks i m enough, Nat.add_comm, exec_more other steps toks i m others]

namespace Stride

theorem unique {from_ one other : Spot} (first : Stride toks from_ one)
    (second : Stride toks from_ other) : one = other := by
  cases first with
  | alone arrived alone =>
      cases second with
      | alone arrives =>
          cases arrived.symm.trans arrives
          rfl
      | nested arrives runs =>
          cases arrived.symm.trans arrives
          cases alone.symm.trans runs
  | nested arrived runs enough =>
      cases second with
      | alone arrives alone =>
          cases arrived.symm.trans arrives
          cases runs.symm.trans alone
      | nested arrives again others =>
          cases arrived.symm.trans arrives
          cases runs.symm.trans again
          rw [exec_unique enough others]

/-- In front of a statement that is carried out the walk has not been stopped. -/
theorem ready {next : Spot} (stride : Stride toks (i, m) next) :
    ∃ ready, m.arrive toks i = .ready ready := by
  cases stride with
  | alone arrived | nested arrived => exact ⟨_, arrived⟩

end Stride

/-- A walk that was not cut short is a sequence of strides, up to where it ends. -/
theorem Machine.exec_strides (steps : Nat) (toks : TokenStream) (i : Nat) (m : Machine)
    (enough : (exec steps toks i m).exhausted = false) :
    ∃ last, Strides toks (i, m) last ∧ last.2.arrive toks last.1 = .ends (exec steps toks i m) := by
  induction steps generalizing i m with
  | zero => cases enough
  | succ steps ih =>
      rw [exec_succ] at enough ⊢
      cases arrived : m.arrive toks i with
      | ends out => exact ⟨(i, m), .refl, arrived⟩
      | ready ready =>
          rw [arrived] at enough
          dsimp only at enough ⊢
          cases runs : nested? toks i ready with
          | none =>
              rw [runs] at enough
              rcases ih _ _ enough with ⟨last, path, ends⟩
              exact ⟨last, .head (.alone arrived runs) path, ends⟩
          | some nested =>
              rw [runs] at enough
              dsimp only at enough ⊢
              have inner : (exec steps nested.inner 0 nested.entry).exhausted = false := by
                cases used : (exec steps nested.inner 0 nested.entry).exhausted with
                | false => rfl
                | true =>
                    rw [← (nested?_nests runs).complete_exhausted] at used
                    rw [exec_exhausted steps toks _ used] at enough
                    cases enough
              rcases ih _ _ enough with ⟨last, path, ends⟩
              exact ⟨last, .head (.nested arrived runs inner) path, ends⟩

/-- A sequence of strides is what a walk does whose bound is large enough. -/
theorem Strides.exec {last : Spot} (strides : Strides toks (i, m) last) :
    ∃ used bound, ∀ more, bound ≤ more →
      exec (used + more) toks i m = exec more toks last.1 last.2 := by
  induction strides with
  | refl => exact ⟨0, 0, fun more _ => by rw [Nat.zero_add]⟩
  | @tail between last _ stride ih =>
      rcases ih with ⟨used, bound, leads⟩
      cases stride with
      | alone arrived alone =>
          refine ⟨used + 1, bound, fun more large => ?_⟩
          rw [Nat.add_assoc, leads (1 + more) (by omega), Nat.add_comm 1, exec_succ, arrived]
          dsimp only
          rw [alone]
      | @nested _ steps _ _ nested arrived runs enough =>
          refine ⟨used + 1, bound + steps, fun more large => ?_⟩
          rcases Nat.exists_eq_add_of_le (Nat.le_of_add_left_le large) with ⟨rest, rfl⟩
          rw [Nat.add_assoc, leads _ (by omega), Nat.add_comm 1, exec_succ, arrived]
          dsimp only
          rw [runs]
          dsimp only
          rw [exec_more steps rest _ _ _ enough]

end BigScript
