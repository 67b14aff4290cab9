import BigScript.Proofs.Activation
import Mathlib.Logic.Relation

/-!
# Runs as sequences of transitions

What holds at every moment of a run cannot be read off from its result.  Here a run is a sequence of
configurations: a machine, the token that the innermost walk has come to, and the statements that
wait for their nested streams.  Every transition carries out one statement, enters or leaves a nested
stream, ends a walk, or ends the run.

`exec_reaches` and `run_reaches` connect the two views: unless its bound on steps is used up, the
result of a run is the machine of the configuration in which the transitions end.
-/

namespace BigScript

/-- A statement that waits for the stream it runs, in the stream it stands in. -/
structure Waiting where
  stream : TokenStream
  nested : Nested

/-- Where the innermost walk stands: at a token, at its end, or at the end of the whole run. -/
inductive Focus where
  | token (stream : TokenStream) (index : Nat)
  | walked
  | ended

/-- A moment of a run. -/
structure Config where
  machine : Machine
  focus : Focus
  waiting : List Waiting

namespace Config

open Statement

/-- The configuration at the start of a run. -/
def start (toks : TokenStream) (m : Machine) : Config := ⟨m, .token toks 0, []⟩

/-- The end of a run. -/
def Final (c : Config) : Prop := c.focus = .ended

/-- Whether a statement is carried out at this moment. -/
def Begins (c : Config) : Prop :=
  ∃ toks i ready, c.focus = .token toks i ∧ c.machine.arrive toks i = .ready ready

/-- Whether the walk stands at a statement that begins with the question for a pending bug. -/
def Asks (c : Config) : Prop := ∃ toks i, c.focus = .token toks i ∧ toks.asksForBug i = true

/-- A transition of a run. -/
inductive Step : Config → Config → Prop where
  | ends {m out : Machine} {toks : TokenStream} {i : Nat} {waiting : List Waiting}
      (arrived : m.arrive toks i = .ends out) :
      Step ⟨m, .token toks i, waiting⟩ ⟨out, .walked, waiting⟩
  | alone {m ready : Machine} {toks : TokenStream} {i : Nat} {waiting : List Waiting}
      (arrived : m.arrive toks i = .ready ready) (alone : nested? toks i ready = none) :
      Step ⟨m, .token toks i, waiting⟩
        ⟨((dispatch idle toks i).run ready).2,
          .token toks (((dispatch idle toks i).run ready).1 + 1), waiting⟩
  | enter {m ready : Machine} {toks : TokenStream} {i : Nat} {waiting : List Waiting}
      {nested : Nested} (arrived : m.arrive toks i = .ready ready)
      (runs : nested? toks i ready = some nested) :
      Step ⟨m, .token toks i, waiting⟩
        ⟨nested.entry, .token nested.inner 0, ⟨toks, nested⟩ :: waiting⟩
  | leave (out : Machine) (first : Waiting) (waiting : List Waiting) :
      Step ⟨out, .walked, first :: waiting⟩
        ⟨(first.nested.complete out).2,
          .token first.stream ((first.nested.complete out).1 + 1), waiting⟩
  | finish (out : Machine) : Step ⟨out, .walked, []⟩ ⟨out.endInvocation, .ended, []⟩

/-- The configuration that comes next. -/
def next? : Config → Option Config
  | ⟨m, .token toks i, waiting⟩ =>
    match m.arrive toks i with
    | .ends out => some ⟨out, .walked, waiting⟩
    | .ready ready =>
      match nested? toks i ready with
      | some nested => some ⟨nested.entry, .token nested.inner 0, ⟨toks, nested⟩ :: waiting⟩
      | none =>
        let done := (dispatch idle toks i).run ready
        some ⟨done.2, .token toks (done.1 + 1), waiting⟩
  | ⟨out, .walked, first :: waiting⟩ =>
    let done := first.nested.complete out
    some ⟨done.2, .token first.stream (done.1 + 1), waiting⟩
  | ⟨out, .walked, []⟩ => some ⟨out.endInvocation, .ended, []⟩
  | ⟨_, .ended, _⟩ => none

theorem step_iff (c next : Config) : Step c next ↔ c.next? = some next := by
  constructor
  · intro step
    cases step with
    | ends arrived => simp only [next?, arrived]
    | alone arrived alone => simp only [next?, arrived, alone]
    | enter arrived runs => simp only [next?, arrived, runs]
    | leave => rfl
    | finish => rfl
  · intro computed
    rcases c with ⟨m, focus, waiting⟩
    cases focus with
    | token toks i =>
        cases arrived : m.arrive toks i with
        | ends out =>
            simp only [next?, arrived, Option.some.injEq] at computed
            exact computed ▸ .ends arrived
        | ready ready =>
            cases runs : nested? toks i ready with
            | none =>
                simp only [next?, arrived, runs, Option.some.injEq] at computed
                exact computed ▸ .alone arrived runs
            | some nested =>
                simp only [next?, arrived, runs, Option.some.injEq] at computed
                exact computed ▸ .enter arrived runs
    | walked =>
        cases waiting with
        | nil =>
            simp only [next?, Option.some.injEq] at computed
            exact computed ▸ .finish m
        | cons first waiting =>
            simp only [next?, Option.some.injEq] at computed
            exact computed ▸ .leave m first waiting
    | ended => cases computed

/-- What a run can come to. -/
def Reaches : Config → Config → Prop := Relation.ReflTransGen Step

theorem step_unique : Relator.RightUnique Step := by
  intro c first second one other
  rw [step_iff] at one other
  exact Option.some.inj (one.symm.trans other)

theorem Final.stuck {c : Config} (final : c.Final) (next : Config) : ¬ Step c next := by
  intro step
  cases step <;> cases final

/-- Whatever a run comes to lies on the way to its end. -/
theorem Reaches.to_final {first c final : Config} (reached : Reaches first c)
    (ended : Reaches first final) (atEnd : final.Final) : Reaches c final := by
  rcases Relation.ReflTransGen.total_of_right_unique step_unique reached ended with ahead | behind
  · exact ahead
  · rcases Relation.ReflTransGen.cases_head behind with same | ⟨next, step, _⟩
    · exact same ▸ .refl
    · exact absurd step (atEnd.stuck next)

end Config

/-! ## Walks as sequences of transitions -/

/-- A call ends its invocation without a word about the bound on steps. -/
theorem Nests.complete_exhausted {toks : TokenStream} {m out : Machine} {nested : Nested}
    (nests : Nests toks m nested) : (nested.complete out).2.exhausted = out.exhausted := by
  cases nests with
  | @call ready procedure name last head args read found shallow =>
      have left : (ready.leave out).exhausted = out.exhausted := out.endInvocation_contained.exhausted
      change (if (ready.leave out).halt.isSome then (last, ready.leave out)
        else (Statement.finish toks last _).run (ready.leave out)).2.exhausted = out.exhausted
      split
      · exact left
      · exact (((Statement.finish_routine toks last _).steady _).exhausted).trans left
  | background last found =>
      exact Machine.endInvocation_contained out |>.exhausted
  | inline last found shallow => rfl
  | source last found => rfl

namespace Machine

/-- A walk whose bound on steps was used up goes no further. -/
theorem exec_exhausted (steps : Nat) (toks : TokenStream) (i : Nat) {m : Machine}
    (given : m.exhausted = true) : (exec steps toks i m).exhausted = true := by
  cases steps with
  | zero => rfl
  | succ steps =>
      have stopped : m.isStopped = true := by simp only [isStopped, given, Bool.or_true]
      rw [exec_succ, arrive_of_stopped toks i m stopped]
      exact given

/-- Unless its bound on steps is used up, a walk is a sequence of transitions, none of which ends what
waits below it. -/
theorem exec_path (steps : Nat) (toks : TokenStream) (i : Nat) (m : Machine)
    (waiting : List Waiting) (enough : (exec steps toks i m).exhausted = false) :
    Relation.ReflTransGen (fun c next => Config.Step c next ∧ waiting <:+ next.waiting)
      ⟨m, .token toks i, waiting⟩ ⟨exec steps toks i m, .walked, waiting⟩ := by
  induction steps generalizing toks i m waiting with
  | zero => cases enough
  | succ steps ih =>
      rw [exec_succ] at enough ⊢
      have here : waiting <:+ waiting := List.suffix_refl _
      cases arrived : m.arrive toks i with
      | ends out => exact .single ⟨.ends arrived, here⟩
      | ready ready =>
          rw [arrived] at enough
          dsimp only at enough ⊢
          cases runs : Statement.nested? toks i ready with
          | none =>
              rw [runs] at enough
              exact .head ⟨.alone arrived runs, here⟩ (ih toks _ _ waiting enough)
          | some nested =>
              rw [runs] at enough
              dsimp only at enough ⊢
              have inner : (exec steps nested.inner 0 nested.entry).exhausted = false := by
                cases used : (exec steps nested.inner 0 nested.entry).exhausted with
                | false => rfl
                | true =>
                    rw [← (Statement.nested?_nests runs).complete_exhausted] at used
                    rw [exec_exhausted steps toks _ used] at enough
                    cases enough
              have below : waiting <:+ ⟨toks, nested⟩ :: waiting := List.suffix_cons _ _
              have walked := ih nested.inner 0 nested.entry (⟨toks, nested⟩ :: waiting) inner
              have left := Config.Step.leave (exec steps nested.inner 0 nested.entry)
                ⟨toks, nested⟩ waiting
              refine .head ⟨.enter arrived runs, below⟩ (.trans ?_
                (.head ⟨left, here⟩ (ih toks _ _ waiting enough)))
              -- What keeps the statement itself waiting keeps everything below it waiting.
              exact Relation.ReflTransGen.mono
                (fun _ _ step => ⟨step.1, below.trans step.2⟩) _ _ walked

/-- Unless its bound on steps is used up, a walk is a sequence of transitions. -/
theorem exec_reaches (steps : Nat) (toks : TokenStream) (i : Nat) (m : Machine)
    (waiting : List Waiting) (enough : (exec steps toks i m).exhausted = false) :
    Config.Reaches ⟨m, .token toks i, waiting⟩ ⟨exec steps toks i m, .walked, waiting⟩ :=
  Relation.ReflTransGen.mono (fun _ _ step => step.1) _ _ (exec_path steps toks i m waiting enough)

/-- Unless its bound on steps is used up, a whole run is a sequence of transitions. -/
theorem run_reaches (steps : Nat) (toks : TokenStream) (m : Machine)
    (enough : (exec steps toks 0 m).exhausted = false) :
    Config.Reaches (.start toks m) ⟨(exec steps toks 0 m).endInvocation, .ended, []⟩ :=
  (exec_reaches steps toks 0 m [] enough).tail (.finish _)

end Machine
end BigScript
