import BigScript.Proofs.Transition

/-!
# Chains of branches

A chain is an `if` with its block, followed by any number of `or if` and `or` at the same column, each
with a block of its own.  Which block was entered is remembered in one flag.  The flag belongs to the
thread and not to the chain: every `if` and `or` that is carried out inside of a block sets it again.

`chain_law` says exactly what follows.  The first block is entered if its condition holds.  A later
block is entered if the flag is clear when the run comes to its `or` and its condition holds.  While
the flag is set, everything that is left of the chain is left out.  The flag that an entered block
starts with is still set behind the block if no other `if` or `or` was carried out in the meantime,
apart from those in functions that were called: a call puts the flag back.
-/

namespace BigScript

/-- A branch of a chain: where it begins, the index of the `if` that decides it, where its block
begins, and where the block is over.  An `or` without a condition has no question. -/
structure Arm where
  head : Nat
  question : Option Nat
  body : Nat
  next : Nat

namespace Arm

/-- How the lines of a branch are written: its head at a column and its block at least four columns
right of it. -/
structure Written (toks : TokenStream) (column : Nat) (arm : Arm) : Prop where
  place : (toks.peek arm.head).column = column
  body : arm.body = toks.lineEnd arm.head + 1
  block : arm.body < arm.next
  lines : toks.Lines (column + 4) arm.body arm.next
  dedents : toks.Dedents column arm.next

/-- The first branch of a chain: `if` and a condition. -/
structure First (toks : TokenStream) (column : Nat) (arm : Arm) : Prop
    extends Written toks column arm where
  head : (toks.peek arm.head).kind = .word .ifWord
  question : arm.question = some arm.head
  condition : Statement.conditionEnd toks arm.head = arm.body

/-- A later branch of a chain: `or`, alone on its line or followed by `if` and a condition. -/
structure Later (toks : TokenStream) (column : Nat) (arm : Arm) : Prop
    extends Written toks column arm where
  head : (toks.peek arm.head).kind = .word .orWord
  alone : arm.question = none → arm.body = arm.head + 1
  asks : ∀ q, arm.question = some q → q = arm.head + 1 ∧ (toks.peek q).kind = .word .ifWord ∧
    (toks.peek q).line = (toks.peek arm.head).line ∧ (toks.peek q).column ≤ column + 3 ∧
    Statement.conditionEnd toks q = arm.body

end Arm

/-- The later branches of a chain from an index on up to the end of the chain. -/
inductive Alternatives (toks : TokenStream) (column : Nat) : Nat → List Arm → Nat → Prop where
  | nil (stop : Nat) : Alternatives toks column stop [] stop
  | cons {arm : Arm} {rest : List Arm} {stop : Nat} (later : arm.Later toks column)
      (others : Alternatives toks column arm.next rest stop) :
      Alternatives toks column arm.head (arm :: rest) stop

/-- A chain of branches in a stream. -/
structure Chain (toks : TokenStream) (column : Nat) (first : Arm) (later : List Arm) (stop : Nat) :
    Prop where
  opening : first.First toks column
  others : Alternatives toks column first.next later stop

/-! ## Heads -/

namespace TokenStream

variable {toks : TokenStream} {i : Nat}

theorem lineEnd_succ (unfinished : (toks.peek (i + 1)).isFinish = false)
    (same : (toks.peek (i + 1)).line = (toks.peek i).line) :
    toks.lineEnd (i + 1) = toks.lineEnd i := by
  have inside := lt_of_not_finish unfinished
  unfold lineEnd
  rw [same, lineRun.eq_def toks _ (i + 1), dif_pos inside, ← peek_of_lt inside, unfinished, same]
  simp only [bne_self_eq_false, Bool.or_self, Bool.false_eq_true, if_false]
  omega

end TokenStream

namespace Config

open Statement

variable {toks : TokenStream} {i : Nat} {m ready : Machine} {waiting : List Waiting}

theorem step_alternative (head : (toks.peek i).kind = .word .orWord)
    (arrived : m.arrive toks i = .ready ready) :
    Step ⟨m, .token toks i, waiting⟩
      ⟨{ ready with taken := true },
        .token toks ((if ready.taken
          then toks.blockEnd (toks.peek i).column false (toks.lineEnd i + 1) - 1 else i) + 1),
        waiting⟩ := by
  have alone : nested? toks i ready = none := by
    unfold nested?
    rw [head]
  have step : Step ⟨m, .token toks i, waiting⟩ _ := Step.alone arrived alone
  rw [dispatch_alternative toks i idle head, alternative_run] at step
  exact step

theorem step_branch (head : (toks.peek i).kind = .word .ifWord)
    (arrived : m.arrive toks i = .ready ready) :
    Step ⟨m, .token toks i, waiting⟩
      ⟨{ (if toks.asksForBug i then (condition toks i ready).2.clearBug
          else (condition toks i ready).2) with taken := (condition toks i ready).1 },
        .token toks (branchLast toks i (condition toks i ready).1 + 1), waiting⟩ := by
  have alone : nested? toks i ready = none := by
    unfold nested?
    rw [head]
  have step : Step ⟨m, .token toks i, waiting⟩ _ := Step.alone arrived alone
  rw [dispatch_branch toks i idle head, branch_run] at step
  exact step

end Config

namespace Arm

variable {toks : TokenStream} {column : Nat} {arm : Arm}

theorem Written.head_lt_body (written : arm.Written toks column) : arm.head < arm.body := by
  rw [written.body]
  exact Nat.lt_succ_of_le (Nat.le_add_right _ _)

/-- Leaving out the block of an alternative leads to the branch behind it. -/
theorem Written.blockEnd (written : arm.Written toks column) :
    toks.blockEnd column false arm.body = arm.next := by
  rw [TokenStream.blockEnd_of_lines false (written.lines.mono (by omega))]
  exact TokenStream.blockEnd_of_dedents written.dedents nofun

/-- Leaving out the block of a condition leads at least to the branch behind it. -/
theorem Written.le_blockEnd (written : arm.Written toks column) {base : Nat}
    (near : base ≤ column + 3) : arm.next ≤ toks.blockEnd base true arm.body := by
  rw [TokenStream.blockEnd_of_lines true (written.lines.mono (by omega))]
  exact TokenStream.le_blockEnd _ _ _

theorem First.question_lt (first : arm.First toks column) (q : Nat)
    (question : arm.question = some q) : q < arm.body := by
  cases first.question.symm.trans question
  exact first.toWritten.head_lt_body

/-- The question of an alternative stands on the line of its head. -/
theorem Later.question_line (later : arm.Later toks column) {q : Nat}
    (question : arm.question = some q) : toks.lineEnd q + 1 = arm.body := by
  rcases later.asks q question with ⟨place, head, line, -, -⟩
  have unfinished : (toks.peek (arm.head + 1)).isFinish = false := by
    rw [← place, Token.isFinish, head]
    rfl
  rw [later.body, ← TokenStream.lineEnd_succ unfinished (place ▸ line), place]

theorem Later.question_lt (later : arm.Later toks column) (q : Nat)
    (question : arm.question = some q) : q < arm.body := by
  rw [← later.question_line question]
  exact Nat.lt_succ_of_le (TokenStream.le_lineEnd q)

/-- Whether the condition of an alternative holds: if there is one, the `if` behind the `or` is
carried out and answered with yes.  `ready` is the machine in which the `or` begins. -/
def Holds (toks : TokenStream) (arm : Arm) (ready : Machine) : Prop :=
  ∀ q, arm.question = some q → ∃ second,
    ({ ready with taken := true } : Machine).arrive toks q = .ready second ∧
      (Statement.condition toks q second).1 = true

end Arm

namespace Config

open Statement

variable {toks : TokenStream} {column : Nat} {arm : Arm} {m ready : Machine}
variable {waiting : List Waiting}

/-- Whether a moment of a run is at the head of one of the branches of a chain. -/
def AtHead (toks : TokenStream) (waiting : List Waiting) (arms : List Arm) (c : Config) : Prop :=
  c.waiting = waiting ∧ ∃ arm ∈ arms, c.focus = .token toks arm.head ∨
    ∃ q, arm.question = some q ∧ c.focus = .token toks q

/-- Transitions that carry out nothing but heads of branches of a chain. -/
def Through (toks : TokenStream) (waiting : List Waiting) (arms : List Arm) : Config → Config → Prop :=
  Relation.ReflTransGen fun c next => Step c next ∧ AtHead toks waiting arms c

/-- A path through heads ends where it has come to something else. -/
theorem Through.stays {arms : List Arm} {c later : Config} (through : Through toks waiting arms c later)
    (elsewhere : ¬ AtHead toks waiting arms c) : later = c := by
  rcases Relation.ReflTransGen.cases_head through with same | ⟨next, step, _⟩
  · exact same.symm
  · exact absurd step.2 elsewhere

/-- A path through heads goes on with the one step that there is. -/
theorem Through.next {arms : List Arm} {c next later : Config}
    (through : Through toks waiting arms c later) (step : Step c next) (moved : later ≠ c) :
    Through toks waiting arms next later := by
  rcases Relation.ReflTransGen.cases_head through with same | ⟨other, ⟨taken, _⟩, further⟩
  · exact absurd same.symm moved
  · exact step_unique step taken ▸ further

/-- Whether a run comes from the head of a branch to its block through nothing but the head. -/
def Enters (toks : TokenStream) (waiting : List Waiting) (arm : Arm) (m entered : Machine) : Prop :=
  Through toks waiting [arm] ⟨m, .token toks arm.head, waiting⟩
    ⟨entered, .token toks arm.body, waiting⟩

/-- Behind its head, a path through the head of a branch is over. -/
theorem not_atHead {i : Nat} (before : arm.head < arm.body)
    (questions : ∀ q, arm.question = some q → q < arm.body) (behind : arm.body ≤ i) :
    ¬ AtHead toks waiting [arm] ⟨m, .token toks i, waiting⟩ := by
  rintro ⟨-, other, member, here | ⟨q, question, here⟩⟩
  · cases List.mem_singleton.mp member
    cases here
    omega
  · cases List.mem_singleton.mp member
    have less := questions q question
    cases here
    omega

/-- A path through the head of a branch that has come behind its head comes no further. -/
theorem Through.unmoved {i j : Nat} {later : Machine} (before : arm.head < arm.body)
    (questions : ∀ q, arm.question = some q → q < arm.body) (behind : arm.body ≤ i)
    (through : Through toks waiting [arm] ⟨m, .token toks i, waiting⟩
      ⟨later, .token toks j, waiting⟩) : i = j := by
  have same := through.stays (not_atHead before questions behind)
  cases same
  rfl

/-- Leaving out an alternative while the flag is set. -/
theorem step_leftOut (later : arm.Later toks column) (arrived : m.arrive toks arm.head = .ready ready)
    (set : ready.taken = true) :
    Step ⟨m, .token toks arm.head, waiting⟩
      ⟨{ ready with taken := true }, .token toks arm.next, waiting⟩ := by
  have step : Step ⟨m, .token toks arm.head, waiting⟩ _ := step_alternative later.head arrived
  have behind := later.toWritten.blockEnd
  have positive : 0 < arm.next := Nat.lt_of_le_of_lt (Nat.zero_le _) later.block
  rw [if_pos set, later.place, ← later.body, behind, Nat.sub_add_cancel positive] at step
  exact step

/-- Trying an alternative while the flag is clear. -/
theorem step_tried (later : arm.Later toks column) (arrived : m.arrive toks arm.head = .ready ready)
    (clear : ready.taken = false) :
    Step ⟨m, .token toks arm.head, waiting⟩
      ⟨{ ready with taken := true }, .token toks (arm.head + 1), waiting⟩ := by
  have step : Step ⟨m, .token toks arm.head, waiting⟩ _ := step_alternative later.head arrived
  rwa [clear] at step

/-- The answer to a question leads into the block of its branch or behind it. -/
theorem step_answered {q : Nat} (written : arm.Written toks column)
    (head : (toks.peek q).kind = .word .ifWord) (near : (toks.peek q).column ≤ column + 3)
    (line : toks.lineEnd q + 1 = arm.body) (whole : conditionEnd toks q = arm.body)
    (arrived : m.arrive toks q = .ready ready) :
    ∃ after i, Step ⟨m, .token toks q, waiting⟩ ⟨after, .token toks i, waiting⟩ ∧
      after.taken = (condition toks q ready).1 ∧
      if (condition toks q ready).1 then i = arm.body else arm.next ≤ i := by
  have step : Step ⟨m, .token toks q, waiting⟩ _ := step_branch head arrived
  refine ⟨_, _, step, rfl, ?_⟩
  have positive : 0 < arm.body := Nat.lt_of_le_of_lt (Nat.zero_le _) written.head_lt_body
  unfold branchLast
  rw [whole]
  cases answer : (condition toks q ready).1 with
  | true =>
      have apart : ((toks.peek arm.body).isSymbol .ampersand &&
          (toks.peek arm.body).line == (toks.peek q).line) = false := by
        rw [← line]
        rcases toks.lineEnd_stop q with finished | other
        · rw [Token.isSymbol_of_finish finished, Bool.false_and]
        · rw [beq_eq_false_iff_ne.mpr other, Bool.and_false]
      simp only [if_true, apart, Bool.false_eq_true, if_false]
      exact Nat.sub_add_cancel positive
  | false =>
      simp only [Bool.false_eq_true, if_false, TokenStream.skipBlock, line]
      have behind := written.le_blockEnd near
      omega

/-- A path through heads does not come out of a walk that has ended. -/
theorem Through.not_ended {i : Nat} {out later : Machine} {arms : List Arm}
    (through : Through toks waiting arms ⟨out, .walked, waiting⟩ ⟨later, .token toks i, waiting⟩) :
    False := by
  have same := through.stays (by rintro ⟨-, _, -, none | ⟨_, -, none⟩⟩ <;> cases none)
  cases same

theorem Enters.unique {first second : Machine} (before : arm.head < arm.body)
    (questions : ∀ q, arm.question = some q → q < arm.body) (one : Enters toks waiting arm m first)
    (other : Enters toks waiting arm m second) : first = second := by
  have deterministic : Relator.RightUnique fun c next => Step c next ∧ AtHead toks waiting [arm] c :=
    fun _ _ _ left right => step_unique left.1 right.1
  have apart (m : Machine) : ¬ AtHead toks waiting [arm] ⟨m, .token toks arm.body, waiting⟩ :=
    not_atHead before questions (Nat.le_refl _)
  rcases Relation.ReflTransGen.total_of_right_unique deterministic one other with further | further
  · cases Through.stays further (apart first)
    rfl
  · cases Through.stays further (apart second)
    rfl

/-- The question of the first branch, answered. -/
theorem first_answered (first : arm.First toks column)
    (arrived : m.arrive toks arm.head = .ready ready) :
    ∃ after i, Step ⟨m, .token toks arm.head, waiting⟩ ⟨after, .token toks i, waiting⟩ ∧
      after.taken = (condition toks arm.head ready).1 ∧
      if (condition toks arm.head ready).1 then i = arm.body else arm.next ≤ i := by
  have near : (toks.peek arm.head).column ≤ column + 3 := by
    rw [first.place]
    exact Nat.le_add_right _ _
  exact step_answered first.toWritten first.head near first.body.symm first.condition arrived

theorem first_holds {entered : Machine} (first : arm.First toks column)
    (enters : Enters toks waiting arm m entered) :
    ∃ ready, m.arrive toks arm.head = .ready ready ∧ (condition toks arm.head ready).1 = true := by
  have before := first.toWritten.head_lt_body
  cases arrived : m.arrive toks arm.head with
  | ends out => exact (Through.next enters (.ends arrived) (by simp; omega)).not_ended.elim
  | ready ready =>
      refine ⟨ready, rfl, ?_⟩
      rcases first_answered first arrived with ⟨after, i, step, -, answered⟩
      have further := Through.next enters step (by simp; omega)
      cases answer : (condition toks arm.head ready).1 with
      | true => rfl
      | false =>
          simp only [answer, Bool.false_eq_true, if_false] at answered
          have block := first.block
          have same := further.unmoved before first.question_lt (by omega)
          omega

theorem first_enters (first : arm.First toks column) (arrived : m.arrive toks arm.head = .ready ready)
    (holds : (condition toks arm.head ready).1 = true) :
    ∃ entered, Enters toks waiting arm m entered ∧ entered.taken = true := by
  rcases first_answered first arrived with ⟨after, i, step, flag, answered⟩
  simp only [holds, if_true] at answered flag
  rw [answered] at step
  exact ⟨after, .single ⟨step, rfl, arm, List.mem_singleton_self arm, .inl rfl⟩, flag⟩

theorem later_holds {entered : Machine} (later : arm.Later toks column)
    (enters : Enters toks waiting arm m entered) :
    ∃ ready, m.arrive toks arm.head = .ready ready ∧ ready.taken = false ∧
      arm.Holds toks ready := by
  have before := later.toWritten.head_lt_body
  have block := later.block
  have questions := later.question_lt
  cases arrived : m.arrive toks arm.head with
  | ends out => exact (Through.next enters (.ends arrived) (by simp; omega)).not_ended.elim
  | ready ready =>
      refine ⟨ready, rfl, ?_⟩
      cases flag : ready.taken with
      | true =>
          have further := Through.next enters (step_leftOut later arrived flag) (by simp; omega)
          have same := further.unmoved before questions (Nat.le_of_lt block)
          omega
      | false =>
          refine ⟨rfl, fun q question => ?_⟩
          have further := Through.next enters (step_tried later arrived flag) (by simp; omega)
          rcases later.asks q question with ⟨place, head, line, near, whole⟩
          rw [← place] at further
          have less := questions q question
          cases asked : ({ ready with taken := true } : Machine).arrive toks q with
          | ends out => exact (further.next (.ends asked) (by simp; omega)).not_ended.elim
          | ready second =>
              refine ⟨second, rfl, ?_⟩
              rcases step_answered later.toWritten head near (later.question_line question) whole
                asked with ⟨after, i, step, -, answered⟩
              have reached := further.next step (by simp; omega)
              cases answer : (condition toks q second).1 with
              | true => rfl
              | false =>
                  simp only [answer, Bool.false_eq_true, if_false] at answered
                  have same := reached.unmoved before questions (by omega)
                  omega

theorem later_enters (later : arm.Later toks column) (arrived : m.arrive toks arm.head = .ready ready)
    (clear : ready.taken = false) (holds : arm.Holds toks ready) :
    ∃ entered, Enters toks waiting arm m entered ∧ entered.taken = true := by
  have here : AtHead toks waiting [arm] ⟨m, .token toks arm.head, waiting⟩ :=
    ⟨rfl, arm, List.mem_singleton_self arm, .inl rfl⟩
  have tried : Step ⟨m, .token toks arm.head, waiting⟩ _ := step_tried later arrived clear
  cases question : arm.question with
  | none =>
      rw [← later.alone question] at tried
      exact ⟨_, .single ⟨tried, here⟩, rfl⟩
  | some q =>
      rcases later.asks q question with ⟨place, head, line, near, whole⟩
      rcases holds q question with ⟨second, asked, answer⟩
      rcases step_answered later.toWritten head near (later.question_line question) whole asked
        with ⟨after, i, step, flag, answered⟩
      simp only [answer, if_true] at answered flag
      rw [answered] at step
      rw [← place] at tried
      have asking : AtHead toks waiting [arm]
          ⟨{ ready with taken := true }, .token toks q, waiting⟩ :=
        ⟨rfl, arm, List.mem_singleton_self arm, .inr ⟨q, question, rfl⟩⟩
      exact ⟨after, .head ⟨tried, here⟩ (.single ⟨step, asking⟩), flag⟩

theorem Enters.first_taken {entered : Machine} (first : arm.First toks column)
    (enters : Enters toks waiting arm m entered) : entered.taken = true := by
  rcases first_holds first enters with ⟨ready, arrived, holds⟩
  rcases first_enters first arrived holds with ⟨same, again, flag⟩
  exact enters.unique first.toWritten.head_lt_body first.question_lt again ▸ flag

theorem Enters.later_taken {entered : Machine} (later : arm.Later toks column)
    (enters : Enters toks waiting arm m entered) : entered.taken = true := by
  rcases later_holds later enters with ⟨ready, arrived, clear, holds⟩
  rcases later_enters later arrived clear holds with ⟨same, again, flag⟩
  exact enters.unique later.toWritten.head_lt_body later.question_lt again ▸ flag

theorem ready_taken {i : Nat} (arrived : m.arrive toks i = .ready ready) :
    ready.taken = m.taken := by
  have arrival := arrives toks i m
  rw [arrived] at arrival
  cases arrival with
  | begins => rw [Machine.begun_eq]

/-- While the flag is set, the rest of a chain is left out: nothing but heads is carried out up to
its end, unless the run is stopped at one of them. -/
theorem rest_leftOut {i stop : Nat} {arms : List Arm}
    (alternatives : Alternatives toks column i arms stop) (set : m.taken = true) :
    ∃ c, Through toks waiting arms ⟨m, .token toks i, waiting⟩ c ∧
      (¬ c.Begins ∨
        c.focus = .token toks stop ∧ c.waiting = waiting ∧ c.machine.taken = true) := by
  induction alternatives generalizing m with
  | nil stop => exact ⟨_, .refl, .inr ⟨rfl, rfl, set⟩⟩
  | @cons arm rest stop later others ih =>
      cases arrived : m.arrive toks arm.head with
      | ends out =>
          refine ⟨_, .refl, .inl ?_⟩
          rintro ⟨_, _, ready, here, begins⟩
          cases here
          rw [arrived] at begins
          cases begins
      | ready ready =>
          have step : Step ⟨m, .token toks arm.head, waiting⟩ _ :=
            step_leftOut later arrived ((ready_taken arrived).trans set)
          rcases @ih { ready with taken := true } rfl with ⟨c, through, done⟩
          have here : AtHead toks waiting (arm :: rest) ⟨m, .token toks arm.head, waiting⟩ :=
            ⟨rfl, arm, List.mem_cons_self, .inl rfl⟩
          have further : Through toks waiting (arm :: rest) _ c :=
            Relation.ReflTransGen.mono (fun _ _ moved => ⟨moved.1, moved.2.1,
              moved.2.2.imp fun _ found => ⟨List.mem_cons_of_mem _ found.1, found.2⟩⟩) _ _ through
          exact ⟨c, .head ⟨step, here⟩ further, done⟩

/-! ## Blocks -/

/-- Whether a moment of a run is in the scope of a walk that waits below: in it, or in a body or a
source that is run in place of a statement of it. -/
def InScope (waiting : List Waiting) (c : Config) : Prop :=
  ∃ inner, c.waiting = inner ++ waiting ∧
    ∀ first ∈ inner, first.nested.purpose = .inline ∨ first.nested.purpose = .source

/-- Whether an `if` or an `or` is carried out at this moment. -/
def Branches (c : Config) : Prop :=
  ∃ toks i ready, c.focus = .token toks i ∧ c.machine.arrive toks i = .ready ready ∧
    ((toks.peek i).kind = .word .ifWord ∨ (toks.peek i).kind = .word .orWord)

/-- Whether an `if` is carried out at this moment and answered with no. -/
def Denies (c : Config) : Prop :=
  ∃ toks i ready, c.focus = .token toks i ∧ c.machine.arrive toks i = .ready ready ∧
    (toks.peek i).kind = .word .ifWord ∧ (condition toks i ready).1 = false

/-- Transitions of a walk and of what it runs. -/
def Within (waiting : List Waiting) : Config → Config → Prop :=
  Relation.ReflTransGen fun c next => Step c next ∧ waiting <:+ next.waiting

/-- Transitions of a walk and of what it runs that carry out no `if` and no `or` in its scope. -/
def Branchless (waiting : List Waiting) : Config → Config → Prop :=
  Relation.ReflTransGen fun c next => Step c next ∧ waiting <:+ next.waiting ∧
    ¬ (InScope waiting c ∧ Branches c)

/-- The machine that would be left if all of some statements that wait ended now. -/
def unwind (inner : List Waiting) (m : Machine) : Machine :=
  inner.foldl (fun out first => (first.nested.complete out).2) m

/-- What the flag of a walk is, or will be when what the walk runs has ended. -/
def FlagIs (waiting : List Waiting) (flag : Bool) (c : Config) : Prop :=
  ∃ inner, c.waiting = inner ++ waiting ∧ (∀ first ∈ inner, ∃ m, Nests first.stream m first.nested) ∧
    (unwind inner c.machine).taken = flag

end Config

/-- A call puts the flag back; a body or a source that is run in place leaves it as it is. -/
theorem Nests.complete_taken {toks : TokenStream} {m : Machine} {nested : Nested}
    (nests : Nests toks m nested) :
    (¬ (nested.purpose = .inline ∨ nested.purpose = .source) ∧
        ∀ out, (nested.complete out).2.taken = m.taken) ∨
      ((nested.purpose = .inline ∨ nested.purpose = .source) ∧ nested.entry.taken = m.taken ∧
        ∀ out, (nested.complete out).2.taken = out.taken) := by
  cases nests with
  | @call ready procedure name last head args read found shallow =>
      refine .inl ⟨nofun, fun out => ?_⟩
      change (if (ready.leave out).halt.isSome then (last, ready.leave out)
        else (Statement.finish toks last _).run (ready.leave out)).2.taken = m.taken
      split
      · exact read.taken
      · exact ((Statement.finish_routine toks last _).steady _).taken.trans read.taken
  | background => exact .inl ⟨nofun, fun _ => rfl⟩
  | inline => exact .inr ⟨.inl rfl, rfl, fun _ => rfl⟩
  | source => exact .inr ⟨.inr rfl, rfl, fun _ => rfl⟩

namespace Config

open Statement

/-- What the flag is after unwinding does not depend on anything but the flag before. -/
theorem unwind_taken {inner : List Waiting}
    (proper : ∀ first ∈ inner, ∃ m, Nests first.stream m first.nested) {m other : Machine}
    (same : m.taken = other.taken ∨
      ∃ first ∈ inner, first.nested.purpose ≠ .inline ∧ first.nested.purpose ≠ .source) :
    (unwind inner m).taken = (unwind inner other).taken := by
  induction inner generalizing m other with
  | nil =>
      rcases same with same | ⟨_, none, _⟩
      · exact same
      · cases none
  | cons first inner ih =>
      refine ih (fun other member => proper other (List.mem_cons_of_mem _ member)) ?_
      rcases proper first List.mem_cons_self with ⟨before, nests⟩
      rcases nests.complete_taken with ⟨-, restores⟩ | ⟨purpose, -, keeps⟩
      · exact .inl ((restores m).trans (restores other).symm)
      · rcases same with same | ⟨call, member, apart⟩
        · exact .inl (((keeps m).trans same).trans (keeps other).symm)
        · rcases List.mem_cons.mp member with rfl | member
          · exact absurd purpose (not_or.mpr apart)
          · exact .inr ⟨call, member, apart⟩

theorem ends_taken {toks : TokenStream} {i : Nat} {m out : Machine}
    (arrived : m.arrive toks i = .ends out) : out.taken = m.taken := by
  have arrival := arrives toks i m
  rw [arrived] at arrival
  cases arrival with
  | still => rfl
  | cancelled => rw [Machine.stop_eq]
  | bug => rw [Machine.stopOnBug, Machine.stop_eq, Machine.moveTo_eq]

theorem alone_taken {toks : TokenStream} {i : Nat} {m ready : Machine} {waiting : List Waiting}
    (arrived : m.arrive toks i = .ready ready) (alone : nested? toks i ready = none)
    (other : ¬ Branches ⟨m, .token toks i, waiting⟩) :
    ((dispatch idle toks i).run ready).2.taken = m.taken := by
  have noIf : (toks.peek i).kind ≠ .word .ifWord := fun head =>
    other ⟨toks, i, ready, rfl, arrived, .inl head⟩
  have noOr : (toks.peek i).kind ≠ .word .orWord := fun head =>
    other ⟨toks, i, ready, rfl, arrived, .inr head⟩
  rw [← ready_taken arrived]
  rcases dispatch_guarded toks i alone noIf noOr with ordered | ⟨text, stops⟩
  · exact ordered.taken
  · rw [stops, Machine.stop_eq]

/-- A transition that carries out no `if` and no `or` leaves the flag as it is. -/
theorem Step.flagIs {waiting : List Waiting} {flag : Bool} {c next : Config} (step : Step c next)
    (above : waiting <:+ next.waiting) (other : ¬ (InScope waiting c ∧ Branches c))
    (before : FlagIs waiting flag c) : FlagIs waiting flag next := by
  rcases before with ⟨inner, stack, proper, flag⟩
  cases step with
  | ends arrived =>
      exact ⟨inner, stack, proper, (unwind_taken proper (.inl (ends_taken arrived))).trans flag⟩
  | @alone m ready toks i stacked arrived alone =>
      refine ⟨inner, stack, proper, (unwind_taken proper ?_).trans flag⟩
      by_cases scope : ∀ first ∈ inner,
          first.nested.purpose = .inline ∨ first.nested.purpose = .source
      · exact .inl (alone_taken arrived alone fun branches => other ⟨⟨inner, stack, scope⟩, branches⟩)
      · simp only [Classical.not_forall, not_or] at scope
        rcases scope with ⟨call, member, apart⟩
        exact .inr ⟨call, member, apart⟩
  | @enter m ready toks i stacked nested arrived runs =>
      have nests := nested?_nests runs
      refine ⟨⟨toks, nested⟩ :: inner, congrArg (_ :: ·) stack, ?_, ?_⟩
      · intro first member
        rcases List.mem_cons.mp member with rfl | member
        · exact ⟨ready, nests⟩
        · exact proper first member
      · have back : (nested.complete nested.entry).2.taken = m.taken := by
          rw [← ready_taken arrived]
          rcases nests.complete_taken with ⟨-, restores⟩ | ⟨-, entry, keeps⟩
          · exact restores _
          · exact (keeps _).trans entry
        exact (unwind_taken proper (.inl back)).trans flag
  | leave out first stacked =>
      cases inner with
      | nil =>
          have short := above.length_le
          rw [List.nil_append] at stack
          rw [← stack, List.length_cons] at short
          exact absurd short (Nat.not_succ_le_self _)
      | cons top inner =>
          cases stack
          exact ⟨inner, rfl, fun other member => proper other (List.mem_cons_of_mem _ member), flag⟩
  | finish out =>
      have same : out.endInvocation.taken = out.taken := by rw [Machine.endInvocation_eq]
      exact ⟨inner, stack, proper, (unwind_taken proper (.inl same)).trans flag⟩

theorem Branchless.flagIs {waiting : List Waiting} {flag : Bool} {c later : Config}
    (path : Branchless waiting c later) (before : FlagIs waiting flag c) :
    FlagIs waiting flag later := by
  induction path with
  | refl => exact before
  | tail _ step ih => exact step.1.flagIs step.2.1 step.2.2 ih

theorem FlagIs.taken {waiting : List Waiting} {flag : Bool} {c : Config}
    (is : FlagIs waiting flag c) (back : c.waiting = waiting) : c.machine.taken = flag := by
  rcases is with ⟨inner, stack, -, is⟩
  rw [back] at stack
  have none : inner = [] := List.self_eq_append_left.mp stack
  rw [none] at is
  exact is

/-- An `if` or an `or` that is carried out leaves the flag set, unless it is an `if` that is answered
with no. -/
theorem Branches.step {c next : Config} (branches : Branches c) (step : Step c next) :
    next.waiting = c.waiting ∧ (next.machine.taken = false ↔ Denies c) := by
  rcases c with ⟨m, focus, waiting⟩
  rcases branches with ⟨toks, i, ready, here, arrived, head | head⟩
  · cases here
    cases step_unique (step_branch head arrived) step
    refine ⟨rfl, fun no => ⟨toks, i, ready, rfl, arrived, head, no⟩, ?_⟩
    rintro ⟨_, _, second, here, again, -, no⟩
    cases here
    cases arrived.symm.trans again
    exact no
  · cases here
    cases step_unique (step_alternative head arrived) step
    refine ⟨rfl, nofun, ?_⟩
    rintro ⟨_, _, _, here, -, other, -⟩
    cases here
    cases head.symm.trans other

theorem Denies.branches {c : Config} (denies : Denies c) : Branches c := by
  rcases denies with ⟨toks, i, ready, here, arrived, head, -⟩
  exact ⟨toks, i, ready, here, arrived, .inl head⟩

/-- What is run in place leaves the flag of its walk as it leaves its own. -/
theorem unwind_inline {inner : List Waiting} {m : Machine}
    (proper : ∀ first ∈ inner, ∃ m, Nests first.stream m first.nested)
    (inline : ∀ first ∈ inner, first.nested.purpose = .inline ∨ first.nested.purpose = .source) :
    (unwind inner m).taken = m.taken := by
  induction inner generalizing m with
  | nil => rfl
  | cons first inner ih =>
      have rest : (unwind inner (first.nested.complete m).2).taken = (first.nested.complete m).2.taken :=
        ih (fun other member => proper other (List.mem_cons_of_mem _ member))
          (fun other member => inline other (List.mem_cons_of_mem _ member))
      refine rest.trans ?_
      rcases proper first List.mem_cons_self with ⟨before, nests⟩
      rcases nests.complete_taken with ⟨apart, -⟩ | ⟨-, -, keeps⟩
      · exact absurd (inline first List.mem_cons_self) apart
      · exact keeps m

/-- An `if` or an `or` in the scope of a walk decides the flag of the walk. -/
theorem Branches.flagIs {waiting : List Waiting} {flag : Bool} {c next : Config}
    (branches : Branches c) (scope : InScope waiting c) (step : Step c next)
    (before : FlagIs waiting flag c) : FlagIs waiting next.machine.taken next := by
  rcases before with ⟨inner, stack, proper, -⟩
  rcases scope with ⟨others, same, inline⟩
  have one : others = inner := List.append_cancel_right (same.symm.trans stack)
  exact ⟨inner, (branches.step step).1.trans stack, proper, unwind_inline proper (one ▸ inline)⟩

theorem Within.flagIs {waiting : List Waiting} {flag : Bool} {c later : Config}
    (path : Within waiting c later) (before : FlagIs waiting flag c) :
    ∃ after, FlagIs waiting after later := by
  induction path with
  | refl => exact ⟨flag, before⟩
  | @tail turn next _ step ih =>
      rcases ih with ⟨after, is⟩
      by_cases branching : InScope waiting turn ∧ Branches turn
      · exact ⟨next.machine.taken, branching.2.flagIs branching.1 step.1 is⟩
      · exact ⟨after, step.1.flagIs step.2 branching is⟩

/-- The last `if` or `or` in the scope of a walk. -/
theorem Within.last {waiting : List Waiting} {c later : Config} (path : Within waiting c later) :
    Branchless waiting c later ∨ ∃ turn next, Within waiting c turn ∧ InScope waiting turn ∧
      Branches turn ∧ Step turn next ∧ Branchless waiting next later := by
  induction path with
  | refl => exact .inl .refl
  | @tail turn next path step ih =>
      by_cases branching : InScope waiting turn ∧ Branches turn
      · exact .inr ⟨turn, next, path, branching.1, branching.2, step.1, .refl⟩
      · rcases ih with less | ⟨other, after, before, scope, branches, taken, less⟩
        · exact .inl (less.tail ⟨step.1, step.2, branching⟩)
        · exact .inr ⟨other, after, before, scope, branches, taken,
            less.tail ⟨step.1, step.2, branching⟩⟩

/-- A flag that was set is clear again if the last `if` or `or` in the scope of the walk was an `if`
that was answered with no, and only then. -/
theorem Within.cleared_iff {waiting : List Waiting} {c later : Config}
    (path : Within waiting c later) (start : c.waiting = waiting) (set : c.machine.taken = true)
    (back : later.waiting = waiting) :
    later.machine.taken = false ↔ ∃ turn next, Within waiting c turn ∧ InScope waiting turn ∧
      Denies turn ∧ Step turn next ∧ Branchless waiting next later := by
  have first : FlagIs waiting true c :=
    ⟨[], start, fun _ member => absurd member List.not_mem_nil, set⟩
  constructor
  · intro clear
    rcases path.last with less | ⟨turn, next, before, scope, branches, step, less⟩
    · have still := (less.flagIs first).taken back
      cases still.symm.trans clear
    · rcases before.flagIs first with ⟨flag, is⟩
      have decided := (less.flagIs (branches.flagIs scope step is)).taken back
      exact ⟨turn, next, before, scope,
        (branches.step step).2.mp (decided.symm.trans clear), step, less⟩
  · rintro ⟨turn, next, before, scope, denies, step, less⟩
    rcases before.flagIs first with ⟨flag, is⟩
    have decided := (less.flagIs (denies.branches.flagIs scope step is)).taken back
    exact decided.trans ((denies.branches.step step).2.mpr denies)

end Config

/-! ## The law -/

open Config Statement

theorem Alternatives.later {toks : TokenStream} {column i stop : Nat} {arms : List Arm} {arm : Arm}
    (alternatives : Alternatives toks column i arms stop) (member : arm ∈ arms) :
    arm.Later toks column := by
  induction alternatives with
  | nil => exact absurd member List.not_mem_nil
  | cons later _ ih =>
      rcases List.mem_cons.mp member with rfl | member
      · exact later
      · exact ih member

theorem Alternatives.rest {toks : TokenStream} {column i stop : Nat} {before rest : List Arm}
    {arm : Arm} (alternatives : Alternatives toks column i (before ++ arm :: rest) stop) :
    Alternatives toks column arm.head (arm :: rest) stop := by
  induction before generalizing i with
  | nil =>
      cases alternatives with
      | cons later others => exact .cons later others
  | cons first before ih =>
      cases alternatives with
      | cons _ others => exact ih others

/-- Which blocks of a chain are entered. -/
structure ChainLaw (toks : TokenStream) (first : Arm) (later : List Arm) (stop : Nat) : Prop where
  /-- The first block is entered if its condition holds. -/
  opening : ∀ waiting m, (∃ entered, Enters toks waiting first m entered) ↔
    ∃ ready, m.arrive toks first.head = .ready ready ∧ (condition toks first.head ready).1 = true
  /-- A later block is entered if its condition holds and the flag is clear. -/
  others : ∀ arm ∈ later, ∀ waiting m, (∃ entered, Enters toks waiting arm m entered) ↔
    ∃ ready, m.arrive toks arm.head = .ready ready ∧ ready.taken = false ∧ arm.Holds toks ready
  /-- A block that was entered begins with the flag set. -/
  entered : ∀ arm ∈ first :: later, ∀ waiting m entered, Enters toks waiting arm m entered →
    entered.taken = true
  /-- While the flag is set, what is left of the chain is left out, unless the run is stopped. -/
  leftOut : ∀ before arm rest, later = before ++ arm :: rest → ∀ waiting m, m.taken = true →
    ∃ c, Through toks waiting (arm :: rest) ⟨m, .token toks arm.head, waiting⟩ c ∧
      (¬ c.Begins ∨ c.focus = .token toks stop ∧ c.waiting = waiting ∧ c.machine.taken = true)
  /-- When a run comes from a block that was entered to a later head of the chain, the flag is clear
  if the last `if` or `or` in the scope of the chain was an `if` that was answered with no, and only
  then. -/
  again : ∀ earlier ∈ first :: later, ∀ waiting m entered, Enters toks waiting earlier m entered →
    ∀ arm ∈ later, ∀ back, Within waiting ⟨entered, .token toks earlier.body, waiting⟩
      ⟨back, .token toks arm.head, waiting⟩ →
    (back.taken = false ↔
      ∃ turn next, Within waiting ⟨entered, .token toks earlier.body, waiting⟩ turn ∧
        InScope waiting turn ∧ Denies turn ∧ Step turn next ∧
        Branchless waiting next ⟨back, .token toks arm.head, waiting⟩)

theorem chain_law {toks : TokenStream} {column stop : Nat} {first : Arm} {later : List Arm}
    (chain : Chain toks column first later stop) : ChainLaw toks first later stop := by
  have flag : ∀ arm ∈ first :: later, ∀ waiting m entered, Enters toks waiting arm m entered →
      entered.taken = true := by
    intro arm member waiting m entered enters
    rcases List.mem_cons.mp member with rfl | member
    · exact enters.first_taken chain.opening
    · exact enters.later_taken (chain.others.later member)
  refine ⟨?opening, ?others, flag, ?leftOut, ?again⟩
  case opening =>
    intro waiting m
    constructor
    · rintro ⟨entered, enters⟩
      exact first_holds chain.opening enters
    · rintro ⟨ready, arrived, holds⟩
      exact (first_enters chain.opening arrived holds).imp fun _ enters => enters.1
  case others =>
    intro arm member waiting m
    have written := chain.others.later member
    constructor
    · rintro ⟨entered, enters⟩
      exact later_holds written enters
    · rintro ⟨ready, arrived, clear, holds⟩
      exact (later_enters written arrived clear holds).imp fun _ enters => enters.1
  case leftOut =>
    rintro before arm rest split waiting m set
    have alternatives := chain.others
    rw [split] at alternatives
    exact rest_leftOut alternatives.rest set
  case again =>
    intro earlier member waiting m entered enters arm _ back path
    exact path.cleared_iff rfl (flag earlier member waiting m entered enters) rfl

/-- A chain whose first block holds a condition that does not hold. -/
def deniedWithin : String :=
  "if 1 = 1\n    print 1\n    if 1 = 2\n        print 2\nor\n    print 3"

theorem chain_law_deniedWithin :
    Chain (scan deniedWithin) 1 ⟨0, some 0, 4, 12⟩ [⟨12, none, 13, 15⟩] 15 ∧
      ChainLaw (scan deniedWithin) ⟨0, some 0, 4, 12⟩ [⟨12, none, 13, 15⟩] 15 := by
  have kinds : ((scan deniedWithin).peek 0).kind = .word .ifWord ∧
      ((scan deniedWithin).peek 12).kind = .word .orWord ∧
      [4, 6, 10, 13, 15].map (fun i => ((scan deniedWithin).peek i).isFinish) =
        [false, false, false, false, true] ∧
      [0, 4, 6, 10, 12, 13].map (fun i => ((scan deniedWithin).peek i).column) =
        [1, 5, 5, 9, 1, 5] ∧
      [0, 4, 6, 10, 12, 13].map (fun i => (scan deniedWithin).lineEnd i + 1) =
        [4, 6, 10, 12, 13, 15] ∧
      conditionEnd (scan deniedWithin) 0 = 4 := by decide +kernel
  simp only [List.map_cons, List.map_nil, List.cons.injEq, and_true] at kinds
  rcases kinds with ⟨opens, turns, ⟨run₄, run₆, run₁₀, run₁₃, done⟩, ⟨at₀, at₄, at₆, at₁₀, at₁₂, at₁₃⟩,
    ⟨end₀, end₄, end₆, end₁₀, end₁₂, end₁₃⟩, asks⟩
  have third : (scan deniedWithin).Lines (1 + 4) 10 12 := .single run₁₀ (by omega) end₁₀
  have second : (scan deniedWithin).Lines (1 + 4) 6 12 := .cons run₆ (by omega) (end₆ ▸ third)
  have opening : Arm.First (scan deniedWithin) 1 ⟨0, some 0, 4, 12⟩ :=
    { place := at₀
      body := end₀.symm
      block := by decide
      lines := .cons run₄ (Nat.le_of_eq at₄.symm) (end₄ ▸ second)
      dedents := .inr (Nat.le_of_eq at₁₂)
      head := opens
      question := rfl
      condition := asks }
  have other : Arm.Later (scan deniedWithin) 1 ⟨12, none, 13, 15⟩ :=
    { place := at₁₂
      body := end₁₂.symm
      block := by decide
      lines := .single run₁₃ (Nat.le_of_eq at₁₃.symm) end₁₃
      dedents := .inl done
      head := turns
      alone := fun _ => rfl
      asks := nofun }
  have chain : Chain (scan deniedWithin) 1 ⟨0, some 0, 4, 12⟩ [⟨12, none, 13, 15⟩] 15 :=
    ⟨opening, .cons other (.nil 15)⟩
  exact ⟨chain, chain_law chain⟩

/-- Both blocks of this chain are entered: the condition inside of the first one clears the flag. -/
theorem deniedWithin_entersBoth :
    (Machine.runSource deniedWithin (.start {})).2.output = "1\n3\n" := by
  decide +kernel

end BigScript
