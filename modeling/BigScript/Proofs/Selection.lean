import BigScript.Proofs.Chain
import BigScript.Proofs.Forward.Statement
import BigScript.Proofs.Substitution

/-!
# Which block of a chain is run

Chains of branches whose blocks are indented by any amount.  `verdict` says what a chain should do:
its conditions are read one after another, up to the first that is true.  `selection_law` says that a
run does that, block included, wherever every block of an `or if` is right of its `if`: it comes to
the first line behind the chain through the heads and that one block, unless it is stopped.

The side condition cannot be left out.  An `or if` is two statements on one line.  The block that its
`if` leaves out is measured from the column of the `if`, which is three columns right of the column of
the chain at least.  A line of the block that begins no further right is not left out: the run goes on
there although the condition is false, with the flag clear.  So the later branches are tried as well.
-/

namespace BigScript

namespace Arm

/-- How the lines of a branch are written whose block is indented by any amount. -/
structure Indented (toks : TokenStream) (column : Nat) (arm : Arm) : Prop where
  place : (toks.peek arm.head).column = column
  body : arm.body = toks.lineEnd arm.head + 1
  block : arm.body < arm.next
  lines : toks.Lines (column + 1) arm.body arm.next
  dedents : toks.Dedents column arm.next

/-- The first branch of a chain: `if` and a condition. -/
structure Opens (toks : TokenStream) (column : Nat) (arm : Arm) : Prop
    extends Indented toks column arm where
  head : (toks.peek arm.head).kind = .word .ifWord
  question : arm.question = some arm.head
  condition : Statement.conditionEnd toks arm.head = arm.body

/-- A later branch of a chain: `or`, alone on its line or followed by `if` and a condition. -/
structure Continues (toks : TokenStream) (column : Nat) (arm : Arm) : Prop
    extends Indented toks column arm where
  head : (toks.peek arm.head).kind = .word .orWord
  alone : arm.question = none → arm.body = arm.head + 1
  asks : ∀ q, arm.question = some q → q = arm.head + 1 ∧ (toks.peek q).kind = .word .ifWord ∧
    (toks.peek q).line = (toks.peek arm.head).line ∧ column < (toks.peek q).column ∧
    Statement.conditionEnd toks q = arm.body

/-- Whether the block of a branch is right of the `if` that decides it. -/
def Deep (toks : TokenStream) (arm : Arm) : Prop :=
  ∀ q, arm.question = some q → toks.Lines ((toks.peek q).column + 1) arm.body arm.next

end Arm

/-- The later branches of a chain from an index on up to the end of the chain. -/
inductive Continuations (toks : TokenStream) (column : Nat) : Nat → List Arm → Nat → Prop where
  | nil (stop : Nat) : Continuations toks column stop [] stop
  | cons {arm : Arm} {rest : List Arm} {stop : Nat} (continues : arm.Continues toks column)
      (others : Continuations toks column arm.next rest stop) :
      Continuations toks column arm.head (arm :: rest) stop

/-- A chain of branches with a line of its own behind it. -/
structure Selection (toks : TokenStream) (column : Nat) (first : Arm) (later : List Arm)
    (stop : Nat) : Prop where
  opening : first.Opens toks column
  others : Continuations toks column first.next later stop
  behind : (toks.peek stop).isSymbol .ampersand = false

/-! ## What a chain should do -/

/-- What the heads of a chain come to: the run is stopped at one of them, it enters the block of a
branch, or it passes them all. -/
inductive Verdict where
  | stopped (out : Machine)
  | enters (arm : Arm) (m : Machine)
  | passes (m : Machine)

namespace Statement

variable (toks : TokenStream)

/-- The machine behind an `if` that has been answered. -/
def answered (q : Nat) (ready : Machine) : Machine :=
  { (if toks.asksForBug q then (condition toks q ready).2.clearBug else (condition toks q ready).2) with
    taken := (condition toks q ready).1 }

/-- The `if` of a branch: its block is entered if the condition is true, and passed otherwise. -/
def askedAt (arm : Arm) (q : Nat) (m : Machine) : Verdict :=
  match m.arrive toks q with
  | .ends out => .stopped out
  | .ready ready =>
    if (condition toks q ready).1 then .enters arm (answered toks q ready)
    else .passes (answered toks q ready)

/-- The head of a branch.  An `or` without a condition is always true. -/
def headVerdict (arm : Arm) (m : Machine) : Verdict :=
  if arm.question = some arm.head then askedAt toks arm arm.head m
  else
    match m.arrive toks arm.head with
    | .ends out => .stopped out
    | .ready ready =>
      match arm.question with
      | none => .enters arm { ready with taken := true }
      | some q => askedAt toks arm q { ready with taken := true }

/-- The heads of a chain, one after another up to the first whose condition is true. -/
def verdict : List Arm → Machine → Verdict
  | [], m => .passes m
  | arm :: rest, m =>
    match headVerdict toks arm m with
    | .passes m => verdict rest m
    | decided => decided

end Statement

/-- The moment of a run that a verdict stands for, where passing leads to an index. -/
def Verdict.config (toks : TokenStream) (waiting : List Waiting) (next : Nat) : Verdict → Config
  | .stopped out => ⟨out, .walked, waiting⟩
  | .enters arm m => ⟨m, .token toks arm.body, waiting⟩
  | .passes m => ⟨m, .token toks next, waiting⟩

/-- Whether the flag of a verdict tells whether a block is entered. -/
def Verdict.Flagged : Verdict → Prop
  | .stopped _ => True
  | .enters _ m => m.taken = true
  | .passes m => m.taken = false

namespace Statement

variable {toks : TokenStream} {column : Nat} {arm : Arm}

theorem askedAt_flagged (toks : TokenStream) (arm : Arm) (q : Nat) (m : Machine) :
    (askedAt toks arm q m).Flagged := by
  unfold askedAt
  split
  · trivial
  · split
    · rename_i holds
      exact holds
    · rename_i fails
      exact (Bool.not_eq_true _).mp fails

theorem headVerdict_flagged (toks : TokenStream) (arm : Arm) (m : Machine) :
    (headVerdict toks arm m).Flagged := by
  unfold headVerdict
  split
  · exact askedAt_flagged toks arm _ m
  · split
    · trivial
    · split
      · rfl
      · exact askedAt_flagged toks arm _ _

theorem askedAt_enters {q : Nat} {m entered : Machine} {other : Arm}
    (enters : askedAt toks arm q m = .enters other entered) : other = arm := by
  unfold askedAt at enters
  split at enters
  · cases enters
  · split at enters
    · cases enters
      rfl
    · cases enters

theorem headVerdict_enters {m entered : Machine} {other : Arm}
    (enters : headVerdict toks arm m = .enters other entered) : other = arm := by
  unfold headVerdict at enters
  split at enters
  · exact askedAt_enters enters
  · split at enters
    · cases enters
    · split at enters
      · cases enters
        rfl
      · exact askedAt_enters enters

/-- A block that is entered is that of a branch of the chain, and it begins with the flag set. -/
theorem verdict_enters {arms : List Arm} {m entered : Machine}
    (enters : verdict toks arms m = .enters arm entered) : arm ∈ arms ∧ entered.taken = true := by
  induction arms generalizing m with
  | nil => cases enters
  | cons head rest ih =>
    rw [verdict] at enters
    have flagged := headVerdict_flagged toks head m
    cases decided : headVerdict toks head m with
    | stopped out =>
      rw [decided] at enters
      cases enters
    | enters chosen later =>
      rw [decided] at enters flagged
      cases enters
      obtain rfl := headVerdict_enters decided
      exact ⟨List.mem_cons_self, flagged⟩
    | passes passed =>
      rw [decided] at enters
      rcases ih enters with ⟨member, set⟩
      exact ⟨List.mem_cons_of_mem _ member, set⟩

end Statement

/-! ## Heads -/

namespace Arm

variable {toks : TokenStream} {column : Nat} {arm : Arm}

theorem Indented.head_lt_body (written : arm.Indented toks column) : arm.head < arm.body := by
  rw [written.body]
  exact Nat.lt_succ_of_le (Nat.le_add_right _ _)

/-- Leaving out the block of an alternative leads to the branch behind it. -/
theorem Indented.blockEnd (written : arm.Indented toks column) :
    toks.blockEnd column false arm.body = arm.next := by
  rw [TokenStream.blockEnd_of_lines false written.lines]
  exact TokenStream.blockEnd_of_dedents written.dedents nofun

/-- So does leaving out a block that is right of its `if`. -/
theorem Indented.blockEnd_of_deep (written : arm.Indented toks column) {base : Nat}
    (right : column ≤ base) (deep : toks.Lines (base + 1) arm.body arm.next)
    (apart : (toks.peek arm.next).isSymbol .ampersand = false) :
    toks.blockEnd base true arm.body = arm.next := by
  rw [TokenStream.blockEnd_of_lines true deep]
  refine TokenStream.blockEnd_of_dedents ?_ fun _ => apart
  exact written.dedents.imp id fun left => Nat.le_trans left right

/-- The question of an alternative stands on the line of its head. -/
theorem Continues.question_line (continues : arm.Continues toks column) {q : Nat}
    (question : arm.question = some q) : toks.lineEnd q + 1 = arm.body := by
  rcases continues.asks q question with ⟨place, head, line, -, -⟩
  have unfinished : (toks.peek (arm.head + 1)).isFinish = false := by
    rw [← place, Token.isFinish, head]
    rfl
  rw [continues.body, ← TokenStream.lineEnd_succ unfinished (place ▸ line), place]

/-- An alternative is not decided by its own word. -/
theorem Continues.question_ne (continues : arm.Continues toks column) :
    arm.question ≠ some arm.head := by
  intro same
  have next := (continues.asks arm.head same).1
  omega

end Arm

namespace Config

open Statement

variable {toks : TokenStream} {column : Nat} {arm : Arm} {m ready : Machine}
variable {waiting : List Waiting}

/-- The `if` of a branch leads into the block of the branch, or to where the block is left out. -/
theorem step_asked {q : Nat} (head : (toks.peek q).kind = .word .ifWord)
    (line : toks.lineEnd q + 1 = arm.body) (whole : conditionEnd toks q = arm.body)
    (arrived : m.arrive toks q = .ready ready) :
    Step ⟨m, .token toks q, waiting⟩
      ⟨answered toks q ready, .token toks (if (condition toks q ready).1 then arm.body
        else toks.blockEnd (toks.peek q).column true arm.body), waiting⟩ := by
  have step : Step ⟨m, .token toks q, waiting⟩ _ := step_branch head arrived
  have positive : 0 < arm.body := line ▸ Nat.succ_pos _
  have index : branchLast toks q (condition toks q ready).1 + 1 =
      if (condition toks q ready).1 then arm.body
      else toks.blockEnd (toks.peek q).column true arm.body := by
    unfold branchLast
    rw [whole]
    cases (condition toks q ready).1 with
    | true =>
      have apart : ((toks.peek arm.body).isSymbol .ampersand &&
          (toks.peek arm.body).line == (toks.peek q).line) = false := by
        rw [← line]
        rcases toks.lineEnd_stop q with finished | other
        · rw [Token.isSymbol_of_finish finished, Bool.false_and]
        · rw [beq_eq_false_iff_ne.mpr other, Bool.and_false]
      simp only [if_true, apart, Bool.false_eq_true, if_false]
      exact Nat.sub_add_cancel positive
    | false =>
      simp only [Bool.false_eq_true, if_false, TokenStream.skipBlock, line]
      have behind := toks.le_blockEnd (toks.peek q).column true arm.body
      omega
  rw [index] at step
  exact step

/-- The `if` of a branch does what `askedAt` says, where passing leads to where the block is left
out. -/
theorem askedAt_through {q : Nat} (question : arm.question = some q)
    (head : (toks.peek q).kind = .word .ifWord) (line : toks.lineEnd q + 1 = arm.body)
    (whole : conditionEnd toks q = arm.body) (m : Machine) :
    Through toks waiting [arm] ⟨m, .token toks q, waiting⟩
      ((askedAt toks arm q m).config toks waiting
        (toks.blockEnd (toks.peek q).column true arm.body)) := by
  have here : AtHead toks waiting [arm] ⟨m, .token toks q, waiting⟩ :=
    ⟨rfl, arm, List.mem_singleton_self arm, .inr ⟨q, question, rfl⟩⟩
  unfold askedAt
  cases arrived : m.arrive toks q with
  | ends out => exact .single ⟨.ends arrived, here⟩
  | ready ready =>
    have step : Step ⟨m, .token toks q, waiting⟩ _ := step_asked head line whole arrived
    dsimp only
    by_cases holds : (condition toks q ready).1 = true
    · rw [if_pos holds] at step ⊢
      exact .single ⟨step, here⟩
    · rw [if_neg holds] at step ⊢
      exact .single ⟨step, here⟩

/-- Trying an alternative while the flag is clear. -/
theorem step_tries (continues : arm.Continues toks column)
    (arrived : m.arrive toks arm.head = .ready ready) (clear : ready.taken = false) :
    Step ⟨m, .token toks arm.head, waiting⟩
      ⟨{ ready with taken := true }, .token toks (arm.head + 1), waiting⟩ := by
  have step : Step ⟨m, .token toks arm.head, waiting⟩ _ := step_alternative continues.head arrived
  rwa [clear] at step

/-- Leaving out an alternative while the flag is set. -/
theorem step_leavesOut (continues : arm.Continues toks column)
    (arrived : m.arrive toks arm.head = .ready ready) (set : ready.taken = true) :
    Step ⟨m, .token toks arm.head, waiting⟩
      ⟨{ ready with taken := true }, .token toks arm.next, waiting⟩ := by
  have step : Step ⟨m, .token toks arm.head, waiting⟩ _ := step_alternative continues.head arrived
  have behind := continues.toIndented.blockEnd
  have positive : 0 < arm.next := Nat.lt_of_le_of_lt (Nat.zero_le _) continues.block
  rw [if_pos set, continues.place, ← continues.body, behind, Nat.sub_add_cancel positive] at step
  exact step

/-- Where the heads of a branch lead if its block is passed. -/
def passedTo (toks : TokenStream) (arm : Arm) : Nat :=
  match arm.question with
  | none => arm.next
  | some q => toks.blockEnd (toks.peek q).column true arm.body

theorem opens_through (opens : arm.Opens toks column) (waiting : List Waiting) (m : Machine) :
    Through toks waiting [arm] ⟨m, .token toks arm.head, waiting⟩
      ((headVerdict toks arm m).config toks waiting (passedTo toks arm)) := by
  rw [headVerdict, if_pos opens.question, passedTo, opens.question]
  exact askedAt_through opens.question opens.head opens.body.symm opens.condition m

theorem continues_through (continues : arm.Continues toks column) (waiting : List Waiting)
    (clear : m.taken = false) :
    Through toks waiting [arm] ⟨m, .token toks arm.head, waiting⟩
      ((headVerdict toks arm m).config toks waiting (passedTo toks arm)) := by
  have here : AtHead toks waiting [arm] ⟨m, .token toks arm.head, waiting⟩ :=
    ⟨rfl, arm, List.mem_singleton_self arm, .inl rfl⟩
  rw [headVerdict, if_neg continues.question_ne]
  cases arrived : m.arrive toks arm.head with
  | ends out => exact .single ⟨.ends arrived, here⟩
  | ready ready =>
    have tried : Step ⟨m, .token toks arm.head, waiting⟩ _ :=
      step_tries continues arrived ((ready_taken arrived).trans clear)
    rw [passedTo]
    cases question : arm.question with
    | none =>
      rw [← continues.alone question] at tried
      exact .single ⟨tried, here⟩
    | some q =>
      rcases continues.asks q question with ⟨place, head, line, right, whole⟩
      rw [← place] at tried
      exact .head ⟨tried, here⟩
        (askedAt_through question head (continues.question_line question) whole _)

/-- A path through heads of some branches of a chain is a path through heads of the chain. -/
theorem Through.widen {arms all : List Arm} {c later : Config}
    (through : Through toks waiting arms c later) (among : ∀ arm ∈ arms, arm ∈ all) :
    Through toks waiting all c later :=
  Relation.ReflTransGen.mono (fun _ _ moved => ⟨moved.1, moved.2.1,
    moved.2.2.imp fun arm found => ⟨among arm found.1, found.2⟩⟩) _ _ through

/-- Where the block of an alternative is right of its `if`, passing it leads behind it. -/
theorem passedTo_deep (written : arm.Indented toks column)
    (right : ∀ q, arm.question = some q → column ≤ (toks.peek q).column) (deep : arm.Deep toks)
    (apart : (toks.peek arm.next).isSymbol .ampersand = false) : passedTo toks arm = arm.next := by
  unfold passedTo
  split
  · rfl
  · rename_i q question
    exact written.blockEnd_of_deep (right q question) (deep q question) apart

theorem opens_passedTo (opens : arm.Opens toks column)
    (apart : (toks.peek arm.next).isSymbol .ampersand = false) : passedTo toks arm = arm.next := by
  have only (q : Nat) (question : arm.question = some q) : (toks.peek q).column = column := by
    cases opens.question.symm.trans question
    exact opens.place
  refine passedTo_deep opens.toIndented (fun q question => Nat.le_of_eq (only q question).symm) ?_ apart
  intro q question
  rw [only q question]
  exact opens.lines

theorem continues_passedTo (continues : arm.Continues toks column) (deep : arm.Deep toks)
    (apart : (toks.peek arm.next).isSymbol .ampersand = false) : passedTo toks arm = arm.next :=
  passedTo_deep continues.toIndented
    (fun q question => Nat.le_of_lt (continues.asks q question).2.2.2.1) deep apart

end Config

/-! ## Chains -/

namespace Continuations

variable {toks : TokenStream} {column i stop : Nat} {arms : List Arm}

/-- The next branch of a chain does not begin with an ampersand, nor does what is behind it. -/
theorem apart (others : Continuations toks column i arms stop)
    (behind : (toks.peek stop).isSymbol .ampersand = false) :
    (toks.peek i).isSymbol .ampersand = false := by
  cases others with
  | nil => exact behind
  | cons continues =>
    rw [Token.isSymbol, continues.head]
    rfl

theorem continues {arm : Arm} (others : Continuations toks column i arms stop) (member : arm ∈ arms) :
    arm.Continues toks column := by
  induction others with
  | nil => exact absurd member List.not_mem_nil
  | cons continues _ ih =>
    rcases List.mem_cons.mp member with rfl | member
    · exact continues
    · exact ih member

theorem behindOf {before after : List Arm} {arm : Arm}
    (others : Continuations toks column i (before ++ arm :: after) stop) :
    Continuations toks column arm.next after stop := by
  induction before generalizing i with
  | nil =>
    cases others with
    | cons _ rest => exact rest
  | cons first before ih =>
    cases others with
    | cons _ rest => exact ih rest

end Continuations

namespace Config

open Statement

variable {toks : TokenStream} {column i stop : Nat} {arms : List Arm} {waiting : List Waiting}

/-- What a head leads to, and behind it what the heads behind it lead to. -/
theorem verdict_through {arm : Arm} {rest : List Arm} {m : Machine}
    (head : Through toks waiting [arm] ⟨m, .token toks arm.head, waiting⟩
      ((headVerdict toks arm m).config toks waiting arm.next))
    (others : ∀ passed, passed.taken = false → Through toks waiting rest
      ⟨passed, .token toks arm.next, waiting⟩ ((verdict toks rest passed).config toks waiting stop)) :
    Through toks waiting (arm :: rest) ⟨m, .token toks arm.head, waiting⟩
      ((verdict toks (arm :: rest) m).config toks waiting stop) := by
  have flagged := headVerdict_flagged toks arm m
  have first : Through toks waiting (arm :: rest) _ _ :=
    head.widen fun _ member => List.mem_cons.mpr (.inl (List.mem_singleton.mp member))
  rw [verdict]
  cases decided : headVerdict toks arm m with
  | stopped out =>
    rw [decided] at first
    exact first
  | enters chosen entered =>
    rw [decided] at first
    exact first
  | passes passed =>
    rw [decided] at first flagged
    exact first.trans ((others passed flagged).widen fun _ => List.mem_cons_of_mem _)

/-- With the flag clear, the later heads do what the chain should do. -/
theorem continuations_through (others : Continuations toks column i arms stop)
    (deep : ∀ arm ∈ arms, arm.Deep toks) (behind : (toks.peek stop).isSymbol .ampersand = false)
    {m : Machine} (clear : m.taken = false) :
    Through toks waiting arms ⟨m, .token toks i, waiting⟩
      ((verdict toks arms m).config toks waiting stop) := by
  induction others generalizing m with
  | nil => exact .refl
  | @cons arm rest stop continues others ih =>
    have head := continues_through continues waiting clear
    rw [continues_passedTo continues (deep arm List.mem_cons_self) (others.apart behind)] at head
    exact verdict_through head fun passed clear =>
      ih (fun other member => deep other (List.mem_cons_of_mem _ member)) behind clear

/-- While the flag is set, the rest of a chain is left out: nothing but heads is carried out up to
its end, unless the run is stopped at one of them. -/
theorem continuations_leftOut (others : Continuations toks column i arms stop) {m : Machine}
    (set : m.taken = true) :
    ∃ c, Through toks waiting arms ⟨m, .token toks i, waiting⟩ c ∧
      (¬ c.Begins ∨ ∃ out, c = ⟨out, .token toks stop, waiting⟩) := by
  induction others generalizing m with
  | nil stop => exact ⟨_, .refl, .inr ⟨m, rfl⟩⟩
  | @cons arm rest stop continues others ih =>
    have here : AtHead toks waiting (arm :: rest) ⟨m, .token toks arm.head, waiting⟩ :=
      ⟨rfl, arm, List.mem_cons_self, .inl rfl⟩
    cases arrived : m.arrive toks arm.head with
    | ends out =>
      refine ⟨⟨out, .walked, waiting⟩, .single ⟨.ends arrived, here⟩, .inl ?_⟩
      rintro ⟨_, _, _, focus, -⟩
      cases focus
    | ready ready =>
      have step : Step ⟨m, .token toks arm.head, waiting⟩ _ :=
        step_leavesOut continues arrived ((ready_taken arrived).trans set)
      rcases @ih { ready with taken := true } rfl with ⟨c, through, done⟩
      exact ⟨c, .head ⟨step, here⟩ (through.widen fun _ => List.mem_cons_of_mem _), done⟩

/-! ## Blocks -/

/-- A block of simple statements from an index on: whatever the state, none of them is an `if`, an
`or` or a `keep`, none runs other tokens, and none ends behind the block. -/
inductive Plain (toks : TokenStream) (stop : Nat) : Nat → Prop where
  | empty : Plain toks stop stop
  | cons {i : Nat} (inside : i < stop)
      (simple : ∀ word ∈ [Keyword.ifWord, .orWord, .keep], (toks.peek i).kind ≠ .word word)
      (alone : ∀ m, nested? toks i m = none)
      (rest : ∀ m, Plain toks stop (((dispatch idle toks i).run m).1 + 1)) : Plain toks stop i

/-- Transitions of a walk from tokens of some indices. -/
def Along (toks : TokenStream) (waiting : List Waiting) (allowed : Nat → Prop) :
    Config → Config → Prop :=
  Relation.ReflTransGen fun c next => Step c next ∧ c.waiting = waiting ∧
    ∃ i, allowed i ∧ c.focus = .token toks i

/-- Whether an index is that of a head of a branch. -/
def OnHead (arms : List Arm) (i : Nat) : Prop :=
  ∃ arm ∈ arms, i = arm.head ∨ arm.question = some i

/-- Whether an index is that of a head of a chain, or in the block of the first branch whose condition
is true. -/
def OnChosen (toks : TokenStream) (arms : List Arm) (m : Machine) (i : Nat) : Prop :=
  OnHead arms i ∨
    ∃ arm entered, verdict toks arms m = .enters arm entered ∧ arm.body ≤ i ∧ i < arm.next

theorem Along.widen {allowed more : Nat → Prop} {c later : Config}
    (along : Along toks waiting allowed c later) (among : ∀ i, allowed i → more i) :
    Along toks waiting more c later :=
  Relation.ReflTransGen.mono (fun _ _ moved => ⟨moved.1, moved.2.1,
    moved.2.2.imp fun i found => ⟨among i found.1, found.2⟩⟩) _ _ along

theorem Through.along {c later : Config} (through : Through toks waiting arms c later) :
    Along toks waiting (OnHead arms) c later := by
  refine Relation.ReflTransGen.mono (fun before next moved => ?_) _ _ through
  rcases moved with ⟨step, here, arm, member, head | ⟨q, question, head⟩⟩
  · exact ⟨step, here, arm.head, ⟨arm, member, .inl rfl⟩, head⟩
  · exact ⟨step, here, q, ⟨arm, member, .inr question⟩, head⟩

/-- A block of simple statements is run to its end with the flag as it was, unless the run is
stopped. -/
theorem Plain.runs {first next : Nat} (plain : Plain toks next i) (waiting : List Waiting)
    (behind : first ≤ i) (m : Machine) :
    ∃ c, Along toks waiting (fun j => first ≤ j ∧ j < next) ⟨m, .token toks i, waiting⟩ c ∧
      (¬ c.Begins ∨ ∃ after, c = ⟨after, .token toks next, waiting⟩ ∧ after.taken = m.taken) := by
  induction plain generalizing m with
  | empty => exact ⟨_, .refl, .inr ⟨m, rfl, rfl⟩⟩
  | @cons i inside simple alone rest ih =>
    cases arrived : m.arrive toks i with
    | ends out =>
      refine ⟨⟨out, .walked, waiting⟩,
        .single ⟨.ends arrived, rfl, i, ⟨behind, inside⟩, rfl⟩, .inl ?_⟩
      rintro ⟨_, _, _, focus, -⟩
      cases focus
    | ready ready =>
      have step : Step ⟨m, .token toks i, waiting⟩ _ := .alone arrived (alone ready)
      have onward : first ≤ ((dispatch idle toks i).run ready).1 + 1 := by
        have forward := dispatch_forward toks i idle (simple .keep (by decide)) ready
        omega
      have same : ((dispatch idle toks i).run ready).2.taken = m.taken := by
        have other : ¬ Branches ⟨m, .token toks i, waiting⟩ := by
          rintro ⟨_, _, _, here, -, head | head⟩
          · cases here
            exact simple .ifWord (by decide) head
          · cases here
            exact simple .orWord (by decide) head
        exact alone_taken arrived (alone ready) other
      rcases ih ready onward _ with ⟨c, along, done⟩
      refine ⟨c, .head ⟨step, rfl, i, ⟨behind, inside⟩, rfl⟩ along, done.imp id ?_⟩
      rintro ⟨after, there, kept⟩
      exact ⟨after, there, kept.trans same⟩

/-- A line that prints one text. -/
structure PrintsText (toks : TokenStream) (i : Nat) : Prop where
  print : (toks.peek i).kind = .word .print
  kind : (toks.peek (i + 1)).kind = .text
  line : (toks.peek (i + 1)).line = (toks.peek i).line
  ends : toks.lineEnd i = i + 1

namespace PrintsText

theorem skipAts (prints : PrintsText toks i) : toks.skipAts (i + 1) = i + 1 := by
  apply TokenStream.skipAts_of_apart
  rw [Token.isSymbol, Token.isWord, prints.kind]
  rfl

theorem onLine (prints : PrintsText toks i) : toks.onLine i (i + 1) = true := by
  rw [TokenStream.onLine, prints.line, Token.isFinish, prints.kind, beq_self_eq_true]
  rfl

theorem onLine_behind (prints : PrintsText toks i) : toks.onLine i (i + 2) = false := by
  have stop := toks.lineEnd_stop i
  rw [prints.ends] at stop
  rw [TokenStream.onLine]
  rcases stop with finished | other
  · rw [finished]
    rfl
  · rw [beq_eq_false_iff_ne.mpr other, Bool.and_false]

/-- Printing a text makes one pass over its references, and ends with the text. -/
theorem effect (prints : PrintsText toks i) (m : Machine) :
    (dispatch idle toks i).run m =
      (i + 1, m.print (m.interpolate (toks.peek (i + 1)).content ++ "\n")) := by
  have print : dispatch idle toks i = Verb.print toks i := by
    unfold dispatch
    rw [prints.print]
    rfl
  have noUpdate : (toks.peek (i + 1)).isWord .update = false := by
    rw [Token.isWord, prints.kind]
    rfl
  have noJoin : (toks.peek (i + 1)).isSymbol .ampersand = false := by
    rw [Token.isSymbol, prints.kind]
    rfl
  have written := Token.lexeme_of_text prints.kind
  have value := Operand.value_literal (prints.skipAts.symm ▸ written) m
  rw [prints.skipAts] at value
  have joined : (Verb.joinedValues toks i (toks.size + 1) (i + 1) i "").run m =
      (("" ++ m.interpolate (toks.peek (i + 1)).content, i + 1), m) := by
    unfold Verb.joinedValues
    rw [prints.onLine, noJoin]
    simp only [Bool.not_false, Bool.and_self, if_true]
    rw [Act.run_bind, value]
    dsimp only
    rw [prints.onLine_behind]
    simp only [Bool.and_false, Bool.false_and, Bool.false_eq_true, if_false]
    rfl
  rw [print, Verb.print, noUpdate]
  simp only [Bool.false_and, Bool.false_eq_true, if_false]
  rw [Act.run_bind, joined, String.empty_append]
  rfl

theorem run (prints : PrintsText toks i) (m : Machine) :
    ((dispatch idle toks i).run m).1 = i + 1 := by
  rw [prints.effect]

/-- Such a line is a block of simple statements. -/
theorem plain (prints : PrintsText toks i) : Plain toks (i + 2) i := by
  refine .cons (by omega) ?_ ?_ ?_
  · rw [prints.print]
    decide
  · intro m
    unfold nested?
    rw [prints.print]
  · intro m
    rw [prints.run]
    exact .empty

end PrintsText

end Config

/-! ## The law -/

open Config Statement

/-- Which block of a chain is run. -/
structure SelectionLaw (toks : TokenStream) (first : Arm) (later : List Arm) (stop : Nat) : Prop where
  /-- Where all blocks are right of their `if`, nothing but the heads is carried out up to the block
  of the first branch whose condition is true, or up to the end of the chain. -/
  heads : (∀ arm ∈ later, arm.Deep toks) → ∀ waiting m,
    Through toks waiting (first :: later) ⟨m, .token toks first.head, waiting⟩
      ((verdict toks (first :: later) m).config toks waiting stop)
  /-- The block that is entered is run to its end, with the flag set, unless the run is stopped. -/
  block : ∀ waiting m arm entered, verdict toks (first :: later) m = .enters arm entered →
    Plain toks arm.next arm.body →
      ∃ c, Along toks waiting (fun i => arm.body ≤ i ∧ i < arm.next)
          ⟨entered, .token toks arm.body, waiting⟩ c ∧
        (¬ c.Begins ∨ ∃ after, c = ⟨after, .token toks arm.next, waiting⟩ ∧ after.taken = true)
  /-- With the flag set, nothing but the heads is carried out of what is left of the chain. -/
  rest : ∀ before arm after, first :: later = before ++ arm :: after → ∀ waiting m, m.taken = true →
    ∃ c, Through toks waiting after ⟨m, .token toks arm.next, waiting⟩ c ∧
      (¬ c.Begins ∨ ∃ out, c = ⟨out, .token toks stop, waiting⟩)
  /-- So a run comes to the first line behind the chain through the heads and that one block, unless
  it is stopped. -/
  whole : (∀ arm ∈ later, arm.Deep toks) → (∀ arm ∈ first :: later, Plain toks arm.next arm.body) →
    ∀ waiting m, ∃ c, Along toks waiting (OnChosen toks (first :: later) m)
        ⟨m, .token toks first.head, waiting⟩ c ∧
      (¬ c.Begins ∨ ∃ out, c = ⟨out, .token toks stop, waiting⟩)
  /-- An `or if` whose condition is false leads to the first line of its block that begins no further
  right than its `if`, and leaves the flag clear. -/
  denied : ∀ arm ∈ later, ∀ q, arm.question = some q → ∀ waiting m out, m.taken = false →
    headVerdict toks arm m = .passes out → out.taken = false ∧
      Through toks waiting [arm] ⟨m, .token toks arm.head, waiting⟩
        ⟨out, .token toks (toks.blockEnd (toks.peek q).column true arm.body), waiting⟩
  /-- So the whole of a block that begins no further right than its `if` is gone on with. -/
  shallow : ∀ arm ∈ later, ∀ q, arm.question = some q →
    (toks.peek arm.body).column ≤ (toks.peek q).column →
    (toks.peek arm.body).isSymbol .ampersand = false → ∀ waiting m out, m.taken = false →
      headVerdict toks arm m = .passes out → Enters toks waiting arm m out

theorem selection_law {toks : TokenStream} {column stop : Nat} {first : Arm} {later : List Arm}
    (selection : Selection toks column first later stop) : SelectionLaw toks first later stop := by
  have heads (deep : ∀ arm ∈ later, arm.Deep toks) (waiting : List Waiting) (m : Machine) :
      Through toks waiting (first :: later) ⟨m, .token toks first.head, waiting⟩
        ((verdict toks (first :: later) m).config toks waiting stop) := by
    have head := opens_through selection.opening waiting m
    rw [opens_passedTo selection.opening (selection.others.apart selection.behind)] at head
    exact verdict_through head fun passed clear =>
      continuations_through selection.others deep selection.behind clear
  have block (waiting : List Waiting) (m : Machine) (arm : Arm) (entered : Machine)
      (enters : verdict toks (first :: later) m = .enters arm entered)
      (plain : Plain toks arm.next arm.body) :
      ∃ c, Along toks waiting (fun i => arm.body ≤ i ∧ i < arm.next)
          ⟨entered, .token toks arm.body, waiting⟩ c ∧
        (¬ c.Begins ∨ ∃ after, c = ⟨after, .token toks arm.next, waiting⟩ ∧ after.taken = true) := by
    have set := (verdict_enters enters).2
    rcases plain.runs waiting (Nat.le_refl arm.body) entered with ⟨c, along, done⟩
    rw [set] at done
    exact ⟨c, along, done⟩
  have rest (before : List Arm) (arm : Arm) (after : List Arm)
      (split : first :: later = before ++ arm :: after) (waiting : List Waiting) (m : Machine)
      (set : m.taken = true) :
      ∃ c, Through toks waiting after ⟨m, .token toks arm.next, waiting⟩ c ∧
        (¬ c.Begins ∨ ∃ out, c = ⟨out, .token toks stop, waiting⟩) := by
    have others := selection.others
    cases before with
    | nil =>
      cases split
      exact continuations_leftOut others set
    | cons head before =>
      cases split
      exact continuations_leftOut others.behindOf set
  have denied (arm : Arm) (member : arm ∈ later) (q : Nat) (question : arm.question = some q)
      (waiting : List Waiting) (m out : Machine) (clear : m.taken = false)
      (passes : headVerdict toks arm m = .passes out) : out.taken = false ∧
      Through toks waiting [arm] ⟨m, .token toks arm.head, waiting⟩
        ⟨out, .token toks (toks.blockEnd (toks.peek q).column true arm.body), waiting⟩ := by
    have flagged := headVerdict_flagged toks arm m
    have through := continues_through (selection.others.continues member) waiting clear
    rw [passes] at flagged through
    rw [passedTo, question] at through
    exact ⟨flagged, through⟩
  refine ⟨heads, block, rest, ?whole, denied, ?shallow⟩
  case whole =>
    intro deep plain waiting m
    have upTo : Along toks waiting (OnChosen toks (first :: later) m) _ _ :=
      (heads deep waiting m).along.widen fun i => .inl
    cases decided : verdict toks (first :: later) m with
    | stopped out =>
      rw [decided] at upTo
      refine ⟨_, upTo, .inl ?_⟩
      rintro ⟨_, _, _, focus, -⟩
      cases focus
    | passes out =>
      rw [decided] at upTo
      exact ⟨_, upTo, .inr ⟨out, rfl⟩⟩
    | enters arm entered =>
      rw [decided] at upTo
      have member := (verdict_enters decided).1
      rcases block waiting m arm entered decided (plain arm member) with ⟨c, inside, done⟩
      have through := upTo.trans (inside.widen fun i within => .inr ⟨arm, entered, decided, within⟩)
      rcases done with stopped | ⟨after, rfl, set⟩
      · exact ⟨c, through, .inl stopped⟩
      · rcases List.append_of_mem member with ⟨before, behind, split⟩
        rcases rest before arm behind split waiting after set with ⟨last, out, done⟩
        refine ⟨last, through.trans (out.along.widen ?_), done⟩
        rintro i ⟨other, there, head⟩
        refine .inl ⟨other, ?_, head⟩
        rw [split]
        exact List.mem_append_right _ (List.mem_cons_of_mem _ there)
  case shallow =>
    intro arm member q question left apart waiting m out clear passes
    have through := (denied arm member q question waiting m out clear passes).2
    rw [TokenStream.blockEnd_of_dedents (.inr left) fun _ => apart] at through
    exact through

/-- A chain with its blocks far enough to the right. -/
def deepChain : String :=
  "if 1 = 2\n    print \"a\"\nor if 1 = 1\n    print \"b\"\nor\n    print \"c\"\nprint \"d\""

theorem selection_law_deepChain :
    Selection (scan deepChain) 1 ⟨0, some 0, 4, 6⟩ [⟨6, some 7, 11, 13⟩, ⟨13, none, 14, 16⟩] 16 ∧
      ∀ waiting m, ∃ c,
        Along (scan deepChain) waiting
          (OnChosen (scan deepChain)
            [⟨0, some 0, 4, 6⟩, ⟨6, some 7, 11, 13⟩, ⟨13, none, 14, 16⟩] m)
          ⟨m, .token (scan deepChain) 0, waiting⟩ c ∧
        (¬ c.Begins ∨ ∃ out, c = ⟨out, .token (scan deepChain) 16, waiting⟩) := by
  have kinds : [0, 4, 5, 6, 7, 11, 12, 13, 14, 15, 16].map
        (fun i => ((scan deepChain).peek i).kind) =
        [.word .ifWord, .word .print, .text, .word .orWord, .word .ifWord, .word .print, .text,
          .word .orWord, .word .print, .text, .word .print] ∧
      [0, 4, 6, 7, 11, 13, 14, 16].map (fun i => ((scan deepChain).peek i).column) =
        [1, 5, 1, 4, 5, 1, 5, 1] ∧
      [0, 4, 6, 11, 13, 14].map (fun i => (scan deepChain).lineEnd i + 1) = [4, 6, 11, 13, 14, 16] ∧
      [4, 5, 6, 7, 11, 12, 14, 15].map (fun i => ((scan deepChain).peek i).line) =
        [2, 2, 3, 3, 4, 4, 6, 6] ∧
      conditionEnd (scan deepChain) 0 = 4 ∧ conditionEnd (scan deepChain) 7 = 11 := by
    decide +kernel
  simp only [List.map_cons, List.map_nil, List.cons.injEq, and_true] at kinds
  rcases kinds with
    ⟨⟨if₀, print₄, text₅, or₆, if₇, print₁₁, text₁₂, or₁₃, print₁₄, text₁₅, print₁₆⟩,
    ⟨at₀, at₄, at₆, at₇, at₁₁, at₁₃, at₁₄, at₁₆⟩, ⟨end₀, end₄, end₆, end₁₁, end₁₃, end₁₄⟩,
    ⟨line₄, line₅, line₆, line₇, line₁₁, line₁₂, line₁₄, line₁₅⟩, asks₀, asks₇⟩
  have lines {left i last : Nat} (print : ((scan deepChain).peek i).kind = .word .print)
      (right : left ≤ ((scan deepChain).peek i).column)
      (ends : (scan deepChain).lineEnd i + 1 = last) : (scan deepChain).Lines left i last := by
    refine .single ?_ right ends
    rw [Token.isFinish, print]
    rfl
  have opening : Arm.Opens (scan deepChain) 1 ⟨0, some 0, 4, 6⟩ :=
    { place := at₀
      body := end₀.symm
      block := by decide
      lines := lines print₄ (by dsimp only; omega) end₄
      dedents := .inr (Nat.le_of_eq at₆)
      head := if₀
      question := rfl
      condition := asks₀ }
  have second : Arm.Continues (scan deepChain) 1 ⟨6, some 7, 11, 13⟩ :=
    { place := at₆
      body := end₆.symm
      block := by decide
      lines := lines print₁₁ (by dsimp only; omega) end₁₁
      dedents := .inr (Nat.le_of_eq at₁₃)
      head := or₆
      alone := nofun
      asks := by
        rintro q ⟨⟩
        exact ⟨rfl, if₇, line₇.trans line₆.symm, by omega, asks₇⟩ }
  have third : Arm.Continues (scan deepChain) 1 ⟨13, none, 14, 16⟩ :=
    { place := at₁₃
      body := end₁₃.symm
      block := by decide
      lines := lines print₁₄ (by dsimp only; omega) end₁₄
      dedents := .inr (Nat.le_of_eq at₁₆)
      head := or₁₃
      alone := fun _ => rfl
      asks := nofun }
  have selection : Selection (scan deepChain) 1 ⟨0, some 0, 4, 6⟩
      [⟨6, some 7, 11, 13⟩, ⟨13, none, 14, 16⟩] 16 := by
    refine ⟨opening, .cons second (.cons third (.nil 16)), ?_⟩
    rw [Token.isSymbol, print₁₆]
    rfl
  refine ⟨selection, (selection_law selection).whole ?_ ?_⟩
  · intro arm member q question
    simp only [List.mem_cons, List.not_mem_nil, or_false] at member
    rcases member with rfl | rfl
    · cases question
      exact lines print₁₁ (by dsimp only; omega) end₁₁
    · cases question
  · intro arm member
    simp only [List.mem_cons, List.not_mem_nil, or_false] at member
    rcases member with rfl | rfl | rfl
    · exact PrintsText.plain ⟨print₄, text₅, line₅.trans line₄.symm, Nat.succ.inj end₄⟩
    · exact PrintsText.plain ⟨print₁₁, text₁₂, line₁₂.trans line₁₁.symm, Nat.succ.inj end₁₁⟩
    · exact PrintsText.plain ⟨print₁₄, text₁₅, line₁₅.trans line₁₄.symm, Nat.succ.inj end₁₄⟩

/-- A chain whose blocks are right of its heads, but not of the `if` of its alternative. -/
def shallowChain : String := "if 1 = 2\n  print 1\nor if 1 = 2\n  print 2\nor\n  print 3"

/-- The block of the alternative is run although its condition is false, and the last one as well. -/
theorem shallowChain_runsDenied :
    (Machine.runSource shallowChain (.start {})).2.output = "2\n3\n" := by
  decide +kernel

end BigScript
