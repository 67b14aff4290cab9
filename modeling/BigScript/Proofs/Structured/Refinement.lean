import BigScript.Proofs.Structured.Place

/-!
# Walks refine structured programs

The walk through the tokens of a structured program does what the program means.  `Carried` says so
of a part of a program and the stretch of tokens it stands in: whatever the part does, the walk does,
and whenever the walk comes to its end, the part does something.  Both are shown along the tree, the
second for loops by the number of steps that are left.

The invariant that ties the stack of open loops to the tree is in the statement of `Follows`: a part
that ends behind its last line leaves the stack as it was, and a part that leaves a loop has taken the
innermost frame from it and goes on behind the line that closes this loop.
-/

namespace BigScript

open Machine

/-- The walk follows what a part of a program does between two tokens, under any open loops. -/
def Follows (toks : TokenStream) (base stop : Nat) (loops : List LoopFrame) (m : Machine) :
    Exit → Machine → Prop
  | .through, out =>
    ∃ used, Leads toks used base (m.withLoops loops) stop (out.withLoops loops)
  | .left, out => ∀ frame rest, loops = frame :: rest →
    ∃ used, Leads toks used base (m.withLoops loops) (toks.afterKeep 1 stop + 1)
      (out.withLoops rest)
  | .stopped, out =>
    ∃ used remaining, Closes toks used base (m.withLoops loops) (out.withLoops remaining)

/-- A stretch of tokens carries out an effect. -/
structure Carried (toks : TokenStream) (base stop : Nat) (effect : Effect) : Prop where
  follows : ∀ {m out : Machine} {exit : Exit}, effect m exit out →
    ∀ loops, Follows toks base stop loops m exit out
  covers : ∀ {steps : Nat} {m : Machine} {loops : List LoopFrame},
    (exec steps toks base (m.withLoops loops)).exhausted = false → ∃ exit out, effect m exit out

variable {toks : TokenStream} {base next stop : Nat}

namespace Follows

variable {loops : List LoopFrame} {m between out : Machine} {exit : Exit}

theorem behind {used : Nat}
    (first : Leads toks used base (m.withLoops loops) next (between.withLoops loops))
    (second : Follows toks next stop loops between exit out) :
    Follows toks base stop loops m exit out := by
  cases exit with
  | through =>
    rcases second with ⟨further, leads⟩
    exact ⟨used + further, first.trans leads⟩
  | left =>
    intro frame rest same
    rcases second frame rest same with ⟨further, leads⟩
    exact ⟨used + further, first.trans leads⟩
  | stopped =>
    rcases second with ⟨further, remaining, closes⟩
    exact ⟨used + further, remaining, first.closes closes⟩

/-- What does not end behind the last line of a part ends likewise for a longer one. -/
theorem widen (level : toks.afterKeep 1 next = toks.afterKeep 1 stop)
    (first : Follows toks base next loops m exit out) (other : exit ≠ .through) :
    Follows toks base stop loops m exit out := by
  cases exit with
  | through => exact absurd rfl other
  | left =>
    intro frame rest same
    rw [← level]
    exact first frame rest same
  | stopped => exact first

end Follows

namespace Carried

open Line

/-- The empty part of a program. -/
theorem done (toks : TokenStream) (base : Nat) :
    Carried toks base base fun m exit out => exit = .through ∧ out = m where
  follows := by
    rintro m out exit ⟨rfl, rfl⟩ loops
    exact ⟨0, .refl toks base _⟩
  covers := fun _ => ⟨_, _, rfl, rfl⟩

theorem andThen {first second : Effect} (one : Carried toks base next first)
    (other : Carried toks next stop second)
    (level : toks.afterKeep 1 next = toks.afterKeep 1 stop) :
    Carried toks base stop (first.andThen second) where
  follows := by
    rintro m out exit (⟨between, before, after⟩ | ⟨before, ends⟩) loops
    · rcases one.follows before loops with ⟨used, leads⟩
      exact (other.follows after loops).behind leads
    · exact (one.follows before loops).widen level ends
  covers := by
    intro steps m loops enough
    rcases one.covers enough with ⟨exit, between, before⟩
    by_cases through : exit = .through
    · subst through
      rcases one.follows before loops with ⟨used, leads⟩
      rcases leads.rest enough with ⟨fewer, -, rest⟩
      rcases other.covers rest with ⟨exit, out, after⟩
      exact ⟨exit, out, .inl ⟨between, before, after⟩⟩
    · exact ⟨exit, between, .inr ⟨before, through⟩⟩

variable {words : Line}

theorem simple (inset : Inset toks base words) (simple : words.Simple) :
    Carried toks base (base + words.length) words.effect where
  follows := by
    rintro m _ _ ⟨rfl, rfl⟩ loops
    have leads := inset.simple_leads loops simple m
    cases ended : (words.alone m).isStopped with
    | true =>
      rcases leads.1 ended with ⟨used, closes⟩
      exact ⟨used, loops, closes⟩
    | false =>
      exact leads.2 ended
  covers := fun _ => ⟨_, _, rfl, rfl⟩

/-- A statement in front of which the run may end. -/
theorem entering (inset : Inset toks base words) {statement : Effect}
    (follows : ∀ {m ready out : Machine} {exit : Exit}, words.arrive m = .ready ready →
      statement ready exit out → ∀ loops, Follows toks base stop loops m exit out)
    (covers : ∀ {m ready : Machine} {steps : Nat} {loops : List LoopFrame},
      words.arrive m = .ready ready →
      (exec steps toks base (m.withLoops loops)).exhausted = false →
      ∃ exit out, statement ready exit out) :
    Carried toks base stop (words.entering statement) where
  follows := by
    intro m out exit entered loops
    unfold Line.entering at entered
    cases arrived : words.arrive m with
    | ends halted =>
      rw [arrived] at entered
      rcases entered with ⟨rfl, rfl⟩
      exact ⟨1, loops, inset.barred loops arrived⟩
    | ready ready =>
      rw [arrived] at entered
      exact follows arrived entered loops
  covers := by
    intro steps m loops enough
    unfold Line.entering
    cases arrived : words.arrive m with
    | ends halted => exact ⟨_, _, rfl, rfl⟩
    | ready ready => exact covers arrived enough

theorem branch {body : Effect} (inset : Inset toks base words) (branches : words.Branch)
    (block : toks.skipBlock base words.column + 1 = stop)
    (inside : Carried toks (base + words.length) stop body) :
    Carried toks base stop (words.entering fun m exit out =>
      match words.holds.run m with
      | (true, inside) => body inside exit out
      | (false, past) => exit = .through ∧ out = past) := by
  refine entering inset ?_ ?_
  · intro m ready out exit arrived does loops
    have leads := inset.branch_leads loops branches block arrived
    revert leads does
    rcases words.holds.run ready with ⟨_ | _, after⟩
    · rintro ⟨rfl, rfl⟩ leads
      exact ⟨1, leads⟩
    · intro does leads
      exact (inside.follows does loops).behind leads
  · intro m ready steps loops arrived enough
    have leads := inset.branch_leads loops branches block arrived
    revert leads
    rcases words.holds.run ready with ⟨_ | _, after⟩
    · exact fun _ => ⟨_, _, rfl, rfl⟩
    · intro leads
      rcases leads.rest enough with ⟨fewer, -, rest⟩
      exact inside.covers rest

theorem leave (inset : Inset toks base words) (leaves : words.Leaves) :
    Carried toks base (base + words.length)
      (words.entering fun m exit out => exit = .left ∧ out = m) := by
  refine entering inset ?_ fun _ _ => ⟨_, _, rfl, rfl⟩
  rintro m ready _ _ arrived ⟨rfl, rfl⟩ loops frame rest rfl
  exact ⟨1, inset.leaves_leads rest frame leaves arrived⟩

/-! ## Loops -/

section Loops

variable {body : Effect} {last : Line} {first : Nat} {round : Round} {m out : Machine} {exit : Exit}

theorem turn_over (closing : Inset toks next last) (keeps : last.Keeps) {ready : Machine}
    (arrived : last.arrive m = .ready ready)
    (decided : (last.turned round).run ready = (none, out)) (loops : List LoopFrame) :
    Leads toks 1 next (m.withLoops (round.frame first :: loops)) (next + last.length)
      (out.withLoops loops) := by
  have leads := closing.keeps_leads loops round first keeps arrived
  rw [decided] at leads
  have some := closing.some
  change Leads toks 1 next _ (next + last.length - 1 + 1) _ at leads
  rwa [Nat.sub_add_cancel (by omega)] at leads

theorem turn_again (closing : Inset toks next last) (keeps : last.Keeps) (behind : 0 < first)
    {ready : Machine} {further : Round} (arrived : last.arrive m = .ready ready)
    (decided : (last.turned round).run ready = (some further, out)) (loops : List LoopFrame) :
    Leads toks 1 next (m.withLoops (round.frame first :: loops)) first
      (out.withLoops (further.frame first :: loops)) := by
  have leads := closing.keeps_leads loops round first keeps arrived
  rw [decided] at leads
  change Leads toks 1 next _ (first - 1 + 1) _ at leads
  rwa [Nat.sub_add_cancel behind] at leads

/-- The walk follows the turns of a loop, whose frame lies on the open loops until it ends. -/
theorem rounds_follow (inside : Carried toks first next body) (closing : Inset toks next last)
    (keeps : last.Keeps) (behind : 0 < first) (turns : Rounds body last round m exit out)
    (loops : List LoopFrame) :
    ∃ used, (exit = .through ∧ Leads toks used first (m.withLoops (round.frame first :: loops))
        (next + last.length) (out.withLoops loops)) ∨
      (exit = .stopped ∧ ∃ remaining, Closes toks used first
        (m.withLoops (round.frame first :: loops)) (out.withLoops remaining)) := by
  induction turns with
  | stopped turn =>
    rcases inside.follows turn (_ :: loops) with ⟨used, remaining, closes⟩
    exact ⟨used, .inr ⟨rfl, remaining, closes⟩⟩
  | left turn =>
    rcases inside.follows turn (_ :: loops) _ loops rfl with ⟨used, leads⟩
    rw [closing.afterKeep_outer keeps] at leads
    exact ⟨used, .inl ⟨rfl, leads⟩⟩
  | barred turn arrived =>
    rcases inside.follows turn (_ :: loops) with ⟨used, leads⟩
    exact ⟨used + 1, .inr ⟨rfl, _, leads.closes (closing.barred _ arrived)⟩⟩
  | ended turn arrived decided =>
    rcases inside.follows turn (_ :: loops) with ⟨used, leads⟩
    exact ⟨used + 1, .inl ⟨rfl, leads.trans (turn_over closing keeps arrived decided loops)⟩⟩
  | again turn arrived decided _ ih =>
    rcases inside.follows turn (_ :: loops) with ⟨used, leads⟩
    have again := leads.trans (turn_again closing keeps behind arrived decided loops)
    rcases ih with ⟨further, ⟨rfl, rest⟩ | ⟨rfl, remaining, closes⟩⟩
    · exact ⟨used + 1 + further, .inl ⟨rfl, again.trans rest⟩⟩
    · exact ⟨used + 1 + further, .inr ⟨rfl, remaining, again.closes closes⟩⟩

/-- A walk that comes to its end has taken finitely many turns.  Each of them costs a step at least,
the one of the closing line. -/
theorem rounds_cover (inside : Carried toks first next body) (closing : Inset toks next last)
    (keeps : last.Keeps) (behind : 0 < first) {steps : Nat} {loops : List LoopFrame}
    (enough :
      (exec steps toks first (m.withLoops (round.frame first :: loops))).exhausted = false) :
    ∃ exit out, Rounds body last round m exit out := by
  induction steps using Nat.strongRecOn generalizing round m with
  | ind steps ih =>
  rcases inside.covers enough with ⟨exit, between, turn⟩
  have follows := inside.follows turn (round.frame first :: loops)
  cases exit with
  | stopped => exact ⟨_, _, .stopped turn⟩
  | left => exact ⟨_, _, .left turn⟩
  | through =>
    rcases follows with ⟨used, leads⟩
    cases arrived : last.arrive between with
    | ends out => exact ⟨_, _, .barred turn arrived⟩
    | ready ready =>
      cases decided : (last.turned round).run ready with
      | mk answer after =>
        cases answer with
        | none => exact ⟨_, _, .ended turn arrived decided⟩
        | some further =>
          have again := leads.trans (turn_again closing keeps behind arrived decided loops)
          rcases again.rest enough with ⟨fewer, rfl, rest⟩
          rcases ih fewer (by omega) rest with ⟨exit, out, turns⟩
          exact ⟨exit, out, .again turn arrived decided turns⟩

theorem loop {head : Line} (inset : Inset toks base head) (opens : head.Opens)
    (begins : (toks.peek (base + head.length)).isFinish = false)
    (deeper : head.column < (toks.peek (base + head.length)).column)
    (inside : Carried toks (base + head.length) next body) (closing : Inset toks next last)
    (keeps : last.Keeps)
    (level : toks.afterKeep 1 (base + head.length) = toks.afterKeep 1 next) :
    Carried toks base (next + last.length) (head.entering fun m exit out =>
      match head.opened.run m with
      | (some round, inside) => Rounds body last round inside exit out
      | (none, past) => exit = .through ∧ out = past) := by
  have behind : 0 < base + head.length := Nat.add_pos_right base inset.some
  have opened {m ready : Machine} (loops : List LoopFrame)
      (arrived : head.arrive m = .ready ready) :=
    inset.opens_leads loops opens begins deeper arrived
  refine entering inset ?_ ?_
  · intro m ready out exit arrived does loops
    have leads := opened loops arrived
    revert leads does
    rcases head.opened.run ready with ⟨_ | round, after⟩
    · rintro ⟨rfl, rfl⟩ leads
      change Leads toks 1 base _ (toks.afterKeep 1 (base + head.length) + 1) _ at leads
      rw [level, closing.afterKeep_outer keeps] at leads
      exact ⟨1, leads⟩
    · intro turns leads
      change Leads toks 1 base _ (base + head.length - 1 + 1) _ at leads
      rw [Nat.sub_add_cancel behind] at leads
      rcases rounds_follow inside closing keeps behind turns loops with
        ⟨used, ⟨rfl, rest⟩ | ⟨rfl, remaining, closes⟩⟩
      · exact ⟨1 + used, leads.trans rest⟩
      · exact ⟨1 + used, remaining, leads.closes closes⟩
  · intro m ready steps loops arrived enough
    have leads := opened loops arrived
    revert leads
    rcases head.opened.run ready with ⟨_ | round, after⟩
    · exact fun _ => ⟨_, _, rfl, rfl⟩
    · intro leads
      change Leads toks 1 base _ (base + head.length - 1 + 1) _ at leads
      rw [Nat.sub_add_cancel behind] at leads
      rcases leads.rest enough with ⟨fewer, -, rest⟩
      exact rounds_cover inside closing keeps behind rest

end Loops

end Carried

/-! ## Programs -/

namespace Program

/-- What stands behind a branch stands no further right than its head. -/
theorem dedents_behind {head : Line} {rest : Program} {left : Nat}
    (stands : rest.Stands toks next stop) (dedents : TokenStream.Dedents toks left stop)
    (right : left ≤ head.column) (level : ∀ words ∈ rest.lines.head?, words.column ≤ head.column) :
    TokenStream.Dedents toks head.column next := by
  by_cases empty : rest = .done
  · subst empty
    rw [← show stop = next from stands]
    exact dedents.imp_right fun here => Nat.le_trans here right
  · rcases stands.head empty with ⟨words, first, inset⟩
    rw [TokenStream.Dedents, inset.head_eq]
    exact .inr (level words first)

/-- The stretch of tokens in which a program stands carries the program out. -/
theorem carried {program : Program} {inLoop : Bool} {left : Nat}
    (stands : program.Stands toks base stop) (formed : program.Formed inLoop)
    (dedents : TokenStream.Dedents toks left stop)
    (right : ∀ words ∈ program.lines, left ≤ words.column) :
    Carried toks base stop program.runs := by
  induction program generalizing base stop inLoop left with
  | done =>
    rw [show stop = base from stands]
    exact .done toks base
  | simple words rest ih =>
    rw [lines, List.forall_mem_cons] at right
    exact (Carried.simple stands.1 formed.1).andThen (ih stands.2 formed.2 dedents right.2)
      (stands.2.afterKeep formed.2 Nat.one_ne_zero)
  | branch head body rest ihBody ihRest =>
    rcases stands with ⟨next, inset, inside, behind⟩
    rcases formed with ⟨branches, under, level, inBody, inRest⟩
    rw [lines, List.forall_mem_cons, List.forall_mem_append] at right
    have past := dedents_behind behind dedents right.1 level
    have block := skipBlock inset under inside past
    have body := ihBody inside inBody past fun words among =>
      Nat.le_of_lt (under.deeper words among)
    exact (Carried.branch inset branches block body).andThen
      (ihRest behind inRest dedents right.2.2) (behind.afterKeep inRest Nat.one_ne_zero)
  | loop head body last rest ihBody ihRest =>
    rcases stands with ⟨next, inset, inside, closing, behind⟩
    rcases formed with ⟨opens, under, keeps, column, inBody, inRest⟩
    rw [lines, List.forall_mem_cons, List.forall_mem_append, List.forall_mem_cons] at right
    have past : TokenStream.Dedents toks head.column next := by
      rw [TokenStream.Dedents, closing.head_eq]
      exact .inr (Nat.le_of_eq column)
    have body := ihBody inside inBody past fun words among =>
      Nat.le_of_lt (under.deeper words among)
    have first := under.begins inside
    exact (Carried.loop inset opens first.1 first.2 body closing keeps
      (inside.afterKeep inBody Nat.one_ne_zero)).andThen (ihRest behind inRest dedents right.2.2.2)
      (behind.afterKeep inRest Nat.one_ne_zero)
  | leave words rest ih =>
    rw [lines, List.forall_mem_cons] at right
    exact (Carried.leave stands.1 formed.1).andThen (ih stands.2 formed.2.2 dedents right.2)
      (stands.2.afterKeep formed.2.2 Nat.one_ne_zero)

/-- Behind the last line nothing is carried out, but the run may be found cancelled. -/
theorem carried_end (inside : stop < toks.size) (finish : (toks.peek stop).isFinish = true) :
    Carried toks stop stop (Line.effect []) where
  follows := by
    rintro m _ _ ⟨rfl, rfl⟩ loops
    rw [Line.alone_nil]
    cases ended : m.settle.isStopped with
    | true =>
      refine ⟨1, loops, closes_of_arrive ?_⟩
      rw [arrive_of_finish inside finish, settle_withLoops]
    | false =>
      rw [settle_going ended]
      exact ⟨0, .refl toks stop _⟩
  covers := fun _ => ⟨_, _, rfl, rfl⟩

/-- No loop is left from outside every loop. -/
theorem Formed.not_left {program : Program} (formed : program.Formed false) {m out : Machine} :
    ¬ program.runs m .left out := by
  have rounds {body : Effect} {last : Line} {round : Round} {m out : Machine} {exit : Exit}
      (turns : Rounds body last round m exit out) : exit ≠ .left := by
    induction turns with
    | again _ _ _ _ ih => exact ih
    | _ => nofun
  have entered {words : Line} {statement : Effect} {m : Machine}
      (left : words.entering statement m .left out) : ∃ ready, statement ready .left out := by
    unfold Line.entering at left
    split at left
    · cases left.1
    · exact ⟨_, left⟩
  induction program generalizing m with
  | done => exact fun ends => nomatch ends.1
  | simple words rest ih =>
    rintro (⟨between, -, after⟩ | ⟨⟨-, exit⟩, -⟩)
    · exact ih formed.2 after
    · split at exit <;> cases exit
  | branch head body rest ihBody ihRest =>
    rcases formed with ⟨-, -, -, inBody, inRest⟩
    rintro (⟨between, -, after⟩ | ⟨left, -⟩)
    · exact ihRest inRest after
    · rcases entered left with ⟨ready, left⟩
      split at left
      · exact ihBody inBody left
      · cases left.1
  | loop head body last rest ihBody ihRest =>
    rcases formed with ⟨-, -, -, -, -, inRest⟩
    rintro (⟨between, -, after⟩ | ⟨left, -⟩)
    · exact ihRest inRest after
    · rcases entered left with ⟨ready, left⟩
      split at left
      · exact rounds left rfl
      · cases left.1
  | leave words rest ih => cases formed.2.1

/-- A walk agrees with the meaning of a program: its machine differs from the one of the program in
nothing but the loops that are open, and if it ends at the end of the program it leaves them as they
were. -/
structure Agrees (before final : Machine) (exit : Exit) (out : Machine) : Prop where
  same : final = out.withLoops final.loops
  loops : exit = .through → final.loops = before.loops

/-- The end of the script stands behind the last line of a program. -/
theorem Spells.finish {program : Program} (spells : program.Spells toks) :
    program.lines.flatten.length < toks.size ∧
      (toks.peek program.lines.flatten.length).isFinish = true := by
  rcases spells with ⟨finish, finished, spelled⟩
  have inside : program.lines.flatten.length < toks.size := by
    rw [← Array.length_toList, spelled, List.length_append]
    exact Nat.lt_succ_self _
  have last : toks.toList[program.lines.flatten.length]? = some finish := by
    rw [spelled, List.getElem?_append_right (Nat.le_refl _), Nat.sub_self]
    rfl
  rw [Array.getElem?_toList, Array.getElem?_eq_getElem inside] at last
  rw [TokenStream.peek_of_lt inside, Option.some.inj last]
  exact ⟨inside, finished⟩

theorem LaidOut.carried {program : Program} (laid : program.LaidOut)
    (spells : program.Spells toks) :
    Carried toks 0 program.lines.flatten.length program.means := by
  have finish := spells.finish
  have dedents : TokenStream.Dedents toks 0 program.lines.flatten.length := .inl finish.2
  have lines := Program.carried (laid.stands spells) laid.formed dedents fun _ _ => Nat.zero_le _
  exact lines.andThen (carried_end finish.1 finish.2) rfl

/-- A program that ends behind its last line leaves a machine that the end of the script does not
stop. -/
theorem settle_of_through {program : Program} {m out : Machine}
    (means : program.means m .through out) : out.settle = out := by
  rcases means with ⟨between, -, rfl, exit⟩ | ⟨-, other⟩
  · rw [Line.alone_nil] at exit ⊢
    have going : between.settle.isStopped = false := by
      split at exit
      · cases exit
      · exact (Bool.not_eq_true _).mp (by assumption)
    rw [settle_going going, settle_going going]
  · exact absurd rfl other

theorem LaidOut.closes {program : Program} (laid : program.LaidOut) (spells : program.Spells toks)
    {m out : Machine} {exit : Exit} (means : program.means m exit out) :
    ∃ used remaining, Closes toks used 0 m (out.withLoops remaining) ∧
      (exit = .through → remaining = m.loops) := by
  have finish := spells.finish
  have follows := (laid.carried spells).follows means m.loops
  cases exit with
  | through =>
    rcases follows with ⟨used, leads⟩
    have ends : Closes toks 1 program.lines.flatten.length (out.withLoops m.loops)
        (out.withLoops m.loops) := by
      refine closes_of_arrive ?_
      rw [arrive_of_finish finish.1 finish.2, settle_withLoops, settle_of_through means]
    exact ⟨used + 1, m.loops, leads.closes ends, fun _ => rfl⟩
  | stopped =>
    rcases follows with ⟨used, remaining, closes⟩
    exact ⟨used, remaining, closes, nofun⟩
  | left =>
    rcases means with ⟨between, -, -, exit⟩ | ⟨left, -⟩
    · split at exit <;> cases exit
    · exact absurd left laid.formed.not_left

deriving instance DecidableEq for Lexeme
deriving instance DecidableEq for Token

end Program
end BigScript
