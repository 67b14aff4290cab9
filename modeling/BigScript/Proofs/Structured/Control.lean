import BigScript.Proofs.Structured.Program

/-!
# Heads and closing lines in a script

The lines that begin and end blocks read their conditions and options from their own tokens alone.
What remains of a stream of tokens is where the walk goes on: behind the line, at the end of a block
that is left out, at the first line of a loop, or behind the line that closes it.
-/

namespace BigScript

/-- The open loop that keeps the state of a loop between two turns. -/
def Round.frame (resume : Nat) (round : Round) : LoopFrame where
  resume := resume
  valid := true
  count := round.count
  limit := round.limit
  walk := round.walk

namespace Line

theorem Opens.openers_le {head : Line} (opens : head.Opens) : head.openers ≤ head.length := by
  unfold openers
  split
  · exact opens.some
  · rename_i other
    exact lt_of_kind (beq_iff_eq.mpr (opens.word.resolve_left other).2) nofun

theorem Leaves.first_kind {words : Line} (leaves : words.Leaves) :
    words.first.kind = .word .stop := by
  have word : (words.map Token.kind)[0]? = some (.word .stop) := by rw [leaves.word]; rfl
  rw [List.getElem?_map, List.getElem?_eq_getElem leaves.some] at word
  rw [first_eq leaves.some, stream_peek leaves.some]
  exact Option.some.inj word

theorem slice_tail (words : Line) : words.stream.slice 1 words.length = words.tail := by
  unfold TokenStream.slice stream
  rw [List.extract_toArray]
  cases words with
  | nil => rfl
  | cons first rest => simp

end Line

namespace Walk

theorem bindItem_withLoops (walk : Walk) (loops : List LoopFrame) (m : Machine) :
    walk.bindItem (m.withLoops loops) = (walk.bindItem m).withLoops loops := by
  unfold bindItem
  dsimp only
  by_cases item : walk.itemName.isEmpty = true
  · rw [if_pos item, if_pos item]
    split
    · rfl
    · split <;> exact m.assign_withLoops loops _ _
  · rw [if_neg item, if_neg item, m.assign_withLoops]
    split
    · rfl
    · split <;> exact Machine.assign_withLoops loops _ _ _

end Walk

namespace Statement

open Line Inset

variable {toks : TokenStream} {base : Nat} {words : Line} {loops : List LoopFrame}

/-! ## Branches -/

theorem conditionRun_eq (inset : Inset toks base words)
    (single : ∀ t ∈ words.tail, t.isSymbol .ampersand = false) {k : Nat} (behind : 0 < k)
    (inside : k ≤ words.length) : toks.conditionRun words.row (base + k) = words.length - k := by
  have fits := inset.fits
  unfold TokenStream.conditionRun
  rw [dif_pos (by omega), ← TokenStream.peek_of_lt (by omega)]
  rcases Nat.lt_or_eq_of_le inside with within | rfl
  · have further := conditionRun_eq inset single (Nat.succ_pos k) (Nat.succ_le_of_lt within)
    have plain := single _ (stream_peek_tail behind within)
    rw [Nat.add_assoc, further, inset.peek_eq within, inset.unfinished_at within,
      inset.row_at within, plain, row, bne_self_eq_false]
    simp only [Bool.or_self, Bool.false_eq_true, if_false]
    omega
  · have beyond : ((toks.peek (base + words.length)).isFinish ||
        (toks.peek (base + words.length)).line != words.row) = true := by
      rw [Bool.or_eq_true, bne_iff_ne]
      exact inset.behind _ (Nat.le_refl _)
    rw [beyond, Bool.true_or, if_pos rfl, Nat.sub_self]
termination_by words.length - k

theorem holds_run (head : Line) (m : Machine) :
    head.holds.run m =
      (((Condition.holds head.tail).run m).1,
        { (if head.stream.asksForBug 0 then ((Condition.holds head.tail).run m).2.clearBug
            else ((Condition.holds head.tail).run m).2) with
          taken := ((Condition.holds head.tail).run m).1 }) := by
  unfold holds
  rw [Act.run_bind]
  cases head.stream.asksForBug 0 <;> rfl

theorem branch_line (inset : Inset toks base words) (branches : words.Branch) (m : Machine) :
    (branch toks base).run (m.withLoops loops) =
      (if (words.holds.run m).1 then base + words.length - 1 else toks.skipBlock base words.column,
        (words.holds.run m).2.withLoops loops) := by
  have some := inset.some
  have head := inset.head_eq
  have run := conditionRun_eq inset branches.single Nat.one_pos
    (Nat.succ_le_of_lt some)
  have stop : conditionEnd toks base = base + words.length := by
    rw [conditionEnd, head, ← row, run]
    omega
  have asks : toks.asksForBug base = words.stream.asksForBug 0 := inset.asksForBug_eq some
  have mirrored := (Condition.holds_mirrors loops words.tail).run_eq m
  have read : condition toks base (m.withLoops loops) =
      (((Condition.holds words.tail).run m).1,
        ((Condition.holds words.tail).run m).2.withLoops loops) := by
    rw [condition, stop, inset.slice_eq 1 (Nat.le_refl _), slice_tail, mirrored]
  have single : (toks.peek (base + words.length)).isSymbol .ampersand = false := by
    rw [inset.isSymbol_eq _ (Nat.le_refl _), stream_peek_of_le (Nat.le_refl _)]
    rfl
  rw [branch_run, read, asks, branchLast, stop, head, single, holds_run]
  cases words.stream.asksForBug 0 <;> rfl

/-! ## Loops -/

/-- The limit of a loop is read on its head. -/
theorem loopLimit_mirrors (loops : List LoopFrame) (inset : Inset toks base words)
    (complete : words.Complete Kind.optionOpeners) {k : Nat} (inside : k ≤ words.length) :
    Mirrors loops (fun outer inner => outer.1 = inner.1 ∧ outer.2 = base + inner.2 ∧
        inner.2 ≤ words.length)
      (loopLimit toks words.row (base + k)) (loopLimit words.stream words.row k) := by
  have none : Mirrors loops (fun outer inner : Int × Nat => outer.1 = inner.1 ∧
      outer.2 = base + inner.2 ∧ inner.2 ≤ words.length) (pure (0, base + k)) (pure (0, k)) :=
    .pure ⟨rfl, rfl, inside⟩
  unfold loopLimit
  dsimp only
  rw [inset.isSymbol_eq _ inside]
  cases dot : (words.stream.peek k).isSymbol .dot with
  | false =>
    simp only [Bool.and_false, Bool.false_and, Bool.false_eq_true, if_false]
    exact none
  | true =>
    have within := lt_of_kind dot nofun
    have next := complete.follows within dot rfl
    rw [inset.peek_eq within, Nat.add_assoc, Nat.add_assoc, Nat.add_assoc, inset.peek_eq next,
      inset.isSymbol_eq _ (Nat.succ_le_of_lt next)]
    refine .ite Iff.rfl (fun limited => ?_) fun _ => none
    rw [Bool.and_eq_true] at limited
    have last := complete.follows (lt_of_kind limited.2 nofun) limited.2 rfl
    rw [inset.peek_eq last]
    exact .getBind fun m => .pure ⟨rfl, Nat.add_assoc base k 4, last⟩

theorem walkSource_mirrors (inset : Inset toks base words)
    (complete : words.Complete Kind.optionOpeners) {k : Nat} (inside : k < words.length) :
    Mirrors loops (fun outer inner => outer.1 = inner.1 ∧ outer.2 = base + inner.2 ∧
        inner.2 ≤ words.length)
      (walkSource toks (base + k)) (walkSource words.stream k) := by
  have name := inset.bracedName_shifted complete rfl inside
  unfold walkSource
  rw [inset.peek_eq inside]
  refine .getBind fun m => ?_
  split
  · exact .pure ⟨rfl, Nat.add_assoc base k 1, Nat.succ_le_of_lt inside⟩
  · refine .pure ⟨congrArg (m.getD · "") name.same, ?_, Nat.succ_le_of_lt name.beside.high⟩
    exact congrArg (· + 1) name.beside.shift

/-- What a loop walks over is read on its head. -/
theorem loopWalk?_mirrors (loops : List LoopFrame) (inset : Inset toks base words)
    (complete : words.Complete Kind.optionOpeners) {k : Nat} (inside : k ≤ words.length) :
    Mirrors loops Eq (loopWalk? toks words.row (base + k))
      (loopWalk? words.stream words.row k) := by
  have word (t : Keyword) (inner : (Kind.word t).opensLine = false) :
      (toks.peek (base + k)).isWord t = (words.stream.peek k).isWord t :=
    inset.kind_eq _ inner inside
  unfold loopWalk?
  dsimp only
  rw [word .on rfl, word .atWord rfl]
  cases walks : (words.stream.peek k).isWord .on || (words.stream.peek k).isWord .atWord with
  | false =>
    simp only [Bool.and_false, Bool.false_eq_true, if_false]
    exact .pure rfl
  | true =>
    have next : k + 1 < words.length := by
      rw [Bool.or_eq_true] at walks
      rcases walks with on | atWord
      · exact complete.follows (lt_of_kind on nofun) on rfl
      · exact complete.follows (lt_of_kind atWord nofun) atWord rfl
    rw [inset.peek_eq (Nat.lt_of_succ_lt next), Nat.add_assoc]
    refine .ite Iff.rfl (fun _ => ?_) fun _ => .pure rfl
    refine (walkSource_mirrors inset complete next).bind ?_
    rintro ⟨raw, _⟩ ⟨_, j⟩ ⟨same, shift, high⟩
    dsimp only at same shift high ⊢
    subst same shift
    have asWord : (toks.peek (base + j)).isWord .asWord = (words.stream.peek j).isWord .asWord :=
      inset.kind_eq _ rfl high
    rw [asWord]
    refine .ite Iff.rfl (fun names => ?_) fun _ => .pure rfl
    have named := complete.follows (lt_of_kind names nofun) names rfl
    have item := inset.bracedName_shifted complete rfl named
    rw [Nat.add_assoc]
    generalize words.stream.bracedName (j + 1) = inner at item
    generalize toks.bracedName (base + (j + 1)) = outer at item
    rcases outer with ⟨name, _⟩
    rcases inner with ⟨_, last⟩
    rcases item with ⟨same, shift, low, below⟩
    dsimp only at same shift low below ⊢
    subst same shift
    rw [Nat.add_assoc]
    refine .pure (congrArg (fun value => some (Walk.through raw name value)) ?_)
    rcases Nat.lt_or_eq_of_le (Nat.succ_le_of_lt below) with further | done
    · rw [inset.peek_eq further, (inset.bracedName_shifted complete rfl further).same]
    · have out : ((toks.peek (base + (last + 1))).line == words.row &&
          ((toks.peek (base + (last + 1))).isSymbol .leftBrace ||
            (toks.peek (base + (last + 1))).kind == .name)) = false := by
        rcases inset.behind (base + (last + 1)) (by omega) with finished | other
        · rw [Token.isSymbol, eq_of_beq finished]
          exact Bool.and_false _
        · rw [row, beq_eq_false_iff_ne.mpr other]
          rfl
      rw [out, stream_peek_of_le (Nat.le_of_eq done.symm)]
      exact (if_neg (Bool.and_false _ ▸ Bool.false_ne_true)).symm

/-- Where the walk goes on behind the head of a loop, and the loops that are open then. -/
def afterOpening (toks : TokenStream) (resume : Nat) (loops : List LoopFrame) :
    Option Round × Machine → Nat × Machine
  | (some round, m) => (resume - 1, m.withLoops (round.frame resume :: loops))
  | (none, m) => (toks.afterKeep 1 resume, m.withLoops loops)

theorem openLoop_line (inset : Inset toks base words) (opens : words.Opens)
    (some : (toks.peek (base + words.length)).isFinish = false)
    (deeper : words.column < (toks.peek (base + words.length)).column) (m : Machine) :
    (openLoop toks base (base + words.openers)).run (m.withLoops loops) =
      afterOpening toks (base + words.length) loops (words.opened.run m) := by
  have last : toks.lineEnd base + 1 = base + words.length := inset.lineEnd_eq inset.some
  have ends : toks.lineEnd base = base + words.length - 1 := by omega
  have valid : (!(toks.peek (base + words.length)).isFinish &&
      decide ((toks.peek (base + words.length)).column > words.first.column)) = true := by
    rw [some, Bool.not_false, Bool.true_and, decide_eq_true_eq]
    exact deeper
  rcases loopLimit_mirrors loops inset opens.complete opens.openers_le m with
    ⟨⟨limit, shift, high⟩, state⟩
  have walk := loopWalk?_mirrors loops inset opens.complete high
    ((loopLimit words.stream words.row words.openers).run m).2
  unfold openLoop opened
  dsimp only
  rw [inset.head_eq, last, valid, ends, ← row, Act.run_bind, Act.run_bind (m := m), limit, shift,
    state, Act.run_bind, Act.run_bind (loopWalk? words.stream _ _), walk.1, walk.2]
  generalize (loopLimit words.stream words.row words.openers).run m = read
  generalize (loopWalk? words.stream words.row read.1.2).run read.2 = found
  rcases found with ⟨_ | walk, after⟩
  · rfl
  · dsimp only
    cases empty : walk.items.isEmpty with
    | true => rfl
    | false =>
      have opened (frame : LoopFrame) := congrArg (fun bound : Machine =>
        (base + words.length - 1, bound.withLoops (frame :: loops)))
        (walk.bindItem_withLoops loops after)
      exact opened (Round.frame (base + words.length) ⟨0, read.1.1, Option.some walk⟩)

/-- Where the walk goes on behind the line that closes a loop, and the loops that are open then. -/
def afterTurn (resume next : Nat) (loops : List LoopFrame) : Option Round × Machine → Nat × Machine
  | (some round, m) => (resume - 1, m.withLoops (round.frame resume :: loops))
  | (none, m) => (next - 1, m.withLoops loops)

theorem keep_line (inset : Inset toks base words) (round : Round) (resume : Nat) (m : Machine) :
    (keep toks base).run (m.withLoops (round.frame resume :: loops)) =
      afterTurn resume (base + words.length) loops ((words.turned round).run m) := by
  have last : toks.lineEnd base + 1 = base + words.length := inset.lineEnd_eq inset.some
  have ends : toks.lineEnd base = base + words.length - 1 := by omega
  have slice := inset.slice_eq 1 (Nat.le_refl words.length)
  rw [slice_tail] at slice
  rcases round with ⟨count, limit, _ | walk⟩
  · unfold keep turned
    change StateT.run (if limit > 0 && ((count + 1 : Nat) : Int) + 1 ≥ limit then
          pure (toks.lineEnd base)
        else if (toks.slice (base + 1) (toks.lineEnd base + 1)).map Token.kind == [.word .loop] then
          goBack (Round.frame resume ⟨0, limit, none⟩)
        else do
          if ← Condition.holds (toks.slice (base + 1) (toks.lineEnd base + 1)) then
            goBack (Round.frame resume ⟨count + 1, limit, none⟩)
          else pure (toks.lineEnd base) : Act Nat) (m.withLoops loops) = _
    dsimp only
    rw [last, slice, ends]
    by_cases capped : (decide (limit > 0) && decide (((count + 1 : Nat) : Int) + 1 ≥ limit)) = true
    · rw [if_pos capped, if_pos capped]
      rfl
    rw [if_neg capped, if_neg capped]
    by_cases again : (words.tail.map Token.kind == [.word .loop]) = true
    · rw [if_pos again, if_pos again]
      rfl
    rw [if_neg again, if_neg again, Act.run_bind, Act.run_bind (m := m),
      (Condition.holds_mirrors loops words.tail).run_eq m]
    generalize (Condition.holds words.tail).run m = answer
    rcases answer with ⟨_ | _, after⟩ <;> rfl
  · unfold keep turned
    change StateT.run (if walk.cursor + 1 < walk.items.length then do
          modify (Walk.bindItem { walk with cursor := walk.cursor + 1 })
          goBack (Round.frame resume ⟨count, limit, some { walk with cursor := walk.cursor + 1 }⟩)
        else pure (toks.lineEnd base) : Act Nat) (m.withLoops loops) = _
    dsimp only
    rw [ends]
    by_cases more : walk.cursor + 1 < walk.items.length
    · rw [if_pos more, if_pos more]
      generalize { walk with cursor := walk.cursor + 1 : Walk } = next
      change (resume - 1, (next.bindItem (m.withLoops loops)).withLoops
        (Round.frame resume ⟨count, limit, some next⟩ ::
          (next.bindItem (m.withLoops loops)).loops)) = _
      rw [next.bindItem_withLoops]
      rfl
    · rw [if_neg more, if_neg more]
      rfl

theorem leave_line (inset : Inset toks base words) (leaves : words.Leaves) (frame : LoopFrame)
    (m : Machine) :
    (stop toks base).run (m.withLoops (frame :: loops)) =
      (toks.afterKeep 1 (base + words.length), m.withLoops loops) := by
  have length : words.length = 2 := by
    rw [← List.length_map (f := Token.kind), leaves.word]
    rfl
  have second : (toks.peek (base + 1)).isWord .loop = true := by
    have inside : 1 < words.length := by omega
    have word : (words.map Token.kind)[1]? = some (.word .loop) := by rw [leaves.word]; rfl
    rw [List.getElem?_map, List.getElem?_eq_getElem inside] at word
    rw [inset.peek_eq inside, stream_peek inside]
    exact beq_iff_eq.mpr (Option.some.inj word)
  unfold stop
  dsimp only
  rw [second, length]
  rfl

/-! ## The statements that begin with these lines -/

section Heads

variable {m ready : Machine}

theorem nested?_word {stream : TokenStream} {i : Nat} {word : Keyword}
    (head : (stream.peek i).kind = .word word)
    (other : [Keyword.run, .addrun, .use, .attach].contains word = false) :
    nested? stream i m = none := by
  unfold nested?
  rw [head]
  split
  · rename_i same; cases Kind.word.inj same; cases other
  · rename_i same; cases Kind.word.inj same; cases other
  · rename_i same; cases Kind.word.inj same; cases other
  · rename_i same; cases Kind.word.inj same; cases other
  · rfl

theorem dispatch_opens (inset : Inset toks base words) (opens : words.Opens) :
    dispatch idle toks base = openLoop toks base (base + words.openers) := by
  have head := inset.head_eq
  unfold dispatch direct openers
  rcases opens.word with short | ⟨long, next⟩
  · rw [head, short]
    rfl
  · have inside : 1 < words.length := lt_of_kind (beq_iff_eq.mpr next) nofun
    have loopWord : (toks.peek (base + 1)).isWord .loop = true := by
      rw [inset.peek_eq inside]
      exact beq_iff_eq.mpr next
    rw [head, long]
    change start toks base = openLoop toks base (base + 2)
    unfold start
    dsimp only
    rw [loopWord]
    rfl

theorem dispatch_keeps (inset : Inset toks base words) (keeps : words.Keeps) :
    dispatch idle toks base = keep toks base := by
  unfold dispatch direct
  rw [inset.head_eq, keeps.word]
  rfl

theorem dispatch_leaves (inset : Inset toks base words) (leaves : words.Leaves) :
    dispatch idle toks base = stop toks base := by
  unfold dispatch direct
  rw [inset.head_eq, leaves.first_kind]
  rfl

end Heads

end Statement

namespace Inset

open Line Machine Statement

variable {toks : TokenStream} {base : Nat} {words : Line}
variable {m ready out : Machine} (loops : List LoopFrame)

/-- What happens in front of a line in a script. -/
theorem arrives (inset : Inset toks base words) (m : Machine) :
    (m.withLoops loops).arrive toks base = (words.arrive m).withLoops loops :=
  inset.arrive_eq loops inset.some m

theorem barred (inset : Inset toks base words) (arrived : words.arrive m = .ends out) :
    Closes toks 1 base (m.withLoops loops) (out.withLoops loops) := by
  refine closes_of_arrive ?_
  rw [inset.arrives, arrived]
  rfl

theorem begins (inset : Inset toks base words) (arrived : words.arrive m = .ready ready) :
    (m.withLoops loops).arrive toks base = .ready (ready.withLoops loops) := by
  rw [inset.arrives, arrived]
  rfl

theorem branch_leads (inset : Inset toks base words) (branches : words.Branch) {stop : Nat}
    (block : toks.skipBlock base words.column + 1 = stop)
    (arrived : words.arrive m = .ready ready) :
    Leads toks 1 base (m.withLoops loops)
      (if (words.holds.run ready).1 then base + words.length else stop)
      ((words.holds.run ready).2.withLoops loops) := by
  have head : (toks.peek base).kind = .word .ifWord := inset.head_eq ▸ branches.word
  have first := leads_of_arrive (inset.begins loops arrived) (nested?_word head rfl)
  rw [dispatch_branch toks base idle head, branch_line inset branches ready] at first
  have some := inset.some
  have next : (if (words.holds.run ready).1 = true then base + words.length - 1
      else toks.skipBlock base words.column) + 1 =
      if (words.holds.run ready).1 = true then base + words.length else stop := by
    split <;> omega
  dsimp only at first
  rwa [next] at first

section Loops

variable (inset : Inset toks base words) (round : Round) (resume : Nat) (frame : LoopFrame)

include inset

theorem opens_leads (opens : words.Opens)
    (some : (toks.peek (base + words.length)).isFinish = false)
    (deeper : words.column < (toks.peek (base + words.length)).column)
    (arrived : words.arrive m = .ready ready) :
    Leads toks 1 base (m.withLoops loops)
      ((afterOpening toks (base + words.length) loops (words.opened.run ready)).1 + 1)
      (afterOpening toks (base + words.length) loops (words.opened.run ready)).2 := by
  have alone : nested? toks base (ready.withLoops loops) = none := by
    rcases opens.word with short | ⟨long, -⟩
    · exact nested?_word (inset.head_eq ▸ short) rfl
    · exact nested?_word (inset.head_eq ▸ long) rfl
  have first := leads_of_arrive (inset.begins loops arrived) alone
  rwa [dispatch_opens inset opens, openLoop_line inset opens some deeper] at first

theorem keeps_leads (keeps : words.Keeps) (arrived : words.arrive m = .ready ready) :
    Leads toks 1 base (m.withLoops (round.frame resume :: loops))
      ((afterTurn resume (base + words.length) loops ((words.turned round).run ready)).1 + 1)
      (afterTurn resume (base + words.length) loops ((words.turned round).run ready)).2 := by
  have head : (toks.peek base).kind = .word .keep := inset.head_eq ▸ keeps.word
  have first := leads_of_arrive (inset.begins (round.frame resume :: loops) arrived)
    (nested?_word head rfl)
  rwa [dispatch_keeps inset keeps, keep_line inset round resume] at first

theorem leaves_leads (leaves : words.Leaves) (arrived : words.arrive m = .ready ready) :
    Leads toks 1 base (m.withLoops (frame :: loops))
      (toks.afterKeep 1 (base + words.length) + 1) (ready.withLoops loops) := by
  have head : (toks.peek base).kind = .word .stop := inset.head_eq ▸ leaves.first_kind
  have first := leads_of_arrive (inset.begins (frame :: loops) arrived)
    (nested?_word head rfl)
  rwa [dispatch_leaves inset leaves, leave_line inset leaves frame] at first

end Loops

end Inset
end BigScript
