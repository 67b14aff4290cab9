import BigScript.Proofs.Healing.Tracking

/-!
# Leaving loops

A loop is left by looking for the `keep` that closes it.  The search knows nothing of statements: it
counts the words that open and close loops, wherever they stand.  `Matched` says of a stretch in front
of a `keep` that these words match up; then, and only then, the search ends on the line of that `keep`.

They match where every such word is a header or a `keep` line of a loop in the body.  `Statements` are
bodies of this kind, and `loop_exit` says that the walk goes on behind the right line in all of them.
A `keep` that is printed is counted like any other.
-/

namespace BigScript
namespace TokenStream

open Heal Statement

variable {toks : TokenStream} {i j k n depth first last : Nat}

/-! ## Words that match -/

/-- How many loops are opened from one index up to another. -/
def openings (toks : TokenStream) (first last : Nat) : Nat :=
  (List.range' first (last - first)).countP toks.opensLoop

/-- How many `keep` words stand from one index up to another. -/
def closings (toks : TokenStream) (first last : Nat) : Nat :=
  (List.range' first (last - first)).countP fun k => (toks.peek k).isWord .keep

/-- The words that close loops match those that open them, and `depth` more, each behind its own. -/
structure Matched (toks : TokenStream) (depth first last : Nat) : Prop where
  never : ∀ p, first ≤ p → p ≤ last → toks.closings first p ≤ toks.openings first p + depth
  all : toks.closings first last = toks.openings first last + depth

theorem matched_self : toks.Matched depth k k ↔ depth = 0 := by
  have none : toks.closings k k = 0 ∧ toks.openings k k = 0 := by
    unfold closings openings
    rw [Nat.sub_self]
    exact ⟨rfl, rfl⟩
  refine ⟨fun matched => ?_, fun zero => ⟨fun p behind below => ?_, ?_⟩⟩
  · have all := matched.all
    omega
  · cases Nat.le_antisymm behind below
    omega
  · omega

theorem openings_succ (ahead : first < last) :
    toks.openings first last = (toks.opensLoop first).toNat + toks.openings (first + 1) last := by
  unfold openings
  rw [show last - first = last - (first + 1) + 1 by omega, List.range'_succ, List.countP_cons,
    Nat.add_comm]
  cases toks.opensLoop first <;> rfl

theorem closings_succ (ahead : first < last) :
    toks.closings first last =
      ((toks.peek first).isWord .keep).toNat + toks.closings (first + 1) last := by
  unfold closings
  rw [show last - first = last - (first + 1) + 1 by omega, List.range'_succ, List.countP_cons,
    Nat.add_comm]
  cases (toks.peek first).isWord .keep <;> rfl

/-- The first word of a stretch changes how many loops are to be closed behind it. -/
theorem matched_succ {after : Nat} (ahead : first < last)
    (turn : depth + (toks.opensLoop first).toNat =
      after + ((toks.peek first).isWord .keep).toNat) :
    toks.Matched depth first last ↔ toks.Matched after (first + 1) last := by
  constructor
  · refine fun matched => ⟨fun p behind below => ?_, ?_⟩
    · have never := matched.never p (by omega) below
      rw [closings_succ behind, openings_succ behind] at never
      omega
    · have all := matched.all
      rw [closings_succ ahead, openings_succ ahead] at all
      omega
  · refine fun matched => ⟨fun p behind below => ?_, ?_⟩
    · rcases Nat.eq_or_lt_of_le behind with rfl | further
      · unfold closings
        rw [Nat.sub_self]
        exact Nat.zero_le _
      · have never := matched.never p further below
        rw [closings_succ further, openings_succ further]
        omega
    · have all := matched.all
      rw [closings_succ ahead, openings_succ ahead]
      omega

theorem matched_opens (ahead : first < last) (opened : toks.opensLoop first = true) :
    toks.Matched depth first last ↔ toks.Matched (depth + 1) (first + 1) last :=
  matched_succ ahead (by rw [opened, not_keep_of_opensLoop opened]; rfl)

theorem matched_keeps (ahead : first < last) (keeps : (toks.peek first).isWord .keep = true) :
    toks.Matched (depth + 1) first last ↔ toks.Matched depth (first + 1) last :=
  matched_succ ahead (by rw [keeps, not_opensLoop_of_keep keeps]; rfl)

theorem matched_passes (ahead : first < last) (plain : toks.turns first = false) :
    toks.Matched depth first last ↔ toks.Matched depth (first + 1) last := by
  rcases Bool.or_eq_false_iff.mp plain with ⟨closed, keeps⟩
  exact matched_succ ahead (by rw [closed, keeps])

/-- A `keep` that nothing was opened for does not match. -/
theorem not_matched_keep (ahead : first < last) (keeps : (toks.peek first).isWord .keep = true) :
    ¬ toks.Matched 0 first last := by
  intro matched
  have never := matched.never (first + 1) (Nat.le_succ first) ahead
  rw [closings_succ (Nat.lt_succ_self first), openings_succ (Nat.lt_succ_self first), keeps,
    not_opensLoop_of_keep keeps] at never
  have none : toks.openings (first + 1) (first + 1) = 0 := by
    unfold openings
    rw [Nat.sub_self]
    rfl
  rw [none, Bool.toNat_true, Bool.toNat_false] at never
  omega

/-! ## Where the search ends -/

theorem afterKeep_opens (opened : toks.opensLoop n = true) :
    toks.afterKeep depth n = toks.afterKeep (depth + 1) (n + 1) := by
  have unfinished := unfinished_of_opens ((toks.opens_eq n).trans opened)
  have inside := lt_of_not_finish unfinished
  rw [afterKeep, dif_pos inside, ← peek_of_lt inside, unfinished, opened]
  rfl

theorem unfinished_of_keep (keeps : (toks.peek n).isWord .keep = true) :
    (toks.peek n).isFinish = false := by
  rw [Token.isFinish, eq_of_beq keeps]
  rfl

theorem afterKeep_keeps (keeps : (toks.peek n).isWord .keep = true) :
    toks.afterKeep (depth + 1) n =
      if depth = 0 then toks.lineEnd n else toks.afterKeep depth (n + 1) := by
  have unfinished := unfinished_of_keep keeps
  have inside := lt_of_not_finish unfinished
  rw [afterKeep, dif_pos inside, ← peek_of_lt inside, unfinished, not_opensLoop_of_keep keeps, keeps,
    if_neg Bool.false_ne_true, if_neg Bool.false_ne_true, if_pos rfl]
  simp only [Nat.add_eq_right, Nat.add_sub_cancel]

theorem afterKeep_passes (unfinished : (toks.peek n).isFinish = false)
    (plain : toks.turns n = false) : toks.afterKeep depth n = toks.afterKeep depth (n + 1) := by
  rcases Bool.or_eq_false_iff.mp plain with ⟨closed, keeps⟩
  have inside := lt_of_not_finish unfinished
  rw [afterKeep, dif_pos inside, ← peek_of_lt inside, unfinished, closed, keeps]
  rfl

/-- The search ends on the line of a `keep` that the words in front of it match up with. -/
theorem afterKeep_of_matched {depth n : Nat} (keeps : (toks.peek k).isWord .keep = true)
    (ahead : n ≤ k) (unfinished : ∀ p < k, n ≤ p → (toks.peek p).isFinish = false)
    (matched : toks.Matched depth n k) : toks.afterKeep (depth + 1) n = toks.lineEnd k := by
  rcases Nat.eq_or_lt_of_le ahead with rfl | further
  · rw [afterKeep_keeps keeps, if_pos (matched_self.mp matched)]
  · have next {depth : Nat} (matched : toks.Matched depth (n + 1) k) :
        toks.afterKeep (depth + 1) (n + 1) = toks.lineEnd k :=
      afterKeep_of_matched (n := n + 1) keeps further
        (fun p below behind => unfinished p below (Nat.le_of_succ_le behind)) matched
    cases opened : toks.opensLoop n with
    | true =>
        rw [afterKeep_opens opened]
        exact next ((matched_opens further opened).mp matched)
    | false =>
        cases closed : (toks.peek n).isWord .keep with
        | true =>
            cases depth with
            | zero => exact absurd matched (not_matched_keep further closed)
            | succ depth =>
                rw [afterKeep_keeps closed, if_neg (Nat.succ_ne_zero depth)]
                exact next ((matched_keeps further closed).mp matched)
        | false =>
            have plain := Bool.or_eq_false_iff.mpr ⟨opened, closed⟩
            rw [afterKeep_passes (unfinished n further (Nat.le_refl n)) plain]
            exact next ((matched_passes further plain).mp matched)
termination_by k - n

/-- Behind a line without further words that open or close loops the search ends further down. -/
theorem lineEnd_lt_afterKeep (alone : ∀ p ≤ toks.lineEnd k, k < p → toks.turns p = false)
    (more : toks.lineEnd k + 1 < toks.size) (behind : k < n) :
    toks.lineEnd k < toks.afterKeep depth n := by
  fun_induction afterKeep toks depth n with
  | case1 | case6 => omega
  | case2 | case4 | case5 =>
      rename_i ih
      exact ih (Nat.lt_succ_of_lt behind)
  | case3 n inside _ _ keeps =>
      rw [← peek_of_lt inside] at keeps
      refine Nat.lt_of_lt_of_le (Nat.lt_of_not_le fun within => ?_) (le_lineEnd n)
      have plain := alone n within behind
      rw [turns, keeps, Bool.or_true] at plain
      cases plain

/-- The search ends on the line of a `keep` only if the words in front of it match up with it. -/
theorem matched_of_afterKeep {depth n : Nat} (keeps : (toks.peek k).isWord .keep = true)
    (begins : toks.beginsLine k = true)
    (alone : ∀ p ≤ toks.lineEnd k, k < p → toks.turns p = false)
    (more : toks.lineEnd k + 1 < toks.size) (ahead : n ≤ k)
    (unfinished : ∀ p < k, n ≤ p → (toks.peek p).isFinish = false)
    (lands : toks.afterKeep (depth + 1) n = toks.lineEnd k) : toks.Matched depth n k := by
  rcases Nat.eq_or_lt_of_le ahead with rfl | further
  · refine matched_self.mpr (Classical.byContradiction fun some => ?_)
    rw [afterKeep_keeps keeps, if_neg some] at lands
    exact absurd lands (Nat.ne_of_gt (lineEnd_lt_afterKeep alone more (Nat.lt_succ_self n)))
  · have next {depth : Nat} (lands : toks.afterKeep (depth + 1) (n + 1) = toks.lineEnd k) :
        toks.Matched depth (n + 1) k :=
      matched_of_afterKeep (n := n + 1) keeps begins alone more further
        (fun p below behind => unfinished p below (Nat.le_of_succ_le behind)) lands
    cases opened : toks.opensLoop n with
    | true =>
        rw [afterKeep_opens opened] at lands
        exact (matched_opens further opened).mpr (next lands)
    | false =>
        cases closed : (toks.peek n).isWord .keep with
        | true =>
            rw [afterKeep_keeps closed] at lands
            cases depth with
            | zero =>
                -- The line of the earlier `keep` ends in front of the line of the other one.
                have line : k ≤ toks.lineEnd n := by
                  rw [if_pos rfl] at lands
                  rw [lands]
                  exact le_lineEnd k
                rw [beginsLine_within further line] at begins
                cases begins
            | succ depth =>
                rw [if_neg (Nat.succ_ne_zero depth)] at lands
                exact (matched_keeps further closed).mpr (next lands)
        | false =>
            have plain := Bool.or_eq_false_iff.mpr ⟨opened, closed⟩
            rw [afterKeep_passes (unfinished n further (Nat.le_refl n)) plain] at lands
            exact (matched_passes further plain).mpr (next lands)
termination_by k - n

/-! ## Bodies -/

/-- Complete statements from one index up to another.  A loop among them has a header, a body and a
`keep` line; no other word opens or closes a loop. -/
inductive Statements (toks : TokenStream) : Nat → Nat → Prop where
  | none {i : Nat} : Statements toks i i
  | other {i j k : Nat} (ahead : i < j) (plain : ∀ p < j, i ≤ p → toks.turns p = false)
      (rest : Statements toks j k) : Statements toks i k
  | loop {head close k : Nat} (opened : toks.opensLoop head = true)
      (options : ∀ p ≤ toks.lineEnd head, head < p → toks.turns p = false)
      (body : Statements toks (toks.lineEnd head + 1) close)
      (keeps : (toks.peek close).isWord .keep = true)
      (condition : ∀ p ≤ toks.lineEnd close, close < p → toks.turns p = false)
      (rest : Statements toks (toks.lineEnd close + 1) k) : Statements toks head k

namespace Statements

theorem le (statements : toks.Statements i k) : i ≤ k := by
  induction statements with
  | none => exact Nat.le_refl _
  | other ahead _ _ ih => omega
  | @loop head close _ _ _ _ _ _ _ body rest =>
      have header : head ≤ toks.lineEnd head := le_lineEnd head
      have line : close ≤ toks.lineEnd close := le_lineEnd close
      omega

/-- Behind a word that opens no loop the statements go on. -/
theorem tail (statements : toks.Statements i k) (further : i < k)
    (other : toks.opensLoop i = false) : toks.Statements (i + 1) k := by
  cases statements with
  | none => exact absurd further (Nat.lt_irrefl _)
  | @other _ j _ ahead plain rest =>
      rcases Nat.eq_or_lt_of_le (Nat.succ_le_of_lt ahead) with rfl | more
      · exact rest
      · exact .other more (fun p below behind => plain p below (Nat.le_of_succ_le behind)) rest
  | loop opened =>
      rw [opened] at other
      cases other

end Statements

/-- Words that open and close nothing change nothing about what matches. -/
theorem matched_stretch (ahead : first ≤ k) (below : k ≤ last)
    (plain : ∀ p < k, first ≤ p → toks.turns p = false) (matched : toks.Matched depth k last) :
    toks.Matched depth first last := by
  induction ahead with
  | refl => exact matched
  | @step k ahead ih =>
      have here := plain k (Nat.lt_succ_self k) ahead
      exact ih (Nat.le_of_lt below) (fun p less => plain p (Nat.lt_succ_of_lt less))
        ((matched_passes below here).mpr matched)

theorem Statements.matched (statements : toks.Statements i k) (below : k ≤ last)
    (matched : toks.Matched depth k last) : toks.Matched depth i last := by
  induction statements generalizing depth with
  | none => exact matched
  | other ahead plain rest ih =>
      have order := rest.le
      exact matched_stretch (Nat.le_of_lt ahead) (by omega) plain (ih below matched)
  | @loop head close k opened options body keeps condition rest inner outer =>
      have header : head ≤ toks.lineEnd head := le_lineEnd head
      have line : close ≤ toks.lineEnd close := le_lineEnd close
      have within := body.le
      have order := rest.le
      have behind := matched_stretch (Nat.succ_le_succ line) (by omega)
        (fun p less => condition p (Nat.le_of_lt_succ less)) (outer below matched)
      have closed := (matched_keeps (by omega) keeps).mpr behind
      have opening := matched_stretch (Nat.succ_le_succ header) (by omega)
        (fun p less => options p (Nat.le_of_lt_succ less)) (inner (by omega) closed)
      exact (matched_opens (by omega) opened).mpr opening

/-! ## Loops and ways out of them -/

/-- A loop in a script, from its header to the `keep` that begins its last line. -/
structure Loop (toks : TokenStream) (head close : Nat) : Prop where
  opened : toks.opensLoop head = true
  keeps : (toks.peek close).isWord .keep = true
  begins : toks.beginsLine close = true
  below : toks.lineEnd head < close
  unfinished : ∀ p < close, head ≤ p → (toks.peek p).isFinish = false

instance (head close : Nat) : Decidable (toks.Loop head close) :=
  decidable_of_iff (toks.opensLoop head = true ∧ (toks.peek close).isWord .keep = true ∧
      toks.beginsLine close = true ∧ toks.lineEnd head < close ∧
        ∀ p < close, head ≤ p → (toks.peek p).isFinish = false)
    ⟨fun ⟨opened, keeps, begins, below, unfinished⟩ => ⟨opened, keeps, begins, below, unfinished⟩,
      fun loop => ⟨loop.opened, loop.keeps, loop.begins, loop.below, loop.unfinished⟩⟩

/-- The statements that leave a loop before its turns are over: a loop inside `outer` is left at an
index, with a machine, by looking for its `keep` from another index on. -/
inductive Exit (toks : TokenStream) (head : Nat) (outer : List LoopFrame) :
    Nat → Machine → Nat → Machine → Prop where
  | stop {i : Nat} {m : Machine} {frame : LoopFrame} (first : (toks.peek i).isWord .stop = true)
      (second : (toks.peek (i + 1)).isWord .loop = true) (open_ : m.loops = frame :: outer) :
      Exit toks head outer i m (i + 2) { m with loops := outer }
  | short {i : Nat} {m : Machine} {frame : LoopFrame}
      (first : (toks.peek i).isWord .stopLoop = true) (open_ : m.loops = frame :: outer) :
      Exit toks head outer i m (i + 1) { m with loops := outer }
  | empty {m : Machine} {walk : Walk} (around : m.loops = outer)
      (found : ((loopOptions toks head (optionsAt toks head)).run m).1.2 = some walk)
      (none : walk.items = []) :
      Exit toks head outer head m (toks.lineEnd head + 1)
        ((loopOptions toks head (optionsAt toks head)).run m).2

/-- Where a loop can be left: at its header, or at a statement of its body. -/
inductive Within (toks : TokenStream) (head close : Nat) : Nat → Prop where
  | header (body : toks.Statements (toks.lineEnd head + 1) close) : Within toks head close head
  | body {i : Nat} (above : toks.Statements (toks.lineEnd head + 1) i)
      (rest : toks.Statements i close) : Within toks head close i

namespace Exit

variable {head close : Nat} {outer : List LoopFrame} {m before after : Machine}

/-- Just the loops around are open behind a loop that was left. -/
theorem loops (exit : toks.Exit head outer i before n after) : after.loops = outer := by
  cases exit with
  | stop | short => rfl
  | empty around => exact ((loopOptions_steady toks _ _ before).loops).trans around

theorem stride (exit : toks.Exit head outer i before n after) (opened : toks.opensLoop head = true)
    (arrived : m.arrive toks i = .ready before) :
    Stride toks (i, m) (toks.afterKeep 1 n + 1, after) := by
  have alone (jumps : (toks.kindAt i).jumps = true) :=
    Stride.alone arrived (nested?_jumps (m := before) jumps)
  cases exit with
  | @stop i _ frame first second open_ =>
      have kind : toks.kindAt i = .word .stop := eq_of_beq first
      have jumps : (toks.kindAt i).jumps = true := by rw [kind]; rfl
      have run : (dispatch idle toks i).run before = (leaveLoop toks (i + 1)).run before := by
        rw [dispatch_jumps jumps]
        unfold direct
        rw [show (toks.peek i).kind = .word .stop from kind]
        dsimp only
        unfold Statement.stop
        dsimp only
        rw [if_pos second]
      have stride := alone jumps
      rwa [run, leaveLoop_run open_] at stride
  | @short i _ frame first open_ =>
      have kind : toks.kindAt i = .word .stopLoop := eq_of_beq first
      have jumps : (toks.kindAt i).jumps = true := by rw [kind]; rfl
      have run : (dispatch idle toks i).run before = (leaveLoop toks i).run before := by
        rw [dispatch_jumps jumps]
        unfold direct
        rw [show (toks.peek i).kind = .word .stopLoop from kind]
      have stride := alone jumps
      rwa [run, leaveLoop_run open_] at stride
  | empty around found none =>
      have stride := alone (jumps_of_opensLoop opened)
      rw [dispatch_header opened, openLoop_run, found] at stride
      unfold entered at stride
      dsimp only at stride
      rwa [none, List.isEmpty_nil, if_pos rfl] at stride

/-- A loop whose body is made of complete statements is left from where the rest of its words match. -/
theorem matched (exit : toks.Exit head outer i before n after) (loop : toks.Loop head close)
    (within : toks.Within head close i) : head < n ∧ n ≤ close ∧ toks.Matched 0 n close := by
  have line : head ≤ toks.lineEnd head := le_lineEnd head
  have statements (statements : toks.Statements n close) (further : head < n) :
      head < n ∧ n ≤ close ∧ toks.Matched 0 n close :=
    ⟨further, statements.le, statements.matched (Nat.le_refl _) (matched_self.mpr rfl)⟩
  have apart {word other : Keyword} {p : Nat} (is : (toks.peek p).isWord word = true)
      (differ : word ≠ other) : (toks.peek p).isWord other = false := by
    rw [Token.isWord, eq_of_beq is]
    exact beq_eq_false_iff_ne.mpr fun same => differ (Kind.word.inj same)
  have plain {word : Keyword} {p : Nat} (is : (toks.peek p).isWord word = true)
      (long : word ≠ .start) (short : word ≠ .startLoop) : toks.opensLoop p = false := by
    have first : (toks.kindAt p == .word .start) = false := apart is long
    have second : (toks.kindAt p == .word .startLoop) = false := apart is short
    rw [opensLoop, first, second, Bool.false_and, Bool.or_false]
  have not_header {word : Keyword} (is : (toks.peek head).isWord word = true)
      (long : word ≠ .start) (short : word ≠ .startLoop) : False := by
    have opened := loop.opened
    rw [plain is long short] at opened
    cases opened
  have further {word : Keyword} {p : Nat} (is : (toks.peek p).isWord word = true)
      (rest : toks.Statements p close) (other : word ≠ .keep) : p < close := by
    refine Nat.lt_of_le_of_ne rest.le fun last => ?_
    have keeps := loop.keeps
    rw [← last, apart is other] at keeps
    cases keeps
  cases exit with
  | stop first second =>
      cases within with
      | header => exact (not_header first (by decide) (by decide)).elim
      | body above rest =>
          have next := rest.tail (further first rest (by decide)) (plain first (by decide) (by decide))
          have order := above.le
          refine statements ?_ (by omega)
          exact next.tail (further second next (by decide)) (plain second (by decide) (by decide))
  | short first =>
      cases within with
      | header => exact (not_header first (by decide) (by decide)).elim
      | body above rest =>
          have order := above.le
          refine statements ?_ (by omega)
          exact rest.tail (further first rest (by decide)) (plain first (by decide) (by decide))
  | empty =>
      cases within with
      | header body => exact statements body (Nat.lt_succ_of_le line)
      | body above =>
          have order := above.le
          omega

end Exit

end TokenStream

open TokenStream

/-- Where the walk goes on when a loop has been left. -/
structure LoopExit (toks : TokenStream) (head close : Nat) : Prop where
  /-- It goes on behind the `keep` line of the loop, in the loops around it, if the body is made of
  complete statements. -/
  behind : ∀ {outer : List LoopFrame} {i n : Nat} {m before after : Machine},
    m.arrive toks i = .ready before → toks.Exit head outer i before n after →
      toks.Within head close i →
        Stride toks (i, m) (toks.lineEnd close + 1, after) ∧ after.loops = outer
  /-- Whatever the body is made of, it goes on there just if the words match that open and close
  loops, from where they are counted. -/
  words : ∀ {outer : List LoopFrame} {i n : Nat} {m before after : Machine},
    m.arrive toks i = .ready before → toks.Exit head outer i before n after →
      head < n → n ≤ close → toks.lineEnd close + 1 < toks.size →
        (∀ p ≤ toks.lineEnd close, close < p → toks.turns p = false) →
          (Stride toks (i, m) (toks.lineEnd close + 1, after) ↔ toks.Matched 0 n close)

theorem loop_exit {toks : TokenStream} {head close : Nat} (loop : toks.Loop head close) :
    LoopExit toks head close := by
  have lands {n : Nat} (low : head < n) (high : n ≤ close) (matched : toks.Matched 0 n close) :
      toks.afterKeep 1 n = toks.lineEnd close :=
    afterKeep_of_matched loop.keeps high
      (fun p below behind => loop.unfinished p below (by omega)) matched
  refine ⟨fun arrived exit within => ⟨?_, exit.loops⟩, fun arrived exit low high more alone => ?_⟩
  · rcases exit.matched loop within with ⟨low, high, matched⟩
    exact lands low high matched ▸ exit.stride loop.opened arrived
  · have stride := exit.stride loop.opened arrived
    refine ⟨fun other => ?_, fun matched => lands low high matched ▸ stride⟩
    have same := congrArg Prod.fst (other.unique stride)
    exact matched_of_afterKeep loop.keeps loop.begins alone more high
      (fun p below behind => loop.unfinished p below (by omega)) (Nat.succ.inj same).symm

/-- A loop that is left in front of another one in its body. -/
def leftEarly : String :=
  "start loop\n    stop loop\n    start loop .r.2\n        print 1\n    keep\nkeep\nprint 2"

/-- The loop is left behind its own `keep`, and not behind that of the other one. -/
theorem leftEarly_behind :
    let toks := scan leftEarly
    let m : Machine := { Machine.start {} with loops := [Statement.openedLoop toks 0 0 none] }
    toks.Loop 0 13 ∧ ∃ after, Stride toks (2, m) (14, after) ∧ after.loops = [] := by
  intro toks m
  have ⟨loop, arrives, ⟨stops, header, inner, plain⟩, first, second, third, last⟩ :
      toks.Loop 0 13 ∧ (m.arrive toks 2).readyFor (fun _ => true) = true ∧
        (((toks.peek 2).isWord .stop = true ∧ (toks.peek 3).isWord .loop = true) ∧
          toks.opensLoop 4 = true ∧ (toks.peek 12).isWord .keep = true ∧
            ∀ p < 14, p ∉ [0, 4, 12, 13] → toks.turns p = false) ∧
        toks.lineEnd 0 = 1 ∧ toks.lineEnd 4 = 9 ∧ toks.lineEnd 12 = 12 ∧ toks.lineEnd 13 = 13 := by
    decide +kernel
  have printed : toks.Statements (toks.lineEnd 4 + 1) 12 := by
    rw [second]
    exact .other (by decide) (fun p _ _ => plain p (by omega) (by simp; omega)) .none
  have body : toks.Statements 2 13 := by
    refine .other (j := 4) (by decide) (fun p _ _ => plain p (by omega) (by simp; omega)) ?_
    refine .loop header (fun p _ _ => ?_) printed inner (fun p _ _ => ?_) ?_
    · exact plain p (by omega) (by simp; omega)
    · omega
    · rw [third]
      exact .none
  rcases Arrival.exists_of_readyFor arrives with ⟨before, arrived, -⟩
  have open_ : before.loops = [Statement.openedLoop toks 0 0 none] := Config.ready_loops arrived
  have behind := (loop_exit loop).behind arrived (.stop stops.1 stops.2 open_)
    (.body (by rw [first]; exact .none) body)
  rw [last] at behind
  exact ⟨loop, _, behind⟩

/-- A loop with a `keep` that is to be printed, behind where the loop is left. -/
def printedKeep : String :=
  "start loop\n    stop loop\n    print keep\n    print \"inside\"\nkeep\nprint \"behind\""

/-- The search for the `keep` line of the loop ends on the line that prints one, and the rest of the
body is run.  The line of the loop is then one `keep` too many. -/
theorem printedKeep_runsRest :
    let toks := scan printedKeep
    toks.Loop 0 8 ∧ toks.lineEnd 8 = 8 ∧ toks.afterKeep 1 4 = 5 ∧ toks.beginsLine 5 = false ∧
      (Machine.runSource printedKeep (.start {})).1.map Fault.cause =
        some (.badBlock "'keep' without an open loop") := by
  decide +kernel

end BigScript
