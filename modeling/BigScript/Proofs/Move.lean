import BigScript.Proofs.Forward.Statement
import BigScript.Proofs.LoopOrigin
import BigScript.Proofs.Structured.Place
import BigScript.Proofs.Structured.Walk

/-!
# Moves of a walk

A stride changes two things that a walk finds its way by: the index, and the stack of open loops.
`Move` lists what statements do to both at once.  A header opens a loop or passes it by; `keep` closes
the innermost loop or goes back to its first line; the words that leave loops drop some of them and
go behind a `keep`; other words of the control flow go on along their line or behind a block.

Every other statement leaves the loops alone and goes on further down.  How far it reads is not known
here: `Tidy` asks that no word that opens or closes a loop stands among its tokens.
-/

namespace BigScript

/-- Words whose statement may go on elsewhere than behind its last token. -/
def Kind.jumps : Kind → Bool
  | .word .ifWord => true
  | .word .orWord => true
  | .word .start => true
  | .word .startLoop => true
  | .word .keep => true
  | .word .stop => true
  | .word .stopLoop => true
  | .word .on => true
  | .word .pin => true
  | .word .control => true
  | .symbol .leftBracket => true
  | _ => false

/-- What a statement at an index does to the open loops and to the place of a walk. -/
inductive Move (toks : TokenStream) (i : Nat) : List LoopFrame → Nat → List LoopFrame → Prop where
  | opens {loops : List LoopFrame} (header : toks.opensLoop i = true) (frame : LoopFrame)
      (resume : frame.resume = toks.lineEnd i + 1) :
      Move toks i loops (toks.lineEnd i + 1) (frame :: loops)
  | passes {loops : List LoopFrame} (header : toks.opensLoop i = true) :
      Move toks i loops (toks.afterKeep 1 (toks.lineEnd i + 1) + 1) loops
  | closes {frame : LoopFrame} {rest : List LoopFrame} (keeps : (toks.peek i).isWord .keep = true) :
      Move toks i (frame :: rest) (toks.lineEnd i + 1) rest
  | returns {frame : LoopFrame} {rest : List LoopFrame} (keeps : (toks.peek i).isWord .keep = true)
      (again : LoopFrame) (resume : again.resume = frame.resume) :
      Move toks i (frame :: rest) (frame.resume - 1 + 1) (again :: rest)
  | leaves {loops : List LoopFrame} {depth j : Nat} (some : 0 < depth) (within : depth ≤ loops.length)
      (ahead : i < j) (plain : ∀ k, i ≤ k → k < j → toks.turns k = false) :
      Move toks i loops (toks.afterKeep depth j + 1) (loops.drop depth)
  | block {loops : List LoopFrame} (joins : Bool) (plain : toks.turns i = false) :
      Move toks i loops (toks.blockEnd (toks.peek i).column joins (toks.lineEnd i + 1)) loops
  | line {loops : List LoopFrame} {j : Nat} (ahead : i < j) (within : j ≤ toks.lineEnd i + 1)
      (plain : toks.turns i = false) : Move toks i loops j loops
  | onward {loops : List LoopFrame} {j : Nat} (ahead : i < j)
      (plain : ∀ k, i ≤ k → k < j → toks.turns k = false) : Move toks i loops j loops

/-- A stride over a statement that contains no word that opens or closes a loop, unless it begins with
such a word or jumps; a source that it includes closes every loop that it opens, and no other. -/
structure Tidy (toks : TokenStream) (from_ to_ : Spot) : Prop where
  words : (toks.kindAt from_.1).jumps = false →
    ∀ k, from_.1 < k → k < to_.1 → toks.turns k = false
  sources : ∀ ready nested, from_.2.arrive toks from_.1 = .ready ready →
    Statement.nested? toks from_.1 ready = some nested → nested.purpose = .source →
      to_.2.loops = from_.2.loops

namespace Statement

open Machine

variable {toks : TokenStream} {i : Nat} {m : Machine}

/-! ## The statements that open, close and leave loops -/

/-- What the options of a loop say, read from an index on: its limit and what it walks over. -/
def loopOptions (toks : TokenStream) (i options : Nat) : Act (Int × Option Walk) := do
  let (limit, j) ← loopLimit toks (toks.peek i).line options
  let walk ← loopWalk? toks (toks.peek i).line j
  return (limit, walk)

theorem loopOptions_steady (toks : TokenStream) (i options : Nat) :
    Steady (loopOptions toks i options) :=
  (loopLimit_routine toks _ _).steady.bind fun _ =>
    (loopWalk?_routine toks _ _).steady.bind fun _ => .pure _

/-- The loop that a header opens. -/
def openedLoop (toks : TokenStream) (i : Nat) (limit : Int) (walk : Option Walk) : LoopFrame where
  resume := toks.lineEnd i + 1
  valid := !(toks.peek (toks.lineEnd i + 1)).isFinish &&
    (toks.peek (toks.lineEnd i + 1)).column > (toks.peek i).column
  limit := limit
  walk := walk

/-- What a header does once its options have been read. -/
def entered (toks : TokenStream) (i : Nat) (limit : Int) (walk : Option Walk) (m : Machine) :
    Nat × Machine :=
  match walk with
  | none => (toks.lineEnd i, { m with loops := openedLoop toks i limit none :: m.loops })
  | some walk =>
    if walk.items.isEmpty then (toks.afterKeep 1 (toks.lineEnd i + 1), m)
    else
      (toks.lineEnd i, { walk.bindItem m with loops := openedLoop toks i limit walk :: m.loops })

theorem openLoop_run (toks : TokenStream) (i options : Nat) (m : Machine) :
    (openLoop toks i options).run m =
      entered toks i ((loopOptions toks i options).run m).1.1
        ((loopOptions toks i options).run m).1.2 ((loopOptions toks i options).run m).2 := by
  unfold openLoop loopOptions
  simp only [Act.run_bind, Act.run_pure]
  generalize (loopLimit toks (toks.peek i).line options).run m = read
  generalize (loopWalk? toks (toks.peek i).line read.1.2).run read.2 = found
  rcases found with ⟨_ | walk, after⟩
  · rfl
  · unfold entered
    dsimp only
    split <;> rfl

theorem leaveLoop_run {frame : LoopFrame} {rest : List LoopFrame} (open_ : m.loops = frame :: rest)
    (j : Nat) : (leaveLoop toks j).run m = (toks.afterKeep 1 (j + 1), { m with loops := rest }) := by
  unfold leaveLoop
  rw [Act.run_bind, Act.run_get]
  dsimp only
  rw [open_]
  rfl

/-- Leaving a loop stops the run where no loop is open. -/
theorem leaveLoop_stops (none : m.loops = []) (j : Nat) :
    ((leaveLoop toks j).run m).2.isStopped = true := by
  unfold leaveLoop
  rw [Act.run_bind, Act.run_get]
  dsimp only
  rw [none]
  exact isStopped_stop m _

theorem keep_stops (none : m.loops = []) : ((keep toks i).run m).2.isStopped = true := by
  unfold keep
  rw [Act.run_bind, Act.run_get]
  dsimp only
  rw [none]
  exact isStopped_stop m _

/-- How a turn of a loop ends that has been taken off the stack: the walk goes on behind `last`, or
back to the first line of the loop, which is then open again. -/
def Decides (frame : LoopFrame) (last : Nat) (act : Act Nat) : Prop :=
  ∀ m : Machine, ((act.run m).1 = last ∧ (act.run m).2.loops = m.loops) ∨
    ((act.run m).1 = frame.resume - 1 ∧
      ∃ again : LoopFrame, again.resume = frame.resume ∧ (act.run m).2.loops = again :: m.loops)

namespace Decides

variable {frame : LoopFrame} {last : Nat}

theorem ends : Decides frame last (pure last) := fun _ => .inl ⟨rfl, rfl⟩

theorem goBack {again : LoopFrame} (resume : again.resume = frame.resume) :
    Decides frame last (goBack again) :=
  fun _ => .inr ⟨congrArg (· - 1) resume, again, resume, rfl⟩

theorem bind {α : Type} {first : Act α} {next : α → Act Nat} (steady : Steady first)
    (decides : ∀ value, Decides frame last (next value)) : Decides frame last (first >>= next) :=
  fun m => (steady m).loops ▸ decides (first.run m).1 (first.run m).2

theorem ite {condition : Prop} [Decidable condition] {first second : Act Nat}
    (firstDecides : Decides frame last first) (secondDecides : Decides frame last second) :
    Decides frame last (if condition then first else second) := by
  split
  · exact firstDecides
  · exact secondDecides

end Decides

theorem keep_decides (toks : TokenStream) (i : Nat) {frame : LoopFrame} {rest : List LoopFrame}
    (open_ : m.loops = frame :: rest) :
    ∃ act, Decides frame (toks.lineEnd i) act ∧
      (keep toks i).run m = act.run { m with loops := rest } := by
  unfold keep
  rw [Act.run_bind, Act.run_get]
  dsimp only
  rw [open_]
  dsimp only
  rw [Act.run_bind, Act.run_modify]
  refine ⟨_, .ite .ends ?_, rfl⟩
  split
  · refine .ite (.bind (.modify (bindItem_sameControl _)) fun _ => .goBack rfl) .ends
  · refine .ite .ends (.ite (.goBack rfl) ?_)
    exact .bind (Condition.holds_routine _).steady fun _ => .ite (.goBack rfl) .ends

theorem keep_moves (keeps : (toks.peek i).isWord .keep = true) :
    ((keep toks i).run m).2.isStopped = true ∨
      Move toks i m.loops (((keep toks i).run m).1 + 1) ((keep toks i).run m).2.loops := by
  cases open_ : m.loops with
  | nil => exact .inl (keep_stops open_)
  | cons frame rest =>
      rcases keep_decides toks i open_ with ⟨act, decides, same⟩
      rw [same]
      rcases decides { m with loops := rest } with ⟨last, loops⟩ | ⟨back, again, resume, loops⟩
      · rw [last, loops]
        exact .inr (.closes keeps)
      · rw [back, loops]
        exact .inr (.returns keeps again resume)

theorem openLoop_moves (header : toks.opensLoop i = true) (options : Nat) :
    Move toks i m.loops (((openLoop toks i options).run m).1 + 1)
      ((openLoop toks i options).run m).2.loops := by
  rw [openLoop_run]
  have same := (loopOptions_steady toks i options m).loops
  generalize (loopOptions toks i options).run m = read at same
  rcases read with ⟨⟨limit, _ | walk⟩, after⟩
  · exact same ▸ .opens header _ rfl
  · unfold entered
    dsimp only
    split
    · exact same ▸ .passes header
    · exact same ▸ .opens header _ rfl

theorem leaveLoop_moves {j : Nat} (ahead : i ≤ j)
    (plain : ∀ k, i ≤ k → k < j + 1 → toks.turns k = false) :
    ((leaveLoop toks j).run m).2.isStopped = true ∨
      Move toks i m.loops (((leaveLoop toks j).run m).1 + 1) ((leaveLoop toks j).run m).2.loops := by
  cases open_ : m.loops with
  | nil => exact .inl (leaveLoop_stops open_ j)
  | cons frame rest =>
      rw [leaveLoop_run open_]
      exact .inr (.leaves Nat.one_pos (Nat.succ_pos _) (Nat.lt_succ_of_le ahead) plain)

theorem stop_moves (head : (toks.peek i).kind = .word .stop) :
    ((stop toks i).run m).2.isStopped = true ∨
      Move toks i m.loops (((stop toks i).run m).1 + 1) ((stop toks i).run m).2.loops := by
  have plain : toks.turns i = false := Inset.turns_of_kind head rfl
  have both {kind : Kind} (next : (toks.peek (i + 1)).kind = kind)
      (other : [Kind.word .keep, .word .start, .word .startLoop].contains kind = false) :
      ∀ k, i ≤ k → k < i + 1 + 1 → toks.turns k = false := by
    intro k behind below
    rcases Nat.eq_or_lt_of_le behind with rfl | further
    · exact plain
    · cases (show k = i + 1 by omega)
      exact Inset.turns_of_kind next other
  unfold stop
  dsimp only
  by_cases loop : (toks.peek (i + 1)).isWord .loop = true
  · rw [if_pos loop]
    exact leaveLoop_moves (Nat.le_succ i) (both (eq_of_beq loop) rfl)
  rw [if_neg loop]
  by_cases run : (toks.peek (i + 1)).isWord .run = true
  · rw [if_pos run]
    refine .inl ?_
    change ({ m with ended := true } : Machine).isStopped = true
    unfold Machine.isStopped
    rw [Bool.or_true, Bool.true_or]
  rw [if_neg run]
  by_cases all : (toks.peek (i + 1)).isName "all" = true
  · rw [if_pos all, Act.run_bind, Act.run_get, Act.run_bind, Act.run_modify]
    have name : (toks.peek (i + 1)).kind = .name := eq_of_beq (Bool.and_eq_true _ _ |>.mp all).1
    cases open_ : m.loops with
    | nil => exact .inr (.onward (Nat.lt_succ_of_lt (Nat.lt_succ_self i)) (both name rfl))
    | cons frame rest =>
        have every : (frame :: rest).drop (rest.length + 1) = [] :=
          List.drop_eq_nil_of_le (Nat.le_refl _)
        have leaves : Move toks i (frame :: rest) (toks.afterKeep (rest.length + 1) (i + 2) + 1)
            ((frame :: rest).drop (rest.length + 1)) :=
          .leaves (Nat.succ_pos _) (Nat.le_refl _) (by omega) (both name rfl)
        rw [every] at leaves
        exact .inr leaves
  · rw [if_neg all]
    exact .inr (.line (Nat.lt_succ_of_le (TokenStream.le_lineEnd i)) (Nat.le_refl _) plain)

/-! ## Branches and blocks -/

theorem conditionRun_le (line j : Nat) : toks.conditionRun line j ≤ toks.lineRun line j := by
  unfold TokenStream.conditionRun TokenStream.lineRun
  by_cases inside : j < toks.size
  · rw [dif_pos inside, dif_pos inside]
    cases ends : toks[j].isFinish || toks[j].line != line with
    | true => exact Nat.le_refl 0
    | false =>
        have further := conditionRun_le line (j + 1)
        cases toks[j].isSymbol .ampersand with
        | true => exact Nat.zero_le _
        | false => exact Nat.succ_le_succ further
  · rw [dif_neg inside]
    exact Nat.zero_le _
termination_by toks.size - j

/-- The condition of a branch ends on its line, also where a joined statement follows it. -/
theorem branch_moves (head : (toks.peek i).kind = .word .ifWord) :
    Move toks i m.loops (((branch toks i).run m).1 + 1) ((branch toks i).run m).2.loops := by
  have plain : toks.turns i = false := Inset.turns_of_kind head rfl
  have loops : ((branch toks i).run m).2.loops = m.loops := by
    rw [branch_run]
    have same : SameControl m (condition toks i m).2 := (Condition.holds_routine _).steady m
    cases toks.asksForBug i <;> exact same.loops
  rw [loops, branch_run]
  dsimp only
  have within : conditionEnd toks i ≤ toks.lineEnd i + 1 := by
    have run : toks.conditionRun _ (i + 1) ≤ toks.lineRun (toks.peek i).line (i + 1) :=
      conditionRun_le _ _
    unfold conditionEnd TokenStream.lineEnd
    omega
  have behind : i < conditionEnd toks i := by
    unfold conditionEnd
    omega
  unfold branchLast
  cases (condition toks i m).1 with
  | false =>
      rw [if_neg Bool.false_ne_true, TokenStream.skipBlock_succ]
      exact .block true plain
  | true =>
      rw [if_pos rfl]
      split
      · rename_i joined
        rw [Bool.and_eq_true, beq_iff_eq] at joined
        refine .line (by omega) (Nat.succ_le_succ (Nat.le_of_lt_succ ?_)) plain
        refine Nat.lt_of_le_of_ne within fun last => ?_
        rcases toks.lineEnd_stop i with finished | other
        · rw [last, Token.isSymbol_of_finish finished] at joined
          cases joined.1
        · rw [last] at joined
          exact other joined.2
      · exact .line (by omega) (by omega) plain

theorem alternative_moves (head : (toks.peek i).kind = .word .orWord) :
    Move toks i m.loops (((alternative toks i).run m).1 + 1)
      ((alternative toks i).run m).2.loops := by
  have plain : toks.turns i = false := Inset.turns_of_kind head rfl
  have line : i ≤ toks.lineEnd i := TokenStream.le_lineEnd i
  rw [alternative_run]
  dsimp only
  cases m.taken with
  | true =>
      have further : toks.lineEnd i + 1 ≤
          toks.blockEnd (toks.peek i).column false (toks.lineEnd i + 1) :=
        TokenStream.le_blockEnd _ _ _
      rw [if_pos rfl, Nat.sub_add_cancel (by omega)]
      exact .block false plain
  | false => exact .line (Nat.lt_succ_self i) (Nat.succ_le_succ line) plain

theorem skipBlock_moves (plain : toks.turns i = false) :
    Move toks i m.loops (((skipBlock toks i).run m).1 + 1) ((skipBlock toks i).run m).2.loops := by
  change Move toks i m.loops (toks.skipBlock i (toks.peek i).column + 1) m.loops
  rw [TokenStream.skipBlock_succ]
  exact .block true plain

/-! ## Every statement -/

/-- No word of the control flow begins a verb. -/
theorem dispatch_jumps (jumps : (toks.kindAt i).jumps = true) :
    dispatch idle toks i = direct toks i := by
  unfold Kind.jumps at jumps
  split at jumps
  case h_12 => cases jumps
  all_goals
    rename_i head
    unfold TokenStream.kindAt at head
    unfold dispatch
    rw [head]
    rfl

/-- The words of the control flow run no other tokens. -/
theorem nested?_jumps (jumps : (toks.kindAt i).jumps = true) : nested? toks i m = none := by
  unfold nested?
  split
  case h_5 => rfl
  all_goals
    rename_i head
    rw [TokenStream.kindAt, head] at jumps
    cases jumps

/-- Where the options of a header begin. -/
def optionsAt (toks : TokenStream) (i : Nat) : Nat :=
  if toks.kindAt i == .word .start then i + 2 else i + 1

theorem jumps_of_opensLoop (header : toks.opensLoop i = true) : (toks.kindAt i).jumps = true := by
  rcases Bool.or_eq_true _ _ |>.mp header with long | short
  · rw [eq_of_beq (Bool.and_eq_true _ _ |>.mp long).1]
    rfl
  · rw [eq_of_beq short]
    rfl

theorem dispatch_header (header : toks.opensLoop i = true) :
    dispatch idle toks i = openLoop toks i (optionsAt toks i) := by
  rw [dispatch_jumps (jumps_of_opensLoop header)]
  unfold direct optionsAt
  rcases Bool.or_eq_true _ _ |>.mp header with long | short
  · rcases Bool.and_eq_true _ _ |>.mp long with ⟨head, loop⟩
    rw [head, if_pos rfl]
    rw [TokenStream.kindAt, beq_iff_eq] at head
    rw [head]
    dsimp only
    unfold start
    dsimp only
    rw [Token.isWord, show ((toks.peek (i + 1)).kind == .word .loop) = true from loop, if_pos rfl]
  · rw [eq_of_beq short]
    rw [TokenStream.kindAt, beq_iff_eq] at short
    rw [short]
    rfl

/-- A word of the control flow moves a walk, or stops it. -/
theorem jumps_moves (jumps : (toks.kindAt i).jumps = true)
    (starts : toks.kindAt i = .word .start → toks.opensLoop i = true) :
    ((dispatch idle toks i).run m).2.isStopped = true ∨
      Move toks i m.loops (((dispatch idle toks i).run m).1 + 1)
        ((dispatch idle toks i).run m).2.loops := by
  by_cases header : toks.opensLoop i = true
  · rw [dispatch_header header]
    exact .inr (openLoop_moves header _)
  rw [dispatch_jumps jumps]
  unfold Kind.jumps at jumps
  unfold direct
  split at jumps
  case h_12 => cases jumps
  case h_3 head => exact absurd (starts head) header
  case h_4 head =>
    exact absurd (by rw [TokenStream.opensLoop, head, beq_self_eq_true, Bool.or_true]) header
  all_goals
    rename_i head
    unfold TokenStream.kindAt at head
    rw [head]
    dsimp only
  · exact .inr (branch_moves head)
  · exact .inr (alternative_moves head)
  · exact keep_moves (beq_iff_eq.mpr head)
  · exact stop_moves head
  · refine leaveLoop_moves (Nat.le_refl i) fun k behind below => ?_
    cases Nat.le_antisymm behind (Nat.le_of_lt_succ below)
    exact Inset.turns_of_kind head rfl
  · exact .inr (skipBlock_moves (Inset.turns_of_kind head rfl))
  · exact .inr (skipBlock_moves (Inset.turns_of_kind head rfl))
  · exact .inr (skipBlock_moves (Inset.turns_of_kind head rfl))
  · have plain : toks.turns i = false := Inset.turns_of_kind head rfl
    by_cases drawn : ((toks.peek (i + 1)).isWord .blueprint || (toks.peek (i + 1)).isWord .style) = true
    · rw [if_pos drawn]
      exact .inr (skipBlock_moves plain)
    · rw [if_neg drawn]
      exact .inr (.line (Nat.lt_succ_self i) (Nat.succ_le_succ (TokenStream.le_lineEnd i)) plain)

theorem giveBack_loops : ((giveBack toks i).run m).2.loops = m.loops := by
  unfold giveBack
  dsimp only
  split
  · rfl
  · rw [Act.run_bind, Act.run_bind, Act.run_get]
    have read := ((Operand.assigned_routine toks (i + 1)).steady m).loops
    dsimp only
    split <;> exact read

/-- A statement that runs no other tokens and begins with no word of the control flow leaves the open
loops alone. -/
theorem dispatch_keepsLoops (other : (toks.kindAt i).jumps = false) (alone : nested? toks i m = none) :
    ((dispatch idle toks i).run m).2.loops = m.loops := by
  unfold TokenStream.kindAt at other
  unfold dispatch
  split
  · rename_i head
    exact (runWord_idles toks i head alone).loops
  · rename_i head
    simp only [nested?, head] at alone
    exact (inline_idles toks i alone).loops
  · rename_i head
    simp only [nested?, head] at alone
    exact (use_idles toks i alone).loops
  · split
    · rename_i verb found
      exact (Verb.lookup_steady (fun _ => .pure ()) found toks i m).loops
    · unfold direct
      split
      case h_1 => exact giveBack_loops
      case h_9 => exact ((step_routine toks i).steady m).loops
      case h_10 | h_11 | h_12 => exact ((assignWord_routine toks i).steady m).loops
      case h_17 => rfl
      case h_18 => exact ((plain_routine toks i).steady m).loops
      all_goals
        rename_i head
        rw [head] at other
        cases other

/-- A word that does not jump neither opens nor closes a loop. -/
theorem turns_of_not_jumps (other : (toks.kindAt i).jumps = false) : toks.turns i = false := by
  have apart (word : Keyword) (jumps : (Kind.word word).jumps = true) :
      (toks.kindAt i == .word word) = false := by
    refine beq_eq_false_iff_ne.mpr fun same => ?_
    rw [same, jumps] at other
    cases other
  have keeps : (toks.peek i).isWord .keep = false := apart _ rfl
  rw [TokenStream.turns, TokenStream.opensLoop, keeps, apart .start rfl,
    apart .startLoop rfl]
  rfl

end Statement

open Statement

/-- A stride over a tidy statement moves the walk, or stops it. -/
theorem Stride.moves {toks : TokenStream} {i j : Nat} {m after : Machine}
    (stride : Stride toks (i, m) (j, after)) (tidy : Tidy toks (i, m) (j, after))
    (starts : toks.kindAt i = .word .start → toks.opensLoop i = true) :
    after.isStopped = true ∨ Move toks i m.loops j after.loops := by
  have onward (other : (toks.kindAt i).jumps = false) (ahead : i < j)
      (loops : after.loops = m.loops) : Move toks i m.loops j after.loops := by
    rw [loops]
    refine .onward ahead fun k behind below => ?_
    rcases Nat.eq_or_lt_of_le behind with rfl | further
    · exact turns_of_not_jumps other
    · exact tidy.words other k further below
  have forward (other : (toks.kindAt i).jumps = false) : (toks.peek i).kind ≠ .word .keep := by
    intro keeps
    unfold TokenStream.kindAt at other
    rw [keeps] at other
    cases other
  cases stride with
  | @alone _ _ ready arrived alone =>
      have same := Config.ready_loops arrived
      cases other : (toks.kindAt i).jumps with
      | true => exact same ▸ jumps_moves other starts
      | false =>
          have ahead := dispatch_forward toks i idle (forward other) ready
          exact .inr (onward other (Nat.lt_succ_of_le ahead)
            ((dispatch_keepsLoops other alone).trans same))
  | @nested _ steps _ ready nested arrived runs enough =>
      have same := Config.ready_loops arrived
      have other : (toks.kindAt i).jumps = false := Bool.eq_false_iff.mpr fun jumps => by
        rw [nested?_jumps jumps] at runs
        cases runs
      refine .inr (onward other (Nat.lt_succ_of_le (complete_forward toks i runs _)) ?_)
      rcases (nested?_nests runs).complete_loops with ⟨-, -, restores⟩ | ⟨source, -⟩
      · exact (restores _).trans same
      · exact tidy.sources ready nested arrived runs source

/-- Whether a walk whose statements run no other tokens ends within some strides, all of them tidy. -/
def tidyFor (toks : TokenStream) : Nat → Spot → Bool
  | 0, _ => false
  | strides + 1, (i, m) =>
    match m.arrive toks i with
    | .ends _ => true
    | .ready ready =>
      let (last, after) := (dispatch idle toks i).run ready
      (nested? toks i ready).isNone &&
        ((toks.kindAt i).jumps || (List.range last).all fun k => toks.turns (k + 1) → k < i) &&
          tidyFor toks strides (last + 1, after)

theorem tidy_of_tidyFor {toks : TokenStream} {strides : Nat} {spot from_ to_ : Spot}
    (checked : tidyFor toks strides spot = true) (reached : Strides toks spot from_)
    (stride : Stride toks from_ to_) : Tidy toks from_ to_ := by
  induction strides generalizing spot with
  | zero => cases checked
  | succ strides ih =>
      rcases spot with ⟨i, m⟩
      unfold tidyFor at checked
      cases arrived : m.arrive toks i with
      | ends out =>
          rcases reached.cases_head with rfl | ⟨next, first, -⟩
          · rcases stride.ready with ⟨ready, begins⟩
            cases arrived.symm.trans begins
          · rcases first.ready with ⟨ready, begins⟩
            cases arrived.symm.trans begins
      | ready ready =>
          rw [arrived] at checked
          dsimp only at checked
          rcases run : (dispatch idle toks i).run ready with ⟨last, after⟩
          rw [run] at checked
          dsimp only at checked
          rw [Bool.and_eq_true, Bool.and_eq_true, Option.isNone_iff_eq_none] at checked
          rcases checked with ⟨⟨alone, words⟩, further⟩
          have own := Stride.alone arrived alone
          rw [run] at own
          rcases reached.cases_head with rfl | ⟨next, first, rest⟩
          · cases stride.unique own
            refine ⟨fun other k behind below => ?_, fun begun nested arrives runs => ?_⟩
            · rw [other, Bool.false_or, List.all_eq_true] at words
              have checked := words (k - 1) (List.mem_range.mpr (by dsimp only at behind below; omega))
              dsimp only at behind
              rw [Nat.sub_add_cancel (by omega), decide_eq_true_eq] at checked
              refine Bool.eq_false_iff.mpr fun turning => ?_
              have above := checked turning
              omega
            · cases arrived.symm.trans arrives
              cases alone.symm.trans runs
          · cases first.unique own
            exact ih further rest

end BigScript
