import BigScript.Proofs.Activation
import BigScript.Proofs.Structured.Line

/-!
# Reading along a line

Reading operands, assigning and printing do not look at the loops that are open.  `Mirrors` compares
two actions in two machines that differ in nothing but their open loops: the machines stay that way
and the answers are related.  It is closed under sequencing and choice, so that it can be followed
along the readers of a statement; the relation between the answers says how far apart the two
statements stand.

The operands of a line are given in full if no reader has to look at the next line for them.  Then
every reader does the same in a script as on the line alone, as many tokens further on as the line
stands in the script, and it does not leave the line.
-/

namespace BigScript

namespace Machine

/-- The machine with other loops open. -/
def withLoops (loops : List LoopFrame) (m : Machine) : Machine := { m with loops }

variable (loops : List LoopFrame) (m : Machine)

@[simp] theorem withLoops_isStopped : (m.withLoops loops).isStopped = m.isStopped := rfl

@[simp] theorem withLoops_cancellation? :
    (m.withLoops loops).cancellation? = m.cancellation? := rfl

@[simp] theorem withLoops_bug : (m.withLoops loops).bug = m.bug := rfl

theorem watch_withLoops (name value : String) :
    (m.withLoops loops).watch name value = (m.watch name value).withLoops loops := by
  unfold watch
  by_cases debugging : m.isDebugging
  · rw [if_pos debugging]
    have same : (m.withLoops loops).isDebugging = true := debugging
    rw [if_pos same]
    have change : (m.withLoops loops).change? name value = m.change? name value := rfl
    rw [change]
    cases m.change? name value <;> rfl
  · rw [if_neg debugging]
    have same : ¬ (m.withLoops loops).isDebugging = true := debugging
    rw [if_neg same]

theorem assign_withLoops (name value : String) :
    (m.withLoops loops).assign name value = (m.assign name value).withLoops loops := by
  unfold assign
  dsimp only
  rw [watch_withLoops]
  generalize m.watch (storedName name) value = watched
  have locals : (watched.withLoops loops).locals = watched.locals := rfl
  rw [locals]
  cases watched.locals with
  | nil => rfl
  | cons frame rest =>
      dsimp only
      split <;> rfl

theorem trace_withLoops (t : Token) :
    (m.withLoops loops).trace t = (m.trace t).withLoops loops := by
  unfold trace
  by_cases traced : (t.line != m.traced && m.isDebugging) = true
  · rw [if_pos traced]
    exact if_pos traced
  · rw [if_neg traced]
    exact if_neg traced

theorem moveTo_withLoops (t : Token) :
    (m.withLoops loops).moveTo t = (m.moveTo t).withLoops loops := by
  unfold moveTo
  rw [trace_withLoops]
  rfl

theorem stop_withLoops (cause : Cause) :
    (m.withLoops loops).stop cause = (m.stop cause).withLoops loops := by
  unfold stop
  have halt : (m.withLoops loops).halt = m.halt := rfl
  rw [halt]
  cases m.halt <;> rfl

theorem stopOnBug_withLoops : (m.withLoops loops).stopOnBug = m.stopOnBug.withLoops loops :=
  stop_withLoops loops m _

theorem begun_withLoops (t : Token) :
    (m.withLoops loops).begun t = (m.begun t).withLoops loops := by
  unfold begun
  rw [moveTo_withLoops]
  rfl

end Machine

/-- Two actions that do the same to a machine, whatever loops are open under the first of them, and
whose answers are related. -/
def Mirrors (loops : List LoopFrame) {α β : Type} (related : α → β → Prop) (act : Act α)
    (alone : Act β) : Prop :=
  ∀ m : Machine, related (act.run (m.withLoops loops)).1 (alone.run m).1 ∧
    (act.run (m.withLoops loops)).2 = (alone.run m).2.withLoops loops

namespace Mirrors

variable {α β γ δ : Type} {loops : List LoopFrame}
variable {related : α → β → Prop} {after : γ → δ → Prop}

theorem pure {x : α} {y : β} (same : related x y) :
    Mirrors loops related (Pure.pure x) (Pure.pure y) := fun _ => ⟨same, rfl⟩

theorem get : Mirrors loops (fun outer inner => outer = Machine.withLoops loops inner)
    (MonadState.get : Act Machine) (MonadState.get : Act Machine) := fun _ => ⟨rfl, rfl⟩

theorem modify {change : Machine → Machine}
    (same : ∀ m, change (m.withLoops loops) = (change m).withLoops loops) :
    Mirrors loops Eq (modify change : Act Unit) (modify change : Act Unit) := fun m => ⟨rfl, same m⟩

theorem bind {first : Act α} {alone : Act β} {next : α → Act γ} {further : β → Act δ}
    (start : Mirrors loops related first alone)
    (goOn : ∀ x y, related x y → Mirrors loops after (next x) (further y)) :
    Mirrors loops after (first >>= next) (alone >>= further) := by
  intro m
  rcases start m with ⟨answer, state⟩
  rw [Act.run_bind, Act.run_bind, state]
  exact goOn _ _ answer _

/-- Sequencing behind an action that is mirrored by itself. -/
theorem bindSame {first : Act α} {next : α → Act γ} {further : α → Act δ}
    (start : Mirrors loops Eq first first)
    (goOn : ∀ x, Mirrors loops after (next x) (further x)) :
    Mirrors loops after (first >>= next) (first >>= further) :=
  start.bind fun x _ same => same ▸ goOn x

/-- Sequencing behind a look at the machine. -/
theorem getBind {next : Machine → Act γ} {further : Machine → Act δ}
    (goOn : ∀ m : Machine, Mirrors loops after (next (m.withLoops loops)) (further m)) :
    Mirrors loops after (MonadState.get >>= next) (MonadState.get >>= further) :=
  get.bind fun _ m same => same ▸ goOn m

theorem map {act : Act α} {alone : Act β} {change : α → γ} {turn : β → δ}
    (start : Mirrors loops related act alone)
    (same : ∀ x y, related x y → after (change x) (turn y)) :
    Mirrors loops after (change <$> act) (turn <$> alone) := by
  intro m
  rcases start m with ⟨answer, state⟩
  exact ⟨same _ _ answer, state⟩

theorem ite {condition other : Prop} [Decidable condition] [Decidable other]
    {act reject : Act α} {alone refuse : Act β} (same : condition ↔ other)
    (yes : other → Mirrors loops related act alone)
    (no : ¬ other → Mirrors loops related reject refuse) :
    Mirrors loops related (if condition then act else reject)
      (if other then alone else refuse) := by
  by_cases holds : other
  · rw [if_pos holds, if_pos (same.mpr holds)]
    exact yes holds
  · rw [if_neg holds, if_neg fun condition => holds (same.mp condition)]
    exact no holds

theorem mono {act : Act α} {alone : Act β} {weaker : α → β → Prop}
    (mirrors : Mirrors loops related act alone) (imply : ∀ x y, related x y → weaker x y) :
    Mirrors loops weaker act alone := fun m => ⟨imply _ _ (mirrors m).1, (mirrors m).2⟩

/-- What an action that is mirrored by itself does. -/
theorem run_eq {act : Act α} (mirrors : Mirrors loops Eq act act) (m : Machine) :
    act.run (m.withLoops loops) = ((act.run m).1, (act.run m).2.withLoops loops) :=
  Prod.ext (mirrors m).1 (mirrors m).2

end Mirrors

/-! ## Formulas and conditions -/

namespace Formula

variable (loops : List LoopFrame)

theorem reduce_mirrors (row : List Item) : Mirrors loops Eq (reduce row) (reduce row) :=
  have raises : Mirrors loops Eq (modify (Machine.raiseBug "DivisionByZero") : Act Unit) _ :=
    .modify fun _ => rfl
  .ite Iff.rfl (fun _ => raises.bindSame fun _ => .pure rfl) fun _ => .pure rfl

mutual
theorem termValue_mirrors : (term : Term) → Mirrors loops Eq (termValue term) (termValue term)
  | .absent => by unfold termValue; exact .pure rfl
  | .constant _ => by unfold termValue; exact .pure rfl
  | .tick => by unfold termValue; exact .getBind fun _ => .pure rfl
  | .frame => by unfold termValue; exact .getBind fun _ => .pure rfl
  | .length _ => by unfold termValue; exact .getBind fun _ => .pure rfl
  | .token _ => by unfold termValue; exact .getBind fun _ => .pure rfl
  | .group row => by
      unfold termValue
      exact (rowItems_mirrors row).bindSame fun _ => reduce_mirrors loops _
  | .apply _ argument => by
      unfold termValue
      exact (termValue_mirrors argument).bindSame fun _ => .pure rfl
  | .least first second => by
      unfold termValue
      exact (termValue_mirrors first).bindSame fun _ =>
        (termValue_mirrors second).bindSame fun _ => .pure rfl
  | .greatest first second => by
      unfold termValue
      exact (termValue_mirrors first).bindSame fun _ =>
        (termValue_mirrors second).bindSame fun _ => .pure rfl

theorem rowItems_mirrors : (row : List Cell) → Mirrors loops Eq (rowItems row) (rowItems row)
  | [] => by unfold rowItems; exact .pure rfl
  | .operator _ :: rest => by
      unfold rowItems
      exact (rowItems_mirrors rest).bindSame fun _ => .pure rfl
  | .term term :: rest => by
      unfold rowItems
      exact (termValue_mirrors term).bindSame fun _ =>
        (rowItems_mirrors rest).bindSame fun _ => .pure rfl
end

theorem evaluate_mirrors (toks : List Token) : Mirrors loops Eq (evaluate toks) (evaluate toks) :=
  (rowItems_mirrors loops (read toks)).bindSame fun row => reduce_mirrors loops row

end Formula

namespace Condition

variable (loops : List LoopFrame)

theorem joined_withLoops (m : Machine) (toks : List Token) :
    joined (m.withLoops loops) toks = joined m toks := by
  have value (t : Token) : joined.sideValue (m.withLoops loops) t = joined.sideValue m t := rfl
  have lookup (name : String) : (m.withLoops loops).get? name = m.get? name := rfl
  fun_induction joined m toks
  all_goals simp only [joined, *, if_true]
  all_goals rfl

theorem side_mirrors (toks : List Token) : Mirrors loops Eq (side toks) (side toks) :=
  .ite Iff.rfl (fun _ => (Formula.evaluate_mirrors loops toks).bindSame fun _ => .pure rfl)
    fun _ => .getBind fun m => .pure (joined_withLoops loops m toks)

theorem holds_mirrors (toks : List Token) : Mirrors loops Eq (holds toks) (holds toks) := by
  refine .ite Iff.rfl (fun _ => .pure rfl) fun _ => ?_
  refine .ite Iff.rfl (fun _ => .getBind fun _ => .pure rfl) fun _ => ?_
  split
  · exact (side_mirrors loops _).bindSame fun _ =>
      (side_mirrors loops _).bindSame fun _ => .pure rfl
  · exact (Formula.evaluate_mirrors loops toks).bindSame fun _ => .pure rfl

end Condition

/-! ## Lines whose operands are given in full -/

/-- Classes of token behind which an operand is missing if nothing follows them. -/
def Kind.operandOpeners : List Kind :=
  [.symbol .assign, .symbol .dollar, .symbol .leftBrace, .symbol .at, .word .atWord, .word .len]

namespace Line

/-- Nothing is missing behind the last token of a line, where something has to follow the given
classes of token. -/
def Complete (openers : List Kind) (words : Line) : Prop :=
  openers.contains (words.stream.peek (words.length - 1)).kind = false

/-- The operands of a line are given in full: nothing is missing at its end, and the brackets of its
built texts and formulas are closed. -/
structure Full (words : Line) : Prop where
  complete : words.Complete Kind.operandOpeners
  warps : ∀ k < words.length, words.stream.opensWarp k = true →
    words.stream.closing .leftParen .rightParen 0 (k + 2) < words.length
  solves : ∀ k < words.length, words.stream.opensSolve k = true →
    words.stream.closing .leftBracket .rightBracket 0 (k + 2) < words.length

instance (openers : List Kind) (words : Line) : Decidable (words.Complete openers) :=
  inferInstanceAs (Decidable (_ = _))

instance (words : Line) : Decidable words.Full :=
  decidable_of_iff
    (words.Complete Kind.operandOpeners ∧
      (∀ k < words.length, words.stream.opensWarp k = true →
        words.stream.closing .leftParen .rightParen 0 (k + 2) < words.length) ∧
      ∀ k < words.length, words.stream.opensSolve k = true →
        words.stream.closing .leftBracket .rightBracket 0 (k + 2) < words.length)
    ⟨fun ⟨complete, warps, solves⟩ => ⟨complete, warps, solves⟩,
      fun ⟨complete, warps, solves⟩ => ⟨complete, warps, solves⟩⟩

theorem Complete.follows {openers : List Kind} {words : Line} {k : Nat} {kind : Kind}
    (complete : words.Complete openers) (inside : k < words.length)
    (is : ((words.stream.peek k).kind == kind) = true) (opens : openers.contains kind = true) :
    k + 1 < words.length := by
  rcases Nat.lt_or_eq_of_le (Nat.succ_le_of_lt inside) with further | last
  · exact further
  · rw [Complete, ← last, Nat.succ_sub_one, eq_of_beq is, opens] at complete
    cases complete

end Line

/-- The index of a token in a script and its index on the line alone, where the line stands from
index `base` on.  The token is on the line, and not in front of the one at index `k`. -/
structure Beside (base : Nat) (words : Line) (k outer inner : Nat) : Prop where
  shift : outer = base + inner
  low : k ≤ inner
  high : inner < words.length

/-- The answers of one reader in a script and on a line alone: the same value, and the same token at
the end. -/
structure Shifted {α : Type} (base : Nat) (words : Line) (k : Nat) (outer inner : α × Nat) :
    Prop where
  same : outer.1 = inner.1
  beside : Beside base words k outer.2 inner.2

namespace Beside

variable {base : Nat} {words : Line} {k outer inner : Nat}

theorem here (inside : k < words.length) : Beside base words k (base + k) k :=
  ⟨rfl, Nat.le_refl k, inside⟩

theorem after {other : Nat} (beside : Beside base words other outer inner) (further : k ≤ other) :
    Beside base words k outer inner := ⟨beside.shift, Nat.le_trans further beside.low, beside.high⟩

end Beside

theorem Shifted.after {α : Type} {base : Nat} {words : Line} {k other : Nat} {outer inner : α × Nat}
    (shifted : Shifted base words other outer inner) (further : k ≤ other) :
    Shifted base words k outer inner := ⟨shifted.same, shifted.beside.after further⟩

namespace Inset

open Line

variable {toks : TokenStream} {base : Nat} {words : Line} {k : Nat}

theorem bracedName_shifted {openers : List Kind} (inset : Inset toks base words)
    (complete : words.Complete openers) (opens : openers.contains (.symbol .leftBrace) = true)
    (inside : k < words.length) :
    Shifted base words k (toks.bracedName (base + k)) (words.stream.bracedName k) := by
  unfold TokenStream.bracedName
  rw [inset.peek_eq inside]
  by_cases brace : (words.stream.peek k).isSymbol .leftBrace = true
  · rw [if_pos brace, if_pos brace]
    have further := complete.follows inside brace opens
    rw [Nat.add_assoc, Nat.add_assoc, inset.peek_eq further, inset.isSymbol_eq _ further]
    by_cases close : (words.stream.peek (k + 2)).isSymbol .rightBrace = true
    · rw [if_pos close, if_pos close]
      refine ⟨rfl, rfl, Nat.le_add_right _ _, ?_⟩
      rcases Nat.lt_or_ge (k + 2) words.length with within | outside
      · exact within
      · rw [stream_peek_of_le outside] at close
        cases close
    · rw [if_neg close, if_neg close]
      exact ⟨rfl, rfl, Nat.le_succ k, further⟩
  · rw [if_neg brace, if_neg brace]
    exact ⟨rfl, .here inside⟩

theorem opensWarp_eq (inset : Inset toks base words) (inside : k < words.length) :
    toks.opensWarp (base + k) = words.stream.opensWarp k := by
  unfold TokenStream.opensWarp
  rw [inset.peek_eq inside, Nat.add_assoc, inset.isSymbol_eq _ (Nat.succ_le_of_lt inside)]

theorem opensSolve_eq (inset : Inset toks base words) (inside : k < words.length) :
    toks.opensSolve (base + k) = words.stream.opensSolve k := by
  unfold TokenStream.opensSolve
  rw [inset.peek_eq inside, Nat.add_assoc, inset.isSymbol_eq _ (Nat.succ_le_of_lt inside)]

theorem isAssignment_eq (inset : Inset toks base words) (inside : k < words.length) :
    toks.isAssignment (base + k) = words.stream.isAssignment k := by
  unfold TokenStream.isAssignment
  have plain := inset.joins_eq .assign inside (k + 1)
  have field := inset.joins_eq .assign inside (k + 3)
  rw [inset.peek_eq inside] at plain field
  dsimp only
  rw [Nat.add_assoc, Nat.add_assoc, inset.peek_eq inside, Bool.and_assoc, Bool.and_assoc, plain,
    field, inset.isSymbol_eq .dot (Nat.succ_le_of_lt inside)]

end Inset

theorem TokenStream.lastOf_of_unfinished {toks : TokenStream} {stop : Nat}
    (unfinished : (toks.peek stop).isFinish = false) : toks.lastOf stop = stop := by
  rw [lastOf, unfinished]
  rfl

/-! ## Operands -/

namespace Operand

open Line Inset

variable {toks : TokenStream} {base : Nat} {words : Line} {k : Nat} {loops : List LoopFrame}

theorem warp_mirrors (inset : Inset toks base words)
    (closed : words.stream.closing .leftParen .rightParen 0 (k + 2) < words.length) :
    Mirrors loops (Shifted base words k) (warp toks (base + k)) (warp words.stream k) := by
  unfold warp
  dsimp only
  have behind := words.stream.le_closing .leftParen .rightParen 0 (k + 2)
  rw [Nat.add_assoc, inset.closing_eq closed, inset.slice_eq _ (Nat.le_of_lt closed),
    TokenStream.lastOf_of_unfinished (inset.unfinished_at closed),
    TokenStream.lastOf_of_unfinished
      (by rw [inset.peek_eq closed]; exact inset.unfinished_at closed)]
  exact .getBind fun m => .pure ⟨rfl, rfl, by omega, closed⟩

theorem solve_mirrors (inset : Inset toks base words)
    (closed : words.stream.closing .leftBracket .rightBracket 0 (k + 2) < words.length) :
    Mirrors loops (Shifted base words k) (solve toks (base + k)) (solve words.stream k) := by
  unfold solve
  dsimp only
  have behind := words.stream.le_closing .leftBracket .rightBracket 0 (k + 2)
  rw [Nat.add_assoc, inset.closing_eq closed, inset.slice_eq _ (Nat.le_of_lt closed),
    TokenStream.lastOf_of_unfinished (inset.unfinished_at closed),
    TokenStream.lastOf_of_unfinished
      (by rw [inset.peek_eq closed]; exact inset.unfinished_at closed)]
  exact (Formula.evaluate_mirrors loops _).bindSame fun _ => .pure ⟨rfl, rfl, by omega, closed⟩

theorem solved_mirrors (inset : Inset toks base words)
    (closed : words.stream.closing .leftBracket .rightBracket 0 (k + 2) < words.length) :
    Mirrors loops (Shifted base words k)
      (do let (x, last) ← solve toks (base + k); return (Number.format x, last))
      (do let (x, last) ← solve words.stream k; return (Number.format x, last)) :=
  (solve_mirrors inset closed).bind fun _ _ shifted =>
    .pure ⟨congrArg Number.format shifted.same, shifted.beside⟩

theorem valueAt_mirrors (inset : Inset toks base words) (full : words.Full)
    (inside : k < words.length) :
    Mirrors loops (Shifted base words k) (valueAt toks (base + k)) (valueAt words.stream k) := by
  have next := Nat.succ_le_of_lt inside
  unfold valueAt
  rw [inset.peek_eq inside, inset.opensWarp_eq inside, inset.opensSolve_eq inside, Nat.add_assoc,
    Nat.add_assoc]
  refine .getBind fun m => ?_
  refine .ite Iff.rfl (fun length => ?_) fun _ => ?_
  · have further := full.complete.follows inside length rfl
    have name := inset.bracedName_shifted full.complete rfl further
    exact .pure ⟨congrArg (fun name => Number.digitText (m.valueLength name)) name.same,
      name.beside.after (Nat.le_succ k)⟩
  have dollar : (((words.stream.peek k).isSymbol .dollar &&
        (toks.peek (base + (k + 1))).kind == .name) = true) ↔
      (((words.stream.peek k).isSymbol .dollar &&
        (words.stream.peek (k + 1)).kind == .name) = true) := by
    cases is : (words.stream.peek k).isSymbol .dollar with
    | false => exact Iff.rfl
    | true => rw [inset.peek_eq (full.complete.follows inside is rfl)]
  refine .ite dollar (fun is => ?_) fun _ => ?_
  · rw [Bool.and_eq_true] at is
    have further := full.complete.follows inside is.1 rfl
    rw [inset.peek_eq further]
    exact .pure ⟨rfl, rfl, Nat.le_succ k, further⟩
  have braces : (((words.stream.peek k).isSymbol .leftBrace &&
        (toks.peek (base + (k + 2))).isSymbol .rightBrace) = true) ↔
      (((words.stream.peek k).isSymbol .leftBrace &&
        (words.stream.peek (k + 2)).isSymbol .rightBrace) = true) := by
    cases is : (words.stream.peek k).isSymbol .leftBrace with
    | false => exact Iff.rfl
    | true =>
      have further := full.complete.follows inside is rfl
      rw [inset.isSymbol_eq _ (Nat.succ_le_of_lt further)]
  refine .ite braces (fun _ => ?_) fun _ => ?_
  · have name := inset.bracedName_shifted full.complete rfl inside
    exact .pure ⟨congrArg (fun name => m.getD name name) name.same, name.beside⟩
  refine .ite Iff.rfl (fun warps => ?_) fun _ => ?_
  · exact warp_mirrors inset (full.warps k inside warps)
  refine .ite Iff.rfl (fun solves => ?_) fun _ => ?_
  · exact solved_mirrors inset (full.solves k inside solves)
  split
  · exact .pure ⟨rfl, .here inside⟩
  · exact .pure ⟨rfl, .here inside⟩

/-- Signs for a target are followed by their target on the line. -/
theorem skipAts_beside (inset : Inset toks base words) (full : words.Full) {k : Nat}
    (inside : k < words.length) :
    Beside base words k (toks.skipAts (base + k)) (words.stream.skipAts k) := by
  have fits := inset.fits
  have size := stream_size words
  have here := inset.peek_eq inside
  rw [TokenStream.peek_of_lt (by omega), TokenStream.peek_of_lt (by omega)] at here
  rw [TokenStream.skipAts.eq_def toks, dif_pos (by omega), here,
    TokenStream.skipAts.eq_def words.stream, dif_pos (by omega),
    ← TokenStream.peek_of_lt (by omega)]
  split
  case isTrue sign =>
    have further : k + 1 < words.length := by
      rw [Bool.or_eq_true] at sign
      rcases sign with symbol | word
      · exact full.complete.follows inside symbol rfl
      · exact full.complete.follows inside word rfl
    exact (skipAts_beside inset full further).after (Nat.le_succ k)
  case isFalse => exact .here inside
termination_by words.length - k

theorem value_mirrors (inset : Inset toks base words) (full : words.Full)
    (inside : k < words.length) :
    Mirrors loops (Shifted base words k) (value toks (base + k)) (value words.stream k) := by
  have skipped := skipAts_beside inset full inside
  unfold value
  rw [skipped.shift]
  exact (valueAt_mirrors inset full skipped.high).mono fun _ _ shifted => shifted.after skipped.low

theorem assigned_mirrors (inset : Inset toks base words) (full : words.Full)
    (inside : k < words.length) :
    Mirrors loops (Shifted base words k) (assigned toks (base + k)) (assigned words.stream k) := by
  have stop := inset.formulaEnd_eq inside
  unfold assigned
  dsimp only
  rw [inset.opensWarp_eq inside, inset.opensSolve_eq inside, inset.peek_eq inside,
    inset.unfinished_at inside, stop.1, inset.slice_eq _ stop.2]
  refine .ite Iff.rfl (fun warps => warp_mirrors inset (full.warps k inside warps)) fun _ => ?_
  refine .ite Iff.rfl (fun solves => solved_mirrors inset (full.solves k inside solves)) fun _ => ?_
  refine .ite Iff.rfl (fun computes => ?_) fun _ => value_mirrors inset full inside
  -- An empty formula has nothing to compute.
  have some : k < words.stream.formulaEnd k := by
    refine Nat.lt_of_not_le fun none => ?_
    have empty : words.stream.slice k (words.stream.formulaEnd k) = [] := by
      unfold TokenStream.slice
      rw [Array.extract_empty_of_stop_le_start none]
    rw [empty] at computes
    cases computes
  have high := stop.2
  exact (Formula.evaluate_mirrors loops _).bindSame fun _ =>
    .pure ⟨rfl, Nat.add_sub_assoc (Nat.one_le_of_lt some) base, by omega, by omega⟩

end Operand
end BigScript
