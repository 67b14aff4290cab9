import BigScript.Proofs.Layout
import BigScript.Proofs.Nesting

/-!
# Readers do not step back

Every reader answers with the index of the last token that belongs to what it has read.  Where a
bracket is cut off by the end of the script this index is taken back by one, and where nothing can be
read it is the index the reader began at, or the one before.  `Yields` says of an action that its
answer has a property in whatever machine it is carried out.  No reader answers with an index before
the one it was given; only the value of an assignment can answer with the index just before it.
-/

namespace BigScript

/-- Every answer of an action has a property. -/
def Yields {α : Type} (act : Act α) (holds : α → Prop) : Prop := ∀ m : Machine, holds (act.run m).1

namespace Yields

variable {α β : Type} {holds middle other : α → Prop} {after : β → Prop}

theorem pure {value : α} (known : holds value) : Yields (Pure.pure value) holds := fun _ => known

theorem bind {first : Act α} {next : α → Act β} (firstYields : Yields first middle)
    (nextYields : ∀ value, middle value → Yields (next value) after) :
    Yields (first >>= next) after := by
  intro m
  exact nextYields (first.run m).1 (firstYields m) (first.run m).2

/-- Sequencing where the answer of the first action does not matter. -/
theorem andThen {first : Act α} {next : α → Act β} (nextYields : ∀ value, Yields (next value) after) :
    Yields (first >>= next) after := by
  intro m
  exact nextYields (first.run m).1 (first.run m).2

theorem ite {condition : Prop} [Decidable condition] {first second : Act α}
    (firstYields : Yields first holds) (secondYields : Yields second holds) :
    Yields (if condition then first else second) holds := by
  split
  · exact firstYields
  · exact secondYields

theorem mono {act : Act α} (yields : Yields act holds) (wider : ∀ value, holds value → other value) :
    Yields act other := fun m => wider _ (yields m)

end Yields

/-- An action that answers with an index no smaller than the given one. -/
abbrev Forward (i : Nat) (act : Act Nat) : Prop := Yields act (i ≤ ·)

/-- A reader whose last token does not stand before the given index. -/
abbrev ReadsFrom {α : Type} (i : Nat) (act : Act (α × Nat)) : Prop := Yields act (i ≤ ·.2)

/-- A reader that may refuse, and otherwise reads to the given index or further. -/
abbrev OffersFrom {α : Type} (i : Nat) (index : α → Nat) (act : Act (Option α)) : Prop :=
  Yields act (∀ read ∈ ·, i ≤ index read)

namespace TokenStream

variable (toks : TokenStream)

/-- A bracket that is cut off by the end of the script still holds its opening tokens. -/
theorem le_lastOf {i stop : Nat} (opened : i + 1 ≤ stop) : i ≤ toks.lastOf stop := by
  unfold lastOf
  split <;> omega

theorem le_skipBlock (i base : Nat) : i ≤ toks.skipBlock i base := by
  have line : i ≤ toks.lineEnd i := le_lineEnd i
  have block : toks.lineEnd i + 1 ≤ toks.blockEnd base true (toks.lineEnd i + 1) :=
    le_blockEnd base true _
  unfold skipBlock
  omega

/-- What reads as a formula has tokens, so its last index is not before its first. -/
theorem le_formulaLast {i : Nat} (math : Formula.isMath (toks.slice i (toks.formulaEnd i)) = true) :
    i ≤ toks.formulaEnd i - 1 := by
  have run : toks.formulaRun (toks.peek i).line i ≠ 0 := by
    intro none
    have empty : toks.slice i (toks.formulaEnd i) = [] := by
      simp [slice, formulaEnd, none]
    rw [empty] at math
    cases math
  unfold formulaEnd
  omega

end TokenStream

/-! ## Operands -/

namespace Operand

variable (toks : TokenStream) (i : Nat)

theorem warp_forward : ReadsFrom i (warp toks i) := by
  have closed := toks.le_closing .leftParen .rightParen 0 (i + 2)
  exact .andThen fun _ => .pure (toks.le_lastOf (by omega))

theorem solve_forward : ReadsFrom i (solve toks i) := by
  have closed := toks.le_closing .leftBracket .rightBracket 0 (i + 2)
  exact .andThen fun _ => .pure (toks.le_lastOf (by omega))

theorem valueAt_forward : ReadsFrom i (valueAt toks i) := by
  refine .andThen fun m => ?_
  refine .ite ?length (.ite ?reference (.ite ?braces
    (.ite (warp_forward toks i) (.ite ?solved ?single))))
  case length =>
    have name : i + 1 ≤ (toks.bracedName (i + 1)).2 := toks.le_bracedName (i + 1)
    exact .pure (Nat.le_of_succ_le name)
  case reference => exact .pure (Nat.le_succ i)
  case braces => exact .pure (toks.le_bracedName i)
  case solved => exact (solve_forward toks i).bind fun read further => .pure further
  case single => split <;> exact .pure (Nat.le_refl i)

theorem value_forward : ReadsFrom i (value toks i) :=
  (valueAt_forward toks (toks.skipAts i)).mono fun _ further =>
    Nat.le_trans (toks.le_skipAts i) further

theorem text_forward : ReadsFrom i (text toks i) :=
  (value_forward toks i).bind fun _ further => .andThen fun _ => .pure further

/-- The value of an assignment may be missing altogether: then the last token is the one before. -/
theorem assigned_forward : Yields (assigned toks i) fun read => i ≤ read.2 + 1 := by
  have further {act : Act (String × Nat)} (reads : ReadsFrom i act) :
      Yields act fun read => i ≤ read.2 + 1 :=
    reads.mono fun _ ahead => Nat.le_succ_of_le ahead
  refine .ite (further (warp_forward toks i)) (.ite ?solved (?row : Yields (ite _ _ _) _))
  case solved =>
    exact (solve_forward toks i).bind fun read ahead => .pure (Nat.le_succ_of_le ahead)
  case row =>
    split
    · rename_i math
      have last := toks.le_formulaLast math
      exact .andThen fun _ => .pure (by omega)
    · refine .ite (.pure ?_) (further (value_forward toks i))
      omega

theorem measure_forward : ReadsFrom i (measure toks i) := by
  unfold measure
  dsimp only
  generalize measureRun (toks.peek i).line none (toks.slice i toks.size) = run
  split
  · exact .pure (Nat.le_refl i)
  · rename_i some
    have length : 0 < run.length := by
      cases run with
      | nil => exact absurd rfl some
      | cons => exact Nat.succ_pos _
    exact .andThen fun _ => .pure (by omega)

end Operand

/-! ## Targets and results -/

namespace Results

variable (toks : TokenStream) (i : Nat)

theorem bindNames_forward (line : Nat) (results : List String) (j : Nat) :
    Forward j (bindNames toks line results j) := by
  unfold bindNames
  split
  · refine .ite ?_ (.pure (Nat.le_refl j))
    have name := toks.le_bracedName j
    refine .andThen fun _ => ?_
    exact (bindNames_forward line (results.drop 1) ((toks.bracedName j).2 + 1)).mono
      fun _ further => by omega
  · exact .pure (Nat.le_refl j)
termination_by toks.size - j

theorem setAs_forward (results : List String) : Forward i (setAs toks i results) := by
  unfold setAs
  dsimp only
  generalize tail : (if (toks.peek (i + 1)).isSymbol .ampersand then i + 2 else i + 1) = j
  have behind : i + 1 ≤ j := by
    rw [← tail]
    split <;> omega
  refine .ite (.ite ?list ?names) (.pure (Nat.le_refl i))
  case list =>
    have name := toks.le_bracedName (j + 3)
    exact .andThen fun _ => .pure (by omega)
  case names =>
    exact (bindNames_forward toks _ results (j + 2)).bind fun last further => .pure (by omega)

theorem targetName?_forward : OffersFrom i Prod.snd (targetName? toks i) := by
  refine .ite (.andThen fun right => .ite (.pure ?_) (.pure nofun)) (.pure nofun)
  intro read found
  cases found
  have name := toks.le_bracedName (i + 1)
  omega

theorem targetValue?_forward : OffersFrom i Prod.snd (targetValue? toks i) := by
  refine .ite (.andThen fun right => .ite ?_ (.pure nofun)) (.pure nofun)
  refine (Operand.text_forward toks (i + 1)).bind fun target further => .pure ?_
  intro read found
  cases found
  omega

end Results

namespace Statement

theorem abandon_forward (toks : TokenStream) (i : Nat) : Forward i (abandon toks i) :=
  .pure (TokenStream.le_lineEnd i)

/-- A statement whose results are handed to a tail behind `last`. -/
theorem finish_forward (toks : TokenStream) {i last : Nat} (further : i ≤ last)
    (results : List String) : Forward i (finish toks last results) :=
  (Results.setAs_forward toks last results).mono fun _ ahead => Nat.le_trans further ahead

end Statement
end BigScript
