import BigScript.Machine.Condition

/-!
# Formulas and places

Where the tokens of a formula stand does not matter to what it computes: the readers of rows look at
the lexemes of their tokens and at nothing else.  The same row of lexemes can therefore be compared in
two streams, although its tokens stand in other columns there.
-/

namespace BigScript

/-- A token that says something and stands nowhere. -/
def Lexeme.alone (lexeme : Lexeme) : Token := { lexeme, line := 0, column := 0 }

namespace Token

/-- A token taken out of its place. -/
def unplaced (t : Token) : Token := t.lexeme.alone

variable (t : Token)

@[simp] theorem unplaced_kind : t.unplaced.kind = t.kind := rfl

@[simp] theorem unplaced_rawName : t.unplaced.rawName = t.rawName := rfl

@[simp] theorem unplaced_isSymbol (symbol : Symbol) :
    t.unplaced.isSymbol symbol = t.isSymbol symbol := rfl

@[simp] theorem unplaced_isName (word : String) : t.unplaced.isName word = t.isName word := rfl

end Token

theorem map_unplaced (toks : List Token) :
    toks.map Token.unplaced = (toks.map Token.lexeme).map Lexeme.alone := by
  rw [List.map_map]
  rfl

namespace Formula

open Token (unplaced)

variable (toks : List Token)

/-! ## Readers -/

theorem splitGroup_unplaced (depth : Nat) :
    splitGroup depth (toks.map unplaced) =
      ((splitGroup depth toks).1.map unplaced, (splitGroup depth toks).2.map unplaced) := by
  fun_induction splitGroup depth toks with
  | case1 => rfl
  | case2 => simp_all [splitGroup]
  | case3 => simp_all [splitGroup]
  | case4 => simp_all [splitGroup]
  | case5 => simp_all [splitGroup]

theorem dropDollars_unplaced :
    dropDollars (toks.map unplaced) = (dropDollars toks).map unplaced := by
  rw [dropDollars, dropDollars, List.dropWhile_map]
  rfl

theorem dropAnd_unplaced : dropAnd (toks.map unplaced) = (dropAnd toks).map unplaced := by
  cases toks with
  | nil => rfl
  | cons t rest =>
      rw [List.map_cons, dropAnd, dropAnd, Token.unplaced_isName]
      split <;> rfl

theorem readName_unplaced :
    readName (toks.map unplaced) = ((readName toks).1, (readName toks).2.map unplaced) := by
  fun_cases readName toks <;> simp_all [readName]

/-! ## Rows -/

/-- Whether rows of some depth are computed wherever their tokens stand, and operands likewise. -/
structure Placeless (steps : Nat) : Prop where
  row : ∀ toks, rowItems (readRow steps (toks.map unplaced)) = rowItems (readRow steps toks)
  operand : ∀ toks, termValue (readOperand steps (toks.map unplaced)).1 =
    termValue (readOperand steps toks).1
  left : ∀ toks, (readOperand steps (toks.map unplaced)).2 = (readOperand steps toks).2.map unplaced

theorem operand_placeless {steps : Nat} (rows : Placeless steps) (toks : List Token) :
    termValue (readOperand (steps + 1) (toks.map unplaced)).1 =
        termValue (readOperand (steps + 1) toks).1 ∧
      (readOperand (steps + 1) (toks.map unplaced)).2 =
        (readOperand (steps + 1) toks).2.map unplaced := by
  rw [readOperand, readOperand, dropDollars_unplaced]
  cases dropDollars toks with
  | nil => exact ⟨rfl, rfl⟩
  | cons t rest =>
      rw [List.map_cons]
      dsimp only
      rw [Token.unplaced_isSymbol, splitGroup_unplaced]
      split
      · refine ⟨?_, rfl⟩
        dsimp only
        rw [termValue, termValue, rows.row]
      · refine ⟨?_, rfl⟩
        rw [termValue, termValue]
        rfl

theorem row_placeless {steps : Nat} (rows : Placeless steps) (toks : List Token) :
    rowItems (readRow (steps + 1) (toks.map unplaced)) = rowItems (readRow (steps + 1) toks) := by
  cases toks with
  | nil => rfl
  | cons t rest =>
      rw [List.map_cons, readRow, readRow, Token.unplaced_kind]
      cases Operator.ofKind? t.kind with
      | some operator =>
          dsimp only
          rw [rowItems, rowItems, rows.row]
      | none =>
          dsimp only
          cases Function.ofKind? t.kind with
          | some function =>
              dsimp only
              rw [rows.left]
              rw [rowItems, rowItems, rows.row, termValue, termValue, rows.operand]
          | none =>
              dsimp only
              split <;>
                simp only [splitGroup_unplaced, readName_unplaced, dropAnd_unplaced, rowItems,
                  termValue, rows.row, rows.operand, rows.left]
              rfl

theorem placeless (steps : Nat) : Placeless steps := by
  induction steps with
  | zero => exact ⟨fun _ => rfl, fun _ => rfl, fun _ => rfl⟩
  | succ steps ih =>
      exact ⟨row_placeless ih, fun toks => (operand_placeless ih toks).1,
        fun toks => (operand_placeless ih toks).2⟩

theorem evaluate_unplaced : evaluate (toks.map unplaced) = evaluate toks := by
  rw [evaluate, evaluate, read, read, List.length_map, (placeless _).row]

theorem isMath_unplaced : isMath (toks.map unplaced) = isMath toks := by
  rw [isMath, isMath, List.any_map]
  rfl

end Formula

namespace Condition

open Token (unplaced)

theorem joined_unplaced (m : Machine) (toks : List Token) :
    joined m (toks.map unplaced) = joined m toks := by
  have value (t : Token) : joined.sideValue m t.unplaced = joined.sideValue m t := rfl
  fun_induction joined m toks <;> simp_all [joined]

theorem side_unplaced (toks : List Token) : side (toks.map unplaced) = side toks := by
  rw [side, side, Formula.isMath_unplaced, Formula.evaluate_unplaced]
  simp only [joined_unplaced]

end Condition

/-! ## Rows of lexemes -/

section Spelled

variable {toks : List Token} {row : List Lexeme}

/-- A formula computes what its lexemes compute. -/
theorem evaluate_spelled (spelled : toks.map Token.lexeme = row) :
    Formula.evaluate toks = Formula.evaluate (row.map Lexeme.alone) := by
  rw [← spelled, ← map_unplaced, Formula.evaluate_unplaced]

theorem isMath_spelled (spelled : toks.map Token.lexeme = row) :
    Formula.isMath toks = Formula.isMath (row.map Lexeme.alone) := by
  rw [← spelled, ← map_unplaced, Formula.isMath_unplaced]

theorem side_spelled (spelled : toks.map Token.lexeme = row) :
    Condition.side toks = Condition.side (row.map Lexeme.alone) := by
  rw [← spelled, ← map_unplaced, Condition.side_unplaced]

end Spelled
end BigScript
