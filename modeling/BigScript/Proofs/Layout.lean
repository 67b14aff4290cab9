import BigScript.Statement.Control

/-!
# Lines and blocks

Blocks have no brackets: a block is a run of whole lines that begin right of its header.  `Lines`
says so of a range of indices, and the lemmas here say that the scans over the tokens of a block end
where the block ends.
-/

namespace BigScript

theorem Token.isSymbol_of_finish {t : Token} (finished : t.isFinish = true) (symbol : Symbol) :
    t.isSymbol symbol = false := by
  have kind : t.kind = .finish := eq_of_beq finished
  rw [isSymbol, kind]
  rfl

/-- A text token holds its content. -/
theorem Token.lexeme_of_text {t : Token} (text : t.kind = .text) : t.lexeme = .text t.content := by
  rcases t with ⟨lexeme, line, column, span⟩
  cases lexeme with
  | text => rfl
  | number | name | rate | foreign | mark | symbol | word | finish => cases text

theorem Token.lexeme_of_name {t : Token} (named : t.kind = .name) : t.lexeme = .name t.content := by
  rcases t with ⟨lexeme, line, column, span⟩
  cases lexeme with
  | name => rfl
  | text | number | rate | foreign | mark | symbol | word | finish => cases named

theorem Token.lexeme_of_word {t : Token} {word : Keyword} (named : t.kind = .word word) :
    t.lexeme = .word word := by
  rcases t with ⟨lexeme, line, column, span⟩
  cases lexeme with
  | word => cases named; rfl
  | text | number | name | rate | foreign | mark | symbol | finish => cases named

namespace TokenStream

variable {toks : TokenStream} {i last : Nat}

theorem peek_of_lt (inside : i < toks.size) : toks.peek i = toks[i] := by
  simp [peek, Array.getD, inside]

theorem peek_of_le (outside : toks.size ≤ i) : toks.peek i = Token.absent :=
  dif_neg (Nat.not_lt.mpr outside)

theorem drop_of_lt (inside : i < toks.size) :
    toks.toList.drop i = toks.peek i :: toks.toList.drop (i + 1) := by
  rw [List.drop_eq_getElem_cons (by rwa [Array.length_toList]), peek_of_lt inside]
  rfl

theorem drop_of_le (outside : toks.size ≤ i) : toks.toList.drop i = [] :=
  List.drop_eq_nil_of_le (by rwa [Array.length_toList])

theorem slice_eq (toks : TokenStream) (first stop : Nat) :
    toks.slice first stop = (toks.toList.drop first).take (stop - first) := by
  unfold slice
  rw [Array.toList_extract, List.extract_eq_take_drop]

theorem slice_self (toks : TokenStream) (i : Nat) : toks.slice i i = [] := by
  rw [slice_eq, Nat.sub_self, List.take_zero]

theorem lt_of_not_finish (unfinished : (toks.peek i).isFinish = false) : i < toks.size := by
  rcases Nat.lt_or_ge i toks.size with inside | outside
  · exact inside
  · rw [peek_of_le outside] at unfinished
    cases unfinished

/-- A line ends at the end of the script or where another line begins. -/
theorem lineRun_stop (line i : Nat) :
    (toks.peek (i + toks.lineRun line i)).isFinish = true ∨
      (toks.peek (i + toks.lineRun line i)).line ≠ line := by
  unfold lineRun
  split
  case isTrue inside =>
    rw [← peek_of_lt inside]
    split
    case isTrue ends =>
      rwa [Bool.or_eq_true, bne_iff_ne] at ends
    case isFalse =>
      have further := lineRun_stop line (i + 1)
      rwa [Nat.add_right_comm, Nat.add_assoc] at further
  case isFalse outside =>
    rw [Nat.add_zero, peek_of_le (Nat.le_of_not_lt outside)]
    exact .inl rfl
termination_by toks.size - i

theorem lineEnd_stop (i : Nat) :
    (toks.peek (toks.lineEnd i + 1)).isFinish = true ∨
      (toks.peek (toks.lineEnd i + 1)).line ≠ (toks.peek i).line := by
  have stop := toks.lineRun_stop (toks.peek i).line (i + 1)
  rwa [Nat.add_right_comm] at stop

/-- The tokens of a line that is counted from an index on. -/
theorem lineRun_within (line i : Nat) :
    ∀ k, k < toks.lineRun line i →
      (toks.peek (i + k)).isFinish = false ∧ (toks.peek (i + k)).line = line := by
  intro k below
  unfold lineRun at below
  split at below
  case isFalse => cases below
  case isTrue inside =>
    rw [← peek_of_lt inside] at below
    split at below
    case isTrue => cases below
    case isFalse going =>
      rw [Bool.not_eq_true, Bool.or_eq_false_iff, bne_eq_false_iff_eq] at going
      cases k with
      | zero => exact going
      | succ k =>
          have further := lineRun_within line (i + 1) k (Nat.lt_of_succ_lt_succ below)
          rwa [Nat.add_right_comm, Nat.add_assoc] at further
termination_by toks.size - i

section Within

variable {k : Nat} (behind : i ≤ k) (within : k ≤ toks.lineEnd i)
include behind within

theorem lineRun_of_le_lineEnd (other : k ≠ i) :
    (toks.peek k).isFinish = false ∧ (toks.peek k).line = (toks.peek i).line := by
  have inside := toks.lineRun_within (toks.peek i).line (i + 1) (k - (i + 1)) (by
    unfold lineEnd at within
    omega)
  rwa [Nat.add_sub_cancel' (by omega)] at inside

theorem line_of_le_lineEnd : (toks.peek k).line = (toks.peek i).line := by
  by_cases same : k = i
  · rw [same]
  · exact (lineRun_of_le_lineEnd behind within same).2

theorem unfinished_of_le_lineEnd (unfinished : (toks.peek i).isFinish = false) :
    (toks.peek k).isFinish = false := by
  by_cases same : k = i
  · rwa [same]
  · exact (lineRun_of_le_lineEnd behind within same).1

end Within

/-- Whole lines from one index up to another, none of which begins left of a column. -/
inductive Lines (toks : TokenStream) (column : Nat) : Nat → Nat → Prop where
  | nil (i : Nat) : Lines toks column i i
  | cons {i last : Nat} (unfinished : (toks.peek i).isFinish = false)
      (indented : column ≤ (toks.peek i).column)
      (rest : Lines toks column (toks.lineEnd i + 1) last) : Lines toks column i last

namespace Lines

/-- One line. -/
theorem single {column : Nat} (unfinished : (toks.peek i).isFinish = false)
    (indented : column ≤ (toks.peek i).column) (ends : toks.lineEnd i + 1 = last) :
    Lines toks column i last := by
  refine .cons unfinished indented ?_
  rw [ends]
  exact .nil last

theorem mono {column left : Nat} (lines : Lines toks column i last) (less : left ≤ column) :
    Lines toks left i last := by
  induction lines with
  | nil i => exact .nil i
  | cons unfinished indented _ ih => exact .cons unfinished (Nat.le_trans less indented) ih

theorem trans {column middle : Nat} (first : Lines toks column i middle)
    (second : Lines toks column middle last) : Lines toks column i last := by
  induction first with
  | nil => exact second
  | cons unfinished indented _ ih => exact .cons unfinished indented (ih second)

theorem le {column : Nat} (lines : Lines toks column i last) : i ≤ last := by
  induction lines with
  | nil => exact Nat.le_refl _
  | cons _ _ _ ih => exact Nat.le_trans (Nat.le_trans (Nat.le_add_right _ _) (Nat.le_succ _)) ih

end Lines

/-- A scan over a block does not end before the block does. -/
theorem blockEnd_of_lines {base : Nat} (joins : Bool) (lines : Lines toks (base + 1) i last) :
    toks.blockEnd base joins i = toks.blockEnd base joins last := by
  induction lines with
  | nil => rfl
  | @cons i last unfinished indented _ ih =>
      have inside := lt_of_not_finish unfinished
      rw [blockEnd, dif_pos inside, ← peek_of_lt inside, unfinished]
      have right : ¬ (toks.peek i).column ≤ base := Nat.not_le.mpr indented
      simp only [right, decide_false, Bool.false_and, Bool.false_eq_true, if_false]
      exact ih

theorem le_lineEnd (i : Nat) : i ≤ toks.lineEnd i := Nat.le_add_right _ _

theorem le_blockEnd (base : Nat) (joins : Bool) (i : Nat) : i ≤ toks.blockEnd base joins i := by
  unfold blockEnd
  split
  · split
    · exact Nat.le_refl i
    · split
      · exact Nat.le_refl i
      · have further := le_blockEnd base joins (toks.lineEnd i + 1)
        have line : i ≤ toks.lineEnd i := le_lineEnd i
        omega
  · exact Nat.le_refl i
termination_by toks.size - i
decreasing_by
  have line : i ≤ toks.lineEnd i := le_lineEnd i
  omega

/-- A block that is left out ends where the next line begins. -/
theorem skipBlock_succ (toks : TokenStream) (i base : Nat) :
    toks.skipBlock i base + 1 = toks.blockEnd base true (toks.lineEnd i + 1) := by
  have further : toks.lineEnd i + 1 ≤ toks.blockEnd base true (toks.lineEnd i + 1) :=
    le_blockEnd _ _ _
  unfold skipBlock
  omega

/-- Where a block is over: at the end of the script, or at a line that begins no further right than
its header. -/
def Dedents (toks : TokenStream) (base i : Nat) : Prop :=
  (toks.peek i).isFinish = true ∨ (toks.peek i).column ≤ base

/-- A scan over a block ends where the block is over, unless the next line is joined to it. -/
theorem blockEnd_of_dedents {base : Nat} {joins : Bool} (dedents : Dedents toks base i)
    (apart : joins = true → (toks.peek i).isSymbol .ampersand = false) :
    toks.blockEnd base joins i = i := by
  rw [blockEnd]
  by_cases inside : i < toks.size
  · rw [dif_pos inside, ← peek_of_lt inside]
    by_cases finished : (toks.peek i).isFinish
    · rw [if_pos finished]
    · rw [if_neg finished]
      have left := dedents.resolve_left finished
      have single : (joins && (toks.peek i).isSymbol .ampersand) = false := by
        cases joins with
        | false => rfl
        | true => exact apart rfl
      simp only [left, single, decide_true, Bool.not_false, Bool.and_self, if_true]
  · rw [dif_neg inside]

end TokenStream
end BigScript
