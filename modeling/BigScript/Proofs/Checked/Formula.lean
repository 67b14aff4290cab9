import BigScript.Proofs.Checked.Arithmetic

/-!
# Checked formulas

A formula is read with indices here: a group is cut out of the tokens and read as a stream of its own,
a function or a pair of arguments moves the index over what it reads, and an index may run past the
end of such a cut, which has no token that marks its end.  The row that is read is the one that
`Formula.readRow` reads off a list.

The same holds of the two passes over a row that look at the item before and the item behind.
-/

namespace BigScript

namespace TokenStream

variable {toks : TokenStream} {j stop : Nat}

theorem slice_cons (order : j < stop) (inside : j < toks.size) :
    toks.slice j stop = toks.peek j :: toks.slice (j + 1) stop := by
  rw [slice_eq, slice_eq, drop_of_lt inside, show stop - j = stop - (j + 1) + 1 by omega,
    List.take_succ_cons]

/-- The tokens from an index to the end. -/
theorem slice_all (toks : TokenStream) (j : Nat) : toks.slice j toks.size = toks.toList.drop j := by
  rw [slice_eq]
  refine List.take_of_length_le (Nat.le_of_eq ?_)
  rw [List.length_drop, Array.length_toList]

end TokenStream

namespace Checked

open Formula

/-! ## Reading -/

/-- The index of the parenthesis that closes the group opened at index `j`, or the number of tokens;
`depth` groups have been opened before. -/
def closingParen (toks : TokenStream) (depth j : Nat) : Nat :=
  if h : j < toks.size then
    if toks[j].isSymbol .leftParen then closingParen toks (depth + 1) (j + 1)
    else if toks[j].isSymbol .rightParen then
      if depth = 1 then j else closingParen toks (depth - 1) (j + 1)
    else closingParen toks depth (j + 1)
  else toks.size
termination_by toks.size - j

/-- The index behind the dollar signs from an index on. -/
def skipDollars (toks : TokenStream) (j : Nat) : Nat :=
  if h : j < toks.size then
    if toks[j].isSymbol .dollar then skipDollars toks (j + 1) else j
  else j
termination_by toks.size - j

/-- Reads the group that opens at an index, with the index of the parenthesis that closes it. -/
def group? (read? : TokenStream → Option (List Cell)) (toks : TokenStream) (j : Nat) :
    Option (List Cell × Nat) := do
  let stop := closingParen toks 0 j
  let inside ← cut? toks (j + 1) stop
  return (← read? inside, stop)

/-- The index behind the word that may stand between two arguments. -/
def behindAnd? (toks : TokenStream) (j : Nat) : Option Nat :=
  if j < toks.size then do
    let t ← toks[j]?
    return if t.isName "and" then j + 1 else j
  else return j

/-- Reads two arguments from an index on, with the index of the last token. -/
def pair? (read? : Nat → Option (Term × Nat)) (toks : TokenStream) (j : Nat) :
    Option (Term × Term × Nat) := do
  let (first, last) ← read? j
  let next ← behindAnd? toks (last + 1)
  let (second, last) ← read? next
  return (first, second, last)

mutual
/-- Reads the argument of a function from an index on, with the index of its last token.  The first
argument bounds the depth of reading; reading that uses it up fails. -/
def operand? (steps : Nat) (toks : TokenStream) (j : Nat) : Option (Term × Nat) :=
  match steps with
  | 0 => none
  | steps + 1 => do
    let first := skipDollars toks j
    if first < toks.size then
      let t ← toks[first]?
      if t.isSymbol .leftParen then
        let (group, last) ← group? (row? steps · 0) toks first
        return (.group group, last)
      else return (.token t, first)
    else return (.absent, ← before? toks.size)

/-- Reads a row of values and operators from an index on. -/
def row? (steps : Nat) (toks : TokenStream) (j : Nat) : Option (List Cell) :=
  match steps with
  | 0 => none
  | steps + 1 =>
    if j < toks.size then do
      let t ← toks[j]?
      match Operator.ofKind? t.kind with
      | some operator => return .operator operator :: (← row? steps toks (j + 1))
      | none =>
        match Function.ofKind? t.kind with
        | some function =>
          let (argument, last) ← operand? steps toks (j + 1)
          return .term (.apply function argument) :: (← row? steps toks (last + 1))
        | none =>
          match t.kind with
          | .symbol .leftParen =>
            let (group, last) ← group? (row? steps · 0) toks j
            return .term (.group group) :: (← row? steps toks (last + 1))
          | .word .minimum =>
            let (first, second, last) ← pair? (operand? steps toks) toks (j + 1)
            return .term (.least first second) :: (← row? steps toks (last + 1))
          | .word .maximum =>
            let (first, second, last) ← pair? (operand? steps toks) toks (j + 1)
            return .term (.greatest first second) :: (← row? steps toks (last + 1))
          | .word .pi => return .term (.constant 3.141592653589793) :: (← row? steps toks (j + 1))
          | .word .euler => return .term (.constant 2.718281828459045) :: (← row? steps toks (j + 1))
          | .word .bigTick => return .term .tick :: (← row? steps toks (j + 1))
          | .word .bigDelta => return .term .frame :: (← row? steps toks (j + 1))
          | .symbol .dollar => row? steps toks (j + 1)
          | .word .len =>
            let (name, last) := toks.bracedName (j + 1)
            return .term (.length name) :: (← row? steps toks (last + 1))
          | _ => return .term (.token t) :: (← row? steps toks (j + 1))
    else return []
end

section Reads

variable {toks : TokenStream} {steps j : Nat}

theorem le_closingParen (toks : TokenStream) (depth j : Nat) (inside : j ≤ toks.size) :
    j ≤ closingParen toks depth j ∧ closingParen toks depth j ≤ toks.size := by
  fun_induction closingParen toks depth j <;> omega

/-- What is inside a group is what stands before the parenthesis that closes it. -/
theorem splitGroup_drop (toks : TokenStream) (depth j : Nat) (inside : j ≤ toks.size) :
    splitGroup depth (toks.toList.drop j) =
      (toks.slice j (closingParen toks (depth + 1) j),
        toks.toList.drop (closingParen toks (depth + 1) j + 1)) := by
  rcases Nat.lt_or_ge j toks.size with further | outside
  · have ahead (other : Nat) :
        toks.slice j (closingParen toks other (j + 1)) =
          toks.peek j :: toks.slice (j + 1) (closingParen toks other (j + 1)) :=
      TokenStream.slice_cons (le_closingParen toks other (j + 1) further).1 further
    rw [TokenStream.drop_of_lt further, splitGroup]
    unfold closingParen
    rw [dif_pos further, ← TokenStream.peek_of_lt further]
    split
    · rw [splitGroup_drop toks (depth + 1) (j + 1) further, ahead]
    · split
      · by_cases outer : depth = 0
        · rw [if_pos outer, if_pos (by omega), TokenStream.slice_self]
        · rw [if_neg outer, if_neg (by omega), splitGroup_drop toks (depth - 1) (j + 1) further,
            Nat.sub_add_cancel (Nat.pos_of_ne_zero outer), Nat.add_sub_cancel, ahead]
      · rw [splitGroup_drop toks depth (j + 1) further, ahead]
  · obtain rfl : j = toks.size := Nat.le_antisymm inside outside
    unfold closingParen
    rw [dif_neg (Nat.lt_irrefl _), TokenStream.slice_self, TokenStream.drop_of_le outside,
      TokenStream.drop_of_le (Nat.le_succ _)]
    rfl
termination_by toks.size - j

theorem closingParen_of_left (inside : j < toks.size)
    (left : (toks.peek j).isSymbol .leftParen = true) :
    closingParen toks 0 j = closingParen toks 1 (j + 1) := by
  rw [closingParen, dif_pos inside, ← TokenStream.peek_of_lt inside, if_pos left]

/-- A group that opens at an index is cut out without reaching outside. -/
theorem cut?_group (inside : j < toks.size) (left : (toks.peek j).isSymbol .leftParen = true) :
    cut? toks (j + 1) (closingParen toks 0 j) =
      some (toks.extract (j + 1) (closingParen toks 0 j)) := by
  rw [closingParen_of_left inside left]
  have bounds := le_closingParen toks 1 (j + 1) inside
  exact cut?_eq bounds.1 bounds.2

theorem skipDollars_drop (toks : TokenStream) (j : Nat) :
    toks.toList.drop (skipDollars toks j) = dropDollars (toks.toList.drop j) ∧
      j ≤ skipDollars toks j := by
  unfold skipDollars
  split
  · rename_i inside
    rw [← TokenStream.peek_of_lt inside, TokenStream.drop_of_lt inside, dropDollars,
      List.dropWhile_cons]
    split
    · rename_i dollar
      have rest := skipDollars_drop toks (j + 1)
      exact ⟨rest.1, Nat.le_of_succ_le rest.2⟩
    · exact ⟨TokenStream.drop_of_lt inside, Nat.le_refl j⟩
  · rename_i outside
    rw [TokenStream.drop_of_le (Nat.le_of_not_lt outside)]
    exact ⟨rfl, Nat.le_refl j⟩
termination_by toks.size - j

theorem behindAnd?_drop (toks : TokenStream) (j : Nat) :
    ∃ next, behindAnd? toks j = some next ∧ j ≤ next ∧
      toks.toList.drop next = dropAnd (toks.toList.drop j) := by
  unfold behindAnd?
  split
  · rename_i inside
    rw [token_eq inside, TokenStream.drop_of_lt inside]
    refine ⟨_, rfl, ?_, ?_⟩
    · split <;> omega
    · rw [dropAnd]
      by_cases word : (toks.peek j).isName "and" = true
      · rw [if_pos word, if_pos word]
      · rw [if_neg word, if_neg word]
        exact TokenStream.drop_of_lt inside
  · rename_i outside
    refine ⟨j, rfl, Nat.le_refl j, ?_⟩
    rw [TokenStream.drop_of_le (Nat.le_of_not_lt outside)]
    rfl

/-- A variable's name is read off a list as it is read at an index. -/
theorem readName_drop (toks : TokenStream) (j : Nat) :
    readName (toks.toList.drop j) =
      ((toks.bracedName j).1, toks.toList.drop ((toks.bracedName j).2 + 1)) := by
  have open? (symbol : Symbol) : Token.absent.isSymbol symbol = false := by cases symbol <;> rfl
  unfold TokenStream.bracedName
  rcases Nat.lt_or_ge j toks.size with inside | outside
  · rw [TokenStream.drop_of_lt inside]
    cases braced : (toks.peek j).isSymbol .leftBrace with
    | false =>
      cases rest : toks.toList.drop (j + 1) <;>
        simp only [readName, braced, rest, Bool.false_eq_true, if_false]
    | true =>
      rcases Nat.lt_or_ge (j + 1) toks.size with further | last
      · rw [TokenStream.drop_of_lt further]
        rcases Nat.lt_or_ge (j + 2) toks.size with behind | short
        · rw [TokenStream.drop_of_lt behind]
          simp only [readName, braced, if_true]
          split
          · rfl
          · rw [TokenStream.drop_of_lt behind]
        · rw [TokenStream.drop_of_le short, TokenStream.peek_of_le short]
          simp only [readName, braced, open?, if_true, Bool.false_eq_true, if_false]
          rw [TokenStream.drop_of_le short]
      · rw [TokenStream.drop_of_le last, TokenStream.peek_of_le last,
          TokenStream.peek_of_le (Nat.le_succ_of_le last)]
        simp only [readName, braced, open?, if_true, Bool.false_eq_true, if_false]
        rw [TokenStream.drop_of_le (Nat.le_succ_of_le last)]
        rfl
  · rw [TokenStream.drop_of_le outside, TokenStream.peek_of_le outside]
    simp only [readName, open?, Bool.false_eq_true, if_false]
    rw [TokenStream.drop_of_le (Nat.le_succ_of_le outside)]
    rfl

/-- What reading with a bound has to give: enough steps read what is read off the list. -/
def ReadsRows (steps : Nat) : Prop :=
  ∀ (toks : TokenStream) (j : Nat), 2 * (toks.size - j) + 1 ≤ steps →
    row? steps toks j = some (readRow steps (toks.toList.drop j))

/-- The same for the argument of a function, behind which the index does not fall back. -/
def ReadsOperands (steps : Nat) : Prop :=
  ∀ (toks : TokenStream) (j : Nat), 0 < toks.size → 2 * (toks.size - j) + 1 ≤ steps →
    ∃ last, operand? steps toks j = some ((readOperand steps (toks.toList.drop j)).1, last) ∧
      (readOperand steps (toks.toList.drop j)).2 = toks.toList.drop (last + 1) ∧
      (j ≤ last ∨ last + 1 = toks.size)

theorem group_reads (rows : ReadsRows steps) (inside : j < toks.size)
    (left : (toks.peek j).isSymbol .leftParen = true) (enough : 2 * (toks.size - j) ≤ steps) :
    ∃ last, group? (row? steps · 0) toks j =
        some (readRow steps (splitGroup 0 (toks.toList.drop (j + 1))).1, last) ∧
      (splitGroup 0 (toks.toList.drop (j + 1))).2 = toks.toList.drop (last + 1) ∧ j < last := by
  have bounds := le_closingParen toks 1 (j + 1) inside
  have short : (toks.extract (j + 1) (closingParen toks 1 (j + 1))).size ≤ toks.size - (j + 1) := by
    rw [Array.size_extract]
    omega
  have read := rows (toks.extract (j + 1) (closingParen toks 1 (j + 1))) 0 (by omega)
  refine ⟨closingParen toks 1 (j + 1), ?_, ?_, bounds.1⟩
  · unfold group?
    dsimp only
    rw [cut?_group inside left, closingParen_of_left inside left, splitGroup_drop toks 0 _ inside,
      Option.bind_eq_bind, Option.bind_some, read]
    rfl
  · rw [splitGroup_drop toks 0 _ inside]

theorem operand_reads (rows : ReadsRows steps) : ReadsOperands (steps + 1) := by
  intro toks j filled enough
  have skipped := skipDollars_drop toks j
  unfold operand? readOperand
  rw [← skipped.1]
  dsimp only
  by_cases inside : skipDollars toks j < toks.size
  · rw [if_pos inside, token_eq inside, TokenStream.drop_of_lt inside, Option.bind_eq_bind,
      Option.bind_some]
    dsimp only
    by_cases left : (toks.peek (skipDollars toks j)).isSymbol .leftParen = true
    · rcases group_reads rows inside left (by omega) with ⟨last, read, after, further⟩
      rw [if_pos left, if_pos left, read]
      exact ⟨last, rfl, after, .inl (by omega)⟩
    · rw [if_neg left, if_neg left]
      exact ⟨skipDollars toks j, rfl, rfl, .inl skipped.2⟩
  · rw [if_neg inside, TokenStream.drop_of_le (Nat.le_of_not_lt inside), before?_eq filled]
    refine ⟨toks.size - 1, rfl, ?_, .inr (Nat.sub_add_cancel filled)⟩
    rw [Nat.sub_add_cancel filled]
    exact (TokenStream.drop_of_le (Nat.le_refl _)).symm

theorem pair_reads (operands : ReadsOperands steps) (filled : 0 < toks.size) (inside : j ≤ toks.size)
    (enough : 2 * (toks.size - j) + 1 ≤ steps) :
    let first := readOperand steps (toks.toList.drop j)
    let second := readOperand steps (dropAnd first.2)
    ∃ last, pair? (operand? steps toks) toks j = some (first.1, second.1, last) ∧
      second.2 = toks.toList.drop (last + 1) ∧ (j ≤ last ∨ last + 1 = toks.size) := by
  rcases operands toks j filled enough with ⟨middle, read, after, further⟩
  rcases behindAnd?_drop toks (middle + 1) with ⟨next, found, ahead, behind⟩
  rcases operands toks next filled (by omega) with ⟨last, readNext, rest, later⟩
  dsimp only
  rw [after, ← behind, rest]
  refine ⟨last, ?_, rfl, by omega⟩
  unfold pair?
  simp only [read, found, readNext, Option.bind_eq_bind, Option.bind_some]
  rfl

theorem row_reads (rows : ReadsRows steps) (operands : ReadsOperands steps) :
    ReadsRows (steps + 1) := by
  intro toks j enough
  unfold row?
  by_cases inside : j < toks.size
  · rw [if_pos inside, token_eq inside, TokenStream.drop_of_lt inside, Option.bind_eq_bind,
      Option.bind_some]
    have filled : 0 < toks.size := Nat.lt_of_le_of_lt (Nat.zero_le j) inside
    have next := rows toks (j + 1) (by omega)
    unfold readRow
    cases Operator.ofKind? (toks.peek j).kind with
    | some operator =>
      dsimp only
      rw [next]
      rfl
    | none =>
      dsimp only
      cases Function.ofKind? (toks.peek j).kind with
      | some function =>
        dsimp only
        rcases operands toks (j + 1) filled (by omega) with ⟨last, read, after, further⟩
        rw [after]
        simp only [read, rows toks (last + 1) (by omega), Option.bind_eq_bind, Option.bind_some]
        rfl
      | none =>
        have behind (last : Nat) (further : j ≤ last) :
            row? steps toks (last + 1) = some (readRow steps (toks.toList.drop (last + 1))) :=
          rows toks (last + 1) (by omega)
        generalize kind : (toks.peek j).kind = head
        dsimp only
        split
        · have left : (toks.peek j).isSymbol .leftParen = true := beq_iff_eq.mpr kind
          rcases group_reads rows inside left (by omega) with ⟨last, read, after, further⟩
          simp only [read, after, behind last (Nat.le_of_lt further), Option.bind_eq_bind,
            Option.bind_some]
          rfl
        · rcases pair_reads operands filled inside (by omega) with ⟨last, read, after, further⟩
          simp only [read, after, behind last (by omega), Option.bind_eq_bind, Option.bind_some]
          rfl
        · rcases pair_reads operands filled inside (by omega) with ⟨last, read, after, further⟩
          simp only [read, after, behind last (by omega), Option.bind_eq_bind, Option.bind_some]
          rfl
        · rw [next]
          rfl
        · rw [next]
          rfl
        · rw [next]
          rfl
        · rw [next]
          rfl
        · exact next
        · have further := toks.le_bracedName (j + 1)
          simp only [readName_drop, behind _ (Nat.le_of_succ_le further)]
          rfl
        · rw [next]
          -- Nothing is left to split where both sides share their branches.
          try split
          all_goals first | rfl | contradiction
  · rw [if_neg inside, TokenStream.drop_of_le (Nat.le_of_not_lt inside)]
    rfl

theorem reads (steps : Nat) : ReadsRows steps ∧ ReadsOperands steps := by
  induction steps with
  | zero => exact ⟨fun _ _ enough => by omega, fun _ _ _ enough => by omega⟩
  | succ steps ih => exact ⟨row_reads ih.1 ih.2, operand_reads ih.1⟩

/-- A formula is read off its tokens without reaching outside of them. -/
theorem row?_eq (toks : TokenStream) :
    row? (2 * toks.size + 1) toks 0 = some (read toks.toList) := by
  have rows := (reads (2 * toks.size + 1)).1 toks 0 (Nat.le_refl _)
  rwa [List.drop_zero, ← Array.length_toList] at rows

end Reads

/-! ## Computing -/

/-- The value of a row whose terms have been computed. -/
def reduce (row : List Item) : Checked Float := do
  let (value, divided) ← rowValue? row
  if divided then modify (Machine.raiseBug "DivisionByZero")
  return value

mutual
/-- The value of a term. -/
def termValue : Term → Checked Float
  | .group row => do reduce (← rowItems row)
  | .apply function argument => return Arithmetic.apply function (← termValue argument)
  | .least first second => return Number.smaller (← termValue first) (← termValue second)
  | .greatest first second => return Number.larger (← termValue first) (← termValue second)
  | term => of (Formula.termValue term)

/-- The values and operators of a row. -/
def rowItems : List Cell → Checked (List Item)
  | [] => return []
  | .operator o :: rest => return .operator o :: (← rowItems rest)
  | .term t :: rest => return .value (← termValue t) :: (← rowItems rest)
end

/-- The value of the formula that tokens write. -/
def evaluate (toks : TokenStream) : Checked Float := do
  let row ← row? (2 * toks.size + 1) toks 0
  reduce (← rowItems row)

theorem reduce_agrees (row : List Item) : Agrees (reduce row) (Formula.reduce row) := by
  refine .given (rowValue?_eq row) ?_
  exact .ite (fun _ => .bind (.modify _) fun _ => .pure _) fun _ => .pure _

mutual
theorem termValue_agrees : (term : Term) → Agrees (termValue term) (Formula.termValue term)
  | .absent => .of _
  | .constant _ => .of _
  | .tick => .of _
  | .frame => .of _
  | .length _ => .of _
  | .token _ => .of _
  | .group row => .bind (rowItems_agrees row) reduce_agrees
  | .apply _ argument => .bind (termValue_agrees argument) fun _ => .pure _
  | .least first second =>
    .bind (termValue_agrees first) fun _ => .bind (termValue_agrees second) fun _ => .pure _
  | .greatest first second =>
    .bind (termValue_agrees first) fun _ => .bind (termValue_agrees second) fun _ => .pure _

theorem rowItems_agrees : (row : List Cell) → Agrees (rowItems row) (Formula.rowItems row)
  | [] => .pure _
  | .operator _ :: rest => .bind (rowItems_agrees rest) fun _ => .pure _
  | .term t :: rest =>
    .bind (termValue_agrees t) fun _ => .bind (rowItems_agrees rest) fun _ => .pure _
end

/-- A formula is computed without reaching outside of its tokens. -/
theorem evaluate_agrees (toks : TokenStream) :
    Agrees (evaluate toks) (Formula.evaluate toks.toList) :=
  .given (row?_eq toks) (.bind (rowItems_agrees _) reduce_agrees)

end Checked
end BigScript
