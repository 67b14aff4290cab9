import BigScript.Formula.Evaluate
import BigScript.Proofs.Expression.Row
import BigScript.Proofs.Nesting

/-!
# Written expressions

An expression is written as the lexemes of its operands, operators and parentheses in order.  The
formula that its tokens write has the value of the expression, and raises a bug exactly when some
division divides by zero.

A group is computed before what stands behind it is read.  A division by zero in it therefore shows
in the variables read later: it sets the variable that names the last bug, and no other.
`Expression.seen` is the expression over the numbers that are read in this order.
-/

namespace BigScript

/-- The lexeme of an operator. -/
def Operator.lexeme : Operator → Lexeme
  | .plus => .symbol .plus
  | .minus => .symbol .minus
  | .times => .symbol .star
  | .divide => .symbol .slash
  | .power => .symbol .caret
  | .remainder => .word .remainder

/-- Whether a lexeme is a single value in a formula: a number, a text, or a name, which may be a
reserved word that formulas have no use for. -/
def Lexeme.isOperand : Lexeme → Bool
  | .number _ => true
  | .rate _ => true
  | .text _ => true
  | .name _ => true
  | .word k =>
    (Operator.ofKind? (.word k)).isNone && (Function.ofKind? (.word k)).isNone &&
      ([.minimum, .maximum, .pi, .euler, .bigTick, .bigDelta, .len] : List Keyword).all (· != k)
  | _ => false

/-- A lexeme that is a single value in a formula. -/
abbrev Operand := { x : Lexeme // x.isOperand = true }

namespace Expression

/-- The lexemes that write an expression. -/
def written : Expression Operand → List Lexeme
  | .operand x => [x.val]
  | .signed sign body => sign.lexeme :: body.written
  | .binary o left right => left.written ++ o.lexeme :: right.written
  | .group body => .symbol .leftParen :: body.written ++ [.symbol .rightParen]

/-- The expression over the numbers that its operands stand for when they are read, from left to
right.  `number` tells what an operand stands for before and after a division by zero has shown, and
`late` whether one has shown before. -/
def seen (number : Bool → Operand → Float) (late : Bool) : Expression Operand → Expression Float
  | .operand x => .operand (number late x)
  | .signed sign body => .signed sign (body.seen number late)
  | .binary o left right =>
    .binary o (left.seen number late)
      (right.seen number (late || (left.seen number late).dividesInGroup))
  | .group body => .group (body.seen number late)

variable {number : Bool → Operand → Float} {late behind : Bool}

@[simp] theorem rank_seen (e : Expression Operand) : (e.seen number late).rank = e.rank := by
  cases e <;> rfl

theorem Shaped.seen {e : Expression Operand} (shaped : e.Shaped behind) :
    (e.seen number late).Shaped behind := by
  induction e generalizing behind late with
  | operand x => trivial
  | signed sign body ih =>
      obtain ⟨follows, isSign, atomic, inner⟩ := shaped
      exact ⟨follows, isSign, (rank_seen body).trans atomic, ih inner⟩
  | binary o left right leftHolds rightHolds =>
      obtain ⟨atLeft, atRight, first, second⟩ := shaped
      exact ⟨(rank_seen left).symm ▸ atLeft, (rank_seen right).symm ▸ atRight, leftHolds first,
        rightHolds second⟩
  | group body ih =>
      have inner : body.Shaped false := shaped
      exact ih inner

end Expression

/-! ## Reading -/

namespace Formula

variable {t : Token} {o : Operator}

theorem kind_of_lexeme {lexeme : Lexeme} (spelt : t.lexeme = lexeme) : t.kind = lexeme.kind :=
  congrArg Lexeme.kind spelt

theorem ofKind?_lexeme (o : Operator) : Operator.ofKind? o.lexeme.kind = some o := by
  cases o <;> rfl

theorem splitGroup_keep (depth : Nat) (rest : List Token) (opens : t.isSymbol .leftParen = false)
    (closes : t.isSymbol .rightParen = false) :
    splitGroup depth (t :: rest) = (t :: (splitGroup depth rest).1, (splitGroup depth rest).2) := by
  simp [splitGroup, opens, closes]

theorem isSymbol_operand {x : Operand} (spelt : t.lexeme = x.val) (s : Symbol) :
    t.isSymbol s = false := by
  obtain ⟨lexeme, operand⟩ := x
  subst spelt
  unfold Token.isSymbol Token.kind
  cases found : t.lexeme <;> first | rfl | (rw [found] at operand; cases operand)

theorem isSymbol_operator (spelt : t.lexeme = o.lexeme) :
    t.isSymbol .leftParen = false ∧ t.isSymbol .rightParen = false := by
  unfold Token.isSymbol
  rw [kind_of_lexeme spelt]
  cases o <;> exact ⟨rfl, rfl⟩

/-- An expression closes the parentheses that it opens. -/
theorem splitGroup_written {e : Expression Operand} {toks : List Token}
    (written : toks.map (·.lexeme) = e.written) (depth : Nat) (rest : List Token) :
    splitGroup depth (toks ++ rest) =
      (toks ++ (splitGroup depth rest).1, (splitGroup depth rest).2) := by
  induction e generalizing toks depth rest with
  | operand x =>
      obtain ⟨t, rfl, spelt⟩ := List.map_eq_singleton_iff.mp written
      exact splitGroup_keep depth rest (isSymbol_operand spelt _) (isSymbol_operand spelt _)
  | signed sign body ih =>
      obtain ⟨t, inner, rfl, spelt, innerWritten⟩ := List.map_eq_cons_iff.mp written
      have plain := isSymbol_operator spelt
      rw [List.cons_append, splitGroup_keep depth _ plain.1 plain.2, ih innerWritten]
      rfl
  | binary o left right leftHolds rightHolds =>
      obtain ⟨first, others, rfl, firstWritten, more⟩ := List.map_eq_append_iff.mp written
      obtain ⟨t, second, rfl, spelt, secondWritten⟩ := List.map_eq_cons_iff.mp more
      have plain := isSymbol_operator spelt
      rw [List.append_assoc, leftHolds firstWritten, List.cons_append,
        splitGroup_keep depth _ plain.1 plain.2, rightHolds secondWritten]
      simp
  | group body ih =>
      obtain ⟨first, others, rfl, firstWritten, more⟩ := List.map_eq_append_iff.mp written
      obtain ⟨t, inner, rfl, opens, innerWritten⟩ := List.map_eq_cons_iff.mp firstWritten
      obtain ⟨close, rfl, closes⟩ := List.map_eq_singleton_iff.mp more
      have opening : t.isSymbol .leftParen = true := by
        simp [Token.isSymbol, kind_of_lexeme opens, Lexeme.kind]
      have closing : close.isSymbol .rightParen = true ∧ close.isSymbol .leftParen = false := by
        simp [Token.isSymbol, kind_of_lexeme closes, Lexeme.kind]
      simp only [List.cons_append, List.append_assoc, List.nil_append, splitGroup, opening, if_true,
        ih innerWritten, closing.1, closing.2, Bool.false_eq_true, if_false, Nat.add_one_ne_zero,
        Nat.add_sub_cancel]

/-- What stands between the parentheses of a group, and what stands behind it. -/
theorem splitGroup_group {e : Expression Operand} {inner : List Token} {close : Token}
    (written : inner.map (·.lexeme) = e.written) (closes : close.lexeme = .symbol .rightParen)
    (rest : List Token) : splitGroup 0 (inner ++ close :: rest) = (inner, rest) := by
  have closing : close.isSymbol .rightParen = true ∧ close.isSymbol .leftParen = false := by
    simp [Token.isSymbol, kind_of_lexeme closes, Lexeme.kind]
  rw [splitGroup_written written]
  simp [splitGroup, closing]

theorem readRow_operator (spelt : t.lexeme = o.lexeme) (steps : Nat) (rest : List Token) :
    readRow (steps + 1) (t :: rest) = .operator o :: readRow steps rest := by
  rw [readRow, kind_of_lexeme spelt, ofKind?_lexeme]

theorem readRow_operand {x : Operand} (spelt : t.lexeme = x.val) (steps : Nat) (rest : List Token) :
    readRow (steps + 1) (t :: rest) = .term (.token t) :: readRow steps rest := by
  obtain ⟨lexeme, operand⟩ := x
  rw [readRow, kind_of_lexeme spelt]
  cases lexeme with
  | word k => cases k <;> first | rfl | cases operand
  | number _ => rfl
  | rate _ => rfl
  | text _ => rfl
  | name _ => rfl
  | _ => cases operand

theorem readRow_group {inner : List Token} {e : Expression Operand} {close : Token}
    (opens : t.lexeme = .symbol .leftParen) (written : inner.map (·.lexeme) = e.written)
    (closes : close.lexeme = .symbol .rightParen) (steps : Nat) (rest : List Token) :
    readRow (steps + 1) (t :: (inner ++ close :: rest)) =
      .term (.group (readRow steps inner)) :: readRow steps rest := by
  rw [readRow, kind_of_lexeme opens, splitGroup_group written closes]
  rfl

theorem readRow_nil (steps : Nat) : readRow steps [] = [] := by
  cases steps <;> rfl

end Formula

/-! ## Divisions by zero -/

namespace Bindings

theorem setIn_setIn_self (name value : String) (entries : List (String × String)) :
    setIn name value (setIn name value entries) = setIn name value entries := by
  induction entries with
  | nil => simp [setIn]
  | cons entry rest ih =>
      obtain ⟨other, old⟩ := entry
      by_cases same : other = name
      · simp [setIn, same]
      · simp [setIn, same, ih]

end Bindings

namespace Machine

/-- A machine in which a number of divisions by zero have shown. -/
def divided (m : Machine) (times : Nat) : Machine := Nat.repeat (raiseBug "DivisionByZero") times m

theorem divided_succ (m : Machine) (times : Nat) :
    m.divided (times + 1) = (m.divided times).raiseBug "DivisionByZero" := rfl

/-- After the first division by zero only the history of bugs grows. -/
theorem divided_succ_eq (m : Machine) (times : Nat) :
    m.divided (times + 1) =
      { m.divided 1 with raises := List.replicate (times + 1) "DivisionByZero" ++ m.raises } := by
  induction times with
  | zero => rfl
  | succ times ih =>
      rw [divided_succ, ih]
      simp only [divided, Nat.repeat, raiseBug, Bindings.set, Bindings.setIn_setIn_self,
        List.replicate_succ, List.cons_append]

/-- The number that an operand stands for, before or after a division by zero has shown. -/
def operandNumber (m : Machine) (late : Bool) (x : Operand) : Float :=
  (m.divided late.toNat).tokenNumber { lexeme := x.val, line := 0, column := 0 }

theorem tokenNumber_divided (m : Machine) (times : Nat) {t : Token} {x : Operand}
    (spelt : t.lexeme = x.val) :
    (m.divided times).tokenNumber t = m.operandNumber (decide (0 < times)) x := by
  obtain ⟨lexeme, line, column, span⟩ := t
  subst spelt
  cases times with
  | zero => rfl
  | succ times =>
      rw [divided_succ_eq]
      rfl

end Machine

namespace Formula

theorem rowItems_operator_run (o : Operator) (cells : List Cell) (m : Machine) :
    (rowItems (.operator o :: cells)).run m =
      (.operator o :: ((rowItems cells).run m).1, ((rowItems cells).run m).2) := by
  rw [rowItems]
  rfl

theorem rowItems_token_run (t : Token) (cells : List Cell) (m : Machine) :
    (rowItems (.term (.token t) :: cells)).run m =
      (.value (m.tokenNumber t) :: ((rowItems cells).run m).1, ((rowItems cells).run m).2) := by
  rw [rowItems, termValue]
  rfl

theorem rowItems_group_run (row cells : List Cell) (m : Machine) :
    (rowItems (.term (.group row) :: cells)).run m =
      let inner := (rowItems row).run m
      let group := (reduce inner.1).run inner.2
      (.value group.1 :: ((rowItems cells).run group.2).1, ((rowItems cells).run group.2).2) := by
  rw [rowItems, termValue]
  rfl

/-- The row of an expression whose groups have been computed has its value, and one more division
by zero shows if there is one outside the groups. -/
theorem reduce_items {e : Expression Float} (shaped : e.Shaped false) (m : Machine) {times : Nat}
    {late : Bool} (shown : 0 < times ↔ (late || e.dividesInGroup) = true) :
    ∃ more, (0 < more ↔ (late || e.divides) = true) ∧
      (reduce e.items).run (m.divided times) = (e.summed, m.divided more) := by
  have run : (reduce e.items).run (m.divided times) =
      (e.summed, if e.fails Operator.failsAt then m.divided (times + 1) else m.divided times) := by
    unfold reduce
    rw [Expression.value_items shaped]
    cases e.fails Operator.failsAt <;> rfl
  rw [e.divides_eq shaped, run]
  cases fails : e.fails Operator.failsAt with
  | false => exact ⟨times, by simpa using shown, rfl⟩
  | true => exact ⟨times + 1, by simp, rfl⟩

/-- What reading an expression leaves behind: its numbers and operators, and a machine in which the
divisions by zero of its groups have shown. -/
theorem rowItems_written {e : Expression Operand} {behind : Bool} (shaped : e.Shaped behind)
    {toks : List Token} (written : toks.map (·.lexeme) = e.written) (m : Machine) (times : Nat)
    (late : Bool) (shown : 0 < times ↔ late = true) (rest : List Token) (steps : Nat)
    (enough : (toks ++ rest).length < steps) :
    ∃ left more, rest.length < left ∧
      (0 < more ↔ (late || (e.seen m.operandNumber late).dividesInGroup) = true) ∧
      (rowItems (readRow steps (toks ++ rest))).run (m.divided times) =
        let others := (rowItems (readRow left rest)).run (m.divided more)
        ((e.seen m.operandNumber late).items ++ others.1, others.2) := by
  induction e generalizing behind toks times late rest steps with
  | operand x =>
      obtain ⟨t, rfl, spelt⟩ := List.map_eq_singleton_iff.mp written
      obtain ⟨steps, rfl⟩ : ∃ n, steps = n + 1 := ⟨steps - 1, by omega⟩
      refine ⟨steps, times, Nat.lt_of_succ_lt_succ enough,
        by simpa [Expression.seen, Expression.dividesInGroup] using shown, ?_⟩
      have number : (m.divided times).tokenNumber t = m.operandNumber late x := by
        rw [m.tokenNumber_divided times spelt, show decide (0 < times) = late by simp [shown]]
      rw [List.cons_append, List.nil_append, readRow_operand spelt, rowItems_token_run, number]
      rfl
  | signed sign body ih =>
      obtain ⟨-, -, -, inner⟩ := shaped
      obtain ⟨t, others, rfl, spelt, innerWritten⟩ := List.map_eq_cons_iff.mp written
      obtain ⟨steps, rfl⟩ : ∃ n, steps = n + 1 := ⟨steps - 1, by omega⟩
      obtain ⟨left, more, room, raised, run⟩ :=
        ih inner innerWritten times late shown rest steps (Nat.lt_of_succ_lt_succ enough)
      refine ⟨left, more, room, raised, ?_⟩
      rw [List.cons_append, readRow_operator spelt, rowItems_operator_run, run]
      rfl
  | binary o left right leftHolds rightHolds =>
      obtain ⟨-, -, firstShaped, secondShaped⟩ := shaped
      obtain ⟨first, others, rfl, firstWritten, behindFirst⟩ := List.map_eq_append_iff.mp written
      obtain ⟨t, second, rfl, spelt, secondWritten⟩ := List.map_eq_cons_iff.mp behindFirst
      rw [List.append_assoc] at enough
      obtain ⟨steps, more, room, raised, run⟩ :=
        leftHolds firstShaped firstWritten times late shown _ steps enough
      obtain ⟨steps, rfl⟩ : ∃ n, steps = n + 1 := ⟨steps - 1, by omega⟩
      obtain ⟨left, more, room, raised, runSecond⟩ :=
        rightHolds secondShaped secondWritten more _ raised rest steps (Nat.lt_of_succ_lt_succ room)
      refine ⟨left, more, room, ?_, ?_⟩
      · rw [raised, Bool.or_assoc]
        rfl
      · rw [List.append_assoc, run, List.cons_append, readRow_operator spelt, rowItems_operator_run,
          runSecond]
        simp [Expression.seen, Expression.items]
  | group body ih =>
      have innerShaped : body.Shaped false := shaped
      obtain ⟨first, others, rfl, firstWritten, behindFirst⟩ := List.map_eq_append_iff.mp written
      obtain ⟨t, inner, rfl, opens, innerWritten⟩ := List.map_eq_cons_iff.mp firstWritten
      obtain ⟨close, rfl, closes⟩ := List.map_eq_singleton_iff.mp behindFirst
      obtain ⟨steps, rfl⟩ : ∃ n, steps = n + 1 := ⟨steps - 1, by omega⟩
      simp only [List.cons_append, List.append_assoc, List.nil_append, List.length_cons,
        List.length_append] at enough ⊢
      obtain ⟨left, more, -, raised, run⟩ :=
        ih innerShaped innerWritten times late shown [] steps (by simp only [List.append_nil]; omega)
      obtain ⟨times, shownAfter, value⟩ := reduce_items innerShaped.seen m raised
      refine ⟨steps, times, by omega, shownAfter, ?_⟩
      rw [List.append_nil, readRow_nil] at run
      rw [readRow_group opens innerWritten closes, rowItems_group_run, run]
      simp only [rowItems, Act.run_pure, List.append_nil, value]
      rfl

/-- The formula that the tokens of an expression write has its value, and a division by zero shows
in the machine exactly when there is one in the expression. -/
theorem evaluate_written (e : Expression Operand) (shaped : e.Shaped false) {toks : List Token}
    (written : toks.map (·.lexeme) = e.written) (m : Machine) :
    ∃ times,
      (evaluate toks).run m = ((e.seen m.operandNumber false).summed, m.divided times) ∧
      (0 < times ↔ (e.seen m.operandNumber false).divides = true) := by
  obtain ⟨left, more, -, raised, run⟩ :=
    rowItems_written shaped written m 0 false (by simp) [] (2 * toks.length + 1)
      (by simp only [List.append_nil]; omega)
  obtain ⟨times, shown, value⟩ := reduce_items shaped.seen m raised
  refine ⟨times, ?_, by simpa using shown⟩
  rw [List.append_nil, readRow_nil] at run
  unfold evaluate read
  rw [Act.run_bind]
  change (reduce ((rowItems _).run (m.divided 0)).1).run ((rowItems _).run (m.divided 0)).2 = _
  rw [run]
  simp only [rowItems, Act.run_pure, List.append_nil, value]

/-- The tokens of `(1 / 0) + BugType`. -/
def lateTokens : List Token :=
  [{ lexeme := .symbol .leftParen, line := 1, column := 1, span := 1 },
    { lexeme := .number 1, line := 1, column := 2, span := 1 },
    { lexeme := .symbol .slash, line := 1, column := 4, span := 1 },
    { lexeme := .number 0, line := 1, column := 6, span := 1 },
    { lexeme := .symbol .rightParen, line := 1, column := 7, span := 1 },
    { lexeme := .symbol .plus, line := 1, column := 9, span := 1 },
    { lexeme := .name "BugType", line := 1, column := 11, span := 7 }]

/-- The expression `(1 / 0) + BugType`. -/
def lateExpression : Expression Operand :=
  .binary .plus
    (.group (.binary .divide (.operand ⟨.number 1, rfl⟩) (.operand ⟨.number 0, rfl⟩)))
    (.operand ⟨.name "BugType", rfl⟩)

theorem lateExpression_shaped : lateExpression.Shaped false :=
  ⟨by decide, by decide, ⟨by decide, by decide, trivial, trivial⟩, trivial⟩

/-- The group in `(1 / 0) + BugType` divides by zero, and the variable read behind it is no number
any more. -/
theorem evaluate_written_lateVariable :
    lateExpression.Shaped false ∧ lateTokens.map (·.lexeme) = lateExpression.written ∧
      ∃ times,
        (evaluate lateTokens).run {} =
          ((lateExpression.seen (Machine.operandNumber {}) false).summed, Machine.divided {} times) ∧
        (0 < times ↔
          (lateExpression.seen (Machine.operandNumber {}) false).divides = true) :=
  ⟨lateExpression_shaped, rfl,
    evaluate_written lateExpression lateExpression_shaped rfl {}⟩

/-- A variable can change its value while an expression is computed: with five in the variable that
names the last bug, `(1 / 0) + BugType` is zero, not five. -/
theorem lateVariable_loses_its_value :
    let m := Machine.setGlobal "BugType" "5" {}
    lateExpression.Shaped false ∧ lateTokens.map (·.lexeme) = lateExpression.written ∧
      (lateExpression.seen (fun _ => m.operandNumber false) false).summed = 5 ∧
      ((evaluate lateTokens).run m).1 = 0 ∧
      ((evaluate lateTokens).run m).1 ≠
        (lateExpression.seen (fun _ => m.operandNumber false) false).summed :=
  ⟨lateExpression_shaped, rfl, by decide +kernel, by decide +kernel, by decide +kernel⟩

end Formula
end BigScript
