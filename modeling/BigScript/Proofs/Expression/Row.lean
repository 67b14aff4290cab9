import BigScript.Formula.Evaluate

/-!
# Expressions

An expression is a tree of operations; its value is read off the tree.  A formula knows no trees: it
rewrites a row of numbers and operators, joining signs, then applying the operators that bind
tightest, then the next ones, and summing what is left.  Written without any parentheses but its
own, an expression has the value that this rewriting computes.

Every stage of the rewriting leaves a row that the tree describes: `Expression.row bound` is the row
in which all operators that bind at least as tightly as `bound` have been applied.  One stage lowers
the bound by one (`reduce_row`), and the last row is summed (`total_row`).
-/

namespace BigScript

namespace Operator

/-- How tightly an operator binds. -/
def rank : Operator → Nat
  | .plus => 0
  | .minus => 0
  | .times => 1
  | .divide => 1
  | .power => 2
  | .remainder => 2

/-- The value of an operation.  A quotient and a remainder by zero are zero. -/
def compute : Operator → Float → Float → Float
  | .plus, x, y => x + y
  | .minus, x, y => x - y
  | .times, x, y => x * y
  | .divide, x, y => if y == 0 then 0 else x / y
  | .power, x, y => Number.power x y
  | .remainder, x, y => if y == 0 then 0 else Number.remainder x y

/-- Whether an operation divides by zero. -/
def failsAt (o : Operator) (y : Float) : Bool := o == .divide && y == 0

theorem rank_lt_three (o : Operator) : o.rank < 3 := by
  cases o <;> decide

theorem tight_eq {o : Operator} (tightest : o.rank = 2) (x y : Float) :
    Arithmetic.tight o x y = (o.compute x y, false) := by
  cases o with
  | power => rfl
  | remainder =>
      simp only [Arithmetic.tight, compute]
      by_cases zero : (y == 0) = true <;> simp [zero]
  | _ => exact absurd tightest (by decide)

theorem loose_eq {o : Operator} (middle : o.rank = 1) (x y : Float) :
    Arithmetic.loose o x y = (o.compute x y, o.failsAt y) := by
  cases o with
  | times => rfl
  | divide =>
      simp only [Arithmetic.loose, compute, failsAt]
      by_cases zero : (y == 0) = true <;> simp [zero]
  | _ => exact absurd middle (by decide)

end Operator

/-- An expression over operands of one type.  Its groups are the subtrees in parentheses. -/
inductive Expression (α : Type) where
  | operand (x : α)
  | signed (sign : Operator) (body : Expression α)
  | binary (operator : Operator) (left right : Expression α)
  | group (body : Expression α)

namespace Expression

variable {α β : Type}

/-- How tightly an expression holds together without parentheses around it. -/
def rank : Expression α → Nat
  | .binary o _ _ => o.rank
  | _ => 3

/-- Whether an expression can be written as it stands: operators of one rank group to the left, a
looser operation inside a tighter one is in parentheses, and a sign stands directly behind an
operator, with an operand or a group behind it.  `behind` says whether an operator stands in front
of the expression. -/
def Shaped (behind : Bool) : Expression α → Prop
  | .operand _ => True
  | .signed sign body =>
    behind = true ∧ sign.isSign = true ∧ body.rank = 3 ∧ body.Shaped false
  | .binary o left right =>
    o.rank ≤ left.rank ∧ o.rank < right.rank ∧ left.Shaped behind ∧ right.Shaped true
  | .group body => body.Shaped false

/-- The sum from zero that begins with a value.  A sum has begun at zero already. -/
def fromZero (rank : Nat) (value : Float) : Float := if rank = 0 then value else 0 + value

/-- The value of an expression over numbers.  A sum, and whatever stands in parentheses, is added
up from zero. -/
def value : Expression Float → Float
  | .operand x => x
  | .signed sign body => Arithmetic.withSign sign body.value
  | .binary o left right =>
    o.compute (if o.rank = 0 then fromZero left.rank left.value else left.value) right.value
  | .group body => fromZero body.rank body.value

/-- The value of a whole expression over numbers. -/
def summed (e : Expression Float) : Float := fromZero e.rank e.value

/-- Whether some division in an expression divides by zero. -/
def divides : Expression Float → Bool
  | .operand _ => false
  | .signed _ body => body.divides
  | .binary o left right => left.divides || right.divides || o.failsAt right.value
  | .group body => body.divides

/-- Whether some division in a group of an expression divides by zero. -/
def dividesInGroup : Expression Float → Bool
  | .operand _ => false
  | .signed _ body => body.dividesInGroup
  | .binary _ left right => left.dividesInGroup || right.dividesInGroup
  | .group body => body.divides

/-- Whether an operation outside all groups of an expression fails. -/
def fails (failing : Operator → Float → Bool) : Expression Float → Bool
  | .operand _ => false
  | .signed _ _ => false
  | .binary o left right => left.fails failing || right.fails failing || failing o right.value
  | .group _ => false

theorem divides_eq {e : Expression Float} {behind : Bool} (shaped : e.Shaped behind) :
    e.divides = (e.dividesInGroup || e.fails Operator.failsAt) := by
  induction e generalizing behind with
  | operand x => rfl
  | signed sign body ih =>
      obtain ⟨-, -, atomic, inner⟩ := shaped
      cases body with
      | operand x => rfl
      | signed other deeper => exact absurd inner.1 Bool.false_ne_true
      | binary o left right => exact absurd atomic (Nat.ne_of_lt o.rank_lt_three)
      | group deeper => exact (Bool.or_false _).symm
  | binary o left right leftHolds rightHolds =>
      obtain ⟨-, -, first, second⟩ := shaped
      simp only [divides, dividesInGroup, fails, leftHolds first, rightHolds second]
      ac_rfl
  | group body _ => exact (Bool.or_false _).symm

end Expression

/-- A row in which operators stand between numbers. -/
structure Row where
  head : Float
  tail : List (Operator × Float) := []

namespace Row

/-- The row of one number. -/
def single (x : Float) : Row := { head := x }

/-- Two rows with an operator between them. -/
def join (first : Row) (o : Operator) (second : Row) : Row where
  head := first.head
  tail := first.tail ++ (o, second.head) :: second.tail

/-- The numbers and operators behind the first number. -/
def tailItems (tail : List (Operator × Float)) : List Item :=
  tail.flatMap fun (o, y) => [.operator o, .value y]

/-- The numbers and operators of a row. -/
def items (row : Row) : List Item := .value row.head :: tailItems row.tail

@[simp] theorem items_single (x : Float) : (single x).items = [.value x] := rfl

@[simp] theorem items_join (first : Row) (o : Operator) (second : Row) :
    (first.join o second).items = first.items ++ .operator o :: second.items := by
  simp [items, join, tailItems]

/-- Applies the chosen operators of a row from left to right to the number in front of them. -/
def reduceTail (chosen : Operator → Bool) (compute : Operator → Float → Float → Float × Bool) :
    Float → List (Operator × Float) → Row × Bool
  | x, [] => (single x, false)
  | x, (o, y) :: more =>
    if chosen o then
      let rest := reduceTail chosen compute (compute o x y).1 more
      (rest.1, (compute o x y).2 || rest.2)
    else
      let rest := reduceTail chosen compute y more
      ((single x).join o rest.1, rest.2)

/-- Applies the chosen operators of a row. -/
def reduce (chosen : Operator → Bool) (compute : Operator → Float → Float → Float × Bool)
    (row : Row) : Row × Bool :=
  reduceTail chosen compute row.head row.tail

section Reduction

variable (chosen : Operator → Bool) (compute : Operator → Float → Float → Float × Bool)

/-- The rewriting of items does to an alternating row what `reduce` does. -/
theorem reduceFrom_items (row : Row) :
    Arithmetic.reduceFrom chosen compute row.items =
      ((row.reduce chosen compute).1.items, (row.reduce chosen compute).2) := by
  obtain ⟨head, tail⟩ := row
  induction tail generalizing head with
  | nil => simp [items, tailItems, reduce, reduceTail, Arithmetic.reduceFrom, single]
  | cons pair more ih =>
      obtain ⟨o, y⟩ := pair
      have next (x : Float) := ih x
      simp only [items, tailItems, List.flatMap_cons, List.cons_append, List.nil_append, reduce,
        reduceTail] at next ⊢
      rw [Arithmetic.reduceFrom]
      by_cases picked : chosen o = true
      · simp only [picked, if_true, next]
      · simp only [picked, Bool.false_eq_true, if_false, next, single, join, List.nil_append,
          List.flatMap_cons, List.cons_append]

/-- An operator that is not chosen separates what happens on its two sides. -/
theorem reduce_join_of_not_chosen {o : Operator} (kept : chosen o = false) (first second : Row) :
    (first.join o second).reduce chosen compute =
      ((first.reduce chosen compute).1.join o (second.reduce chosen compute).1,
        (first.reduce chosen compute).2 || (second.reduce chosen compute).2) := by
  obtain ⟨head, tail⟩ := first
  induction tail generalizing head with
  | nil => simp [reduce, join, reduceTail, kept, single]
  | cons pair more ih =>
      obtain ⟨p, y⟩ := pair
      have next (x : Float) := ih x
      simp only [reduce, join, reduceTail, List.cons_append] at next ⊢
      by_cases picked : chosen p = true
      · simp only [picked, if_true, next, Bool.or_assoc]
      · simp only [picked, Bool.false_eq_true, if_false, next, single, List.nil_append,
          List.cons_append]

/-- A chosen operator behind a row that comes down to one number is applied to that number. -/
theorem reduce_join_of_chosen {o : Operator} (picked : chosen o = true) {row : Row} {x : Float}
    {failed : Bool} (reduced : row.reduce chosen compute = (single x, failed)) (y : Float) :
    (row.join o (single y)).reduce chosen compute =
      (single (compute o x y).1, failed || (compute o x y).2) := by
  obtain ⟨head, tail⟩ := row
  induction tail generalizing head failed with
  | nil =>
      simp only [reduce, reduceTail, Prod.mk.injEq, single, Row.mk.injEq, and_true] at reduced
      obtain ⟨rfl, rfl⟩ := reduced
      simp [reduce, join, reduceTail, picked, single]
  | cons pair more ih =>
      obtain ⟨p, z⟩ := pair
      have next (head : Float) {failed : Bool} := @ih failed head
      simp only [reduce, join, reduceTail, List.cons_append] at reduced next ⊢
      by_cases taken : chosen p = true
      · simp only [taken, if_true, Prod.mk.injEq] at reduced ⊢
        obtain ⟨row, failure⟩ := reduced
        rw [next _ (Prod.ext row rfl), ← failure]
        exact ⟨rfl, (Bool.or_assoc _ _ _).symm⟩
      · -- An operator that stays leaves more than one number.
        simp only [taken, Bool.false_eq_true, if_false, Prod.mk.injEq, single, Row.mk.injEq] at reduced
        simp at reduced

end Reduction
end Row

namespace Expression

/-- The row of an expression in which all operators of at least the given rank have been applied. -/
def row (bound : Nat) : Expression Float → Row
  | .binary o left right =>
    if o.rank < bound then (left.row bound).join o (right.row bound)
    else .single (Expression.binary o left right).value
  | e => .single e.value

theorem row_of_le {bound : Nat} {e : Expression Float} (tight : bound ≤ e.rank) :
    e.row bound = .single e.value := by
  cases e with
  | binary o left right => exact if_neg (Nat.not_lt.mpr tight)
  | _ => rfl

theorem row_binary_of_lt {bound : Nat} {o : Operator} (loose : o.rank < bound)
    (left right : Expression Float) :
    (binary o left right).row bound = (left.row bound).join o (right.row bound) :=
  if_pos loose

section Stage

variable {rank : Nat} {chosen : Operator → Bool}
  {compute : Operator → Float → Float → Float × Bool} {failing : Operator → Float → Bool}

/-- One stage of the rewriting applies the operators of one rank. -/
theorem reduce_row (positive : 0 < rank) (choice : ∀ o, chosen o = (o.rank == rank))
    (computes : ∀ o, o.rank = rank → ∀ x y, compute o x y = (o.compute x y, failing o y))
    (silent : ∀ o, o.rank ≠ rank → ∀ y, failing o y = false)
    {e : Expression Float} {behind : Bool} (shaped : e.Shaped behind) :
    (e.row (rank + 1)).reduce chosen compute = (e.row rank, e.fails failing) := by
  induction e generalizing behind with
  | binary o left right leftHolds rightHolds =>
      obtain ⟨atLeft, atRight, first, second⟩ := shaped
      specialize leftHolds first
      specialize rightHolds second
      rcases Nat.lt_trichotomy o.rank rank with loose | same | tight
      · have kept : chosen o = false := by
          rw [choice]
          exact beq_false_of_ne (Nat.ne_of_lt loose)
        rw [row_binary_of_lt (Nat.lt_succ_of_lt loose), row_binary_of_lt loose,
          Row.reduce_join_of_not_chosen chosen compute kept, leftHolds, rightHolds, fails,
          silent o (Nat.ne_of_lt loose), Bool.or_false]
      · have picked : chosen o = true := by simp [choice, same]
        have single : left.row rank = .single left.value := row_of_le (same ▸ atLeft)
        rw [row_of_le (same ▸ atRight : rank + 1 ≤ right.rank)] at rightHolds
        have unfailing : right.fails failing = false := (congrArg Prod.snd rightHolds).symm
        rw [row_binary_of_lt (same ▸ Nat.lt_succ_self _),
          row_of_le (same ▸ atRight : rank + 1 ≤ right.rank),
          Row.reduce_join_of_chosen chosen compute picked (single ▸ leftHolds), computes o same,
          row_of_le (Nat.le_of_eq same.symm), fails, unfailing, Bool.or_false, value,
          if_neg (by omega)]
      · have unfailing {side : Expression Float} (above : o.rank ≤ side.rank)
            (holds : (side.row (rank + 1)).reduce chosen compute =
              (side.row rank, side.fails failing)) :
            side.fails failing = false := by
          rw [row_of_le (Nat.le_trans tight above)] at holds
          exact (congrArg Prod.snd holds).symm
        rw [row_of_le tight, row_of_le (Nat.le_of_lt tight), fails, unfailing atLeft leftHolds,
          unfailing (Nat.le_of_lt atRight) rightHolds, silent o (Nat.ne_of_gt tight)]
        rfl
  | _ => rfl

end Stage

/-- The sum of a row with one more number. -/
theorem total_join (sum : Float) (subtract : Bool) (row : Row) {o : Operator} (loosest : o.rank = 0)
    (y : Float) :
    Arithmetic.total sum subtract (row.join o (.single y)).items =
      o.compute (Arithmetic.total sum subtract row.items) y := by
  rw [Row.items_join]
  generalize row.items = items
  induction items generalizing sum subtract with
  | nil => cases o <;> first | rfl | cases loosest
  | cons item rest ih =>
      cases item with
      | value x => exact ih _ _
      | operator p => cases p <;> exact ih _ _

/-- The last stage adds up what the other stages left. -/
theorem total_row {e : Expression Float} {behind : Bool} (shaped : e.Shaped behind) :
    Arithmetic.total 0 false (e.row 1).items = e.summed := by
  induction e generalizing behind with
  | binary o left right leftHolds _ =>
      obtain ⟨-, atRight, first, -⟩ := shaped
      cases loosest : o.rank with
      | zero =>
          rw [row_binary_of_lt (by omega), row_of_le (by omega : 1 ≤ right.rank),
            total_join 0 false _ loosest, leftHolds first]
          simp only [summed, fromZero, rank, loosest, value, if_true]
      | succ n =>
          rw [row_of_le (by simp only [rank]; omega), summed, fromZero, rank,
            if_neg (by omega)]
          rfl
  | _ => rfl

/-- The numbers and operators of an expression as they are written, each group computed. -/
def items : Expression Float → List Item
  | .operand x => [.value x]
  | .signed sign body => .operator sign :: body.items
  | .binary o left right => left.items ++ .operator o :: right.items
  | .group body => [.value body.summed]

/-- An operand or a group is a single number. -/
theorem items_of_atomic {e : Expression Float} (atomic : e.rank = 3) (shaped : e.Shaped false) :
    e.items = [.value e.value] := by
  cases e with
  | operand x => rfl
  | signed sign body => exact absurd shaped.1 Bool.false_ne_true
  | binary o left right => exact absurd atomic (Nat.ne_of_lt o.rank_lt_three)
  | group body => rfl

theorem joinSigns_operator (o : Operator) (rest : List Item) :
    Arithmetic.joinSigns false (.operator o :: rest) =
      .operator o :: Arithmetic.joinSigns true rest := by
  cases rest with
  | nil => rfl
  | cons item rest =>
      cases item with
      | value x => rfl
      | operator p => rfl

/-- Joining signs leaves the row in which no operator has been applied. -/
theorem joinSigns_items {e : Expression Float} {behind : Bool} (shaped : e.Shaped behind)
    (rest : List Item) :
    Arithmetic.joinSigns behind (e.items ++ rest) =
      (e.row 3).items ++ Arithmetic.joinSigns false rest := by
  induction e generalizing behind rest with
  | operand x => rfl
  | signed sign body _ =>
      obtain ⟨rfl, isSign, atomic, inner⟩ := shaped
      rw [items, items_of_atomic atomic inner]
      simp [Arithmetic.joinSigns, isSign, row, value]
  | binary o left right leftHolds rightHolds =>
      obtain ⟨-, -, first, second⟩ := shaped
      rw [items, List.append_assoc, List.cons_append, leftHolds first, joinSigns_operator,
        rightHolds second, row_binary_of_lt o.rank_lt_three, Row.items_join, List.append_assoc,
        List.cons_append]
  | group body _ => rfl

/-- The rewriting of the numbers and operators of an expression computes its value, and reports the
divisions by zero that stand outside all groups. -/
theorem value_items {e : Expression Float} (shaped : e.Shaped false) :
    Arithmetic.value e.items = (e.summed, e.fails Operator.failsAt) := by
  have joined : Arithmetic.joinSigns false e.items = (e.row 3).items := by
    have := joinSigns_items shaped []
    simpa only [List.append_nil, Arithmetic.joinSigns] using this
  have tight : (e.row 3).reduce (fun o => o == .power || o == .remainder) Arithmetic.tight =
      (e.row 2, e.fails fun _ _ => false) := by
    refine reduce_row (by decide) ?_ ?_ (fun _ _ _ => rfl) shaped
    · intro o
      cases o <;> rfl
    · exact fun o rank => Operator.tight_eq rank
  have loose : (e.row 2).reduce (fun o => o == .times || o == .divide) Arithmetic.loose =
      (e.row 1, e.fails Operator.failsAt) := by
    refine reduce_row (by decide) ?_ ?_ ?_ shaped
    · intro o
      cases o <;> rfl
    · exact fun o rank => Operator.loose_eq rank
    · intro o rank y
      cases o <;> first | rfl | exact absurd rfl rank
  simp only [Arithmetic.value, joined, Row.reduceFrom_items, tight, loose, total_row shaped]

end Expression
end BigScript
