import BigScript.Proofs.Checked.Access

/-!
# Checked passes over a row

A pass over a row looks at the item it is at, at the item behind it and at the last item it has written.
With indices these are three accesses, and each of them is made only after a test that there is such an
item.  The rows that come out are those of `Arithmetic.joinSigns` and `Arithmetic.reduceFrom`, which take
the items off a list.
-/

namespace BigScript
namespace Checked

open Arithmetic

/-- The number at an index of a row, if there is an item and it is a number. -/
def number? (row : List Item) (k : Nat) : Option (Option Float) :=
  if k < row.length then do
    match ← row[k]? with
    | .value x => return some x
    | .operator _ => return none
  else return none

/-- The last item that has been written, if there is one. -/
def written? (out : List Item) : Option (Option Item) :=
  if 0 < out.length then return some (← out[out.length - 1]?) else return none

/-- Whether the item written last is an operator. -/
def behindOperator (last : Option Item) : Bool := last.any fun item => !item.isValue

/-- Joins signs with the numbers behind them from index `k` on; `out` is what has been written. -/
def joinSigns? (row : List Item) (k : Nat) (out : List Item) : Option (List Item) :=
  if _inside : k < row.length then do
    let item ← row[k]?
    let last ← written? out
    let next ← number? row (k + 1)
    match item, next with
    | .operator sign, some x =>
      if behindOperator last && sign.isSign then
        joinSigns? row (k + 2) (out ++ [.value (withSign sign x)])
      else joinSigns? row (k + 1) (out ++ [item])
    | item, _ => joinSigns? row (k + 1) (out ++ [item])
  else return out
termination_by row.length - k

/-- Applies the chosen operators from index `k` on, each to the number written last and the number
behind it. -/
def reduceFrom? (chosen : Operator → Bool) (compute : Operator → Float → Float → Float × Bool)
    (row : List Item) (k : Nat) (out : List Item) (failed : Bool) : Option (List Item × Bool) :=
  if _inside : k < row.length then do
    let item ← row[k]?
    let last ← written? out
    let next ← number? row (k + 1)
    match item, last, next with
    | .operator o, some (.value x), some y =>
      if chosen o then
        let (z, fails) := compute o x y
        reduceFrom? chosen compute row (k + 2) (out.set (out.length - 1) (.value z)) (failed || fails)
      else reduceFrom? chosen compute row (k + 1) (out ++ [item]) failed
    | item, _, _ => reduceFrom? chosen compute row (k + 1) (out ++ [item]) failed
  else return (out, failed)
termination_by row.length - k

/-- The value of a row, and whether a division by zero occurred. -/
def rowValue? (row : List Item) : Option (Float × Bool) := do
  let row ← joinSigns? row 0 []
  let (row, _) ← reduceFrom? (fun o => o == .power || o == .remainder) tight row 0 [] false
  let (row, divided) ← reduceFrom? (fun o => o == .times || o == .divide) loose row 0 [] false
  return (total 0 false row, divided)

section Passes

variable {row : List Item} {k : Nat}

theorem number?_eq (row : List Item) (k : Nat) :
    number? row k = some (match row.drop k with
      | .value x :: _ => some x
      | _ => none) := by
  unfold number?
  split
  · rename_i inside
    rw [List.drop_eq_getElem_cons inside, List.getElem?_eq_getElem inside, Option.bind_eq_bind,
      Option.bind_some]
    cases row[k] <;> rfl
  · rename_i outside
    rw [List.drop_eq_nil_of_le (Nat.le_of_not_lt outside)]
    rfl

theorem written?_eq (out : List Item) : written? out = some out.getLast? := by
  unfold written?
  split
  · rename_i filled
    rw [List.getElem?_eq_getElem (by omega), Option.bind_eq_bind, Option.bind_some,
      List.getLast?_eq_getElem?, List.getElem?_eq_getElem (by omega)]
    rfl
  · rename_i empty
    obtain rfl := List.length_eq_zero_iff.mp (Nat.eq_zero_of_not_pos empty)
    rfl

theorem joinSigns?_eq (row : List Item) (k : Nat) (out : List Item) :
    joinSigns? row k out = some (out ++ joinSigns (behindOperator out.getLast?) (row.drop k)) := by
  unfold joinSigns?
  split
  · rename_i inside
    rw [written?_eq, number?_eq, List.getElem?_eq_getElem inside,
      List.drop_eq_getElem_cons inside]
    simp only [Option.bind_eq_bind, Option.bind_some]
    have next (item : Item) : joinSigns? row (k + 1) (out ++ [item]) =
        some (out ++ item :: joinSigns (!item.isValue) (row.drop (k + 1))) := by
      rw [joinSigns?_eq row (k + 1), List.getLast?_concat, List.append_assoc]
      rfl
    have behind (x : Float) : joinSigns? row (k + 2) (out ++ [.value x]) =
        some (out ++ .value x :: joinSigns false (row.drop (k + 1)).tail) := by
      rw [joinSigns?_eq row (k + 2), List.getLast?_concat, List.append_assoc, List.tail_drop]
      rfl
    cases row[k] with
    | value x => exact next (.value x)
    | operator sign =>
      rcases shape : row.drop (k + 1) with _ | ⟨_ | x, rest⟩ <;> rw [shape] at next behind
      · exact next (.operator sign)
      · exact next (.operator sign)
      · dsimp only [joinSigns]
        split
        · exact behind (withSign sign x)
        · exact next (.operator sign)
  · rename_i outside
    rw [List.drop_eq_nil_of_le (Nat.le_of_not_lt outside), joinSigns, List.append_nil]
    rfl
termination_by row.length - k

/-! ## Operators between numbers -/

variable {chosen : Operator → Bool} {compute : Operator → Float → Float → Float × Bool}

theorem reduceFrom_operator (o : Operator) (rest : List Item) :
    reduceFrom chosen compute (.operator o :: rest) =
      (.operator o :: (reduceFrom chosen compute rest).1, (reduceFrom chosen compute rest).2) := by
  cases rest <;> simp [reduceFrom]

theorem reduceFrom_numbers (x y : Float) (rest : List Item) :
    reduceFrom chosen compute (.value x :: .value y :: rest) =
      (.value x :: (reduceFrom chosen compute (.value y :: rest)).1,
        (reduceFrom chosen compute (.value y :: rest)).2) := by
  rw [reduceFrom]
  case x_1 => exact List.cons_ne_nil _ _
  case x_2 =>
    intro left o others _ same
    exact Item.noConfusion (List.cons.inj same).1

/-- What is held back of the items written so far: a number that is written last may still be the left
side of an operator. -/
inductive Holds (before : List Item) : List Item → Prop where
  | nothing (closed : ∀ x, before.getLast? ≠ some (.value x)) : Holds before []
  | number (x : Float) : Holds before [.value x]

theorem Holds.operator (before : List Item) (o : Operator) : Holds (before ++ [.operator o]) [] := by
  refine .nothing ?_
  intro x
  rw [List.getLast?_concat]
  nofun

/-- Whether the pass from an index on gives what the one over the list gives. -/
def Reduces (chosen : Operator → Bool) (compute : Operator → Float → Float → Float × Bool)
    (row : List Item) (k : Nat) : Prop :=
  ∀ (before held : List Item) (failed : Bool), Holds before held →
    reduceFrom? chosen compute row k (before ++ held) failed =
      some (before ++ (reduceFrom chosen compute (held ++ row.drop k)).1,
        failed || (reduceFrom chosen compute (held ++ row.drop k)).2)

namespace Reduces

variable {row : List Item} {k : Nat}

theorem afterNumber (reduces : Reduces chosen compute row k) (before : List Item) (y : Float)
    (failed : Bool) :
    reduceFrom? chosen compute row k (before ++ [.value y]) failed =
      some (before ++ (reduceFrom chosen compute (.value y :: row.drop k)).1,
        failed || (reduceFrom chosen compute (.value y :: row.drop k)).2) :=
  reduces before [.value y] failed (.number y)

theorem afterOperator (reduces : Reduces chosen compute row k) (before : List Item) (o : Operator)
    (failed : Bool) :
    reduceFrom? chosen compute row k (before ++ [.operator o]) failed =
      some (before ++ .operator o :: (reduceFrom chosen compute (row.drop k)).1,
        failed || (reduceFrom chosen compute (row.drop k)).2) := by
  have rest := reduces (before ++ [.operator o]) [] failed (.operator _ o)
  rwa [List.append_nil, List.nil_append, List.append_assoc] at rest

theorem beyond (outside : row.length ≤ k) : Reduces chosen compute row k := by
  intro before held failed holds
  unfold reduceFrom?
  rw [dif_neg (Nat.not_lt.mpr outside), List.drop_eq_nil_of_le outside]
  cases holds with
  | nothing closed => simp [reduceFrom]
  | number x => simp [reduceFrom]

/-- An item behind something that is no left side is written as it is. -/
theorem behindNothing (next : Reduces chosen compute row (k + 1)) (inside : k < row.length)
    {before : List Item} (closed : ∀ x, before.getLast? ≠ some (.value x)) (failed : Bool) :
    reduceFrom? chosen compute row k before failed =
      some (before ++ (reduceFrom chosen compute (row.drop k)).1,
        failed || (reduceFrom chosen compute (row.drop k)).2) := by
  unfold reduceFrom?
  rw [dif_pos inside, written?_eq, number?_eq, List.getElem?_eq_getElem inside,
    List.drop_eq_getElem_cons inside]
  simp only [Option.bind_eq_bind, Option.bind_some]
  cases row[k] with
  | value y => exact next.afterNumber before y failed
  | operator o =>
    rw [reduceFrom_operator]
    cases last : before.getLast? with
    | none => exact next.afterOperator before o failed
    | some item =>
      cases item with
      | operator _ => exact next.afterOperator before o failed
      | value x => exact absurd last (closed x)

/-- An operator behind a number is computed with the number behind it, if there is one. -/
theorem behindNumber (next : Reduces chosen compute row (k + 1))
    (later : Reduces chosen compute row (k + 2)) (inside : k < row.length) (before : List Item)
    (x : Float) (failed : Bool) :
    reduceFrom? chosen compute row k (before ++ [.value x]) failed =
      some (before ++ (reduceFrom chosen compute (.value x :: row.drop k)).1,
        failed || (reduceFrom chosen compute (.value x :: row.drop k)).2) := by
  unfold reduceFrom?
  rw [dif_pos inside, written?_eq, number?_eq, List.getElem?_eq_getElem inside,
    List.drop_eq_getElem_cons inside, List.getLast?_concat]
  simp only [Option.bind_eq_bind, Option.bind_some]
  cases row[k] with
  | value y =>
    rw [reduceFrom_numbers]
    have rest := next.afterNumber (before ++ [.value x]) y failed
    simp only [List.append_assoc, List.singleton_append] at rest ⊢
    exact rest
  | operator o =>
    have rest := next.afterOperator (before ++ [.value x]) o failed
    simp only [List.append_assoc, List.singleton_append] at rest ⊢
    rcases shape : row.drop (k + 1) with _ | ⟨_ | y, more⟩ <;> rw [shape] at rest
    · simpa only [reduceFrom] using rest
    · simpa only [reduceFrom] using rest
    · rw [reduceFrom]
      dsimp only
      by_cases applies : chosen o = true
      · rw [if_pos applies, if_pos applies]
        have behind : row.drop (k + 2) = more := by
          rw [← List.tail_drop, shape, List.tail_cons]
        have joined := later.afterNumber before (compute o x y).1 (failed || (compute o x y).2)
        rw [behind, Bool.or_assoc] at joined
        simpa using joined
      · rw [if_neg applies, if_neg applies]
        exact rest

end Reduces

theorem reduceFrom?_reduces (row : List Item) (k : Nat) : Reduces chosen compute row k := by
  rcases Nat.lt_or_ge k row.length with inside | outside
  · have next := reduceFrom?_reduces row (k + 1)
    have later := reduceFrom?_reduces row (k + 2)
    intro before held failed holds
    cases holds with
    | nothing closed =>
      rw [List.append_nil, List.nil_append]
      exact next.behindNothing inside closed failed
    | number x => exact next.behindNumber later inside before x failed
  · exact .beyond outside
termination_by row.length - k

theorem rowValue?_eq (row : List Item) : rowValue? row = some (value row) := by
  have joined := joinSigns?_eq row 0 []
  have reduced (chosen : Operator → Bool) (compute : Operator → Float → Float → Float × Bool)
      (row : List Item) : reduceFrom? chosen compute row 0 [] false =
        some (reduceFrom chosen compute row) := by
    have all : reduceFrom? chosen compute row 0 ([] ++ []) false = _ :=
      reduceFrom?_reduces row 0 [] [] false (.nothing nofun)
    simpa using all
  unfold rowValue? value
  rw [joined]
  simp only [Option.bind_eq_bind, Option.bind_some, reduced]
  rfl

end Passes
end Checked
end BigScript
