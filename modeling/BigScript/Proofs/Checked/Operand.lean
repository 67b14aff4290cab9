import BigScript.Machine.Condition
import BigScript.Proofs.Checked.Formula

/-!
# Checked operands

The readers of values, conditions, targets and tails.  They are safe at every index of every stream,
also where nothing stands: statements and verbs may call them wherever their own cursors have run to.
Only the place of an at sign is asked for with its left neighbour, and it is asked for where an at sign
stands.
-/

namespace BigScript
namespace Checked

/-! ## Built texts, formulas and values -/

/-- The tokens from index `j` up to but not including index `stop`, one after another. -/
def each? (toks : TokenStream) (j stop : Nat) : Option (List Token) :=
  if j < stop then do
    let t ← toks[j]?
    return t :: (← each? toks (j + 1) stop)
  else return []
termination_by stop - j

/-- The last index that belongs to a bracket whose end was looked for. -/
def lastOf? (toks : TokenStream) (stop : Nat) : Option Nat :=
  if stop < toks.size then do
    let t ← toks[stop]?
    if t.isFinish then before? stop else return stop
  else before? stop

/-- Reads a built text. -/
def warp (toks : TokenStream) (i : Nat) : Checked (String × Nat) := do
  let stop := toks.closing .leftParen .rightParen 0 (i + 2)
  let inside ← each? toks (i + 2) stop
  let last ← lastOf? toks stop
  return ((← get).interpolate (Text.trim (TokenStream.written inside)), last)

/-- Reads a formula in brackets. -/
def solve (toks : TokenStream) (i : Nat) : Checked (Float × Nat) := do
  let stop := toks.closing .leftBracket .rightBracket 0 (i + 2)
  let inside ← cut? toks (i + 2) (min stop toks.size)
  let x ← evaluate inside
  let last ← lastOf? toks stop
  return (x, last)

/-- Reads one value at an index that holds no sign for a target. -/
def valueAt (toks : TokenStream) (i : Nat) : Checked (String × Nat) := do
  let m ← get
  let t := toks.peek i
  let next := toks.peek (i + 1)
  if t.isWord .len then
    let (name, last) := toks.bracedName (i + 1)
    return (Number.digitText (m.valueLength name), last)
  else if t.isSymbol .dollar && next.kind == .name then
    return (m.getD next.content ("$" ++ next.content), i + 1)
  else if t.isSymbol .leftBrace && (toks.peek (i + 2)).isSymbol .rightBrace then
    let (name, last) := toks.bracedName i
    return (m.getD name name, last)
  else if toks.opensWarp i then warp toks i
  else if toks.opensSolve i then
    let (x, last) ← solve toks i
    return (Number.format x, last)
  else
    match t.lexeme with
    | .text s => return (m.interpolate s, i)
    | _ => return (m.tokenValue t, i)

/-- Reads one value. -/
def value (toks : TokenStream) (i : Nat) : Checked (String × Nat) := valueAt toks (toks.skipAts i)

/-- Reads one value and replaces the references in it. -/
def text (toks : TokenStream) (i : Nat) : Checked (String × Nat) := do
  let (v, last) ← value toks i
  return ((← get).interpolate v, last)

/-- The tokens of the formula that begins at an index and goes on over its line, if they are one. -/
def formula? (toks : TokenStream) (i : Nat) : Option (Option TokenStream) :=
  if i < toks.formulaEnd i then do
    let row ← cut? toks i (toks.formulaEnd i)
    return if Formula.isMath row.toList then some row else none
  else return none

/-- Reads the value of an assignment. -/
def assigned (toks : TokenStream) (i : Nat) : Checked (String × Nat) := do
  if toks.opensWarp i then warp toks i
  else if toks.opensSolve i then
    let (x, last) ← solve toks i
    return (Number.format x, last)
  else
    match ← formula? toks i with
    | some row =>
      let x ← evaluate row
      let last ← before? (toks.formulaEnd i)
      return (Number.format x, last)
    | none =>
      if (toks.peek i).isFinish then
        let last ← before? i
        return ("", last)
      else value toks i

section Brackets

variable {toks : TokenStream} {i j stop : Nat}

theorem closing_le (toks : TokenStream) (opener closer : Symbol) (depth j : Nat) :
    toks.closing opener closer depth j ≤ max j toks.size := by
  fun_induction TokenStream.closing toks opener closer depth j <;> omega

theorem each?_eq (toks : TokenStream) (j : Nat) (inside : stop ≤ max j toks.size) :
    each? toks j stop = some (toks.slice j stop) := by
  unfold each?
  split
  · rename_i order
    have further : j < toks.size := by omega
    rw [token_eq further, each?_eq toks (j + 1) (by omega), TokenStream.slice_cons order further]
    rfl
  · rename_i outside
    rw [TokenStream.slice_eq, Nat.sub_eq_zero_of_le (Nat.le_of_not_lt outside), List.take_zero]
    rfl
termination_by stop - j

theorem lastOf?_eq (positive : 0 < stop) : lastOf? toks stop = some (toks.lastOf stop) := by
  unfold lastOf? TokenStream.lastOf
  split
  · rename_i inside
    rw [token_eq inside, Option.bind_eq_bind, Option.bind_some]
    split
    · exact before?_eq positive
    · rfl
  · rename_i outside
    rw [TokenStream.peek_of_le (Nat.le_of_not_lt outside)]
    exact before?_eq positive

theorem warp_agrees (toks : TokenStream) (i : Nat) : Agrees (warp toks i) (Operand.warp toks i) := by
  have room := toks.le_closing .leftParen .rightParen 0 (i + 2)
  refine .given (each?_eq toks (i + 2) (closing_le ..)) ?_
  refine .given (lastOf?_eq (by omega)) ?_
  exact .bind .get fun m => .pure _

theorem solve_agrees (inside : i + 1 < toks.size) : Agrees (solve toks i) (Operand.solve toks i) := by
  have room := toks.le_closing .leftBracket .rightBracket 0 (i + 2)
  have bound := closing_le toks .leftBracket .rightBracket 0 (i + 2)
  unfold solve
  dsimp only
  rw [Nat.min_eq_left (by omega)]
  refine .given (cut?_eq room (by omega)) ?_
  refine .bind (evaluate_agrees _) fun x => ?_
  exact .given (lastOf?_eq (by omega)) (.pure _)

theorem opensSolve_inside (opens : toks.opensSolve i = true) : i + 1 < toks.size := by
  unfold TokenStream.opensSolve at opens
  rw [Bool.and_eq_true] at opens
  exact lt_of_symbol opens.2

theorem valueAt_agrees (toks : TokenStream) (i : Nat) :
    Agrees (valueAt toks i) (Operand.valueAt toks i) := by
  refine .bind .get fun m => ?_
  refine .ite (fun _ => .pure _) fun _ => ?_
  refine .ite (fun _ => .pure _) fun _ => ?_
  refine .ite (fun _ => .pure _) fun _ => ?_
  refine .ite (fun _ => warp_agrees toks i) fun _ => ?_
  refine .ite (fun opens => ?_) fun _ => ?_
  · exact .bind (solve_agrees (opensSolve_inside opens)) fun _ => .pure _
  · cases (toks.peek i).lexeme <;> exact .pure _

theorem value_agrees (toks : TokenStream) (i : Nat) :
    Agrees (value toks i) (Operand.value toks i) := valueAt_agrees toks _

theorem text_agrees (toks : TokenStream) (i : Nat) : Agrees (text toks i) (Operand.text toks i) :=
  .bind (value_agrees toks i) fun _ => .bind .get fun _ => .pure _

theorem add_formulaRun_le (line i : Nat) : i + toks.formulaRun line i ≤ max i toks.size := by
  unfold TokenStream.formulaRun
  split
  · split
    · exact Nat.le_max_left i _
    · have rest : i + 1 + toks.formulaRun line (i + 1) ≤ max (i + 1) toks.size :=
        add_formulaRun_le line (i + 1)
      omega
  · exact Nat.le_max_left i _
termination_by toks.size - i

theorem formula?_eq (toks : TokenStream) (i : Nat) :
    formula? toks i = some (if Formula.isMath (toks.slice i (toks.formulaEnd i)) then
      some (toks.extract i (toks.formulaEnd i)) else none) := by
  have order : i ≤ toks.formulaEnd i := Nat.le_add_right _ _
  have bound : toks.formulaEnd i ≤ max i toks.size := add_formulaRun_le _ i
  unfold formula?
  split
  · rw [cut?_eq order (by omega)]
    rfl
  · rename_i empty
    have none : toks.formulaEnd i = i := by omega
    rw [none, TokenStream.slice_self]
    rfl

theorem assigned_agrees (toks : TokenStream) (positive : 0 < i) :
    Agrees (assigned toks i) (Operand.assigned toks i) := by
  refine .ite (fun _ => warp_agrees toks i) fun _ => ?_
  refine .ite (fun opens => ?_) fun _ => ?_
  · exact .bind (solve_agrees (opensSolve_inside opens)) fun _ => .pure _
  · have order : i ≤ toks.formulaEnd i := Nat.le_add_right _ _
    refine .given (formula?_eq toks i) ?_
    by_cases math : Formula.isMath (toks.slice i (toks.formulaEnd i)) = true
    · rw [if_pos math, if_pos math]
      refine .bind (evaluate_agrees _) fun x => ?_
      exact .given (before?_eq (Nat.lt_of_lt_of_le positive order)) (.pure _)
    · rw [if_neg math, if_neg math]
      exact .ite (fun _ => .given (before?_eq positive) (.pure _)) fun _ => value_agrees toks i

end Brackets

/-! ## Measures -/

/-- The index behind the measure that begins at index `start`, looked for from index `j` on; from the
second token on the token before is looked at too. -/
def measureEnd? (toks : TokenStream) (line start j : Nat) : Option Nat :=
  if _inside : j < toks.size then do
    let t ← toks[j]?
    if t.isFinish || t.line != line || Operand.endsMeasure t then return j
    else if start < j then
      let before ← toks[j - 1]?
      if Operand.endsValue before && Operand.beginsValue t then return j
      else measureEnd? toks line start (j + 1)
    else measureEnd? toks line start (j + 1)
  else return j
termination_by toks.size - j

/-- Reads a formula in a drawing statement. -/
def measure (toks : TokenStream) (i : Nat) : Checked (Float × Nat) := do
  let stop ← measureEnd? toks (toks.peek i).line i i
  if stop = i then return (0, i)
  else
    let run ← cut? toks i stop
    let last ← before? stop
    return (← evaluate run, last)

/-- The token before index `j` of a measure that begins at index `start`. -/
def ahead (toks : TokenStream) (start j : Nat) : Option Token :=
  if start < j then some (toks.peek (j - 1)) else none

section Measures

variable {toks : TokenStream} {i : Nat}

theorem measureEnd?_eq (toks : TokenStream) (line start j : Nat) (order : start ≤ j) :
    ∃ stop, measureEnd? toks line start j = some stop ∧ j ≤ stop ∧ stop ≤ max j toks.size ∧
      Operand.measureRun line (ahead toks start j) (toks.toList.drop j) = toks.slice j stop := by
  have stays : ∃ stop, some j = some stop ∧ j ≤ stop ∧ stop ≤ max j toks.size ∧
      ([] : List Token) = toks.slice j stop :=
    ⟨j, rfl, Nat.le_refl j, Nat.le_max_left j _, (TokenStream.slice_self toks j).symm⟩
  unfold measureEnd?
  split
  · rename_i inside
    rcases measureEnd?_eq toks line start (j + 1) (Nat.le_succ_of_le order) with
      ⟨stop, found, further, bound, run⟩
    have goesOn : ahead toks start (j + 1) = some (toks.peek j) := if_pos (Nat.lt_succ_of_le order)
    rw [goesOn] at run
    have more : ∃ stop, measureEnd? toks line start (j + 1) = some stop ∧ j ≤ stop ∧
        stop ≤ max j toks.size ∧
        toks.peek j :: Operand.measureRun line (some (toks.peek j)) (toks.toList.drop (j + 1)) =
          toks.slice j stop := by
      refine ⟨stop, found, Nat.le_of_succ_le further, by omega, ?_⟩
      rw [run, TokenStream.slice_cons further inside]
    rw [token_eq inside, TokenStream.drop_of_lt inside, Option.bind_eq_bind, Option.bind_some,
      Operand.measureRun]
    cases ((toks.peek j).isFinish || (toks.peek j).line != line || Operand.endsMeasure (toks.peek j))
    with
    | true => exact stays
    | false =>
      rw [Bool.false_or, if_neg Bool.false_ne_true]
      by_cases behind : start < j
      · rw [if_pos behind, token_eq (show j - 1 < toks.size by omega), ahead, if_pos behind,
          Option.bind_some, Option.any_some]
        split
        · exact stays
        · exact more
      · rw [if_neg behind, ahead, if_neg behind, Option.any_none, Bool.false_and,
          if_neg Bool.false_ne_true]
        exact more
  · rename_i outside
    rw [TokenStream.drop_of_le (Nat.le_of_not_lt outside)]
    exact stays
termination_by toks.size - j

theorem measure_agrees (toks : TokenStream) (i : Nat) :
    Agrees (measure toks i) (Operand.measure toks i) := by
  rcases measureEnd?_eq toks (toks.peek i).line i i (Nat.le_refl i) with
    ⟨stop, found, order, bound, run⟩
  rw [ahead, if_neg (Nat.lt_irrefl i), ← TokenStream.slice_all] at run
  refine .given found ?_
  unfold Operand.measure
  dsimp only
  rw [run]
  by_cases empty : stop = i
  · rw [if_pos empty, empty, TokenStream.slice_self]
    exact .pure _
  · have size : (toks.extract i stop).toList.length = stop - i := by
      rw [Array.length_toList, Array.size_extract]
      omega
    have filled : ¬ (toks.extract i stop).toList.isEmpty = true := by
      rw [List.isEmpty_iff_length_eq_zero, size]
      omega
    rw [if_neg empty, TokenStream.slice, if_neg filled, size, Nat.add_sub_cancel' order]
    refine .given (cut?_eq order (by omega)) ?_
    refine .given (before?_eq (by omega)) ?_
    exact .bind (evaluate_agrees _) fun x => .pure _

end Measures

/-! ## Targets and tails -/

/-- Takes an optional tail after the token at an index and binds the results to its names. -/
def setAs (toks : TokenStream) (i : Nat) (results : List String) : Checked Nat := do
  let j := if (toks.peek (i + 1)).isSymbol .ampersand then i + 2 else i + 1
  if (toks.peek j).isWord .set && (toks.peek (j + 1)).isWord .asWord then
    let head ← toks[j]?
    let first := toks.peek (j + 2)
    if first.isWord .list && first.line == head.line then
      let (name, last) := toks.bracedName (j + 3)
      modify (Machine.assign name (Json.writeStrings results))
      return last
    else
      let stop ← of (Results.bindNames toks head.line results (j + 2))
      before? stop
  else return i

/-- Whether an at sign at an index follows the token before it without a gap. -/
def crowded? (toks : TokenStream) (i : Nat) : Option Bool :=
  if 0 < i then do
    let before ← toks[i - 1]?
    return before.line == (toks.peek i).line && (toks.peek i).column ≤ before.column + before.width
  else return false

/-- Checks the spacing around the at sign at an index. -/
def checkAt (toks : TokenStream) (i : Nat) : Checked Bool := do
  let sign := toks.peek i
  let next := toks.peek (i + 1)
  let place := " (Line " ++ Number.digitText sign.line ++ ")\n"
  if ← crowded? toks i then
    modify (Machine.print ("Big Error: Missing space before '@'!" ++ place))
    return false
  else if next.line != sign.line || next.column != sign.column + 1 then
    modify (Machine.print
      ("Big Error: The target must be attached directly to '@'. No spaces allowed!" ++ place))
    return false
  else return true

/-- Reads the name of a target at an index that holds an at sign. -/
def targetName? (toks : TokenStream) (i : Nat) : Checked (Option (String × Nat)) := do
  if (toks.peek i).isSymbol .at then
    if ← checkAt toks i then return some (toks.bracedName (i + 1)) else return none
  else return none

/-- Reads the value of a target at an index that holds an at sign. -/
def targetValue? (toks : TokenStream) (i : Nat) : Checked (Option (String × Nat)) := do
  if (toks.peek i).isSymbol .at then
    if ← checkAt toks i then return some (← text toks (i + 1)) else return none
  else return none

section Targets

variable {toks : TokenStream} {i : Nat}

theorem setAs_agrees (toks : TokenStream) (i : Nat) (results : List String) :
    Agrees (setAs toks i results) (Results.setAs toks i results) := by
  unfold setAs Results.setAs
  dsimp only
  generalize (if (toks.peek (i + 1)).isSymbol .ampersand = true then i + 2 else i + 1) = j
  refine .ite (fun tail => ?_) fun _ => .pure _
  rw [Bool.and_eq_true] at tail
  refine .given (token_eq (lt_of_word tail.1)) ?_
  refine .ite (fun _ => .bind (.modify _) fun _ => .pure _) fun _ => ?_
  have further := Results.bindNames_forward toks (toks.peek j).line results (j + 2)
  refine .bindYields (.of _) further fun stop reached => ?_
  exact .found (before?_eq (Nat.lt_of_lt_of_le (Nat.succ_pos _) reached))

theorem crowded?_eq (inside : i ≤ toks.size) :
    crowded? toks i = some (0 < i && (toks.peek (i - 1)).line == (toks.peek i).line &&
      (toks.peek i).column ≤ (toks.peek (i - 1)).column + (toks.peek (i - 1)).width) := by
  unfold crowded?
  split
  · rename_i positive
    rw [token_eq (show i - 1 < toks.size by omega), decide_eq_true positive, Bool.true_and]
    rfl
  · rename_i first
    rw [decide_eq_false first, Bool.false_and, Bool.false_and]
    rfl

theorem checkAt_agrees (inside : i ≤ toks.size) :
    Agrees (checkAt toks i) (Results.checkAt toks i) := by
  refine .given (crowded?_eq inside) ?_
  refine .ite (fun _ => .bind (.modify _) fun _ => .pure _) fun _ => ?_
  exact .ite (fun _ => .bind (.modify _) fun _ => .pure _) fun _ => .pure _

theorem targetName?_agrees (toks : TokenStream) (i : Nat) :
    Agrees (targetName? toks i) (Results.targetName? toks i) := by
  refine .ite (fun sign => ?_) fun _ => .pure _
  refine .bind (checkAt_agrees (Nat.le_of_lt (lt_of_symbol sign))) fun fine => ?_
  exact .ite (fun _ => .pure _) fun _ => .pure _

theorem targetValue?_agrees (toks : TokenStream) (i : Nat) :
    Agrees (targetValue? toks i) (Results.targetValue? toks i) := by
  refine .ite (fun sign => ?_) fun _ => .pure _
  refine .bind (checkAt_agrees (Nat.le_of_lt (lt_of_symbol sign))) fun fine => ?_
  exact .ite (fun _ => .bind (text_agrees toks _) fun _ => .pure _) fun _ => .pure _

end Targets

/-! ## Conditions

A condition is cut in two at its first comparison sign, and each side is a formula or is put together
from its tokens, with a look at the token behind a dollar sign.  The tokens of a condition are a cut
themselves and have no end behind them. -/

/-- The first comparison sign from an index on, with its index. -/
def comparison? (toks : TokenStream) (k : Nat) : Option (Nat × Comparison) :=
  if h : k < toks.size then
    match Comparison.ofKind? toks[k].kind with
    | some c => some (k, c)
    | none => comparison? toks (k + 1)
  else none
termination_by toks.size - k

/-- What the token behind a dollar sign at an index stands for, if it stands for something. -/
def dollar? (m : Machine) (toks : TokenStream) (j : Nat) : Option (Option String) := do
  let t ← toks[j]?
  if t.isSymbol .dollar && j + 1 < toks.size then
    let next ← toks[j + 1]?
    return m.get? next.rawName
  else return none

/-- The text of tokens that are no formula, from an index on. -/
def joined? (m : Machine) (toks : TokenStream) (j : Nat) : Option String :=
  if _inside : j < toks.size then do
    match ← dollar? m toks j with
    | some v => return v ++ (← joined? m toks (j + 2))
    | none =>
      let t ← toks[j]?
      return Condition.joined.sideValue m t ++ (← joined? m toks (j + 1))
  else return ""
termination_by toks.size - j

/-- One side of a comparison. -/
def side (toks : TokenStream) : Checked String := do
  if Formula.isMath toks.toList then return Number.format (← evaluate toks)
  else
    joined? (← get) toks 0

/-- Whether tokens ask for a pending bug. -/
def asksForPending? (toks : TokenStream) : Option Bool :=
  if toks.size = 3 then do
    let first ← toks[0]?
    let second ← toks[1]?
    let third ← toks[2]?
    return first.isWord .any && second.isWord .bug && third.isWord .found
  else return false

/-- Whether a condition holds. -/
def holds (toks : TokenStream) : Checked Bool := do
  if toks.size = 0 then return true
  else if ← asksForPending? toks then return (← get).bug.isSome
  else
    match comparison? toks 0 with
    | some (k, c) =>
      let left ← cut? toks 0 k
      let x ← side left
      let right ← cut? toks (k + 1) toks.size
      let y ← side right
      return c.holds x y
    | none => return (← evaluate toks) > 0

theorem comparison?_inside (toks : TokenStream) (k : Nat) :
    ∀ found ∈ comparison? toks k, k ≤ found.1 ∧ found.1 < toks.size := by
  unfold comparison?
  intro found here
  split at here
  · rename_i inside
    split at here
    · cases here
      exact ⟨Nat.le_refl k, inside⟩
    · have further := comparison?_inside toks (k + 1) found here
      exact ⟨Nat.le_of_succ_le further.1, further.2⟩
  · cases here
termination_by toks.size - k

theorem splitAtComparison_drop (toks : TokenStream) (k : Nat) :
    Condition.splitAtComparison (toks.toList.drop k) = (comparison? toks k).map fun (j, c) =>
      (toks.slice k j, c, toks.slice (j + 1) toks.size) := by
  unfold comparison?
  split
  · rename_i inside
    rw [TokenStream.drop_of_lt inside, Condition.splitAtComparison, ← TokenStream.peek_of_lt inside]
    cases Comparison.ofKind? (toks.peek k).kind with
    | some c =>
      dsimp only [Option.map_some]
      rw [TokenStream.slice_self, TokenStream.slice_all]
    | none =>
      dsimp only
      rw [splitAtComparison_drop toks (k + 1)]
      cases found : comparison? toks (k + 1) with
      | none => rfl
      | some sign =>
        have further := comparison?_inside toks (k + 1) sign found
        dsimp only [Option.map_some]
        rw [TokenStream.slice_cons further.1 inside]
  · rename_i outside
    rw [TokenStream.drop_of_le (Nat.le_of_not_lt outside)]
    rfl
termination_by toks.size - k

theorem joined?_eq (m : Machine) (toks : TokenStream) (j : Nat) :
    joined? m toks j = some (Condition.joined m (toks.toList.drop j)) := by
  unfold joined?
  split
  · rename_i inside
    have next := joined?_eq m toks (j + 1)
    have behind := joined?_eq m toks (j + 2)
    rw [TokenStream.drop_of_lt inside, token_eq inside]
    unfold dollar?
    rw [token_eq inside]
    rcases Nat.lt_or_ge (j + 1) toks.size with further | last
    · rw [TokenStream.drop_of_lt further] at next ⊢
      rw [token_eq further, Condition.joined]
      cases dollar : (toks.peek j).isSymbol .dollar with
      | false => simp [next, dollar]
      | true => cases value : m.get? (toks.peek (j + 1)).rawName <;>
        simp [next, behind, dollar, further, value]
    · rw [TokenStream.drop_of_le last] at next ⊢
      have short : ¬ j + 1 < toks.size := Nat.not_lt.mpr last
      simp [next, short, Condition.joined]
  · rename_i outside
    rw [TokenStream.drop_of_le (Nat.le_of_not_lt outside)]
    rfl
termination_by toks.size - j

theorem side_agrees (toks : TokenStream) : Agrees (side toks) (Condition.side toks.toList) := by
  refine .ite (fun _ => .bind (evaluate_agrees toks) fun _ => .pure _) fun _ => ?_
  exact .bind .get fun m => .found (joined?_eq m toks 0)

theorem asksForPending?_eq (toks : TokenStream) :
    asksForPending? toks = some (Condition.asksForBug toks.toList) := by
  unfold asksForPending? Condition.asksForBug
  rcases toks with ⟨_ | ⟨first, _ | ⟨second, _ | ⟨third, _ | ⟨fourth, rest⟩⟩⟩⟩⟩
  all_goals simp [Token.isWord, Bool.and_assoc]

theorem holds_agrees (toks : TokenStream) : Agrees (holds toks) (Condition.holds toks.toList) := by
  unfold holds Condition.holds
  by_cases empty : toks.size = 0
  · have none : toks.toList.isEmpty = true := by
      rw [List.isEmpty_iff_length_eq_zero, Array.length_toList, empty]
    rw [if_pos empty, if_pos none]
    exact .pure true
  · have some : ¬ toks.toList.isEmpty = true := by
      rwa [List.isEmpty_iff_length_eq_zero, Array.length_toList]
    rw [if_neg empty, if_neg some]
    refine .given (asksForPending?_eq toks) ?_
    refine .ite (fun _ => .bind .get fun _ => .pure _) fun _ => ?_
    have split := splitAtComparison_drop toks 0
    rw [List.drop_zero] at split
    rw [split]
    cases found : comparison? toks 0 with
    | none => exact .bind (evaluate_agrees toks) fun _ => .pure _
    | some sign =>
      have inside := (comparison?_inside toks 0 sign found).2
      refine .given (cut?_eq (Nat.zero_le _) (Nat.le_of_lt inside)) ?_
      refine .bind (side_agrees _) fun x => ?_
      refine .given (cut?_eq inside (Nat.le_refl _)) ?_
      exact .bind (side_agrees _) fun y => .pure _

end Checked
end BigScript
