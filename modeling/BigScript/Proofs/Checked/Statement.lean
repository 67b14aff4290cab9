import BigScript.Proofs.Checked.Operand
import BigScript.Proofs.Definitions
import BigScript.Proofs.Forward.Statement

/-!
# Checked statements

The statements of the control flow that run no other tokens.  A statement begins at a token, and every
access it makes is one it has looked ahead for.  The one statement that relies on more is the definition
of a function: its index is moved over the name and the parameters before anything is looked at again,
and it stays inside only because the stream has an end.
-/

/-!
## Streams with an end

Every stream that is run has a token at its end that marks it: a scanned source, a source whose loops
have been closed, and the body of a function, behind which the definition puts an end of its own.
-/

namespace BigScript

/-- A stream that has an end behind its other tokens. -/
structure Sealed (toks : TokenStream) : Prop where
  filled : 0 < toks.size
  ends : (toks.peek (toks.size - 1)).isFinish = true

/-- A list of tokens whose last one marks the end. -/
inductive Ending : List Token → Prop where
  | last {t : Token} (finish : t.isFinish = true) : Ending [t]
  | cons {t : Token} {rest : List Token} (ending : Ending rest) : Ending (t :: rest)

namespace Ending

variable {toks : List Token}

theorem append (before : List Token) (ending : Ending toks) : Ending (before ++ toks) := by
  induction before with
  | nil => exact ending
  | cons t before ih => exact .cons ih

theorem length_pos (ending : Ending toks) : 0 < toks.length := by
  cases ending <;> exact Nat.succ_pos _

theorem ends (ending : Ending toks) :
    (toks.getD (toks.length - 1) Token.absent).isFinish = true := by
  induction ending with
  | last finish => exact finish
  | @cons t rest ending ih =>
    have step : (t :: rest).length - 1 = rest.length - 1 + 1 :=
      (Nat.sub_add_cancel ending.length_pos).symm
    rw [step, List.getD_cons_succ]
    exact ih

theorem sealed (ending : Ending toks) : Sealed toks.toArray where
  filled := ending.length_pos
  ends := by
    unfold TokenStream.peek
    rw [Array.getD_eq_getD_getElem?, List.getElem?_toArray, ← List.getD_eq_getElem?_getD,
      List.size_toArray]
    exact ending.ends

theorem tokens (place : Place) (cs : List Char) : Ending (Scan.tokens place cs) := by
  fun_induction Scan.tokens place cs with
  | case1 => exact .last rfl
  | case2 _ _ _ _ ih => exact ih
  | case3 _ _ _ _ _ _ ih => exact ih
  | case4 _ _ _ _ _ _ ih => exact .cons ih

/-- Closing loops puts tokens before the end and none behind it. -/
theorem healFrom (ending : Ending toks) (line : Nat) (loops : List Token) :
    Ending (Heal.healFrom line loops toks) := by
  induction ending generalizing line loops with
  | last finish =>
    rw [Heal.healFrom, if_pos finish]
    exact .append _ (.last finish)
  | @cons t rest ending ih =>
    rw [Heal.healFrom]
    split
    · exact .append _ (.cons (ih _ _))
    · exact .append _ (.cons (ih _ _))

end Ending

namespace Sealed

variable {toks : TokenStream} {i j : Nat}

/-- Behind a token that is not the end there is another one. -/
theorem next (ends : Sealed toks) (unfinished : (toks.peek j).isFinish = false) :
    j + 1 < toks.size := by
  have inside := TokenStream.lt_of_not_finish unfinished
  rcases Nat.lt_or_ge (j + 1) toks.size with further | last
  · exact further
  · have same : toks.size - 1 = j := by omega
    have finished := ends.ends
    rw [same, unfinished] at finished
    cases finished

theorem scan (source : String) : Sealed (scan source) := (Ending.tokens _ _).sealed

theorem heal_scan (source : String) : Sealed (heal (BigScript.scan source)) :=
  ((Ending.tokens _ _).healFrom 0 []).sealed

theorem push (toks : TokenStream) {finish : Token} (ends : finish.isFinish = true) :
    Sealed (toks.push finish) where
  filled := by
    rw [Array.size_push]
    exact Nat.succ_pos _
  ends := by
    rw [Array.size_push, Nat.add_sub_cancel, TokenStream.peek_of_lt (by simp), Array.getElem_push_eq]
    exact ends

/-- The streams that a run of a sealed stream leads to are sealed. -/
theorem passes : Passes Sealed where
  definition := fun _ _ => push _ rfl
  source := by
    intro toks i m nested _ runs included
    cases Statement.nested?_nests runs with
    | source last found => exact scan _
    | call | background | inline => contradiction

end Sealed
end BigScript

namespace BigScript
namespace Checked

/-! ## Assignments and results -/

/-- Assigns to the target at an index. -/
def assignAt (toks : TokenStream) (i : Nat) : Checked (Nat × Option String) := do
  let first ← toks[i]?
  let target := first.rawName
  if (toks.peek (i + 1)).isSymbol .dot then
    let m ← get
    let value := m.interpolate (m.tokenValue (toks.peek (i + 4)))
    match Value.withField? (m.getD target "") (toks.peek (i + 2)).rawName value with
    | some updated =>
      modify (Machine.assign target updated)
      return (i + 4, none)
    | none => return (i + 4, none)
  else
    let pending := (← get).bug.isSome
    let (value, last) ← assigned toks (i + 2)
    if (← get).bug.isSome && !pending then return (last, none)
    else
      modify (Machine.assign target value)
      return (last, some target)

/-- Carries out an assignment behind a word for it. -/
def assignWord (toks : TokenStream) (i : Nat) : Checked Nat := do
  let head ← toks[i]?
  if toks.isAssignment (i + 1) then
    let (last, name) ← assignAt toks (i + 1)
    if head.isWord .global then
      match name with
      | some name =>
        match (← get).get? name with
        | some value => if !name.isEmpty then modify (Machine.setGlobal name value)
        | none => pure ()
      | none => pure ()
    return last
  else lineEnd? toks i

/-- Gives the result of a function and leaves it. -/
def giveBack (toks : TokenStream) (i : Nat) : Checked Nat := do
  let next := toks.peek (i + 1)
  let head ← toks[i]?
  if next.isFinish || next.line != head.line || next.isSymbol .ampersand then
    modify fun m => { m.setGlobal "ReturnValue" "" with returning := true }
    return i
  else
    let (value, last) ← assigned toks (i + 1)
    if (← get).bug.isSome then return last
    else
      modify fun m => { m.setGlobal "ReturnValue" value with returning := true }
      return last

/-! ## Branches -/

/-- Goes on behind a condition that ends before index `stop`, or leaves the block under it out. -/
def choose (toks : TokenStream) (i stop : Nat) (head : Token) (taken : Bool) : Checked Nat := do
  modify fun m => { m with taken }
  if taken then
    if (toks.peek stop).isSymbol .ampersand then
      let sign ← toks[stop]?
      if sign.line == head.line then return stop else before? stop
    else before? stop
  else skipBlock? toks i head.column

/-- Enters the block under a condition that holds, and leaves it out otherwise. -/
def branch (toks : TokenStream) (i : Nat) : Checked Nat := do
  let head ← toks[i]?
  let stop := i + 1 + toks.conditionRun head.line (i + 1)
  let taken ← holds (← cut? toks (i + 1) stop)
  if ← asksForBug? toks i then modify Machine.clearBug
  choose toks i stop head taken

/-- Enters the block of an alternative when no branch before it was taken. -/
def alternative (toks : TokenStream) (i : Nat) : Checked Nat := do
  if (← get).taken then
    let head ← toks[i]?
    let last ← lineEnd? toks i
    let stop ← blockEnd? (toks.size + 1) toks head.column false (last + 1)
    before? stop
  else
    modify fun m => { m with taken := true }
    return i

section Branches

variable {toks : TokenStream} {i : Nat}

theorem isAssignment_inside (stands : toks.isAssignment i = true) : i < toks.size := by
  refine TokenStream.lt_of_not_finish (Bool.eq_false_iff.mpr fun finished => ?_)
  have kind : (toks.peek i).kind = .finish := eq_of_beq finished
  unfold TokenStream.isAssignment at stands
  dsimp only at stands
  rw [kind] at stands
  cases stands

theorem assignAt_agrees (inside : i < toks.size) :
    Agrees (assignAt toks i) (Statement.assignAt toks i) := by
  refine .given (token_eq inside) ?_
  refine .ite (fun _ => .bind .get fun m => ?_) fun _ => .bind .get fun m => ?_
  · dsimp only
    generalize Value.withField? _ _ _ = outcome
    cases outcome with
    | some updated => exact .bind (.modify _) fun _ => .pure _
    | none => exact .pure _
  · refine .bind (assigned_agrees toks (Nat.succ_pos _)) fun read => .bind .get fun after => ?_
    exact .ite (fun _ => .pure _) fun _ => .bind (.modify _) fun _ => .pure _

theorem assignWord_agrees (inside : i < toks.size) :
    Agrees (assignWord toks i) (Statement.assignWord toks i) := by
  refine .given (token_eq inside) ?_
  refine .ite (fun assigns => ?_) fun _ => .found (lineEnd?_eq inside)
  refine .bind (assignAt_agrees (isAssignment_inside assigns)) fun answer => ?_
  refine .ite (fun _ => ?_) fun _ => .pure _
  cases answer.2 with
  | none => exact .pure _
  | some name =>
    refine .bind .get fun m => ?_
    cases m.get? name with
    | none => exact .pure _
    | some value => exact .ite (fun _ => .bind (.modify _) fun _ => .pure _) fun _ => .pure _

theorem giveBack_agrees (inside : i < toks.size) :
    Agrees (giveBack toks i) (Statement.giveBack toks i) := by
  refine .given (token_eq inside) ?_
  refine .ite (fun _ => .bind (.modify _) fun _ => .pure _) fun _ => ?_
  refine .bind (assigned_agrees toks (Nat.succ_pos _)) fun read => .bind .get fun after => ?_
  exact .ite (fun _ => .pure _) fun _ => .bind (.modify _) fun _ => .pure _

theorem add_conditionRun_le (toks : TokenStream) (line i : Nat) (inside : i ≤ toks.size) :
    i + toks.conditionRun line i ≤ toks.size := by
  unfold TokenStream.conditionRun
  split
  · split
    · exact inside
    · rename_i further _
      have rest : i + 1 + toks.conditionRun line (i + 1) ≤ toks.size :=
        add_conditionRun_le toks line (i + 1) further
      omega
  · exact inside
termination_by toks.size - i

theorem branch_agrees (inside : i < toks.size) :
    Agrees (branch toks i) (Statement.branch toks i) := by
  have bound := add_conditionRun_le toks (toks.peek i).line (i + 1) inside
  refine .given (token_eq inside) ?_
  refine .given (cut?_eq (Nat.le_add_right _ _) bound) ?_
  refine .bind (holds_agrees _) fun taken => ?_
  refine .given (asksForBug?_eq toks i) ?_
  generalize stopped : i + 1 + toks.conditionRun (toks.peek i).line (i + 1) = stop
  have behind : before? stop = some (stop - 1) := before?_eq (by omega)
  have goesOn : Agrees (choose toks i stop (toks.peek i) taken) (do
      modify fun m => { m with taken }
      if taken then
        if (toks.peek stop).isSymbol .ampersand && (toks.peek stop).line == (toks.peek i).line
        then return stop
        else return stop - 1
      else return toks.skipBlock i (toks.peek i).column) := by
    refine .bind (.modify _) fun _ => .ite (fun _ => ?_) fun _ => .found (skipBlock?_eq inside _)
    by_cases sign : (toks.peek stop).isSymbol .ampersand = true
    · rw [if_pos sign, sign, Bool.true_and]
      refine .given (token_eq (lt_of_symbol sign)) ?_
      exact .ite (fun _ => .pure _) fun _ => .found behind
    · rw [if_neg sign, Bool.eq_false_iff.mpr sign, Bool.false_and, if_neg Bool.false_ne_true]
      exact .found behind
  exact .ite (fun _ => .bind (.modify _) fun _ => goesOn) fun _ => goesOn

theorem alternative_agrees (inside : i < toks.size) :
    Agrees (alternative toks i) (Statement.alternative toks i) := by
  refine .bind .get fun m => .ite (fun _ => ?_) fun _ => .bind (.modify _) fun _ => .pure _
  refine .given (token_eq inside) (.given (lineEnd?_eq inside) ?_)
  have found := blockEnd?_eq (toks.size + 1) (toks.peek i).column false (lineEnd_lt inside) (by omega)
  have further : toks.lineEnd i + 1 ≤ toks.blockEnd (toks.peek i).column false (toks.lineEnd i + 1) :=
    TokenStream.le_blockEnd _ false _
  exact .given found (.found (before?_eq (Nat.lt_of_lt_of_le (Nat.succ_pos _) further)))

end Branches

/-! ## Loops -/

/-- Whether the limit of a loop is written at an index. -/
def limited? (toks : TokenStream) (line j : Nat) : Option Bool :=
  if (toks.peek j).line == line && (toks.peek j).isSymbol .dot && (toks.peek (j + 1)).kind == .name
  then do
    let name ← toks[j + 1]?
    return Text.sameWord name.content "r" && (toks.peek (j + 2)).isSymbol .dot
  else return false

/-- The limit of a loop and the index behind it. -/
def loopLimit (toks : TokenStream) (line j : Nat) : Checked (Int × Nat) := do
  if ← limited? toks line j then
    return (Number.toInt64 ((← get).tokenNumber (toks.peek (j + 3))), j + 4)
  else return (0, j)

/-- The source a loop walks over at an index, with the index behind it. -/
def walkSource (toks : TokenStream) (j : Nat) : Checked (String × Nat) := do
  let m ← get
  if (toks.peek j).kind == .text then
    let t ← toks[j]?
    return (m.interpolate t.content, j + 1)
  else
    let (name, last) := toks.bracedName j
    return (m.getD name "", last + 1)

/-- The walk of a loop. -/
def loopWalk? (toks : TokenStream) (line j : Nat) : Checked (Option Walk) := do
  let first := toks.peek j
  if first.line == line && (first.isWord .on || first.isWord .atWord) then
    let (raw, j) ← walkSource toks (j + 1)
    if (toks.peek j).isWord .asWord then
      let (itemName, last) := toks.bracedName (j + 1)
      let t := toks.peek (last + 1)
      let valueName :=
        if t.line == line && (t.isSymbol .leftBrace || t.kind == .name)
        then (toks.bracedName (last + 1)).1 else ""
      return some (Walk.through raw itemName valueName)
    else return some (Walk.through raw "" "")
  else return none

/-- Sets the variables of a loop to an item of its walk. -/
def bindTo (walk : Walk) (item : String) (m : Machine) : Machine :=
  let m := if walk.itemName.isEmpty then m else m.assign walk.itemName item
  if walk.valueName.isEmpty then m
  else if walk.isMap then m.assign walk.valueName (Value.fieldOrNothing walk.raw item)
  else m.assign walk.valueName (Number.digitText (walk.cursor + 1))

/-- Whether a body begins at an index, right of a column. -/
def opensBody? (toks : TokenStream) (first column : Nat) : Option Bool :=
  if first < toks.size then do
    let t ← toks[first]?
    return !t.isFinish && t.column > column
  else return false

/-- Opens a loop whose options begin at index `options`. -/
def openLoop (toks : TokenStream) (i options : Nat) : Checked Nat := do
  let head ← toks[i]?
  let (limit, j) ← loopLimit toks head.line options
  let walk ← loopWalk? toks head.line j
  let last ← lineEnd? toks i
  let valid ← opensBody? toks (last + 1) head.column
  let frame : LoopFrame := { resume := last + 1, valid, limit, walk }
  match walk with
  | some walk =>
    if walk.items.isEmpty then afterKeep? toks 1 (last + 1)
    else
      let item ← walk.items[walk.cursor]?
      modify fun m => { bindTo walk item m with loops := frame :: m.loops }
      return last
  | none =>
    modify fun m => { m with loops := frame :: m.loops }
    return last

/-- Whether a condition is the word for a loop without one. -/
def bare? (condition : TokenStream) : Option Bool :=
  if condition.size = 1 then do
    let t ← condition[0]?
    return t.isWord .loop
  else return false

/-- Ends a turn of the innermost loop and decides whether there is another. -/
def keep (toks : TokenStream) (i : Nat) : Checked Nat := do
  let last ← lineEnd? toks i
  match (← get).loops with
  | [] =>
    modify (Machine.stop (.badBlock "'keep' without an open loop"))
    return i
  | frame :: rest =>
    modify fun m => { m with loops := rest }
    if !frame.valid then return last
    else
      match frame.walk with
      | some walk =>
        let next : Walk := { walk with cursor := walk.cursor + 1 }
        if next.cursor < next.items.length then
          let item ← next.items[next.cursor]?
          modify (bindTo next item)
          of (Statement.goBack { frame with walk := some next })
        else return last
      | none =>
        let count := frame.count + 1
        if frame.limit > 0 && (count : Int) + 1 ≥ frame.limit then return last
        else
          let condition ← cut? toks (i + 1) (last + 1)
          if ← bare? condition then of (Statement.goBack { frame with count := 0 })
          else if ← holds condition then of (Statement.goBack { frame with count })
          else return last

/-- Leaves the innermost loop. -/
def leaveLoop (toks : TokenStream) (i : Nat) : Checked Nat := do
  match (← get).loops with
  | [] =>
    modify (Machine.stop (.badBlock "'stop loop' without an open loop"))
    return i
  | _ :: rest =>
    modify fun m => { m with loops := rest }
    afterKeep? toks 1 (i + 1)

/-- Leaves the innermost loop, all loops, or the whole run. -/
def stop (toks : TokenStream) (i : Nat) : Checked Nat := do
  let next := toks.peek (i + 1)
  if next.isWord .loop then leaveLoop toks (i + 1)
  else if next.isWord .run then
    modify fun m => { m with ended := true }
    return i + 1
  else if next.isName "all" then
    let depth := (← get).loops.length
    modify fun m => { m with loops := [] }
    if depth = 0 then return i + 1 else afterKeep? toks depth (i + 2)
  else lineEnd? toks i

section Loops

variable {toks : TokenStream} {i : Nat}

theorem limited?_eq (toks : TokenStream) (line j : Nat) :
    limited? toks line j = some ((toks.peek j).line == line && (toks.peek j).isSymbol .dot &&
      (toks.peek (j + 1)).isName "r" && (toks.peek (j + 2)).isSymbol .dot) := by
  unfold limited? Token.isName
  rw [← Bool.and_assoc]
  split
  · rename_i stands
    have named := (Bool.and_eq_true_iff.mp stands).2
    rw [stands, Bool.true_and, token_eq (lt_of_kind named nofun)]
    rfl
  · rename_i fails
    rw [Bool.eq_false_iff.mpr fails, Bool.false_and, Bool.false_and]
    rfl

theorem loopLimit_agrees (toks : TokenStream) (line j : Nat) :
    Agrees (loopLimit toks line j) (Statement.loopLimit toks line j) := by
  refine .given (limited?_eq toks line j) ?_
  exact .ite (fun _ => .bind .get fun _ => .pure _) fun _ => .pure _

theorem walkSource_agrees (toks : TokenStream) (j : Nat) :
    Agrees (walkSource toks j) (Statement.walkSource toks j) := by
  refine .bind .get fun m => ?_
  by_cases text : ((toks.peek j).kind == .text) = true
  · rw [if_pos text, Token.lexeme_of_text (eq_of_beq text)]
    exact .given (token_eq (lt_of_kind text nofun)) (.pure _)
  · rw [if_neg text]
    rw [Token.kind] at text
    cases shape : (toks.peek j).lexeme with
    | text s =>
      rw [shape] at text
      exact absurd rfl text
    | number | rate | name | foreign | mark | symbol | word | finish => exact .pure _

theorem loopWalk?_agrees (toks : TokenStream) (line j : Nat) :
    Agrees (loopWalk? toks line j) (Statement.loopWalk? toks line j) := by
  refine .ite (fun _ => .bind (walkSource_agrees toks _) fun source => ?_) fun _ => .pure _
  exact .ite (fun _ => .pure _) fun _ => .pure _

/-- A walk begins at its first item. -/
theorem loopWalk?_cursor (toks : TokenStream) (line j : Nat) :
    Yields (Statement.loopWalk? toks line j) fun walk? => ∀ walk ∈ walk?, walk.cursor = 0 := by
  have begins (raw itemName valueName : String) :
      ∀ walk ∈ some (Walk.through raw itemName valueName), walk.cursor = 0 := by
    intro walk here
    rw [← Option.some.inj here]
    rfl
  exact .ite (.andThen fun _ => .ite (.pure (begins _ _ _)) (.pure (begins _ _ _))) (.pure nofun)

theorem bindItem_eq {walk : Walk} {item : String} (found : walk.items[walk.cursor]? = some item)
    (m : Machine) : walk.bindItem m = bindTo walk item m := by
  unfold Walk.bindItem bindTo
  rw [List.getD_eq_getElem?_getD, found, Option.getD_some]

theorem opensBody?_eq (toks : TokenStream) (first column : Nat) :
    opensBody? toks first column =
      some (!(toks.peek first).isFinish && (toks.peek first).column > column) := by
  unfold opensBody?
  split
  · rename_i inside
    rw [token_eq inside]
    rfl
  · rename_i outside
    rw [TokenStream.peek_of_le (Nat.le_of_not_lt outside)]
    rfl

theorem openLoop_agrees (inside : i < toks.size) (options : Nat) :
    Agrees (openLoop toks i options) (Statement.openLoop toks i options) := by
  refine .given (token_eq inside) ?_
  refine .bind (loopLimit_agrees toks _ _) fun limit => ?_
  refine .bindYields (loopWalk?_agrees toks _ _) (loopWalk?_cursor toks _ _) fun walk first => ?_
  refine .given (lineEnd?_eq inside) (.given (opensBody?_eq toks _ _) ?_)
  cases walk with
  | none => exact .bind (.modify _) fun _ => .pure _
  | some walk =>
    refine .ite (fun _ => ?_) fun some => ?_
    · exact .found (afterKeep?_eq (Nat.lt_of_le_of_lt (Nat.zero_le i) inside) 1 _)
    · have cursor : walk.cursor < walk.items.length := by
        rw [first walk rfl]
        rwa [List.isEmpty_iff_length_eq_zero, ← Ne, ← Nat.pos_iff_ne_zero] at some
      have found := List.getElem?_eq_getElem cursor
      refine .given found ?_
      simp only [← bindItem_eq found]
      exact .bind (.modify _) fun _ => .pure _

theorem bare?_eq (condition : TokenStream) :
    bare? condition = some (condition.toList.map Token.kind == [.word .loop]) := by
  unfold bare?
  rcases condition with ⟨_ | ⟨first, _ | ⟨second, rest⟩⟩⟩
  all_goals simp [Token.isWord]

theorem keep_agrees (inside : i < toks.size) : Agrees (keep toks i) (Statement.keep toks i) := by
  refine .given (lineEnd?_eq inside) (.bind .get fun m => ?_)
  cases m.loops with
  | nil => exact .bind (.modify _) fun _ => .pure _
  | cons frame rest =>
    refine .bind (.modify _) fun _ => .ite (fun _ => .pure _) fun _ => ?_
    cases frame.walk with
    | some walk =>
      refine .ite (fun more => ?_) fun _ => .pure _
      have found := List.getElem?_eq_getElem more
      refine .given found ?_
      have same : bindTo { walk with cursor := walk.cursor + 1 } _ =
          ({ walk with cursor := walk.cursor + 1 } : Walk).bindItem :=
        funext fun m => (bindItem_eq found m).symm
      rw [same]
      exact .bind (.modify _) fun _ => .of _
    | none =>
      refine .ite (fun _ => .pure _) fun _ => ?_
      have line : toks.lineEnd i + 1 ≤ toks.size := lineEnd_lt inside
      have order : i + 1 ≤ toks.lineEnd i + 1 := Nat.succ_le_succ (TokenStream.le_lineEnd i)
      refine .given (cut?_eq order line) (.given (bare?_eq _) ?_)
      refine .ite (fun _ => .of _) fun _ => .bind (holds_agrees _) fun _ => ?_
      exact .ite (fun _ => .of _) fun _ => .pure _

theorem leaveLoop_agrees (filled : 0 < toks.size) (i : Nat) :
    Agrees (leaveLoop toks i) (Statement.leaveLoop toks i) := by
  refine .bind .get fun m => ?_
  cases m.loops with
  | nil => exact .bind (.modify _) fun _ => .pure _
  | cons frame rest => exact .bind (.modify _) fun _ => .found (afterKeep?_eq filled 1 _)

theorem stop_agrees (inside : i < toks.size) : Agrees (stop toks i) (Statement.stop toks i) := by
  have filled : 0 < toks.size := Nat.lt_of_le_of_lt (Nat.zero_le i) inside
  refine .ite (fun _ => leaveLoop_agrees filled _) fun _ => ?_
  refine .ite (fun _ => .bind (.modify _) fun _ => .pure _) fun _ => ?_
  refine .ite (fun _ => .bind .get fun m => .bind (.modify _) fun _ => ?_) fun _ => ?_
  · exact .ite (fun _ => .pure _) fun _ => .found (afterKeep?_eq filled _ _)
  · exact .found (lineEnd?_eq inside)

end Loops

/-! ## Easing -/

/-- Moves a variable towards a target. -/
def step (toks : TokenStream) (i : Nat) : Checked Nat := do
  let (name, last) := toks.bracedName (i + 1)
  if (toks.peek (last + 1)).isWord .towards then
    let (target, last) ← measure toks (last + 2)
    match Statement.stepSpeed toks last with
    | .error () =>
      of (Statement.printLine "Speed must use 'Nx' syntax (e.g. 0.5x).")
      lineEnd? toks i
    | .ok (speed, last) =>
      let m ← get
      let time := Easing.stepTime m
      let current := Number.parseOrZero (m.getD name "")
      let reached := Easing.advance current target speed time
      modify fun m => { m with lastStep := some m.elapsed }
      modify (Machine.assign name (Number.format reached))
      return last
  else lineEnd? toks i

theorem step_agrees {toks : TokenStream} {i : Nat} (inside : i < toks.size) :
    Agrees (step toks i) (Statement.step toks i) := by
  unfold step Statement.step
  refine .ite (fun _ => .bind (measure_agrees toks _) fun read => ?_) fun _ => ?_
  · rcases read with ⟨target, last⟩
    dsimp only
    cases Statement.stepSpeed toks last with
    | error _ => exact .bind (.of _) fun _ => .found (lineEnd?_eq inside)
    | ok speed => exact .bind .get fun m => .bind (.modify _) fun _ => .bind (.modify _) fun _ => .pure _
  · exact .found (lineEnd?_eq inside)

/-! ## Definitions -/

/-- The parameters and the index of the first token of the body of a function whose name stands at an
index. -/
def parameters? (toks : TokenStream) (i : Nat) : Option (List String × Nat) :=
  if (toks.peek (i + 1)).isSymbol .leftParen then do
    let stop := toks.paramsEnd (i + 2)
    let inside ← each? toks (i + 2) stop
    return ((inside.filter fun t => !t.isMark ',').map Token.rawName, stop + 1)
  else return ([], i + 1)

/-- The index of the last token of a definition whose body ends at an index. -/
def definitionEnd? (toks : TokenStream) (stop : Nat) : Option Nat :=
  if stop < toks.size then do
    let t ← toks[stop]?
    if t.isWord .endWord then return stop + 1 else before? stop
  else before? stop

/-- Defines a function. -/
def define (toks : TokenStream) (i : Nat) : Checked Nat := do
  let (params, first) ← parameters? toks (i + 2)
  let stop := toks.bodyEnd first
  let body ← cut? toks first (min stop toks.size)
  let last := toks.peek stop
  let finish : Token := { lexeme := .finish, line := last.line, column := last.column }
  modify (Machine.define
    { name := (toks.peek (i + 2)).rawName, params, body := body.push finish })
  definitionEnd? toks stop

section Definitions

variable {toks : TokenStream} {i j : Nat}

theorem paramsEnd_lt (ends : Sealed toks) (j : Nat) (inside : j < toks.size) :
    toks.paramsEnd j < toks.size := by
  unfold TokenStream.paramsEnd
  rw [dif_pos inside, ← TokenStream.peek_of_lt inside]
  split
  · exact inside
  · rename_i further
    rw [Bool.or_eq_true, not_or, Bool.not_eq_true] at further
    exact paramsEnd_lt ends (j + 1) (ends.next further.1)
termination_by toks.size - j

theorem bodyEnd_le (toks : TokenStream) (j : Nat) : toks.bodyEnd j ≤ max j toks.size := by
  fun_induction TokenStream.bodyEnd toks j <;> omega

theorem parameters?_eq (ends : Sealed toks) (named : i < toks.size) :
    parameters? toks i = some (Statement.parameters toks i) ∧
      0 < (Statement.parameters toks i).2 ∧ (Statement.parameters toks i).2 ≤ toks.size := by
  unfold parameters? Statement.parameters
  by_cases opens : (toks.peek (i + 1)).isSymbol .leftParen = true
  · have further := ends.next (unfinished_of_kind opens nofun)
    have closed := paramsEnd_lt ends (i + 2) further
    have inside : toks.paramsEnd (i + 2) ≤ max (i + 2) toks.size :=
      Nat.le_trans (Nat.le_of_lt closed) (Nat.le_max_right _ _)
    rw [if_pos opens, if_pos opens]
    dsimp only
    rw [each?_eq toks (i + 2) inside]
    exact ⟨rfl, Nat.succ_pos _, closed⟩
  · rw [if_neg opens, if_neg opens]
    exact ⟨rfl, Nat.succ_pos i, named⟩

theorem definitionEnd?_eq (positive : 0 < j) :
    definitionEnd? toks j = some (if (toks.peek j).isWord .endWord then j + 1 else j - 1) := by
  unfold definitionEnd?
  split
  · rename_i inside
    rw [token_eq inside, Option.bind_eq_bind, Option.bind_some]
    split
    · rfl
    · exact before?_eq positive
  · rename_i outside
    rw [TokenStream.peek_of_le (Nat.le_of_not_lt outside)]
    exact before?_eq positive

theorem define_agrees (ends : Sealed toks) (doing : (toks.peek (i + 1)).isWord .doing = true) :
    Agrees (define toks i) (Statement.define toks i) := by
  have named := ends.next (unfinished_of_kind doing nofun)
  rcases parameters?_eq ends named with ⟨read, positive, inside⟩
  refine .given read ?_
  unfold Statement.define
  generalize Statement.parameters toks (i + 2) = read at positive inside ⊢
  rcases read with ⟨params, first⟩
  have order := toks.le_bodyEnd first
  have closed : toks.bodyEnd first ≤ toks.size :=
    Nat.le_trans (bodyEnd_le toks first) (Nat.max_le.mpr ⟨inside, Nat.le_refl _⟩)
  dsimp only at positive ⊢
  rw [Nat.min_eq_left closed]
  refine .given (cut?_eq order closed) (.bind (.modify _) fun _ => ?_)
  rw [← apply_ite Pure.pure]
  exact .found (definitionEnd?_eq (Nat.lt_of_lt_of_le positive order))

end Definitions

/-! ## The control flow -/

/-- Carries out a start word. -/
def start (toks : TokenStream) (i : Nat) : Checked Nat := do
  let next := toks.peek (i + 1)
  if next.isWord .loop then openLoop toks i (i + 2)
  else if next.isWord .doing then define toks i
  else
    if next.isWord .server then
      of (Statement.printLine ("Big Error: 'start server' is not available in scripts. " ++
        "Serve them with 'bigrun serve'. (Line " ++ Number.digitText next.line ++ ")"))
    let head ← toks[i]?
    skipBlock? toks i head.column

/-- Carries out a statement that has no word of its own. -/
def plain (toks : TokenStream) (i : Nat) : Checked Nat := do
  if toks.isAssignment i then
    let (last, _) ← assignAt toks i
    return last
  else if (toks.peek i).kind.isWord then lineEnd? toks i
  else return i

/-- Carries out a statement of the control flow that runs no other tokens, or one without a word of
its own. -/
def direct (toks : TokenStream) (i : Nat) : Checked Nat := do
  let head ← toks[i]?
  match head.kind with
  | .word .returnWord => giveBack toks i
  | .word .ifWord => branch toks i
  | .word .orWord => alternative toks i
  | .word .start => start toks i
  | .word .startLoop => openLoop toks i (i + 1)
  | .word .keep => keep toks i
  | .word .stop => stop toks i
  | .word .stopLoop => leaveLoop toks i
  | .word .step => step toks i
  | .word .set => assignWord toks i
  | .word .update => assignWord toks i
  | .word .global => assignWord toks i
  | .word .on => skipBlock? toks i head.column
  | .word .pin => skipBlock? toks i head.column
  | .word .control => skipBlock? toks i head.column
  | .symbol .leftBracket =>
    if (toks.peek (i + 1)).isWord .blueprint || (toks.peek (i + 1)).isWord .style
    then skipBlock? toks i head.column else return i
  | .symbol .ampersand => return i
  | _ => plain toks i

section Direct

variable {toks : TokenStream} {i : Nat}

theorem start_agrees (ends : Sealed toks) (inside : i < toks.size) :
    Agrees (start toks i) (Statement.start toks i) := by
  refine .ite (fun _ => openLoop_agrees inside _) fun _ => ?_
  refine .ite (fun doing => define_agrees ends doing) fun _ => ?_
  have skips : Agrees (do
      let head ← toks[i]?
      skipBlock? toks i head.column) (return toks.skipBlock i (toks.peek i).column) :=
    .given (token_eq inside) (.found (skipBlock?_eq inside _))
  exact .ite (fun _ => .bind (.of _) fun _ => skips) fun _ => skips

theorem plain_agrees (inside : i < toks.size) :
    Agrees (plain toks i) (Statement.plain toks i) := by
  refine .ite (fun _ => .bind (assignAt_agrees inside) fun _ => .pure _) fun _ => ?_
  exact .ite (fun _ => .found (lineEnd?_eq inside)) fun _ => .pure _

theorem direct_agrees (ends : Sealed toks) (inside : i < toks.size) :
    Agrees (direct toks i) (Statement.direct toks i) := by
  have skips : Agrees (liftM (skipBlock? toks i (toks.peek i).column))
      (Statement.skipBlock toks i) := .found (skipBlock?_eq inside _)
  refine .given (token_eq inside) ?_
  unfold Statement.direct
  generalize (toks.peek i).kind = kind
  split
  · exact giveBack_agrees inside
  · exact branch_agrees inside
  · exact alternative_agrees inside
  · exact start_agrees ends inside
  · exact openLoop_agrees inside _
  · exact keep_agrees inside
  · exact stop_agrees inside
  · exact leaveLoop_agrees ends.filled i
  · exact step_agrees inside
  · exact assignWord_agrees inside
  · exact assignWord_agrees inside
  · exact assignWord_agrees inside
  · exact skips
  · exact skips
  · exact skips
  · exact .ite (fun _ => skips) fun _ => .pure _
  · exact .pure _
  · -- Nothing is left to split where both sides share their branches.
    try split
    all_goals first | contradiction | exact plain_agrees inside

end Direct

end Checked
end BigScript
