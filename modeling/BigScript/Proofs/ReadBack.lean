import BigScript.Proofs.Assignment

/-!
# Reading what was written

Names are taken apart twice: once where a value is assigned, to find the place that it goes to, and
once where a name is read, to find the places that are asked for it.  The two do not agree on every
name.  A value for a name that always belongs to the globals goes past the local frames, but a local
variable of that name is asked first; and a value for the name of the result, in whatever letter case
it is written, goes to one variable, which is read under its own spelling only.

`read_law` says that these are the only names that do not answer with what was written under them,
and that they answer as before.  With `global` a value is read back in the same way before it is set
among the globals, so that what is set there is the value that was computed or that of a local
variable; `global_law` says which.
-/

namespace BigScript

open Machine

namespace Machine

variable {name value : String}

/-- Whether what is assigned to a name is what the name answers with: it is spelled as it is stored,
and no local variable hides it. -/
def isReached (m : Machine) (name : String) : Bool := storedName name == name && !m.isHidden name

/-- A name is stored as it is written, or as the name of the result. -/
theorem storedName_cases (name : String) : storedName name = name ∨ storedName name = "ReturnValue" := by
  unfold storedName
  split
  · exact .inr rfl
  · exact .inl rfl

/-- A hidden name is bound among the globals and goes on answering with a local variable. -/
theorem Binds.stored?_of_isHidden {before after : Machine} (binds : Binds name value before after)
    (hidden : before.isHidden name = true) : after.stored? name = before.stored? name := by
  rw [isHidden, Bool.and_eq_true, Option.isSome_iff_exists] at hidden
  rcases hidden with ⟨always, old, found⟩
  have shared : before.isShared name = true := by rw [isShared, always, Bool.or_true]
  have frames : after.locals = before.locals := by rw [binds.locals, if_pos shared]
  rw [Machine.stored?, Machine.stored?, frames, found, Option.some_or, Option.some_or]

/-- The variable for results is found under its own spelling only. -/
theorem Binds.stored?_of_ne {before after : Machine} (binds : Binds "ReturnValue" value before after)
    (other : name ≠ "ReturnValue") : after.stored? name = before.stored? name := by
  have shared : before.isShared "ReturnValue" = true := Bool.or_eq_true_iff.mpr (.inr (by decide))
  have lower : Text.lower name ≠ "ReturnValue" := Text.lower_ne_of_capital name (by decide)
  have globals : after.globals.find? name = before.globals.find? name := by
    rw [Bindings.find?, Bindings.find?, binds.others other, binds.others lower]
  rw [Machine.stored?, Machine.stored?, globals, binds.locals, if_pos shared]

/-- After an assignment a name answers with what was assigned if it is reached, and as before if it is
not; and the name that the value is stored under answers with it unless a local variable hides it. -/
theorem read_law (m : Machine) (value : String) (unread : Text.lower name ∉ readings)
    (undotted : '.' ∉ name.toList) :
    ((m.assign name value).get? name = if m.isReached name then some value else m.get? name) ∧
      (m.isHidden (storedName name) = false →
        (m.assign name value).get? (storedName name) = some value) := by
  have binds := assign_binds name value m
  have answer (machine : Machine) : machine.get? name = machine.stored? name :=
    machine.get?_eq_stored? unread undotted
  rw [answer, answer]
  rcases storedName_cases name with own | result
  · rw [own] at binds ⊢
    rw [isReached, own, beq_self_eq_true, Bool.true_and]
    cases hides : m.isHidden name with
    | false => exact ⟨binds.stored? hides, fun _ => (answer _).trans (binds.stored? hides)⟩
    | true => exact ⟨binds.stored?_of_isHidden hides, fun shown => by cases shown⟩
  · have plain (machine : Machine) : machine.get? "ReturnValue" = machine.stored? "ReturnValue" :=
      machine.get?_eq_stored? (by decide +kernel) (by decide)
    rw [result] at binds ⊢
    refine ⟨?_, fun shown => (plain _).trans (binds.stored? shown)⟩
    rw [isReached, result]
    by_cases same : name = "ReturnValue"
    · subst same
      rw [beq_self_eq_true, Bool.true_and]
      cases hides : m.isHidden "ReturnValue" with
      | false => exact binds.stored? hides
      | true => exact binds.stored?_of_isHidden hides
    · rw [beq_eq_false_iff_ne.mpr (Ne.symm same), Bool.false_and]
      exact binds.stored?_of_ne same

/-- In a function with a parameter of the same letters: the local variable takes the value, and is
read. -/
theorem read_law_local :
    let m : Machine := (Machine.start {}).pushScope (.ofList [("count", "1")])
    Text.lower "Count" ∉ readings ∧ '.' ∉ "Count".toList ∧ m.get? "Count" = some "1" ∧
      (m.assign "Count" "5").get? "Count" = some "5" := by
  intro m
  have unread : Text.lower "Count" ∉ readings := by decide +kernel
  have undotted : '.' ∉ "Count".toList := by decide
  have reached : m.isReached "Count" = true := by decide +kernel
  have answer := (read_law m "5" unread undotted).1
  rw [if_pos reached] at answer
  exact ⟨unread, undotted, by decide +kernel, answer⟩

/-- The variable for results, assigned to and printed under another spelling of its name. -/
def otherSpelling : String := "returnvalue = 6\nprint returnvalue"

/-- The value that was assigned is not found; and a parameter hides a value that goes past it. -/
theorem otherSpelling_unread :
    ((Machine.start {}).assign "returnvalue" "6").get? "returnvalue" = none ∧
      (Machine.runSource otherSpelling (.start {})).2.output = "returnvalue\n" ∧
      ((Machine.start {}).pushScope (.ofList [("XRaw", "1")]) |>.assign "XRaw" "5").get? "XRaw" =
        some "1" := by
  decide +kernel

/-! ## What is set among the globals -/

/-- Copying a variable out leaves every other global variable alone. -/
theorem copyOut_others (m : Machine) (name : String) {other : String} (different : other ≠ name) :
    (m.copyOut name).globals.valueOf? other = m.globals.valueOf? other := by
  unfold copyOut
  cases m.get? name with
  | none => rfl
  | some value =>
      dsimp only
      split
      · rfl
      · exact m.globals.valueOf?_set_of_ne different value

end Machine

namespace Statement

variable {toks : TokenStream} {i : Nat} {m : Machine}

/-- An assignment whose value is computed without a bug binds its name, also with a bug pending. -/
theorem assignAt_unraised (assigns : toks.assignsName i = true)
    (calm : ((Operand.assigned toks (i + 2)).run m).2.raises = m.raises) :
    (assignAt toks i).run m =
      let computed := ((Operand.assigned toks (i + 2)).run m).1
      ((computed.2, some (toks.peek i).rawName), m.assign (toks.peek i).rawName computed.1) := by
  have same := (Operand.assigned_computes toks (i + 2)).unraised calm
  have whole := TokenStream.isSymbol_dot_of_assignsName assigns
  unfold assignAt
  rw [if_neg (Bool.eq_false_iff.mp whole), Act.run_bind, Act.run_get]
  dsimp only
  rw [Act.run_bind, Act.run_bind, Act.run_get, same]
  dsimp only
  rw [Bool.and_not_self]
  rfl

/-- With `global` a variable is set among the globals to the value that was computed, unless a local
variable hides its name: then to the value of that one.  No other global variable is changed. -/
theorem global_law (run : Runner) (head : (toks.peek i).kind = .word .global)
    (assigns : toks.assignsName (i + 1) = true) (plain : Plain (toks.peek (i + 1)).rawName)
    (calm : ((Operand.assigned toks (i + 3)).run m).2.raises = m.raises) :
    let name := (toks.peek (i + 1)).rawName
    let value := ((Operand.assigned toks (i + 3)).run m).1.1
    let after := ((dispatch run toks i).run m).2
    (after.globals.valueOf? name =
        if m.isHidden name then localValue? name m.locals else some value) ∧
      ∀ other, other ≠ name → after.globals.valueOf? other = m.globals.valueOf? other := by
  intro name value after
  have binds : Binds name value m (m.assign name value) := plain.binds value m
  have begins := TokenStream.isAssignment_of_assignsName assigns
  have outcome : after = (m.assign name value).copyOut name := by
    change ((dispatch run toks i).run m).2 = _
    rw [dispatch_assignWord run (.inr (.inr rfl)) head, assignWord_run begins,
      assignAt_unraised assigns calm, Token.isWord, head]
    rfl
  rw [outcome]
  constructor
  · have shares : Shares name value m ((m.assign name value).copyOut name) := by
      apply Binds.shares
      rw [plain.own]
      exact binds
    cases hides : m.isHidden name with
    | false => exact shares.shown plain hides
    | true => exact shares.hidden plain hides
  · intro other different
    rw [copyOut_others _ name different, binds.others different]

/-- In a function whose parameter has the name: the sum is set among the globals. -/
theorem global_law_parameter :
    let toks := scan "global N = 2 + 3"
    let m : Machine := (Machine.start {}).pushScope (.ofList [("n", "7"), ("N", "8")])
    let after := ((dispatch idle toks 0).run m).2
    (toks.peek 0).kind = .word .global ∧ toks.assignsName 1 = true ∧ Plain (toks.peek 1).rawName ∧
      ((Operand.assigned toks 3).run m).2.raises = m.raises ∧
      after.globals.valueOf? "N" = some "5" := by
  intro toks m after
  have ⟨head, assigns, name, calm, computed, shown⟩ : (toks.peek 0).kind = .word .global ∧
      toks.assignsName 1 = true ∧ (toks.peek 1).rawName = "N" ∧
      ((Operand.assigned toks 3).run m).2.raises = m.raises ∧
      ((Operand.assigned toks 3).run m).1.1 = "5" ∧ m.isHidden "N" = false := by
    decide +kernel
  have plain : Plain (toks.peek 1).rawName := by
    rw [name]
    exact ⟨by decide, by decide +kernel, by decide, by decide +kernel⟩
  have law := (global_law idle head assigns plain calm).1
  rw [name, computed, shown] at law
  exact ⟨head, assigns, plain, calm, law⟩

end Statement

/-- A function that sets a global variable whose letters are those of its parameter. -/
def hiddenByLowerCase : String :=
  "start doing f(xraw)\n    global XRaw = 5\nend doing\nrun f(1)\nprint XRaw"

/-- The variable is not mapped to the value: it has taken that of the parameter. -/
theorem hiddenByLowerCase_takesParameter :
    let ran := Machine.runSource hiddenByLowerCase (.start {})
    ran.1.isNone = true ∧ ran.2.globals.valueOf? "XRaw" = some "1" ∧ ran.2.output = "1\n" := by
  decide +kernel

end BigScript
