import BigScript.Proofs.Expression.Effect
import BigScript.Proofs.Naming
import BigScript.Proofs.Structured.Simple

/-!
# Assignments and bugs

A division by zero can stand anywhere in an expression, and it still yields a number.  The statements
that take the value of an expression look at the pending bug before they use that number: where the
computation has raised a bug, the bug is all that is left of the statement.

With `global` a variable is set twice, and the second value is not the one that was computed: it is
what the name answers with after the assignment.  A parameter can have the name of a variable that
always belongs to the globals.  It is hidden from the assignment but not from the question, so that
the variable ends up with the value of the parameter (`hiddenGlobal_takesParameter`).
-/

namespace BigScript

namespace Machine

variable {name value : String} {m before after : Machine}

/-- Sets among the globals what a name answers with. -/
def copyOut (name : String) (m : Machine) : Machine :=
  match m.get? name with
  | some value => if name.isEmpty then m else m.setGlobal name value
  | none => m

/-- A name is bound where it belongs, and then what it answers with is set among the globals: its new
value, or that of a local variable in front of it. -/
structure Shares (name value : String) (before after : Machine) : Prop where
  copied : ∃ assigned, Binds (storedName name) value before assigned ∧ after = assigned.copyOut name
  shown : Plain name → before.isHidden name = false → after.globals.valueOf? name = some value
  hidden : Plain name → before.isHidden name = true →
    after.globals.valueOf? name = localValue? name before.locals

/-- The value has become the result of the current function, which is being left. -/
def Returns (value : String) (before after : Machine) : Prop :=
  after = { before with globals := before.globals.set "ReturnValue" value, returning := true }

theorem copyOut_of_get? (named : name ≠ "") (found : m.get? name = some value) :
    m.copyOut name = m.setGlobal name value := by
  have filled : name.isEmpty = false := by rwa [← Bool.not_eq_true, String.isEmpty_iff]
  simp only [copyOut, found, filled, Bool.false_eq_true, if_false]

theorem Binds.shares (binds : Binds (storedName name) value before m) :
    Shares name value before (m.copyOut name) where
  copied := ⟨m, binds, rfl⟩
  shown := by
    intro plain shown
    rw [plain.own] at binds
    rw [copyOut_of_get? plain.named (plain.get?_of_binds binds shown)]
    exact Bindings.valueOf?_set_self _ name value
  hidden := by
    intro plain hidden
    rw [plain.own] at binds
    rw [isHidden, Bool.and_eq_true, Option.isSome_iff_exists] at hidden
    rcases hidden with ⟨always, old, found⟩
    have shared : before.isShared name = true := by rw [isShared, always, Bool.or_true]
    have frames : m.locals = before.locals := by rw [binds.locals, if_pos shared]
    have answer : m.get? name = some old := by
      rw [plain.get?, Machine.stored?, frames, found, Option.some_or]
    rw [copyOut_of_get? plain.named answer, found]
    exact Bindings.valueOf?_set_self _ name old

end Machine

open Machine

/-- Where nothing is bound, every variable answers as before, but for the one for bugs. -/
theorem Unbound.get? {before after : Machine} (unbound : Unbound before after) {name : String}
    (plain : Plain name) (other : name ≠ "BugType") : after.get? name = before.get? name := by
  have kept : after.globals.find? name = before.globals.find? name := by
    rw [Bindings.find?, Bindings.find?, unbound.globals name other,
      unbound.globals _ (Text.lower_ne_bugType name)]
  rw [plain.get?, plain.get?, stored?, stored?, unbound.locals, kept]

/-- Whether a variable is assigned to at an index, and not a field of a map. -/
def TokenStream.assignsName (toks : TokenStream) (i : Nat) : Bool :=
  toks.isAssignment i && (toks.peek (i + 1)).isSymbol .assign

namespace TokenStream

variable {toks : TokenStream} {i : Nat}

theorem isAssignment_of_assignsName (assigns : toks.assignsName i = true) :
    toks.isAssignment i = true := by
  rw [assignsName, Bool.and_eq_true] at assigns
  exact assigns.1

/-- What is assigned to behind a name is a variable or a field, and not both. -/
theorem isSymbol_dot_of_assignsName (assigns : toks.assignsName i = true) :
    (toks.peek (i + 1)).isSymbol .dot = false := by
  rw [assignsName, Bool.and_eq_true, Token.isSymbol, beq_iff_eq] at assigns
  rw [Token.isSymbol, assigns.2]
  rfl

theorem sign_of_isAssignment (assigns : toks.isAssignment i = true) :
    (toks.peek (i + 1)).kind = .symbol .assign ∨ (toks.peek (i + 1)).kind = .symbol .dot := by
  simp only [isAssignment, Bool.and_eq_true, Bool.or_eq_true] at assigns
  rcases assigns with ⟨-, ⟨sign, -⟩ | ⟨⟨sign, -⟩, -⟩⟩
  · exact .inl (eq_of_beq sign)
  · exact .inr (eq_of_beq sign)

end TokenStream

/-- The statements that take the value of an expression: the index at which the expression begins,
and what is done with its value. -/
inductive Takes (toks : TokenStream) (i : Nat) :
    Nat → (String → Machine → Machine → Prop) → Prop where
  | plain (other : (toks.peek i).kind.beginsStatement = false) (assigns : toks.assignsName i) :
      Takes toks i (i + 2) (Binds (storedName (toks.peek i).rawName))
  | set {word : Keyword} (binding : word = .set ∨ word = .update)
      (head : (toks.peek i).kind = .word word) (assigns : toks.assignsName (i + 1)) :
      Takes toks i (i + 3) (Binds (storedName (toks.peek (i + 1)).rawName))
  | global (head : (toks.peek i).kind = .word .global) (assigns : toks.assignsName (i + 1)) :
      Takes toks i (i + 3) (Shares (toks.peek (i + 1)).rawName)
  | giveBack (head : (toks.peek i).kind = .word .returnWord) (follows : toks.onLine i (i + 1))
      (alone : (toks.peek (i + 1)).isSymbol .ampersand = false) :
      Takes toks i (i + 1) Returns

/-- A bug raised while the value is computed is all that is left of the statement, and a value that
was computed is put to its use. -/
structure Settles (use : String → Machine → Machine → Prop) (m : Machine)
    (computed : (String × Nat) × Machine) (after : Machine) : Prop where
  failed : computed.2.bug.isSome = true → after = computed.2 ∧ Unbound m after
  used : computed.2.bug = none → use computed.1.1 m after

namespace Statement

variable {toks : TokenStream} {i : Nat} {m : Machine}

theorem assignAt_run (assigns : toks.assignsName i = true) (calm : m.bug = none) :
    (assignAt toks i).run m =
      let computed := (Operand.assigned toks (i + 2)).run m
      if computed.2.bug.isSome then ((computed.1.2, none), computed.2)
      else ((computed.1.2, some (toks.peek i).rawName),
        computed.2.assign (toks.peek i).rawName computed.1.1) := by
  have whole := TokenStream.isSymbol_dot_of_assignsName assigns
  unfold assignAt
  rw [if_neg (Bool.eq_false_iff.mp whole), Act.run_bind, Act.run_get]
  dsimp only
  rw [Act.run_bind, Act.run_bind, Act.run_get, calm]
  simp only [Option.isSome_none, Bool.not_false, Bool.and_true]
  split <;> rfl

/-- An assignment settles with the value that it computed; what it answers with is the name that it
has bound. -/
theorem assignAt_settles (assigns : toks.assignsName i = true) (calm : m.bug = none) :
    let computed := (Operand.assigned toks (i + 2)).run m
    let done := (assignAt toks i).run m
    (computed.2.bug.isSome = true → done.1.2 = none ∧ done.2 = computed.2) ∧
      (computed.2.bug = none → done.1.2 = some (toks.peek i).rawName ∧
        Binds (storedName (toks.peek i).rawName) computed.1.1 m done.2) := by
  intro computed done
  have outcome : done = _ := assignAt_run assigns calm
  refine ⟨fun failed => ?_, fun fine => ?_⟩
  · rw [outcome]
    dsimp only
    rw [if_pos failed]
    exact ⟨rfl, rfl⟩
  · have same : computed.2 = m := (Operand.assigned_computes toks (i + 2)).unchanged fine
    rw [outcome]
    dsimp only
    rw [if_neg (by rw [fine]; exact Bool.false_ne_true)]
    refine ⟨rfl, ?_⟩
    change Binds _ _ m (computed.2.assign _ _)
    rw [same]
    exact assign_binds _ _ m

variable {name : String} {first : Nat} {use : String → Machine → Machine → Prop}

/-- A word in front of an assignment: with `global` the variable that was bound is copied out. -/
theorem assignWord_run (begins : toks.isAssignment (i + 1) = true) :
    (assignWord toks i).run m =
      let done := (assignAt toks (i + 1)).run m
      (done.1.1,
        match (toks.peek i).isWord .global, done.1.2 with
        | true, some name => done.2.copyOut name
        | _, _ => done.2) := by
  unfold assignWord
  rw [if_pos begins, Act.run_bind]
  rcases (assignAt toks (i + 1)).run m with ⟨⟨last, name⟩, after⟩
  dsimp only
  cases (toks.peek i).isWord .global with
  | false => rfl
  | true =>
      cases name with
      | none => rfl
      | some name =>
          rw [if_pos rfl, Act.run_bind, Act.run_get]
          dsimp only
          unfold copyOut
          cases after.get? name with
          | none => rfl
          | some value => cases name.isEmpty <;> rfl

theorem assignWord_settles (assigns : toks.assignsName (i + 1) = true) (calm : m.bug = none) :
    Settles (if (toks.peek i).isWord .global then Shares (toks.peek (i + 1)).rawName
        else Binds (storedName (toks.peek (i + 1)).rawName))
      m ((Operand.assigned toks (i + 3)).run m) ((assignWord toks i).run m).2 := by
  have settles := assignAt_settles assigns calm
  rw [assignWord_run (TokenStream.isAssignment_of_assignsName assigns)]
  constructor
  · intro failed
    rcases settles.1 failed with ⟨unnamed, after⟩
    dsimp only
    rw [unnamed, after]
    have computes := (Operand.assigned_computes toks (i + 3)).unbound m
    cases (toks.peek i).isWord .global <;> exact ⟨rfl, computes⟩
  · intro fine
    rcases settles.2 fine with ⟨named, binds⟩
    dsimp only
    rw [named]
    cases (toks.peek i).isWord .global with
    | false => exact binds
    | true => exact binds.shares

theorem giveBack_settles (follows : toks.onLine i (i + 1) = true)
    (alone : (toks.peek (i + 1)).isSymbol .ampersand = false) :
    Settles Returns m ((Operand.assigned toks (i + 1)).run m) ((giveBack toks i).run m).2 := by
  have computes := Operand.assigned_computes toks (i + 1)
  rw [TokenStream.onLine, Bool.and_eq_true, Bool.not_eq_true', beq_iff_eq] at follows
  have valued : ((toks.peek (i + 1)).isFinish || (toks.peek (i + 1)).line != (toks.peek i).line ||
      (toks.peek (i + 1)).isSymbol .ampersand) = false := by
    rw [follows.1, follows.2, bne_self_eq_false, alone]
    rfl
  unfold giveBack
  rw [if_neg (Bool.eq_false_iff.mp valued), Act.run_bind, Act.run_bind, Act.run_get]
  dsimp only
  constructor
  · intro failed
    rw [if_pos failed]
    exact ⟨rfl, computes.unbound m⟩
  · intro fine
    rw [if_neg (by rw [fine]; exact Bool.false_ne_true), Act.run_bind, Act.run_modify,
      computes.unchanged fine]
    rfl

/-! ## Which statement is carried out -/

theorem dispatch_assigns (run : Runner) (other : (toks.peek i).kind.beginsStatement = false)
    (assigns : toks.isAssignment i = true) :
    dispatch run toks i = assign toks i := by
  have apart : ((toks.peek (i + 1)).isWord .blueprint || (toks.peek (i + 1)).isWord .style) =
      false := by
    rcases TokenStream.sign_of_isAssignment assigns with sign | sign <;>
    · rw [Token.isWord, Token.isWord, sign]
      rfl
  have named : (toks.peek i).kind ≠ .symbol .leftBracket ∧
      (toks.peek i).kind ≠ .symbol .ampersand := by
    constructor <;>
    · intro same
      have begins := assigns
      simp only [TokenStream.isAssignment, same] at begins
      cases begins
  rw [dispatch_plain run other apart, if_neg (not_or.mpr named), plain, if_pos assigns]

theorem dispatch_assignWord (run : Runner) {word : Keyword}
    (assigning : word = .set ∨ word = .update ∨ word = .global)
    (head : (toks.peek i).kind = .word word) : dispatch run toks i = assignWord toks i := by
  unfold dispatch
  rcases assigning with rfl | rfl | rfl <;>
  · rw [head]
    simp only [direct, head]
    rfl

theorem dispatch_giveBack (run : Runner) (head : (toks.peek i).kind = .word .returnWord) :
    dispatch run toks i = giveBack toks i := by
  unfold dispatch
  rw [head]
  simp only [direct, head]
  rfl

/-- Where the computation of a value raises a bug, nothing is bound, copied out or given back, and
nothing else is changed but the state of bugs; and a formula by itself never changes more. -/
theorem assignment_law (run : Runner) {first : Nat} {use : String → Machine → Machine → Prop}
    (takes : Takes toks i first use) (calm : m.bug = none) :
    Settles use m ((Operand.assigned toks first).run m) ((dispatch run toks i).run m).2 ∧
      ∀ row anywhere, Unbound anywhere ((Formula.evaluate row).run anywhere).2 := by
  refine ⟨?_, fun row => (Formula.evaluate_computes row).unbound⟩
  cases takes with
  | plain other assigns =>
      have settles := assignAt_settles assigns calm
      rw [dispatch_assigns run other (TokenStream.isAssignment_of_assignsName assigns)]
      constructor
      · intro failed
        have after := (settles.1 failed).2
        exact ⟨after, after ▸ (Operand.assigned_computes toks (i + 2)).unbound m⟩
      · intro fine
        exact (settles.2 fine).2
  | set binding head assigns =>
      have settles := assignWord_settles assigns calm
      rw [Token.isWord, head] at settles
      rw [dispatch_assignWord run (binding.imp_right .inl) head]
      rcases binding with rfl | rfl <;> exact settles
  | global head assigns =>
      have settles := assignWord_settles assigns calm
      rw [Token.isWord, head] at settles
      rw [dispatch_assignWord run (.inr (.inr rfl)) head]
      exact settles
  | giveBack head follows alone =>
      rw [dispatch_giveBack run head]
      exact giveBack_settles follows alone

end Statement

/-- A division by zero inside a sum: the local variable that would be bound keeps its value. -/
theorem assignment_law_divided :
    let toks := scan "X = 2 + S[6 * (1 / 0)]"
    let m : Machine := (Machine.start {}).pushScope (.ofList [("X", "7")])
    let after := ((Statement.dispatch Statement.idle toks 0).run m).2
    m.bug = none ∧ Takes toks 0 2 (Binds (storedName (toks.peek 0).rawName)) ∧
      after.bug.isSome = true ∧ after.locals = [.ofList [("X", "7")]] := by
  intro toks m after
  have ⟨other, assigns, failed⟩ : (toks.peek 0).kind.beginsStatement = false ∧
      toks.assignsName 0 = true ∧ ((Operand.assigned toks 2).run m).2.bug.isSome = true := by
    decide +kernel
  have takes : Takes toks 0 2 (Binds (storedName (toks.peek 0).rawName)) := .plain other assigns
  have left : after = ((Operand.assigned toks 2).run m).2 ∧ Unbound m after :=
    (Statement.assignment_law Statement.idle takes rfl).1.failed failed
  rw [left.1]
  exact ⟨rfl, takes, failed, left.1 ▸ left.2.locals⟩

/-- A function that sets a global variable with the name of its parameter. -/
def hiddenGlobal : String :=
  "start doing f(XRaw)\n    global XRaw = 5\nend doing\nrun f(1)\nprint XRaw"

/-- The value that was computed is lost: the variable ends up with the argument. -/
theorem hiddenGlobal_takesParameter :
    let ran := Machine.runSource hiddenGlobal (.start {})
    ran.1.isNone = true ∧ ran.2.globals.valueOf? "XRaw" = some "1" ∧ ran.2.output = "1\n" := by
  decide +kernel

end BigScript
