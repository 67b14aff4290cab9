import BigScript.Run

/-!
# Statements that run other tokens

A statement runs at most one other stream of tokens, and only calls, inlined functions, background
runs, included files and prepared environments do so.  `nested?` names that stream, the machine it
begins in and what the statement does when the stream is over.  `dispatch_run` says that nothing
else about a statement depends on how streams are run: a statement without a nested stream is the
same under every runner.

The machine is cut here at the two places where control passes to the nested stream and comes back.
Everything that is proved about whole runs is proved about these two cuts, about statements without
a nested stream, and by induction.
-/

namespace BigScript

/-! ## The effects of actions -/

namespace Act
variable {α β : Type}

theorem run_bind (first : Act α) (next : α → Act β) (m : Machine) :
    (first >>= next).run m = (next (first.run m).1).run (first.run m).2 := rfl

theorem run_pure (value : α) (m : Machine) : (pure value : Act α).run m = (value, m) := rfl

theorem run_get (m : Machine) : (get : Act Machine).run m = (m, m) := rfl

theorem run_modify (change : Machine → Machine) (m : Machine) :
    (modify change : Act Unit).run m = ((), change m) := rfl

theorem run_set (after m : Machine) :
    (set after : Act Unit).run m = ((), after) := rfl

end Act

namespace Machine

theorem stop_of_halted (m : Machine) (cause : Cause) {fault : Fault} (halted : m.halt = some fault) :
    m.stop cause = m := by
  unfold stop
  rw [halted]

theorem stop_of_running (m : Machine) (cause : Cause) (running : m.halt = none) :
    m.stop cause = { m with
      halt := some (m.annotate { cause })
      output := m.output ++ (m.annotate { cause }).report } := by
  unfold stop
  rw [running]

/-- Stopping changes nothing but the fault and the output. -/
theorem stop_eq (m : Machine) (cause : Cause) :
    m.stop cause = { m with halt := (m.stop cause).halt, output := (m.stop cause).output } := by
  cases halted : m.halt with
  | none => rw [m.stop_of_running cause halted]
  | some fault => rw [m.stop_of_halted cause halted]

theorem stop_halt (m : Machine) (cause : Cause) : (m.stop cause).halt.isSome := by
  cases halted : m.halt with
  | none =>
    rw [m.stop_of_running cause halted]
    rfl
  | some fault =>
    rw [m.stop_of_halted cause halted, halted]
    rfl

/-- The end of an invocation changes nothing but the fault and the output. -/
theorem endInvocation_eq (m : Machine) : m.endInvocation =
    { m with halt := m.endInvocation.halt, output := m.endInvocation.output } := by
  unfold endInvocation
  split
  · exact m.stop_eq _
  · rfl

end Machine

/-! ## The two cuts -/

/-- Why a stream is run within a statement. -/
inductive Purpose where
  | call
  | inline
  | background
  | source
deriving DecidableEq, Repr

/-- A stream run within a statement. -/
structure Nested where
  purpose : Purpose
  inner : TokenStream
  /-- The machine in which the stream begins. -/
  entry : Machine
  /-- How the statement ends, given the machine in which the stream ended: with the index of its
  last token and the machine it leaves behind. -/
  complete : Machine → Nat × Machine

/-- How a statement ends that runs a stream in a given way. -/
def Nested.outcome (run : Runner) (nested : Nested) : Nat × Machine :=
  nested.complete ((run nested.inner).run nested.entry).2

namespace Machine

/-- The machine at the start of the body of a function. -/
def entered (procedure : Procedure) (args : List String) (line column : Nat) (m : Machine) :
    Machine :=
  { m with
    depth := m.depth + 1
    locals := Statement.callFrame procedure.params args :: m.locals
    calls := { name := procedure.name, line, column } :: m.calls
    loops := []
    globals := m.globals.erase "ReturnValue" }

/-- The machine after a call made from `before` whose body ended in `out`. -/
def leave (before out : Machine) : Machine :=
  { out.endInvocation.popScope with
    returning := false
    loops := before.loops
    taken := before.taken
    calls := out.endInvocation.calls.drop 1
    depth := out.endInvocation.depth - 1 }

/-- The result that a function has left. -/
def returned (m : Machine) : String := (m.globals.find? "ReturnValue").getD Value.nothing

/-- The machine of a thread of its own, which shares everything but the control state. -/
def forked (m : Machine) : Machine := { m with toThread := { lastReading := m.elapsed } }

end Machine

namespace Nested

/-- A call from a machine that has read the arguments up to index `last`. -/
def ofCall (toks : TokenStream) (last : Nat) (head : Token) (procedure : Procedure)
    (args : List String) (ready : Machine) : Nested where
  purpose := .call
  inner := procedure.body
  entry := ready.entered procedure args head.line head.column
  complete := fun out =>
    let m := ready.leave out
    if m.halt.isSome then (last, m) else (Statement.finish toks last [m.returned]).run m

/-- A run on a thread of its own. -/
def ofBackground (last : Nat) (procedure : Procedure) (m : Machine) : Nested where
  purpose := .background
  inner := procedure.body
  entry := m.forked.entered procedure [] m.line m.column
  complete := fun out => (last, { m.forked.leave out with toThread := m.toThread })

/-- A body that is run in the current scope. -/
def ofBody (last : Nat) (procedure : Procedure) (m : Machine) : Nested where
  purpose := .inline
  inner := procedure.body
  entry := { m with depth := m.depth + 1, loops := [] }
  complete := fun out => (last, { out with loops := m.loops, depth := out.depth - 1 })

/-- A source that is run in the current scope. -/
def ofSource (last : Nat) (source : String) (m : Machine) : Nested where
  purpose := .source
  inner := scan source
  entry := m
  complete := fun out => (last, out)

end Nested

namespace Statement

section Cuts

variable (toks : TokenStream) (i : Nat) (m : Machine)

/-- A runner that runs nothing. -/
def idle : Runner := fun _ => pure ()

/-- The call of the function named at an index, unless it is not there or the calls are too deep. -/
def callNested? (head : Token) : Option Nested :=
  let ((args, last), ready) := (callArguments toks i).run m
  match ready.procedure? (toks.peek i).rawName with
  | none => none
  | some procedure =>
    if ready.depth + 1 > deepestCall then none
    else some (.ofCall toks last head procedure args ready)

/-- The background run of the function named at an index. -/
def backgroundNested? : Option Nested :=
  (m.procedure? (toks.peek i).rawName).map fun procedure => .ofBackground i procedure m

/-- The body that is run in the current scope. -/
def inlineNested? : Option Nested :=
  let next := toks.peek (i + 1)
  if next.isWord .endWord then none
  else
    match m.procedure? next.rawName with
    | none => none
    | some procedure =>
      if m.depth + 1 > deepestCall then none else some (.ofBody (i + 1) procedure m)

/-- The source in a file, run in the current scope by a statement whose last token has index
`last`. -/
def sourceNested? (path : String) (last : Nat) : Option Nested :=
  match m.files.read path with
  | .error _ => none
  | .ok source => some (.ofSource last source m)

/-- The file that a `use` statement includes. -/
def useNested? : Option Nested :=
  match includedFile? toks i m with
  | some (path, last) => sourceNested? m (includePath m path) last
  | none => none

/-- The environment that an `attach` statement runs. -/
def attachNested? : Option Nested :=
  let name := (toks.peek (i + 1)).rawName
  if !toks.onLine i (i + 1) || name.isEmpty || Text.sameWord name "fixer" then none
  else sourceNested? m (Path.join Verb.environmentFolder (name ++ ".bigenv")) (i + 1)

/-- The stream that the statement at an index runs, if it runs one. -/
def nested? : Option Nested :=
  match (toks.peek i).kind with
  | .word .run =>
    let next := toks.peek (i + 1)
    if next.isWord .sql then none
    else if next.isWord .background then backgroundNested? toks (i + 2) m
    else callNested? toks (i + 1) m (toks.peek i)
  | .word .addrun => inlineNested? toks i m
  | .word .use => useNested? toks i m
  | .word .attach => attachNested? toks i m
  | _ => none

end Cuts

/-! ## Statements under every runner -/

section Runs

variable (run : Runner) (toks : TokenStream) (i : Nat) (m : Machine)

/-- A call that is too deep stops the run and leaves nothing else behind. -/
theorem stop_deeper (cause : Cause) :
    ({ ({ m with depth := m.depth + 1 } : Machine).stop cause with
      depth := (({ m with depth := m.depth + 1 } : Machine).stop cause).depth - 1 } : Machine) =
      m.stop cause := by
  have shallower (cut stopped : Machine) (same : cut = stopped) :
      ({ cut with depth := cut.depth - 1 } : Machine) = { stopped with depth := stopped.depth - 1 } :=
    congrArg (fun s : Machine => ({ s with depth := s.depth - 1 } : Machine)) same
  rcases Option.eq_none_or_eq_some m.halt with running | ⟨fault, halted⟩
  · rw [m.stop_of_running cause running]
    exact shallower _ _ (Machine.stop_of_running { m with depth := m.depth + 1 } cause running)
  · rw [m.stop_of_halted cause halted]
    exact shallower _ _ (Machine.stop_of_halted { m with depth := m.depth + 1 } cause halted)

theorem invoke_run (procedure : Procedure) (args : List String) (line column : Nat) :
    (invoke run procedure args line column).run m =
      if m.depth + 1 > deepestCall then (Value.nothing, m.stop (.stackOverflow deepestCall))
      else
        let after := m.leave ((run procedure.body).run (m.entered procedure args line column)).2
        (after.returned, after) := by
  unfold invoke
  rw [Act.run_bind, Act.run_get, Act.run_bind, Act.run_modify]
  by_cases deep : m.depth + 1 > deepestCall
  · rw [if_pos deep, if_pos deep]
    exact congrArg (Prod.mk Value.nothing) (stop_deeper m _)
  · rw [if_neg deep, if_neg deep]
    rfl

theorem call_run (head : Token) :
    (call run head toks i).run m =
      match callNested? toks i m head with
      | some nested => nested.outcome run
      | none => (call idle head toks i).run m := by
  unfold call callNested?
  simp only [Act.run_bind, Act.run_get]
  generalize (callArguments toks i).run m = read
  rcases read with ⟨⟨args, last⟩, ready⟩
  dsimp only
  cases ready.procedure? (toks.peek i).rawName with
  | none => rfl
  | some procedure =>
    dsimp only
    simp only [Act.run_bind, invoke_run, Act.run_get]
    by_cases deep : ready.depth + 1 > deepestCall
    · simp only [if_pos deep]
    · simp only [if_neg deep, Nested.outcome, Nested.ofCall]
      split <;> rfl

theorem callInBackground_run :
    (callInBackground run toks i).run m =
      match backgroundNested? toks i m with
      | some nested => nested.outcome run
      | none => (callInBackground idle toks i).run m := by
  unfold callInBackground backgroundNested?
  simp only [Act.run_bind, Act.run_get]
  cases m.procedure? (toks.peek i).rawName with
  | none => rfl
  | some procedure =>
    dsimp only
    unfold inBackground
    simp only [Act.run_bind, Act.run_get, Act.run_set, invoke_run]
    rw [if_neg (by decide)]
    rfl

theorem inline_run :
    (inline run toks i).run m =
      match inlineNested? toks i m with
      | some nested => nested.outcome run
      | none => (inline idle toks i).run m := by
  unfold inline inlineNested?
  dsimp only
  by_cases ending : (toks.peek (i + 1)).isWord .endWord
  · rw [if_pos ending, if_pos ending, if_pos ending]
  · rw [if_neg ending, if_neg ending, if_neg ending]
    rw [Act.run_bind, Act.run_get, Act.run_bind (m := m), Act.run_get]
    dsimp only
    cases m.procedure? (toks.peek (i + 1)).rawName with
    | none => rfl
    | some procedure =>
      dsimp only
      rw [Act.run_bind, Act.run_get, Act.run_bind, Act.run_modify, Act.run_bind, Act.run_get,
        Act.run_bind, Act.run_modify]
      dsimp only
      by_cases deep : m.depth + 1 > deepestCall
      · rw [if_pos deep, if_pos deep, if_pos deep]
      · rw [if_neg deep, if_neg deep]
        rfl

theorem includeFile_run (path : String) (last : Nat) :
    (do includeFile run path; return last).run m =
      match sourceNested? m (includePath m path) last with
      | some nested => nested.outcome run
      | none => (do includeFile idle path; return last : Act Nat).run m := by
  unfold includeFile sourceNested?
  simp only [Act.run_bind, Act.run_get]
  cases m.files.read (includePath m path) <;> rfl

theorem use_run :
    (use run toks i).run m =
      match useNested? toks i m with
      | some nested => nested.outcome run
      | none => (use idle toks i).run m := by
  unfold use useNested?
  rw [Act.run_bind, Act.run_get, Act.run_bind, Act.run_get]
  dsimp only
  cases includedFile? toks i m with
  | none => rfl
  | some file => exact includeFile_run run m file.1 file.2

theorem attach_run :
    (Verb.attach run toks i).run m =
      match attachNested? toks i m with
      | some nested => nested.outcome run
      | none => (Verb.attach idle toks i).run m := by
  unfold Verb.attach attachNested? sourceNested?
  dsimp only
  cases toks.onLine i (i + 1) with
  | false => rfl
  | true =>
    rw [if_pos rfl, if_pos rfl, Bool.not_true, Bool.false_or]
    by_cases nothing : (toks.peek (i + 1)).rawName.isEmpty ||
        Text.sameWord (toks.peek (i + 1)).rawName "fixer"
    · rw [if_pos nothing, if_pos nothing, if_pos nothing]
    · rw [if_neg nothing, if_neg nothing, if_neg nothing]
      rw [Act.run_bind, Act.run_get, Act.run_bind, Act.run_get]
      dsimp only
      cases m.files.read _ <;> rfl

theorem runWord_run (same : (toks.peek i).kind = .word .run) :
    (runWord run toks i).run m =
      match nested? toks i m with
      | some nested => nested.outcome run
      | none => (runWord idle toks i).run m := by
  unfold runWord nested?
  rw [same]
  dsimp only
  by_cases sql : (toks.peek (i + 1)).isWord .sql
  · rw [if_pos sql, if_pos sql, if_pos sql]
  · rw [if_neg sql, if_neg sql, if_neg sql]
    by_cases background : (toks.peek (i + 1)).isWord .background
    · rw [if_pos background, if_pos background, if_pos background]
      exact callInBackground_run run toks (i + 2) m
    · rw [if_neg background, if_neg background, if_neg background]
      exact call_run run toks (i + 1) m (toks.peek i)

/-- Only one verb depends on the runner. -/
theorem lookup_all {kind : Kind} (other : kind ≠ .word .attach) :
    (Verb.all run).lookup kind = (Verb.all idle).lookup kind := by
  simp only [Verb.all, List.lookup_cons, beq_eq_false_iff_ne.mpr other]

/-- What a statement does, cut where its nested stream begins and ends. -/
theorem dispatch_run :
    (dispatch run toks i).run m =
      match nested? toks i m with
      | some nested => nested.outcome run
      | none => (dispatch idle toks i).run m := by
  unfold dispatch
  split
  · exact runWord_run run toks i m (by assumption)
  · rename_i same
    simp only [nested?, same]
    exact inline_run run toks i m
  · rename_i same
    simp only [nested?, same]
    exact use_run run toks i m
  · by_cases same : (toks.peek i).kind = .word .attach
    · simp only [nested?, same, Verb.all, List.lookup_cons, beq_self_eq_true]
      exact attach_run run toks i m
    · rw [lookup_all run same]
      simp only [nested?]

end Runs

end Statement
end BigScript
