import BigScript.Proofs.Checked.Statement

/-!
# Nothing reaches outside

The run itself, checked: calls, inlined bodies, threads, included sources and prepared environments
run other streams, and every stream that is ever run has an end: a scanned source has one, a healed
one keeps it, and a definition puts one behind the body it takes.  With that every checked statement
agrees with the one that runs, and so does a run of any number of statements, on every source.

Verbs are taken as they are.  Where they read values, bind results or ask for the place of an at sign,
they do so with the readers above, which are safe wherever a verb asks.
-/

namespace BigScript
namespace Checked

/-- How a whole stream is run in the current scope. -/
abbrev Runs := TokenStream → Checked Unit

/-! ## Statements that run other streams -/

/-- Reads the arguments of a call from index `j` up to the closing parenthesis.  The first bound is on
the number of arguments; a call that uses it up fails. -/
def arguments (toks : TokenStream) (steps j : Nat) (read : List String) :
    Checked (List String × Nat) := do
  match steps with
  | 0 => liftM (none : Option (List String × Nat))
  | steps + 1 =>
    if j < toks.size then
      let t ← toks[j]?
      if t.isFinish || t.isSymbol .rightParen then return (read.reverse, j)
      else if t.isMark ',' then arguments toks steps (j + 1) read
      else
        let (text, last) ← value toks j
        arguments toks steps (last + 1) (text :: read)
    else return (read.reverse, j)

/-- The arguments of a call of the function named at an index, with the index of the call's last
token. -/
def callArguments (toks : TokenStream) (i : Nat) : Checked (List String × Nat) := do
  if (toks.peek (i + 1)).isSymbol .leftParen then
    let (args, stop) ← arguments toks (toks.size + 1) (i + 2) []
    let last ← lastOf? toks stop
    return (args, last)
  else return ([], i)

/-- Runs a function in a fresh local frame and gives its result. -/
def invoke (run : Runs) (procedure : Procedure) (args : List String) (line column : Nat) :
    Checked String := do
  let before ← get
  modify fun m => { m with depth := m.depth + 1 }
  if before.depth + 1 > deepestCall then
    modify (Machine.stop (.stackOverflow deepestCall))
    modify fun m => { m with depth := m.depth - 1 }
    return Value.nothing
  else
    modify (Machine.pushScope (Statement.callFrame procedure.params args))
    modify fun m =>
      { m with
        calls := { name := procedure.name, line, column } :: m.calls
        loops := []
        globals := m.globals.erase "ReturnValue" }
    run procedure.body
    modify Machine.endInvocation
    modify fun m =>
      { m.popScope with
        returning := false
        loops := before.loops
        taken := before.taken
        calls := m.calls.drop 1
        depth := m.depth - 1 }
    return ((← get).globals.find? "ReturnValue").getD Value.nothing

/-- Runs a function on a thread of its own. -/
def inBackground (run : Runs) (procedure : Procedure) : Checked Unit := do
  let before ← get
  set { before with toThread := { lastReading := before.elapsed } }
  let _ ← invoke run procedure [] before.line before.column
  modify fun m => { m with toThread := before.toThread }

/-- Calls the function named at an index. -/
def call (run : Runs) (head : Token) (toks : TokenStream) (i : Nat) : Checked Nat := do
  let name := (toks.peek i).rawName
  let (args, last) ← callArguments toks i
  match (← get).procedure? name with
  | none =>
    of (Statement.raise (Statement.undefinedFunction name))
    return last
  | some procedure =>
    let result ← invoke run procedure args head.line head.column
    if (← get).halt.isSome then return last else setAs toks last [result]

/-- Starts the function named at an index in the background. -/
def callInBackground (run : Runs) (toks : TokenStream) (i : Nat) : Checked Nat := do
  let name := (toks.peek i).rawName
  match (← get).procedure? name with
  | none => of (Statement.raise (Statement.undefinedFunction name))
  | some procedure => inBackground run procedure
  return i

/-- Carries out a run word. -/
def runWord (run : Runs) (toks : TokenStream) (i : Nat) : Checked Nat := do
  let next := toks.peek (i + 1)
  if next.isWord .sql then of (Verb.sql toks (i + 1))
  else if next.isWord .background then callInBackground run toks (i + 2)
  else
    let head ← toks[i]?
    call run head toks (i + 1)

/-- Runs the body of a function in the current scope, or ends the whole run. -/
def inline (run : Runs) (toks : TokenStream) (i : Nat) : Checked Nat := do
  let next := toks.peek (i + 1)
  if next.isWord .endWord then
    modify fun m => { m with ended := true }
    return i + 1
  else
    match (← get).procedure? next.rawName with
    | none =>
      of (Statement.raise (Statement.undefinedFunction next.rawName))
      return i + 1
    | some procedure =>
      let before ← get
      modify fun m => { m with depth := m.depth + 1 }
      if before.depth + 1 > deepestCall then
        modify (Machine.stop (.stackOverflow deepestCall))
        modify fun m => { m with depth := m.depth - 1 }
        return i + 1
      else
        modify fun m => { m with loops := [] }
        run procedure.body
        modify fun m => { m with loops := before.loops, depth := m.depth - 1 }
        return i + 1

/-- Runs another script file in the current scope. -/
def includeFile (run : Runs) (path : String) : Checked Unit := do
  let m ← get
  match m.files.read (Statement.includePath m path) with
  | .error _ =>
    of (Statement.raise ("File Error: Could not read '" ++ Statement.includePath m path ++ "'"))
  | .ok source => run (scan source)

/-- Runs another script file, or switches a feature on. -/
def use (run : Runs) (toks : TokenStream) (i : Nat) : Checked Nat := do
  match Statement.includedFile? toks i (← get) with
  | some (path, last) =>
    includeFile run path
    return last
  | none => of (Statement.useFeature toks i)

/-- Prepares an environment. -/
def attach (run : Runs) (toks : TokenStream) (i : Nat) : Checked Nat := do
  if toks.onLine i (i + 1) then
    let name := (toks.peek (i + 1)).rawName
    if name.isEmpty || Text.sameWord name "fixer" then return i + 1
    else
      match (← get).files.read (Path.join Verb.environmentFolder (name ++ ".bigenv")) with
      | .error _ => return i + 1
      | .ok source =>
        run (scan source)
        return i + 1
  else return i

/-- Carries out the statement at an index. -/
def dispatch (run : Runs) (toks : TokenStream) (i : Nat) : Checked Nat := do
  let head ← toks[i]?
  match head.kind with
  | .word .run => runWord run toks i
  | .word .addrun => inline run toks i
  | .word .use => use run toks i
  | .word .attach => attach run toks i
  | kind =>
    match (Verb.all Statement.idle).lookup kind with
    | some verb => of (verb toks i)
    | none => direct toks i

/-- Walks through tokens from an index on. -/
def exec : (steps : Nat) → TokenStream → (i : Nat) → Checked Unit
  | 0, _, _ => modify fun m => { m with exhausted := true }
  | steps + 1, toks, i => do
    if i < toks.size then
      let m ← get
      if m.isStopped then return ()
      else
        match m.cancellation? with
        | some reason => modify (Machine.stop (.cancelled (some reason)))
        | none =>
          let t ← toks[i]?
          if t.isFinish then return ()
          else
            modify (Machine.moveTo t)
            let asks ← asksForBug? toks i
            if (← get).bug.isSome && !asks then modify Machine.stopOnBug
            else
              modify fun m => { m with elapsed := m.elapsed + Machine.statementTime }
              let last ← dispatch (fun inner => exec steps inner 0) toks i
              exec steps toks (last + 1)
    else return ()

/-! ## Agreement where every function has an end -/

variable {α β : Type}

/-- A checked action that gives what an action gives in every machine whose functions have an end. -/
def AgreesSealed (checked : Checked α) (act : Act α) : Prop :=
  ∀ m : Machine, m.Knows Sealed → checked.run m = some (act.run m)

/-- An action after which every function still has an end. -/
def KeepsSealed (act : Act α) : Prop :=
  ∀ m : Machine, m.Knows Sealed → (act.run m).2.Knows Sealed

theorem KeepsSealed.of_keeps {act : Act α} (keeps : KeepsProcedures act) : KeepsSealed act :=
  fun m knows => knows.of_eq (keeps m)

namespace AgreesSealed

theorem of_agrees {checked : Checked α} {act : Act α} (agrees : Agrees checked act) :
    AgreesSealed checked act := fun m _ => agrees m

theorem bind {first : Checked α} {next : α → Checked β} {act : Act α} {rest : α → Act β}
    (firstAgrees : AgreesSealed first act) (keeps : KeepsSealed act)
    (nextAgrees : ∀ value, AgreesSealed (next value) (rest value)) :
    AgreesSealed (first >>= next) (act >>= rest) := by
  intro m knows
  rw [StateT.run_bind, firstAgrees m knows]
  exact nextAgrees _ _ (keeps m knows)

/-- Sequencing where what follows asks for nothing. -/
theorem andThen {first : Checked α} {next : α → Checked β} {act : Act α} {rest : α → Act β}
    (firstAgrees : AgreesSealed first act) (nextAgrees : ∀ value, Agrees (next value) (rest value)) :
    AgreesSealed (first >>= next) (act >>= rest) := by
  intro m knows
  rw [StateT.run_bind, firstAgrees m knows]
  exact nextAgrees _ _

/-- A change that leaves the table of functions alone. -/
theorem change {change : Machine → Machine} {next : Unit → Checked β} {rest : Unit → Act β}
    (same : ∀ m, (change m).procedures = m.procedures)
    (nextAgrees : AgreesSealed (next ()) (rest ())) :
    AgreesSealed (modify change >>= next) (modify change >>= rest) :=
  bind (of_agrees (.modify change)) (.of_keeps (.modify same)) fun _ => nextAgrees

/-- What follows a look at the machine knows that its functions have an end. -/
theorem get {next : Machine → Checked β} {rest : Machine → Act β}
    (nextAgrees : ∀ m, m.Knows Sealed → AgreesSealed (next m) (rest m)) :
    AgreesSealed (MonadState.get >>= next) (MonadState.get >>= rest) :=
  fun m knows => nextAgrees m knows m knows

theorem given {found? : Option α} {value : α} {next : α → Checked β} {act : Act β}
    (found : found? = some value) (nextAgrees : AgreesSealed (next value) act) :
    AgreesSealed (liftM found? >>= next) act := by
  intro m knows
  rw [found]
  exact nextAgrees m knows

theorem ite {condition : Prop} [Decidable condition] {first second : Checked α}
    {act other : Act α} (firstAgrees : condition → AgreesSealed first act)
    (secondAgrees : ¬ condition → AgreesSealed second other) :
    AgreesSealed (if condition then first else second) (if condition then act else other) := by
  split
  · rename_i holds
    exact firstAgrees holds
  · rename_i fails
    exact secondAgrees fails

end AgreesSealed

/-! ## Calls -/

section Calls

variable {toks : TokenStream} {i j : Nat}

theorem arguments_agrees (toks : TokenStream) (steps j : Nat) (read : List String)
    (some : 0 < steps) (enough : toks.size + 1 < steps + j) :
    Agrees (arguments toks steps j read) (Statement.arguments toks steps j read) := by
  induction steps generalizing j read with
  | zero => omega
  | succ steps ih =>
    unfold arguments Statement.arguments
    rcases Nat.lt_or_ge j toks.size with inside | outside
    · rw [if_pos inside]
      refine .given (token_eq inside) ?_
      refine .ite (fun _ => .pure _) fun _ => ?_
      refine .ite (fun _ => ih (j + 1) read (by omega) (by omega)) fun _ => ?_
      refine .bindYields (value_agrees toks j) (Operand.value_forward toks j) fun answer further => ?_
      exact ih _ _ (by omega) (by omega)
    · rw [if_neg (Nat.not_lt.mpr outside), TokenStream.peek_of_le outside]
      exact .pure _

theorem callArguments_agrees (toks : TokenStream) (i : Nat) :
    Agrees (callArguments toks i) (Statement.callArguments toks i) := by
  refine .ite (fun _ => ?_) fun _ => .pure _
  have read := arguments_agrees toks (toks.size + 1) (i + 2) [] (Nat.succ_pos _) (by omega)
  refine .bindYields read (Statement.arguments_forward toks _ (i + 2) []) fun answer further => ?_
  exact .given (lastOf?_eq (Nat.lt_of_lt_of_le (Nat.succ_pos _) further)) (.pure _)

end Calls

section Runners

variable {run : Runs} {runner : Runner} {toks : TokenStream} {i : Nat}
  (runs : ∀ inner, Sealed inner → AgreesSealed (run inner) (runner inner))

include runs

theorem invoke_agrees {procedure : Procedure} (body : Sealed procedure.body) (args : List String)
    (line column : Nat) : AgreesSealed (invoke run procedure args line column)
      (Statement.invoke runner procedure args line column) := by
  refine .get fun before _ => .change (fun _ => rfl) (.ite (fun _ => ?_) fun _ => ?_)
  · exact .of_agrees (.bind (.modify _) fun _ => .bind (.modify _) fun _ => .pure _)
  · refine .change (fun _ => rfl) (.change (fun _ => rfl) (.andThen (runs _ body) fun _ => ?_))
    exact .bind (.modify _) fun _ => .bind (.modify _) fun _ => .bind .get fun _ => .pure _

theorem inBackground_agrees {procedure : Procedure} (body : Sealed procedure.body) :
    AgreesSealed (inBackground run procedure) (Statement.inBackground runner procedure) := by
  intro m knows
  have called := invoke_agrees runs body [] m.line m.column
    { m with toThread := { lastReading := m.elapsed } } (knows.of_eq rfl)
  change (invoke run procedure [] m.line m.column >>= fun _ => _).run _ = _
  rw [StateT.run_bind, called]
  rfl

theorem call_agrees (head : Token) (toks : TokenStream) (i : Nat) :
    AgreesSealed (call run head toks i) (Statement.call runner head toks i) := by
  have keeps : KeepsSealed (Statement.callArguments toks i) :=
    .of_keeps (.of_steady (Statement.callArguments_routine toks i).steady)
  refine .bind (.of_agrees (callArguments_agrees toks i)) keeps fun answer => .get fun m knows => ?_
  cases found : m.procedure? (toks.peek i).rawName with
  | none => exact .of_agrees (.bind (.of _) fun _ => .pure _)
  | some procedure =>
    refine .andThen (invoke_agrees runs (knows.found found) _ _ _) fun result => .bind .get fun _ => ?_
    exact .ite (fun _ => .pure _) fun _ => setAs_agrees toks _ _

theorem callInBackground_agrees (toks : TokenStream) (i : Nat) :
    AgreesSealed (callInBackground run toks i) (Statement.callInBackground runner toks i) := by
  refine .get fun m knows => ?_
  cases found : m.procedure? (toks.peek i).rawName with
  | none => exact .of_agrees (.bind (.of _) fun _ => .pure _)
  | some procedure => exact .andThen (inBackground_agrees runs (knows.found found)) fun _ => .pure _

theorem runWord_agrees (inside : i < toks.size) :
    AgreesSealed (runWord run toks i) (Statement.runWord runner toks i) := by
  refine .ite (fun _ => .of_agrees (.of _)) fun _ => ?_
  refine .ite (fun _ => callInBackground_agrees runs toks _) fun _ => ?_
  exact .given (token_eq inside) (call_agrees runs _ toks _)

theorem inline_agrees (toks : TokenStream) (i : Nat) :
    AgreesSealed (inline run toks i) (Statement.inline runner toks i) := by
  refine .ite (fun _ => .of_agrees (.bind (.modify _) fun _ => .pure _)) fun _ => ?_
  refine .get fun m knows => ?_
  cases found : m.procedure? (toks.peek (i + 1)).rawName with
  | none => exact .of_agrees (.bind (.of _) fun _ => .pure _)
  | some procedure =>
    refine .get fun before _ => .change (fun _ => rfl) (.ite (fun _ => ?_) fun _ => ?_)
    · exact .of_agrees (.bind (.modify _) fun _ => .bind (.modify _) fun _ => .pure _)
    · refine .change (fun _ => rfl) (.andThen (runs _ (knows.found found)) fun _ => ?_)
      exact .bind (.modify _) fun _ => .pure _

theorem includeFile_agrees (path : String) :
    AgreesSealed (includeFile run path) (Statement.includeFile runner path) := by
  refine .get fun m _ => ?_
  cases m.files.read (Statement.includePath m path) with
  | error _ => exact .of_agrees (.of _)
  | ok source => exact runs _ (.scan source)

theorem use_agrees (toks : TokenStream) (i : Nat) :
    AgreesSealed (use run toks i) (Statement.use runner toks i) := by
  refine .get fun m _ => ?_
  cases Statement.includedFile? toks i m with
  | none => exact .of_agrees (.of _)
  | some file => exact .andThen (includeFile_agrees runs file.1) fun _ => .pure _

theorem attach_agrees (toks : TokenStream) (i : Nat) :
    AgreesSealed (attach run toks i) (Verb.attach runner toks i) := by
  refine .ite (fun _ => ?_) fun _ => .of_agrees (.pure _)
  refine .ite (fun _ => .of_agrees (.pure _)) fun _ => .get fun m _ => ?_
  generalize m.files.read _ = content
  cases content with
  | error _ => exact .of_agrees (.pure _)
  | ok source => exact .andThen (runs _ (.scan source)) fun _ => .pure _

theorem dispatch_agrees (ends : Sealed toks) (inside : i < toks.size) :
    AgreesSealed (dispatch run toks i) (Statement.dispatch runner toks i) := by
  refine .given (token_eq inside) ?_
  unfold Statement.dispatch
  generalize (toks.peek i).kind = kind
  split
  · exact runWord_agrees runs inside
  · exact inline_agrees runs toks i
  · exact use_agrees runs toks i
  · exact attach_agrees runs toks i
  · rename_i other
    have same := Statement.lookup_all runner other
    cases found : (Verb.all Statement.idle).lookup kind with
    | some verb =>
      dsimp only
      split
      · contradiction
      · contradiction
      · contradiction
      · rw [same, found]
        exact .of_agrees (.of _)
    | none =>
      dsimp only
      split
      · contradiction
      · contradiction
      · contradiction
      · rw [same, found]
        exact .of_agrees (direct_agrees ends inside)

end Runners

/-! ## Runs -/

/-- A statement leaves behind it only functions with an end, if the streams it runs do. -/
theorem dispatch_keeps {runner : Runner} {toks : TokenStream} {i : Nat} (ends : Sealed toks)
    (inside : i < toks.size) (keeps : ∀ inner, Sealed inner → KeepsSealed (runner inner)) :
    KeepsSealed (Statement.dispatch runner toks i) := by
  intro m knows
  rw [Statement.dispatch_run]
  cases runs : Statement.nested? toks i m with
  | none => exact Sealed.passes.dispatch_knows ends inside knows runs
  | some nested =>
    have nests := Statement.nested?_nests runs
    have entry : nested.entry.Knows Sealed := knows.of_eq nests.entry_procedures
    have walked := keeps nested.inner (Sealed.passes.inner ends knows runs) nested.entry entry
    exact walked.of_eq nests.complete_procedures

/-- One more statement of a run, as an action. -/
theorem exec_act (steps : Nat) (toks : TokenStream) (i : Nat) :
    (modify (Machine.exec (steps + 1) toks i) : Act Unit) = do
      if i < toks.size then
        let m ← get
        if m.isStopped then return ()
        else
          match m.cancellation? with
          | some reason => modify (Machine.stop (.cancelled (some reason)))
          | none =>
            let t := toks.peek i
            if t.isFinish then return ()
            else
              modify (Machine.moveTo t)
              if (← get).bug.isSome && !toks.asksForBug i then modify Machine.stopOnBug
              else
                modify fun m => { m with elapsed := m.elapsed + Machine.statementTime }
                let last ← Statement.dispatch (fun inner => modify (Machine.exec steps inner 0)) toks i
                modify (Machine.exec steps toks (last + 1))
      else return () := by
  funext m
  change ((), Machine.exec (steps + 1) toks i m) = _
  rw [Machine.exec]
  by_cases inside : i < toks.size
  · rw [dif_pos inside, if_pos inside, TokenStream.peek_of_lt inside]
    change _ = (if m.isStopped then _ else _ : Act Unit) m
    by_cases stopped : m.isStopped
    · rw [if_pos stopped, if_pos stopped]
      rfl
    · rw [if_neg stopped, if_neg stopped]
      cases m.cancellation? with
      | some reason => rfl
      | none =>
        dsimp only
        by_cases finished : toks[i].isFinish
        · rw [if_pos finished, if_pos finished]
          rfl
        · rw [if_neg finished, if_neg finished]
          change _ = (if (m.moveTo toks[i]).bug.isSome && !toks.asksForBug i then _ else _ : Act Unit)
            (m.moveTo toks[i])
          by_cases bugged : (m.moveTo toks[i]).bug.isSome && !toks.asksForBug i
          · rw [if_pos bugged, if_pos bugged]
            rfl
          · rw [if_neg bugged, if_neg bugged]
            rfl
  · rw [dif_neg inside, if_neg inside]
    rfl

theorem exec_agrees (steps : Nat) (toks : TokenStream) (i : Nat) (ends : Sealed toks) :
    AgreesSealed (exec steps toks i) (modify (Machine.exec steps toks i)) := by
  induction steps generalizing toks i with
  | zero => exact .of_agrees (.modify _)
  | succ steps ih =>
    rw [exec_act]
    refine .ite (fun inside => .get fun m _ => ?_) fun _ => .of_agrees (.pure _)
    refine .ite (fun _ => .of_agrees (.pure _)) fun _ => ?_
    cases m.cancellation? with
    | some reason => exact .of_agrees (.modify _)
    | none =>
      refine .given (token_eq inside) (.ite (fun _ => .of_agrees (.pure _)) fun _ => ?_)
      refine .change (fun m => by rw [Machine.moveTo_eq]) (.given (asksForBug?_eq toks i) ?_)
      refine .get fun m _ => .ite (fun _ => .of_agrees (.modify _)) fun _ => ?_
      refine .change (fun _ => rfl) (.bind ?_ ?_ fun last => ih toks _ ends)
      · exact dispatch_agrees (fun inner inEnds => ih inner 0 inEnds) ends inside
      · refine dispatch_keeps ends inside fun inner inEnds m knows => ?_
        exact Machine.exec_knows Sealed.passes steps inner 0 m inEnds knows

/-! ## The law -/

/-- Nothing that a source leads to reaches outside a list. -/
structure BoundsLaw : Prop where
  /-- A source, scanned or healed, is walked through for any number of statements without an access
  that fails, and every function it leaves behind has a body with an end again. -/
  runs : ∀ (source : String) (toks : TokenStream), toks = scan source ∨ toks = heal (scan source) →
    ∀ (steps : Nat) (m : Machine), m.Knows Sealed →
      (exec steps toks 0).run m = some ((), m.exec steps toks 0) ∧
        (m.exec steps toks 0).Knows Sealed
  fresh : ∀ m : Machine, m.procedures = [] → m.Knows Sealed
  /-- The readers that verbs share with statements can be asked at any index of any stream, one
  without an end included. -/
  values : ∀ (toks : TokenStream) (i : Nat),
    Agrees (value toks i) (Operand.value toks i) ∧ Agrees (text toks i) (Operand.text toks i) ∧
      Agrees (measure toks i) (Operand.measure toks i) ∧
      (0 < i → Agrees (assigned toks i) (Operand.assigned toks i))
  tails : ∀ (toks : TokenStream) (i : Nat) (results : List String),
    Agrees (setAs toks i results) (Results.setAs toks i results)
  targets : ∀ (toks : TokenStream) (i : Nat),
    Agrees (targetName? toks i) (Results.targetName? toks i) ∧
      Agrees (targetValue? toks i) (Results.targetValue? toks i) ∧
      (i ≤ toks.size → Agrees (checkAt toks i) (Results.checkAt toks i))
  /-- Expressions and conditions are parts of a stream without an end of their own. -/
  parts : ∀ toks : TokenStream,
    Agrees (evaluate toks) (Formula.evaluate toks.toList) ∧
      Agrees (holds toks) (Condition.holds toks.toList)

theorem bounds_law : BoundsLaw where
  runs := by
    intro source toks executed steps m knows
    have ends : Sealed toks := by
      rcases executed with rfl | rfl
      · exact .scan source
      · exact .heal_scan source
    exact ⟨exec_agrees steps toks 0 ends m knows,
      Machine.exec_knows Sealed.passes steps toks 0 m ends knows⟩
  fresh := by
    intro m none entry known
    rw [none] at known
    cases known
  values := fun toks i => ⟨value_agrees toks i, text_agrees toks i, measure_agrees toks i,
    assigned_agrees toks⟩
  tails := setAs_agrees
  targets := fun toks i => ⟨targetName?_agrees toks i, targetValue?_agrees toks i, checkAt_agrees⟩
  parts := fun toks => ⟨evaluate_agrees toks, holds_agrees toks⟩

/-- An expression that the end of a body cuts off, and a call that the end of the input cuts off. -/
def cutOff : String := "start doing f\nx = S[2 * (1\nend doing\nrun f(1,"

theorem bounds_law_cutOff :
    (Machine.start {}).procedures = [] ∧
      (exec 8 (heal (scan cutOff)) 0).run (.start {}) =
        some ((), (Machine.start {}).exec 8 (heal (scan cutOff)) 0) := by
  refine ⟨rfl, ?_⟩
  exact (bounds_law.runs cutOff _ (.inr rfl) 8 _ (bounds_law.fresh _ rfl)).1

end Checked
end BigScript
