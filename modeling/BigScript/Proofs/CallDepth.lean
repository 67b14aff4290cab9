import BigScript.Proofs.BugProtocol
import BigScript.Proofs.Chain

/-!
# The depth of calls

The depth of a thread counts the functions whose bodies it is in the middle of: called, or run in
place.  Both ways of running a body raise the counter, each with a guard of its own, and both are
refused at the same depth.  The list of open calls, which a diagnostic block shows, grows with calls
only.

Here the counter and the list are compared with the statements that wait.  They are read off what
waits in the innermost thread, down to the statement that started the thread: a thread of its own
counts afresh.  A body that would be too deep is not entered; the thread is stopped instead, and
nothing is carried out in it any more.
-/

namespace BigScript

namespace Nested

/-- Whether a stream is the body of a function. -/
def activates (nested : Nested) : Bool := nested.purpose != .source

/-- The call that a stream is run for. -/
def site? (nested : Nested) : Option CallSite :=
  match nested.purpose with
  | .call => nested.entry.calls.head?
  | .background => nested.entry.calls.head?
  | .inline => none
  | .source => none

end Nested

namespace Config

/-- The statements that wait in the innermost thread, down to the one that started it. -/
def thread : List Waiting → List Waiting
  | [] => []
  | first :: rest => first :: if first.nested.purpose = .background then [] else thread rest

/-- What waits when the innermost thread starts, with the statement that starts it. -/
def ground : List Waiting → List Waiting
  | [] => []
  | first :: rest => if first.nested.purpose = .background then first :: rest else ground rest

/-- The number of functions whose bodies the innermost thread is in the middle of. -/
def activations (waiting : List Waiting) : Nat := (thread waiting).countP fun first =>
  first.nested.activates

/-- The calls that are open in the innermost thread, the most recent one first. -/
def openCalls (waiting : List Waiting) : List CallSite := (thread waiting).filterMap fun first =>
  first.nested.site?

section Counts

variable {first : Waiting} {rest : List Waiting}

theorem activations_background (here : first.nested.purpose = .background) :
    activations (first :: rest) = 1 := by
  simp [activations, thread, Nested.activates, here]

theorem activations_body (here : first.nested.purpose = .call ∨ first.nested.purpose = .inline) :
    activations (first :: rest) = activations rest + 1 := by
  rcases here with here | here <;> simp [activations, thread, Nested.activates, here]

theorem activations_source (here : first.nested.purpose = .source) :
    activations (first :: rest) = activations rest := by
  simp [activations, thread, Nested.activates, here]

theorem openCalls_background (here : first.nested.purpose = .background) :
    openCalls (first :: rest) = first.nested.entry.calls.head?.toList := by
  cases site : first.nested.entry.calls.head? <;> simp [openCalls, thread, Nested.site?, here, site]

theorem openCalls_call (here : first.nested.purpose = .call) :
    openCalls (first :: rest) = first.nested.entry.calls.head?.toList ++ openCalls rest := by
  cases site : first.nested.entry.calls.head? <;> simp [openCalls, thread, Nested.site?, here, site]

theorem openCalls_inPlace
    (here : first.nested.purpose = .inline ∨ first.nested.purpose = .source) :
    openCalls (first :: rest) = openCalls rest := by
  rcases here with here | here <;> simp [openCalls, thread, Nested.site?, here]

/-- Above the ground of a thread nothing waits that started another one. -/
theorem ground_above {waiting : List Waiting} (waits : first :: rest <:+ waiting)
    (above : ground waiting <:+ rest) : first.nested.purpose ≠ .background := by
  induction waiting with
  | nil => exact absurd waits (by simp)
  | cons other below ih =>
      by_cases here : other.nested.purpose = .background
      · rw [ground, if_pos here] at above
        have long := Nat.le_trans waits.length_le above.length_le
        exact absurd long (Nat.not_succ_le_self _)
      · rw [ground, if_neg here] at above
        rcases List.suffix_cons_iff.mp waits with same | waits
        · cases same
          exact here
        · exact ih waits above

end Counts

/-! ## The counter and what waits -/

/-- A machine whose depth and open calls are those of the statements that wait. -/
structure Level (waiting : List Waiting) (m : Machine) : Prop where
  depth : m.depth = 1 + activations waiting
  calls : m.calls = openCalls waiting
  shallow : m.depth ≤ deepestCall

/-- Every statement that waits began at the level of those that wait below it. -/
inductive Standing : List Waiting → Prop where
  | nil : Standing []
  | cons {first : Waiting} {rest : List Waiting} {m : Machine}
      (nests : Nests first.stream m first.nested) (level : Level rest m) (below : Standing rest) :
      Standing (first :: rest)

theorem Level.of_contained {waiting : List Waiting} {m after : Machine} {free : String → Prop}
    (level : Level waiting m) (contained : Contained m after free) : Level waiting after where
  depth := contained.depth.trans level.depth
  calls := contained.calls.trans level.calls
  shallow := contained.depth ▸ level.shallow

theorem Level.of_same {waiting : List Waiting} {m after : Machine} {free : String → Prop}
    (level : Level waiting m) (same : SameControl m after free) : Level waiting after :=
  level.of_contained (.of_same same)

/-- The stream that a statement runs begins at the level of what waits then. -/
theorem Level.enter {toks : TokenStream} {m : Machine} {nested : Nested} {waiting : List Waiting}
    (level : Level waiting m) (nests : Nests toks m nested) :
    Level (⟨toks, nested⟩ :: waiting) nested.entry := by
  cases nests with
  | @call ready procedure name last head args read found shallow =>
      have level := level.of_same read
      refine ⟨?_, ?_, shallow⟩
      · rw [activations_body (.inl rfl)]
        exact congrArg (· + 1) level.depth
      · rw [openCalls_call rfl]
        exact congrArg (List.cons _) level.calls
  | background last found =>
      -- A thread of its own starts at depth one and has one call open, whatever waits below it.
      refine ⟨?_, ?_, (by decide : 2 ≤ deepestCall)⟩
      · rw [activations_background rfl]
        rfl
      · rw [openCalls_background rfl]
        rfl
  | inline last found shallow =>
      refine ⟨?_, (level.calls).trans (openCalls_inPlace (.inl rfl)).symm, shallow⟩
      rw [activations_body (.inr rfl)]
      exact congrArg (· + 1) level.depth
  | source last found =>
      exact ⟨level.depth.trans (congrArg (1 + ·) (activations_source rfl).symm),
        level.calls.trans (openCalls_inPlace (.inr rfl)).symm, level.shallow⟩

/-- When the stream is over, the statement is back at its own level. -/
theorem Level.leave {toks : TokenStream} {m out : Machine} {nested : Nested}
    {waiting : List Waiting} (level : Level waiting m) (nests : Nests toks m nested)
    (inner : Level (⟨toks, nested⟩ :: waiting) out) : Level waiting (nested.complete out).2 := by
  cases nests with
  | @call ready procedure name last head args read found shallow =>
      have depth := inner.depth
      have calls := inner.calls
      rw [activations_body (.inl rfl)] at depth
      rw [openCalls_call rfl] at calls
      have ended := out.endInvocation_contained
      have left : Level waiting (ready.leave out) :=
        { depth := by
            change out.endInvocation.depth - 1 = _
            rw [ended.depth, depth]
            rfl
          calls := by
            change out.endInvocation.calls.drop 1 = _
            rw [ended.calls, calls]
            rfl
          shallow := by
            change out.endInvocation.depth - 1 ≤ _
            rw [ended.depth]
            exact Nat.le_trans (Nat.sub_le _ _) inner.shallow }
      change Level waiting (if (ready.leave out).halt.isSome then (last, ready.leave out)
        else (Statement.finish toks last _).run (ready.leave out)).2
      split
      · exact left
      · exact left.of_same ((Statement.finish_routine toks last _).steady _)
  | background last found => exact ⟨level.depth, level.calls, level.shallow⟩
  | inline last found shallow =>
      have depth := inner.depth
      rw [activations_body (.inr rfl)] at depth
      refine ⟨?_, inner.calls.trans (openCalls_inPlace (.inl rfl)), ?_⟩
      · change out.depth - 1 = _
        rw [depth]
        rfl
      · exact Nat.le_trans (Nat.sub_le _ _) inner.shallow
  | source last found =>
      exact ⟨inner.depth.trans (congrArg (1 + ·) (activations_source rfl)),
        inner.calls.trans (openCalls_inPlace (.inr rfl)), inner.shallow⟩

/-- A moment at which the counter and the list of open calls agree with what waits. -/
structure Counted (c : Config) : Prop where
  level : Level c.waiting c.machine
  standing : Standing c.waiting

theorem Step.counted {c next : Config} (step : Step c next) (counted : c.Counted) :
    next.Counted := by
  rcases counted with ⟨level, standing⟩
  cases step with
  | @ends m out toks i waiting arrived =>
      have arrival := arrives toks i m
      rw [arrived] at arrival
      exact ⟨level.of_contained arrival.ends_contained, standing⟩
  | @alone m ready toks i waiting arrived alone =>
      have arrival := arrives toks i m
      rw [arrived] at arrival
      have begun := level.of_contained arrival.ready_contained
      exact ⟨begun.of_contained (Statement.dispatch_contained toks i alone), standing⟩
  | @enter m ready toks i waiting nested arrived runs =>
      have arrival := arrives toks i m
      rw [arrived] at arrival
      have begun := level.of_contained arrival.ready_contained
      have nests := Statement.nested?_nests runs
      exact ⟨begun.enter nests, .cons nests begun standing⟩
  | leave out first waiting =>
      cases standing with
      | cons nests before below => exact ⟨before.leave nests level, below⟩
  | finish out => exact ⟨level.of_contained out.endInvocation_contained, standing⟩

theorem Reaches.counted {c later : Config} (reached : Reaches c later) (counted : c.Counted) :
    later.Counted := by
  induction reached with
  | refl => exact counted
  | tail _ step ih => exact step.counted ih

end Config

/-! ## Bodies that are entered and bodies that are refused -/

namespace Machine

/-- A fault without a stack of its own shows the open calls. -/
theorem annotate_stack (m : Machine) (cause : Cause) :
    (m.annotate { cause }).stack =
      m.calls.map fun call => { call with source := m.sourceLine call.line } := by
  unfold annotate Fault.placed
  dsimp only
  split <;> split <;> rfl

end Machine

namespace Statement

variable {toks : TokenStream} {i : Nat} {m : Machine} {procedure : Procedure} {nested : Nested}

/-- The function whose body the statement at an index runs on the thread it stands on: the function
that it calls, or whose body it runs in place. -/
def activated? (toks : TokenStream) (i : Nat) (m : Machine) : Option Procedure :=
  let next := toks.peek (i + 1)
  match (toks.peek i).kind with
  | .word .run =>
    if next.isWord .sql || next.isWord .background then none else m.procedure? next.rawName
  | .word .addrun => if next.isWord .endWord then none else m.procedure? next.rawName
  | _ => none

theorem SameControl.procedure? {before after : Machine} {free : String → Prop}
    (same : SameControl before after free) (name : String) :
    after.procedure? name = before.procedure? name := by
  unfold Machine.procedure?
  rw [same.procedures]

/-- Such a statement is a call, or a body that is run in place. -/
theorem activated?_cases (found : activated? toks i m = some procedure) :
    m.procedure? (toks.peek (i + 1)).rawName = some procedure ∧
      ((toks.peek i).kind = .word .run ∧ (toks.peek (i + 1)).isWord .sql = false ∧
          (toks.peek (i + 1)).isWord .background = false ∨
        (toks.peek i).kind = .word .addrun ∧ (toks.peek (i + 1)).isWord .endWord = false) := by
  unfold activated? at found
  dsimp only at found
  split at found
  case h_1 head =>
    split at found
    · cases found
    · rename_i other
      rw [Bool.not_eq_true, Bool.or_eq_false_iff] at other
      exact ⟨found, .inl ⟨head, other⟩⟩
  case h_2 head =>
    split at found
    · cases found
    · rename_i going
      exact ⟨found, .inr ⟨head, (Bool.not_eq_true _).mp going⟩⟩
  case h_3 => cases found

/-! ### Calls -/

/-- A function that is called is looked up behind its arguments, and these define none. -/
theorem callNested?_of_found (head : Token)
    (found : m.procedure? (toks.peek i).rawName = some procedure) :
    ∃ ready args last, SameControl m ready ∧ (callArguments toks i).run m = ((args, last), ready) ∧
      callNested? toks i m head =
        if ready.depth + 1 > deepestCall then none
        else some (.ofCall toks last head procedure args ready) := by
  have read := (callArguments_routine toks i).steady m
  unfold callNested?
  generalize (callArguments toks i).run m = answer at read
  rcases answer with ⟨⟨args, last⟩, ready⟩
  refine ⟨ready, args, last, read, rfl, ?_⟩
  dsimp only
  rw [SameControl.procedure? read, found]

theorem call_refused (head : Token) (found : m.procedure? (toks.peek i).rawName = some procedure)
    (deep : m.depth + 1 > deepestCall) :
    ∃ ready, SameControl m ready ∧
      ((call idle head toks i).run m).2 = ready.stop (.stackOverflow deepestCall) := by
  rcases callNested?_of_found head found with ⟨ready, args, last, read, run, -⟩
  refine ⟨ready, read, ?_⟩
  unfold call
  rw [Act.run_bind, run]
  dsimp only
  rw [Act.run_bind, Act.run_get, SameControl.procedure? read, found]
  dsimp only
  rw [Act.run_bind, invoke_run, if_pos (read.depth ▸ deep), Act.run_bind, Act.run_get]
  dsimp only
  rw [if_pos (ready.stop_halt _)]
  rfl

/-- A call is listed with the name of its function and the place of its word. -/
theorem callNested?_site {head : Token} (runs : callNested? toks i m head = some nested) :
    ∃ procedure : Procedure, nested.inner = procedure.body ∧ nested.site? =
      some { name := procedure.name, line := head.line, column := head.column } := by
  unfold callNested? at runs
  generalize (callArguments toks i).run m = answer at runs
  rcases answer with ⟨⟨args, last⟩, ready⟩
  dsimp only at runs
  split at runs
  · cases runs
  · rename_i procedure _
    split at runs
    · cases runs
    · cases runs
      exact ⟨procedure, rfl, rfl⟩

/-! ### Bodies that are run in place -/

theorem inlineNested?_of_found (going : (toks.peek (i + 1)).isWord .endWord = false)
    (found : m.procedure? (toks.peek (i + 1)).rawName = some procedure) :
    inlineNested? toks i m =
      if m.depth + 1 > deepestCall then none else some (.ofBody (i + 1) procedure m) := by
  unfold inlineNested?
  dsimp only
  rw [going, found]
  rfl

theorem inline_refused (going : (toks.peek (i + 1)).isWord .endWord = false)
    (found : m.procedure? (toks.peek (i + 1)).rawName = some procedure)
    (deep : m.depth + 1 > deepestCall) :
    ((inline idle toks i).run m).2 = m.stop (.stackOverflow deepestCall) := by
  unfold inline
  dsimp only
  rw [going, if_neg Bool.false_ne_true, Act.run_bind, Act.run_get, found]
  dsimp only
  rw [Act.run_bind, Act.run_get, Act.run_bind, Act.run_modify, if_pos deep]
  exact stop_deeper m _

theorem inlineNested?_purpose (runs : inlineNested? toks i m = some nested) :
    nested.purpose = .inline := by
  unfold inlineNested? at runs
  dsimp only at runs
  split at runs
  · cases runs
  · split at runs
    · cases runs
    · split at runs
      · cases runs
      · cases runs
        rfl

/-! ### Sources -/

theorem sourceNested?_purpose {path : String} {last : Nat}
    (runs : sourceNested? m path last = some nested) : nested.purpose = .source := by
  unfold sourceNested? at runs
  split at runs
  · cases runs
  · cases runs
    rfl

theorem useNested?_purpose (runs : useNested? toks i m = some nested) :
    nested.purpose = .source := by
  unfold useNested? at runs
  split at runs
  · exact sourceNested?_purpose runs
  · cases runs

theorem attachNested?_purpose (runs : attachNested? toks i m = some nested) :
    nested.purpose = .source := by
  unfold attachNested? at runs
  dsimp only at runs
  split at runs
  · cases runs
  · exact sourceNested?_purpose runs

/-! ### Every statement -/

/-- A body that would be too deep is not entered: the run is stopped. -/
theorem dispatch_refused (found : activated? toks i m = some procedure)
    (deep : m.depth + 1 > deepestCall) :
    nested? toks i m = none ∧ ∃ ready, SameControl m ready ∧
      ((dispatch idle toks i).run m).2 = ready.stop (.stackOverflow deepestCall) := by
  rcases activated?_cases found with ⟨found, ⟨head, sql, background⟩ | ⟨head, going⟩⟩
  · rcases callNested?_of_found (toks.peek i) found with ⟨ready, args, last, read, -, nested⟩
    have same : (dispatch idle toks i).run m = (call idle (toks.peek i) toks (i + 1)).run m := by
      unfold dispatch runWord
      simp only [head, sql, background]
      rfl
    refine ⟨?_, same ▸ call_refused (toks.peek i) found deep⟩
    unfold nested?
    simp only [head, sql, background, Bool.false_eq_true, if_false, nested]
    rw [if_pos (read.depth ▸ deep)]
  · have same : (dispatch idle toks i).run m = (inline idle toks i).run m := by
      unfold dispatch
      simp only [head]
    refine ⟨?_, m, .refl m, same ▸ inline_refused going found deep⟩
    unfold nested?
    simp only [head, inlineNested?_of_found going found]
    rw [if_pos deep]

/-- A body that is not too deep is entered. -/
theorem nested?_of_activated (found : activated? toks i m = some procedure)
    (shallow : m.depth + 1 ≤ deepestCall) :
    ∃ nested, nested? toks i m = some nested ∧ nested.inner = procedure.body ∧
      (nested.purpose = .call ∨ nested.purpose = .inline) ∧ nested.entry.depth = m.depth + 1 := by
  have allowed : ¬ m.depth + 1 > deepestCall := Nat.not_lt.mpr shallow
  rcases activated?_cases found with ⟨found, ⟨head, sql, background⟩ | ⟨head, going⟩⟩
  · rcases callNested?_of_found (toks.peek i) found with ⟨ready, args, last, read, -, nested⟩
    refine ⟨.ofCall toks last (toks.peek i) procedure args ready, ?_, rfl, .inl rfl,
      congrArg (· + 1) read.depth⟩
    unfold nested?
    simp only [head, sql, background, Bool.false_eq_true, if_false, nested]
    rw [if_neg (read.depth ▸ allowed)]
  · refine ⟨.ofBody (i + 1) procedure m, ?_, rfl, .inr rfl, rfl⟩
    unfold nested?
    simp only [head, inlineNested?_of_found going found]
    rw [if_neg allowed]

/-- The open calls are listed with the names of their functions and the places of their words. -/
theorem nested?_site (runs : nested? toks i m = some nested) (line : m.line = (toks.peek i).line)
    (column : m.column = (toks.peek i).column)
    (listed : nested.purpose = .call ∨ nested.purpose = .background) :
    ∃ procedure : Procedure, nested.inner = procedure.body ∧ nested.site? =
      some { name := procedure.name, line := (toks.peek i).line, column := (toks.peek i).column } := by
  -- A body that is run in place and a source are not listed.
  have apart (other : nested.purpose = .inline ∨ nested.purpose = .source) : False := by
    rcases listed with call | background <;> rcases other with inline | source <;> simp_all
  unfold nested? at runs
  split at runs
  · dsimp only at runs
    split at runs
    · cases runs
    · split at runs
      · rcases Option.map_eq_some_iff.mp runs with ⟨procedure, -, rfl⟩
        exact ⟨procedure, rfl, by rw [← line, ← column]; rfl⟩
      · exact callNested?_site runs
  · exact (apart (.inl (inlineNested?_purpose runs))).elim
  · exact (apart (.inr (useNested?_purpose runs))).elim
  · exact (apart (.inr (attachNested?_purpose runs))).elim
  · cases runs

end Statement

namespace Config

open Statement

variable {c next later : Config}

theorem arrive_place {toks : TokenStream} {i : Nat} {m ready : Machine}
    (arrived : m.arrive toks i = .ready ready) :
    ready.line = (toks.peek i).line ∧ ready.column = (toks.peek i).column ∧
      ready.lines = m.lines ∧ ready.halt = none := by
  have arrival := arrives toks i m
  rw [arrived] at arrival
  cases arrival with
  | begins _ going =>
      rw [Machine.begun_eq]
      exact ⟨rfl, rfl, rfl, Machine.halt_of_not_isStopped going⟩

/-! ## Stopped threads -/

/-- A thread that has been stopped ends without carrying out anything. -/
theorem Step.halted (step : Step c next) (proper : c.Proper) {waiting : List Waiting}
    (waits : c.waiting <:+ waiting) (stays : ground waiting <:+ next.waiting) {fault : Fault}
    (halted : c.machine.halt = some fault) :
    next.waiting <:+ waiting ∧ next.machine.halt = some fault := by
  have stopped := Machine.isStopped_of_halted halted
  cases step with
  | @ends m out toks i waiting arrived =>
      rw [Machine.arrive_of_stopped toks i m stopped] at arrived
      cases arrived
      exact ⟨waits, halted⟩
  | @alone m ready toks i waiting arrived =>
      rw [Machine.arrive_of_stopped toks i m stopped] at arrived
      cases arrived
  | @enter m ready toks i waiting nested arrived =>
      rw [Machine.arrive_of_stopped toks i m stopped] at arrived
      cases arrived
  | leave out first rest =>
      rcases proper first List.mem_cons_self with ⟨m, nests⟩
      -- Only the statement that started the thread would drop the fault, and that is not left here.
      have here := ground_above waits stays
      exact ⟨(List.suffix_cons first rest).trans waits,
        (nests.complete_of_halted here halted).halt.trans halted⟩
  | finish out => exact ⟨waits, (Machine.endInvocation_of_halted halted).symm ▸ halted⟩

theorem Within.halted (within : Within (ground c.waiting) c later) (proper : c.Proper)
    {fault : Fault} (halted : c.machine.halt = some fault) :
    later.waiting <:+ c.waiting ∧ later.machine.halt = some fault := by
  induction within with
  | refl => exact ⟨List.suffix_refl _, halted⟩
  | tail before step ih =>
      have reached : Reaches c _ := Relation.ReflTransGen.mono (fun _ _ step => step.1) _ _ before
      exact step.1.halted (reached.proper proper) ih.1 step.2 ih.2

/-- Where the main thread is the innermost one, everything that follows is within it. -/
theorem Reaches.within (reached : Reaches c later) : Within [] c later :=
  Relation.ReflTransGen.mono (fun _ _ step => ⟨step, List.nil_suffix⟩) _ _ reached

end Config

/-! ## The law -/

open Config Statement

/-- What holds of the depth of calls in every run of a script. -/
structure CallDepth (toks : TokenStream) (m : Machine) : Prop where
  /-- Whenever a statement is carried out, the counter is one more than the number of bodies that its
  thread is in the middle of, and at most the deepest nesting there may be. -/
  counted : ∀ c, Reaches (.start toks m) c → c.Begins →
    c.machine.depth = 1 + activations c.waiting ∧ c.machine.depth ≤ deepestCall
  /-- The open calls of a thread are listed, the most recent one first. -/
  listed : ∀ c, Reaches (.start toks m) c → c.machine.calls = openCalls c.waiting
  /-- A call is listed with the name of its function and the place of its word. -/
  sites : ∀ c next stream i nested, Reaches (.start toks m) c → Step c next →
    c.focus = .token stream i → next.waiting = ⟨stream, nested⟩ :: c.waiting →
    nested.purpose = .call ∨ nested.purpose = .background →
      ∃ procedure : Procedure, nested.inner = procedure.body ∧ nested.site? =
        some { name := procedure.name
               line := (stream.peek i).line, column := (stream.peek i).column }
  /-- A body that is called or run in place is entered one level deeper, if that is not too deep. -/
  entered : ∀ c stream i ready procedure, Reaches (.start toks m) c → c.focus = .token stream i →
    c.machine.arrive stream i = .ready ready → activated? stream i ready = some procedure →
    c.machine.depth < deepestCall →
      ∃ next nested, Step c next ∧ next.focus = .token procedure.body 0 ∧
        next.waiting = ⟨stream, nested⟩ :: c.waiting ∧
        (nested.purpose = .call ∨ nested.purpose = .inline) ∧
        next.machine.depth = c.machine.depth + 1
  /-- At the deepest level no body is entered.  The thread is stopped by a stack overflow that shows
  the open calls, and carries out nothing more; in the main thread this ends the run. -/
  refused : ∀ c stream i ready procedure, Reaches (.start toks m) c → c.focus = .token stream i →
    c.machine.arrive stream i = .ready ready → activated? stream i ready = some procedure →
    c.machine.depth = deepestCall →
      ∃ next fault, Step c next ∧ next.waiting = c.waiting ∧ next.machine.halt = some fault ∧
        fault.cause = .stackOverflow deepestCall ∧
        fault.stack = (openCalls c.waiting).map (fun call =>
          { call with source := c.machine.sourceLine call.line }) ∧
        (∀ later, Within (ground c.waiting) next later →
          ¬ later.Begins ∧ later.machine.halt = some fault) ∧
        (ground c.waiting = [] → ∀ steps, (m.exec steps toks 0).exhausted = false →
          (m.exec steps toks 0).endInvocation.halt = some fault)

theorem call_depth {toks : TokenStream} {m : Machine} (top : m.depth = 1) (fresh : m.calls = []) :
    CallDepth toks m := by
  have first : (Config.start toks m).Counted := ⟨⟨top, fresh, top ▸ by decide⟩, .nil⟩
  refine ⟨?counted, fun c reached => (reached.counted first).level.calls, ?sites, ?entered, ?refused⟩
  case counted =>
    intro c reached _
    have level := (reached.counted first).level
    exact ⟨level.depth, level.shallow⟩
  case sites =>
    intro c next stream i nested reached step here waits listed
    cases step with
    | ends | alone => exact absurd waits List.ne_cons_self
    | @enter m ready toks i waiting nested arrived runs =>
        cases here
        cases waits
        have place := arrive_place arrived
        exact nested?_site runs place.1 place.2.1 listed
    | leave | finish => cases here
  case entered =>
    intro c stream i ready procedure reached here arrived found shallow
    have arrival := arrives stream i c.machine
    rw [arrived] at arrival
    have depth := arrival.ready_contained.depth
    rcases nested?_of_activated found (depth ▸ shallow) with ⟨nested, runs, inner, purpose, entry⟩
    rcases c with ⟨m, focus, waiting⟩
    cases here
    exact ⟨_, nested, .enter arrived runs, inner ▸ rfl, rfl, purpose, depth ▸ entry⟩
  case refused =>
    intro c stream i ready procedure reached here arrived found deep
    have level := (reached.counted first).level
    have proper := reached.proper (start_proper toks m)
    have arrival := arrives stream i c.machine
    rw [arrived] at arrival
    have begun := level.of_contained arrival.ready_contained
    rcases arrive_place arrived with ⟨-, -, lines, running⟩
    rcases dispatch_refused found (begun.depth ▸ level.depth ▸ deep ▸ Nat.lt_succ_self _) with
      ⟨alone, read, same, stops⟩
    rcases c with ⟨before, focus, waiting⟩
    cases here
    have step : Step ⟨before, .token stream i, waiting⟩ _ := .alone arrived alone
    have halted : ((dispatch idle stream i).run ready).2.halt =
        some (read.annotate { cause := .stackOverflow deepestCall }) := by
      rw [stops, read.stop_of_running _ (same.halt.trans running)]
    have after := Step.proper step proper
    refine ⟨_, _, step, rfl, halted, read.annotate_cause _, ?_, ?_, ?_⟩
    · rw [read.annotate_stack, same.calls, begun.calls]
      unfold Machine.sourceLine
      rw [same.lines, lines]
    · intro later within
      have still := Within.halted within after halted
      exact ⟨not_begins_of_halted still.2, still.2⟩
    · intro main steps enough
      have ended := Machine.run_reaches steps toks m enough
      have further := Reaches.to_final (reached.tail step) ended rfl
      exact (Within.halted (main ▸ further.within) after halted).2

/-- A function that does nothing but call itself. -/
def dive : String := "start doing dive\n    run dive\nend doing\nrun dive"

theorem call_depth_dive :
    (Machine.start {}).depth = 1 ∧ (Machine.start {}).calls = [] ∧
      CallDepth (scan dive) (.start {}) :=
  ⟨rfl, rfl, call_depth rfl rfl⟩

/-- The hundredth call is refused, and the other ninety-nine are shown. -/
example :
    ((Machine.runSource dive (.start {})).1.map fun fault => (fault.cause, fault.stack.length)) =
      some (.stackOverflow 100, 99) := by
  decide +kernel

end BigScript
