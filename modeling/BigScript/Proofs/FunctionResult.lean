import BigScript.Proofs.Isolation
import BigScript.Proofs.LoopOrigin
import BigScript.Proofs.ResultTail

/-!
# Where the result of a function comes from

A function hands its result back in one global variable, which is erased when a call begins and read
when the call is over.  Nothing puts the variable back in between: what a function leaves in it when
it comes back stays there, in the scope of its caller.

So the result of a call is not always one that the function has given.  `result_law` says what it
is: the variable holds what it held when the walk began, what the last statement in the scope of the
walk has made of it, or what the function that came back last has left.  A function that gives no
result of its own has that of the last function that it called, and no result if it called none.
-/

namespace BigScript

theorem Bindings.valueOf?_erase_self (vars : Bindings) (name : String) :
    (vars.erase name).valueOf? name = none := by
  obtain ⟨entries⟩ := vars
  unfold erase valueOf?
  dsimp only
  induction entries with
  | nil => rfl
  | cons entry rest ih =>
      obtain ⟨other, value⟩ := entry
      by_cases same : other = name
      · simp only [bne_iff_ne, ne_eq, same, not_true_eq_false, not_false_eq_true,
          List.filter_cons_of_neg, ih]
      · simp only [bne_iff_ne, ne_eq, same, not_false_eq_true, List.filter_cons_of_pos, valueIn,
          beq_iff_eq, if_false, ih]

namespace Machine

/-- The result that the last function has left: the variable for results, or else one that is
spelled in lower case. -/
def result? (m : Machine) : Option String := m.globals.find? "ReturnValue"

theorem endInvocation_result? (m : Machine) : m.endInvocation.result? = m.result? := by
  rw [endInvocation_eq]
  rfl

theorem leave_result? (before out : Machine) : (before.leave out).result? = out.result? :=
  out.endInvocation_result?

/-- Where there is no result, a variable that is spelled in lower case is taken for one. -/
theorem result?_of_none {m : Machine} (none : m.globals.valueOf? "ReturnValue" = none) :
    m.result? = m.globals.valueOf? "returnvalue" := by
  have lower : Text.lower "ReturnValue" = "returnvalue" := by decide +kernel
  unfold result? Bindings.find?
  rw [none, lower]
  rfl

end Machine

theorem ends_result? {toks : TokenStream} {i : Nat} {m out : Machine}
    (arrived : m.arrive toks i = .ends out) : out.result? = m.result? := by
  have arrival := arrives toks i m
  rw [arrived] at arrival
  cases arrival with
  | still => rfl
  | cancelled =>
      rw [Machine.stop_eq]
      rfl
  | bug =>
      rw [Machine.stopOnBug, Machine.stop_eq, Machine.moveTo_eq]
      rfl

theorem ready_result? {toks : TokenStream} {i : Nat} {m ready : Machine}
    (arrived : m.arrive toks i = .ready ready) : ready.result? = m.result? := by
  have arrival := arrives toks i m
  rw [arrived] at arrival
  cases arrival with
  | begins =>
      rw [Machine.begun_eq]
      rfl

/-- What is run in place begins with the result that there is; what is called begins without one.
When it is over, the result is what it has left, and after a call what the tail of the call has made
of that. -/
theorem Nests.result? {toks : TokenStream} {m : Machine} {nested : Nested}
    (nests : Nests toks m nested) :
    ((nested.purpose = .inline ∨ nested.purpose = .source) ∧ nested.entry.result? = m.result? ∧
        ∀ out, (nested.complete out).2.result? = out.result?) ∨
      (nested.purpose = .background ∧ ∀ out, (nested.complete out).2.result? = out.result?) ∨
      nested.purpose = .call := by
  cases nests with
  | call => exact .inr (.inr rfl)
  | background last found => exact .inr (.inl ⟨rfl, fun out => Machine.leave_result? m out⟩)
  | inline last found shallow => exact .inl ⟨.inl rfl, rfl, fun _ => rfl⟩
  | source last found => exact .inl ⟨.inr rfl, rfl, fun _ => rfl⟩

/-! ## Tails -/

/-- A tail behind a token that takes one result, and the name that takes it. -/
structure TakesResult (toks : TokenStream) (last : Nat) (name : String) : Prop where
  ampersand : (toks.peek (last + 1)).isSymbol .ampersand = true
  set : (toks.peek (last + 2)).isWord .set = true
  asWord : (toks.peek (last + 3)).isWord .asWord = true
  inside : last + 4 < toks.size
  brace : (toks.peek (last + 4)).isSymbol .leftBrace = true
  line : (toks.peek (last + 4)).line = (toks.peek (last + 2)).line
  named : (toks.bracedName (last + 4)).1 = name
  alone : (toks.peek ((toks.bracedName (last + 4)).2 + 1)).line ≠ (toks.peek (last + 2)).line ∨
    Results.beginsName (toks.peek ((toks.bracedName (last + 4)).2 + 1)) = false

namespace Statement

/-- The name in a tail is set to the result. -/
theorem finish_single {toks : TokenStream} {last : Nat} {name : String}
    (takes : TakesResult toks last name) (result : String) (m : Machine) :
    ((finish toks last [result]).run m).2 = m.assign name result := by
  have start : toks.tailStart last = last + 2 := if_pos takes.ampersand
  have tail : toks.hasTail last = true := by
    rw [TokenStream.hasTail, start, takes.set, takes.asWord]
    rfl
  have single : toks.takesList last = false := by
    have brace := takes.brace
    unfold Token.isSymbol at brace
    rw [TokenStream.takesList, start, Token.isWord, eq_of_beq brace]
    rfl
  have begins : Results.beginsName (toks.peek (last + 4)) = true := by
    rw [Results.beginsName, takes.brace, Bool.true_or, Bool.true_or]
  rw [finish, Results.setAs_run, if_pos tail, if_neg (Bool.eq_false_iff.mp single), start]
  dsimp only
  rw [Results.bindNames_name takes.line begins, Results.bindNames_ends takes.alone]
  exact congrArg (m.assign · result) takes.named

end Statement

/-! ## The result along a run -/

namespace Config

open Statement

variable {waiting : List Waiting} {first c next : Config}

/-- Whether a function that was called, or run on a thread of its own, comes back at this moment. -/
def ComesBack (c : Config) : Prop :=
  c.focus = .walked ∧ ∃ called rest, c.waiting = called :: rest ∧
    (called.nested.purpose = .call ∨ called.nested.purpose = .background)

/-- A transition in the scope of a walk, or back into it, that changes the result. -/
structure Answers (waiting : List Waiting) (c next : Config) : Prop where
  step : Step c next
  scope : InScope waiting next
  changed : next.machine.result? ≠ c.machine.result?

/-- A transition with which a function comes back into the scope of a walk, where its result stays. -/
structure Leaves (waiting : List Waiting) (c next : Config) : Prop where
  step : Step c next
  scope : InScope waiting next
  back : ComesBack c
  kept : next.machine.result? = c.machine.result?

/-- Transitions in the scope of a walk that leave the result as it is. -/
def Silent (waiting : List Waiting) : Config → Config → Prop :=
  Relation.ReflTransGen fun c next => Step c next ∧ InScope waiting c ∧ InScope waiting next ∧
    next.machine.result? = c.machine.result?

theorem Silent.result? (silent : Silent waiting first c) :
    c.machine.result? = first.machine.result? := by
  induction silent with
  | refl => rfl
  | tail _ step ih => exact step.2.2.2.trans ih

/-- A walk never ends what waits below it. -/
theorem Within.above (path : Within waiting first c) (start : first.waiting = waiting) :
    waiting <:+ c.waiting := by
  rcases Relation.ReflTransGen.cases_tail path with same | ⟨_, _, step⟩
  · have still : c.waiting = waiting := (congrArg Config.waiting same).trans start
    exact still ▸ List.suffix_refl _
  · exact step.2

theorem ne_of_above {called : Waiting} {rest : List Waiting} (above : waiting <:+ rest) :
    called :: rest ≠ waiting := by
  intro same
  have long := above.length_le
  rw [← same, List.length_cons] at long
  exact absurd long (Nat.not_succ_le_self _)

theorem Within.stacked (path : Within waiting first c) (start : first.waiting = waiting) :
    ∃ inner, Stacked waiting inner c := by
  induction path with
  | refl => exact ⟨[], start, fun _ none => absurd none List.not_mem_nil⟩
  | tail _ step ih =>
      rcases ih with ⟨inner, stacked⟩
      exact step.1.stacked step.2 stacked

/-- The scope of a walk is entered from itself, or by a function that comes back. -/
theorem Step.intoScope (step : Step c next) (above : waiting <:+ c.waiting)
    (scope : InScope waiting next) : InScope waiting c ∨ ComesBack c := by
  rcases scope with ⟨inner, stack, inPlace⟩
  cases step with
  | ends | alone | finish => exact .inl ⟨inner, stack, inPlace⟩
  | @enter m ready toks i below nested arrived runs =>
      cases inner with
      | nil => exact absurd stack (ne_of_above above)
      | cons top inner =>
          have rest := (List.cons.inj stack).2
          exact .inl ⟨inner, rest, fun other member => inPlace other (List.mem_cons_of_mem _ member)⟩
  | leave out called below =>
      by_cases here : called.nested.purpose = .inline ∨ called.nested.purpose = .source
      · refine .inl ⟨called :: inner, congrArg (called :: ·) stack, fun other member => ?_⟩
        rcases List.mem_cons.mp member with rfl | member
        · exact here
        · exact inPlace other member
      · refine .inr ⟨rfl, called, below, rfl, ?_⟩
        cases purpose : called.nested.purpose with
        | call => exact .inl rfl
        | background => exact .inr rfl
        | inline => exact absurd (.inl purpose) here
        | source => exact absurd (.inr purpose) here

/-- The result in the scope of a walk is the one that the walk began with, or it was changed last by
a transition of the scope, or left last by a function that came back. -/
theorem Within.result (path : Within waiting first c) (start : first.waiting = waiting)
    (scope : InScope waiting c) :
    Silent waiting first c ∨
      (∃ turn next, Within waiting first turn ∧ Answers waiting turn next ∧ Silent waiting next c) ∨
      (∃ turn next, Within waiting first turn ∧ Leaves waiting turn next ∧ Silent waiting next c) := by
  induction path with
  | refl => exact .inl .refl
  | @tail turn next before step ih =>
      by_cases same : next.machine.result? = turn.machine.result?
      -- Where a function has just come back, what happened before the call no longer matters.
      · rcases step.1.intoScope (Within.above before start) scope with inside | back
        · have silent := And.intro step.1 (And.intro inside (And.intro scope same))
          rcases ih inside with
            all | ⟨other, after, reached, answers, rest⟩ | ⟨other, after, reached, leaves, rest⟩
          · exact .inl (all.tail silent)
          · exact .inr (.inl ⟨other, after, reached, answers, rest.tail silent⟩)
          · exact .inr (.inr ⟨other, after, reached, leaves, rest.tail silent⟩)
        · exact .inr (.inr ⟨turn, next, before, ⟨step.1, scope, back, same⟩, .refl⟩)
      · exact .inr (.inl ⟨turn, next, before, ⟨step.1, scope, same⟩, .refl⟩)

/-- The result changes in the scope of a walk only through a statement that is carried out there and
runs no stream, or through the tail of a call. -/
theorem Answers.statement (answers : Answers waiting c next) (above : waiting <:+ c.waiting)
    {inner : List Waiting} (stacked : Stacked waiting inner c) :
    (InScope waiting c ∧ ∃ toks i ready, c.focus = .token toks i ∧
        c.machine.arrive toks i = .ready ready ∧ nested? toks i ready = none) ∨
      (c.focus = .walked ∧ ∃ called rest, c.waiting = called :: rest ∧
        called.nested.purpose = .call) := by
  rcases answers with ⟨step, scope, changed⟩
  rcases stacked with ⟨stack, proper⟩
  cases step with
  | ends arrived => exact absurd (ends_result? arrived) changed
  | @alone m ready toks i below arrived alone =>
      exact .inl ⟨scope, toks, i, ready, rfl, arrived, alone⟩
  | @enter m ready toks i below nested arrived runs =>
      -- What is entered in the scope is run in place.
      rcases scope with ⟨others, grown, inPlace⟩
      have inside : ∃ top rest, others = top :: rest := by
        cases others with
        | nil => exact absurd grown (ne_of_above above)
        | cons top rest => exact ⟨top, rest, rfl⟩
      rcases inside with ⟨top, rest, rfl⟩
      have same := (List.cons.inj grown).1
      have purpose := inPlace top List.mem_cons_self
      rw [← same] at purpose
      have kept : nested.entry.result? = ready.result? := by
        rcases (nested?_nests runs).result? with ⟨-, entry, -⟩ | ⟨background, -⟩ | call
        · exact entry
        · rw [background] at purpose
          rcases purpose with purpose | purpose <;> cases purpose
        · rw [call] at purpose
          rcases purpose with purpose | purpose <;> cases purpose
      exact absurd (kept.trans (ready_result? arrived)) changed
  | leave out called below =>
      have member : called ∈ inner := by
        rcases scope with ⟨others, rest, -⟩
        cases inner with
        | nil => exact absurd stack (ne_of_above ⟨others, rest.symm⟩)
        | cons top inner =>
            cases (List.cons.inj stack).1
            exact List.mem_cons_self
      rcases proper called member with ⟨m, nests⟩
      rcases nests.result? with ⟨-, -, keeps⟩ | ⟨-, keeps⟩ | call
      · exact absurd (keeps out) changed
      · exact absurd (keeps out) changed
      · exact .inr ⟨rfl, called, below, rfl, call⟩
  | finish out => exact absurd out.endInvocation_result? changed

end Config

/-! ## The law -/

open Config Statement

namespace Waiting

/-- The moment at which the stream of a statement that waits begins. -/
def opening (call : Waiting) (rest : List Waiting) : Config :=
  ⟨call.nested.entry, .token call.nested.inner 0, call :: rest⟩

/-- The moment at which that stream is over. -/
def ending (call : Waiting) (rest : List Waiting) (out : Machine) : Config :=
  ⟨out, .walked, call :: rest⟩

end Waiting

/-- What the result of a call is. -/
structure ResultLaw (call : Waiting) (rest : List Waiting) : Prop where
  /-- A call begins without a result. -/
  erased : call.nested.entry.globals.valueOf? "ReturnValue" = none
  /-- The walk through the body leads to its end, unless the bound on steps is used up. -/
  walked : ∀ steps, (Machine.exec steps call.nested.inner 0 call.nested.entry).exhausted = false →
    Within (call :: rest) (call.opening rest)
      (call.ending rest (Machine.exec steps call.nested.inner 0 call.nested.entry))
  /-- The result is missing, but for a variable spelled in lower case, if the run has stayed in the
  scope of the function and nothing has answered there; otherwise it is what was answered there last,
  or what the function has left that came back last. -/
  origin : ∀ out, Within (call :: rest) (call.opening rest) (call.ending rest out) →
    (Silent (call :: rest) (call.opening rest) (call.ending rest out) ∧
      out.result? = call.nested.entry.globals.valueOf? "returnvalue") ∨
    (∃ turn next, Within (call :: rest) (call.opening rest) turn ∧
      Answers (call :: rest) turn next ∧ Silent (call :: rest) next (call.ending rest out) ∧
      out.result? = next.machine.result?) ∨
    (∃ turn next, Within (call :: rest) (call.opening rest) turn ∧
      Leaves (call :: rest) turn next ∧ Silent (call :: rest) next (call.ending rest out) ∧
      out.result? = turn.machine.result?)
  /-- The call of a function in whose scope nothing answers gives the result of the function that came
  back last, or `nothing` if none has. -/
  unanswered : ∀ out, Within (call :: rest) (call.opening rest) (call.ending rest out) →
    (∀ turn next, Within (call :: rest) (call.opening rest) turn → ¬ Answers (call :: rest) turn next) →
    call.nested.entry.globals.valueOf? "returnvalue" = none →
      (Silent (call :: rest) (call.opening rest) (call.ending rest out) ∧
        out.returned = Value.nothing) ∨
      ∃ turn next, Within (call :: rest) (call.opening rest) turn ∧ Leaves (call :: rest) turn next ∧
        Silent (call :: rest) next (call.ending rest out) ∧ out.returned = turn.machine.returned
  /-- What answers is a statement carried out in the scope of the function, or the tail of a call
  there. -/
  statements : ∀ turn next, Within (call :: rest) (call.opening rest) turn →
    Answers (call :: rest) turn next →
      (InScope (call :: rest) turn ∧ ∃ stream i ready, turn.focus = .token stream i ∧
        turn.machine.arrive stream i = .ready ready ∧ nested? stream i ready = none) ∨
      (turn.focus = .walked ∧ ∃ called below, turn.waiting = called :: below ∧
        called.nested.purpose = .call)
  /-- When the body is over, its result is handed to the tail of the call, unless the run has been
  stopped.  A name in the tail is set to the result. -/
  handed : ∃ (last : Nat) (before : Machine), ∀ out,
    call.nested.complete out = (if (before.leave out).halt.isSome then (last, before.leave out)
      else (finish call.stream last [out.returned]).run (before.leave out)) ∧
    ∀ name, TakesResult call.stream last name → (before.leave out).halt = none →
      (call.nested.complete out).2 = (before.leave out).assign name out.returned

theorem result_law {toks : TokenStream} {i : Nat} {ready : Machine} {nested : Nested}
    (runs : nested? toks i ready = some nested) (called : nested.purpose = .call)
    (rest : List Waiting) : ResultLaw ⟨toks, nested⟩ rest := by
  have erased : nested.entry.globals.valueOf? "ReturnValue" = none := by
    cases nested?_nests runs with
    | call => exact Bindings.valueOf?_erase_self _ _
    | background | inline | source => cases called
  have origin : ∀ out, Within (⟨toks, nested⟩ :: rest) (Waiting.opening ⟨toks, nested⟩ rest)
      (Waiting.ending ⟨toks, nested⟩ rest out) → _ := fun out path =>
    path.result rfl ⟨[], rfl, fun _ none => absurd none List.not_mem_nil⟩
  have began : nested.entry.result? = nested.entry.globals.valueOf? "returnvalue" :=
    Machine.result?_of_none erased
  have walked := fun steps => Machine.exec_path steps nested.inner 0 nested.entry (⟨toks, nested⟩ :: rest)
  refine ⟨erased, walked, ?origin, ?unanswered, ?statements, ?handed⟩
  case origin =>
    intro out path
    rcases origin out path with
      all | ⟨turn, next, reached, answers, silent⟩ | ⟨turn, next, reached, leaves, silent⟩
    · exact .inl ⟨all, all.result?.trans began⟩
    · exact .inr (.inl ⟨turn, next, reached, answers, silent, silent.result?⟩)
    · exact .inr (.inr ⟨turn, next, reached, leaves, silent, silent.result?.trans leaves.kept⟩)
  case unanswered =>
    intro out path none lower
    rcases origin out path with
      all | ⟨turn, next, reached, answers, -⟩ | ⟨turn, next, reached, leaves, silent⟩
    · have missing : out.result? = Option.none := (all.result?.trans began).trans lower
      exact .inl ⟨all, congrArg (·.getD Value.nothing) missing⟩
    · exact absurd answers (none turn next reached)
    · have left : out.result? = turn.machine.result? := silent.result?.trans leaves.kept
      exact .inr ⟨turn, next, reached, leaves, silent, congrArg (·.getD Value.nothing) left⟩
  case statements =>
    intro turn next reached answers
    rcases Within.stacked reached rfl with ⟨inner, stacked⟩
    exact answers.statement (Within.above reached rfl) stacked
  case handed =>
    cases nested?_nests runs with
    | @call before procedure name last head args read found shallow =>
        refine ⟨last, before, fun out => ?_⟩
        have same : (before.leave out).returned = out.returned :=
          congrArg (·.getD Value.nothing) (before.leave_result? out)
        have completed : (Nested.ofCall toks last head procedure args before).complete out =
            (if (before.leave out).halt.isSome then (last, before.leave out)
              else (finish toks last [out.returned]).run (before.leave out)) := by
          rw [← same]
          rfl
        refine ⟨completed, fun name takes running => ?_⟩
        change ((Nested.ofCall toks last head procedure args before).complete out).2 = _
        rw [completed, running, if_neg (by decide)]
        exact finish_single takes out.returned _
    | background | inline | source => cases called

/-- A function that only calls another one, which gives a result. -/
def relay : String :=
  "start doing g\nreturn 5\nend doing\nstart doing f\nrun g\nend doing\nrun f & set as {R}\nprint R"

/-- The call in it. -/
def relayCall : String := "run f & set as {R}"

/-- The machine in which the call is made. -/
def relayDefined : Machine :=
  ((Machine.start {}).define { name := "g", params := [], body := scan "return 5" }).define
    { name := "f", params := [], body := scan "run g" }

theorem result_law_relay :
    ∃ nested, nested? (scan relayCall) 0 relayDefined = some nested ∧ nested.purpose = .call ∧
      ∀ rest, ResultLaw ⟨scan relayCall, nested⟩ rest := by
  have call : (nested? (scan relayCall) 0 relayDefined).map Nested.purpose = some .call := by
    decide +kernel
  rcases Option.map_eq_some_iff.mp call with ⟨nested, runs, called⟩
  exact ⟨nested, runs, called, result_law runs called⟩

/-- The function that gives no result has that of the function it calls. -/
theorem relay_passesOn : (Machine.runSource relay (.start {})).2.output = "5\n" := by
  decide +kernel

end BigScript
