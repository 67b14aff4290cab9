import BigScript.Proofs.Activation

/-!
# What statements leave alone, and the functions that a run knows

A statement that runs no other tokens reads operands, binds names, writes, changes the control state
of its thread, stops the thread, or defines a function.  `Lasting` says what a relation between
machines must hold across so that it holds across all of this, up to the definition, and
`dispatch_lasts` concludes that it does.

That the table of functions is the same is such a relation: the only statement that changes it is a
definition, and what it adds is a part of the stream it stands in, with an end put behind it.  So a
property of token streams that passes on to such parts, and that the included sources have, holds of the
body of every function a run ever knows and of every stream it ever walks through: `Passes` states the
first, `exec_knows` concludes the second from it.
-/

namespace BigScript

/-! ## Relations that last through statements -/

/-- A relation that holds across what statements do: what leaves the control state alone, changes of the
control state, and stops. -/
structure Lasting (rel : Machine → Machine → Prop) : Prop where
  trans : ∀ {before middle after}, rel before middle → rel middle after → rel before after
  same : ∀ {before after free}, SameControl before after free → rel before after
  control : ∀ (m : Machine) loops returning taken bug ended,
    rel m { m with loops, returning, taken, bug, ended }
  stop : ∀ (m : Machine) cause, rel m (m.stop cause)

/-- An action across which a relation holds. -/
def Lasts {α : Type} (rel : Machine → Machine → Prop) (act : Act α) : Prop :=
  ∀ m : Machine, rel m (act.run m).2

variable {rel : Machine → Machine → Prop}

namespace Lasting

theorem refl (lasting : Lasting rel) (m : Machine) : rel m m :=
  lasting.control m m.loops m.returning m.taken m.bug m.ended

theorem loops (lasting : Lasting rel) (m : Machine) (loops : List LoopFrame) : rel m { m with loops } :=
  lasting.control m loops m.returning m.taken m.bug m.ended

theorem ended (lasting : Lasting rel) (m : Machine) (ended : Bool) : rel m { m with ended } :=
  lasting.control m m.loops m.returning m.taken m.bug ended

end Lasting

namespace Lasts

variable {α β : Type}

theorem of_steady {act : Act α} {free : String → Prop} (lasting : Lasting rel)
    (steady : Steady act free) : Lasts rel act := fun m => lasting.same (steady m)

theorem modify {change : Machine → Machine} (holds : ∀ m, rel m (change m)) :
    Lasts rel (modify change : Act Unit) := holds

theorem pure (lasting : Lasting rel) (value : α) : Lasts rel (Pure.pure value : Act α) := lasting.refl

theorem get (lasting : Lasting rel) : Lasts rel (MonadState.get : Act Machine) := lasting.refl

theorem bind {first : Act α} {next : α → Act β} (lasting : Lasting rel) (firstLasts : Lasts rel first)
    (nextLasts : ∀ value, Lasts rel (next value)) : Lasts rel (first >>= next) := fun m =>
  lasting.trans (firstLasts m) (nextLasts (first.run m).1 (first.run m).2)

theorem ite {condition : Prop} [Decidable condition] {first second : Act α}
    (firstLasts : Lasts rel first) (secondLasts : Lasts rel second) :
    Lasts rel (if condition then first else second) := by
  split
  · exact firstLasts
  · exact secondLasts

/-- An action and an answer that is known. -/
theorem answer {first : Act α} (lasting : Lasting rel) (firstLasts : Lasts rel first) (value : β) :
    Lasts rel (do let _ ← first; return value : Act β) :=
  bind lasting firstLasts fun _ => pure lasting value

end Lasts

namespace Statement

section Definition

variable (toks : TokenStream) (i : Nat)

/-- The function that a definition at an index adds. -/
def definition : Procedure :=
  let (params, first) := parameters toks (i + 2)
  let stop := toks.bodyEnd first
  let last := toks.peek stop
  let finish : Token := { lexeme := .finish, line := last.line, column := last.column }
  { name := (toks.peek (i + 2)).rawName, params, body := (toks.extract first stop).push finish }

theorem define_run (m : Machine) : ((define toks i).run m).2 = m.define (definition toks i) := by
  unfold define definition
  rw [Act.run_bind, Act.run_modify]
  dsimp only
  split <;> rfl

end Definition

theorem Idles.lasts (lasting : Lasting rel) {m after : Machine} (idles : Idles m after) : rel m after := by
  cases idles with
  | steady same => exact lasting.same same
  | overflow same => exact lasting.trans (lasting.same same) (lasting.stop _ _)
  | ends => exact lasting.ended m true

variable (lasting : Lasting rel) (toks : TokenStream) (i : Nat)
include lasting

/-! ## The control flow -/

theorem giveBack_lasts : Lasts rel (giveBack toks i) := by
  have gives (value : String) : Lasts rel (modify fun m =>
      { m.setGlobal "ReturnValue" value with returning := true } : Act Unit) := .modify fun m =>
    lasting.trans (lasting.same (m.setGlobal_sameControl value (.inl (by decide)) : SameControl _ _))
      (lasting.control _ m.loops true m.taken m.bug m.ended)
  refine .ite (.answer lasting (gives "") i) ?_
  refine .bind lasting (.of_steady lasting (Operand.assigned_routine toks _).steady) fun read => ?_
  exact .bind lasting (.get lasting) fun _ => .ite (.pure lasting _) (.answer lasting (gives read.1) _)

theorem branch_lasts : Lasts rel (branch toks i) := by
  intro m
  rw [branch_run]
  have same : SameControl m (condition toks i m).2 := (Condition.holds_routine _).steady m
  refine lasting.trans (lasting.same same) ?_
  generalize (condition toks i m).2 = read
  cases toks.asksForBug i with
  | false => exact lasting.control read read.loops read.returning _ read.bug read.ended
  | true => exact lasting.control read read.loops read.returning _ none read.ended

theorem alternative_lasts : Lasts rel (alternative toks i) := by
  intro m
  rw [alternative_run]
  exact lasting.control m m.loops m.returning true m.bug m.ended

theorem openLoop_lasts (options : Nat) : Lasts rel (openLoop toks i options) := by
  refine .bind lasting (.of_steady lasting (loopLimit_routine toks _ _).steady) fun limit => ?_
  refine .bind lasting (.of_steady lasting (loopWalk?_routine toks _ _).steady) fun walk => ?_
  dsimp only
  split
  · rename_i walk
    refine .ite (.pure lasting _) (.answer lasting (.modify fun m => ?_) _)
    exact lasting.trans (lasting.same (bindItem_sameControl walk m)) (lasting.loops _ _)
  · exact .answer lasting (.modify fun m => lasting.loops m _) _

theorem leaveLoop_lasts : Lasts rel (leaveLoop toks i) := by
  refine .bind lasting (.get lasting) fun m => ?_
  split
  · exact .answer lasting (.modify fun m => lasting.stop m _) _
  · exact .answer lasting (.modify fun m => lasting.loops m _) _

theorem stop_lasts : Lasts rel (stop toks i) := by
  refine .ite (leaveLoop_lasts lasting toks (i + 1)) (.ite ?_ (.ite ?_ (.pure lasting _)))
  · exact .answer lasting (.modify fun m => lasting.ended m true) _
  · refine .bind lasting (.get lasting) fun m => ?_
    refine .bind lasting (.modify fun m => lasting.loops m []) fun _ => ?_
    exact .ite (.pure lasting _) (.pure lasting _)

theorem goBack_lasts (frame : LoopFrame) : Lasts rel (goBack frame) :=
  .answer lasting (.modify fun m => lasting.loops m _) _

theorem keep_lasts : Lasts rel (keep toks i) := by
  refine .bind lasting (.get lasting) fun m => ?_
  dsimp only
  split
  · exact .answer lasting (.modify fun m => lasting.stop m _) _
  · refine .bind lasting (.modify fun m => lasting.loops m _) fun _ => .ite (.pure lasting _) ?_
    split
    · rename_i walk _
      refine .ite ?_ (.pure lasting _)
      refine .bind lasting (.modify fun m => lasting.same (bindItem_sameControl _ m)) fun _ => ?_
      exact goBack_lasts lasting _
    · refine .ite (.pure lasting _) (.ite (goBack_lasts lasting _) ?_)
      refine .bind lasting (.of_steady lasting (Condition.holds_routine _).steady) fun _ => ?_
      exact .ite (goBack_lasts lasting _) (.pure lasting _)

/-! ## Every statement -/

theorem direct_lasts (m : Machine) :
    rel m ((direct toks i).run m).2 ∨ ((direct toks i).run m).2 = m.define (definition toks i) := by
  unfold direct
  split
  · exact .inl (giveBack_lasts lasting toks i m)
  · exact .inl (branch_lasts lasting toks i m)
  · exact .inl (alternative_lasts lasting toks i m)
  · unfold start
    dsimp only
    split
    · exact .inl (openLoop_lasts lasting toks i _ m)
    · split
      · exact .inr (define_run toks i m)
      · refine .inl (Lasts.ite ?_ (.pure lasting _) m)
        exact .answer lasting (.of_steady lasting (printLine_routine _).steady) _
  · exact .inl (openLoop_lasts lasting toks i _ m)
  · exact .inl (keep_lasts lasting toks i m)
  · exact .inl (stop_lasts lasting toks i m)
  · exact .inl (leaveLoop_lasts lasting toks i m)
  · exact .inl (lasting.same ((step_routine toks i).steady m))
  · exact .inl (lasting.same ((assignWord_routine toks i).steady m))
  · exact .inl (lasting.same ((assignWord_routine toks i).steady m))
  · exact .inl (lasting.same ((assignWord_routine toks i).steady m))
  · exact .inl (lasting.refl m)
  · exact .inl (lasting.refl m)
  · exact .inl (lasting.refl m)
  · exact .inl (Lasts.ite (.pure lasting _) (.pure lasting _) m)
  · exact .inl (lasting.refl m)
  · exact .inl (lasting.same ((plain_routine toks i).steady m))

/-- A relation that lasts holds across every statement that runs no other tokens, unless it defines a
function. -/
theorem dispatch_lasts {m : Machine} (alone : nested? toks i m = none) :
    rel m ((dispatch idle toks i).run m).2 ∨
      ((dispatch idle toks i).run m).2 = m.define (definition toks i) := by
  unfold dispatch
  split
  · rename_i head
    exact .inl ((runWord_idles toks i head alone).lasts lasting)
  · rename_i head
    simp only [nested?, head] at alone
    exact .inl ((inline_idles toks i alone).lasts lasting)
  · rename_i head
    simp only [nested?, head] at alone
    exact .inl ((use_idles toks i alone).lasts lasting)
  · split
    · rename_i verb found
      exact .inl (lasting.same (Verb.lookup_steady (fun _ => .pure ()) found toks i m))
    · exact direct_lasts lasting toks i m

end Statement

/-! ## Functions -/

namespace Machine

/-- Whether the body of every function has a property. -/
def Knows (fits : TokenStream → Prop) (m : Machine) : Prop :=
  ∀ entry ∈ m.procedures, fits entry.2.body

variable {fits : TokenStream → Prop} {m after : Machine}

theorem Knows.of_eq (knows : m.Knows fits) (same : after.procedures = m.procedures) :
    after.Knows fits := by
  intro entry known
  rw [same] at known
  exact knows entry known

theorem Knows.define {procedure : Procedure} (knows : m.Knows fits) (body : fits procedure.body) :
    (m.define procedure).Knows fits := by
  intro entry known
  rcases List.mem_cons.mp known with rfl | kept
  · exact body
  · exact knows entry (List.mem_filter.mp kept).1

/-- Whatever name a function is found under, its body has the property. -/
theorem Knows.found {name : String} {procedure : Procedure} (knows : m.Knows fits)
    (found : m.procedure? name = some procedure) : fits procedure.body := by
  rcases List.lookup_eq_some_iff.mp found with ⟨first, rest, split, -⟩
  have known : (name, procedure) ∈ m.procedures := by
    rw [split]
    exact List.mem_append_right first List.mem_cons_self
  exact knows (name, procedure) known

theorem stop_procedures (m : Machine) (cause : Cause) :
    (m.stop cause).procedures = m.procedures := by
  rw [stop_eq]

theorem endInvocation_procedures (m : Machine) : m.endInvocation.procedures = m.procedures := by
  rw [endInvocation_eq]

end Machine

/-! ## Actions that define nothing -/

/-- An action that leaves the table of functions alone. -/
def KeepsProcedures {α : Type} (act : Act α) : Prop :=
  ∀ m : Machine, (act.run m).2.procedures = m.procedures

namespace KeepsProcedures

variable {α : Type}

theorem of_steady {act : Act α} {free : String → Prop} (steady : Steady act free) :
    KeepsProcedures act := fun m => (steady m).procedures

theorem modify {change : Machine → Machine} (same : ∀ m, (change m).procedures = m.procedures) :
    KeepsProcedures (modify change : Act Unit) := same

end KeepsProcedures

/-- That the table of functions is the same lasts through what statements do. -/
theorem procedures_lasting : Lasting fun before after => after.procedures = before.procedures where
  trans first second := second.trans first
  same same := same.procedures
  control _ _ _ _ _ _ := rfl
  stop := Machine.stop_procedures

namespace Statement

/-- A statement leaves the table of functions alone, or adds a definition. -/
theorem dispatch_procedures (toks : TokenStream) (i : Nat) {m : Machine}
    (alone : nested? toks i m = none) :
    ((dispatch idle toks i).run m).2.procedures = m.procedures ∨
      ((dispatch idle toks i).run m).2 = m.define (definition toks i) :=
  dispatch_lasts procedures_lasting toks i alone

end Statement

/-! ## Walks -/

/-- A property of streams that passes on to the functions defined in a stream and to the sources that
its statements include. -/
structure Passes (fits : TokenStream → Prop) : Prop where
  definition : ∀ {toks : TokenStream} {i : Nat}, fits toks → i < toks.size →
    fits (Statement.definition toks i).body
  source : ∀ {toks : TokenStream} {i : Nat} {m : Machine} {nested : Nested}, fits toks →
    Statement.nested? toks i m = some nested → nested.purpose = .source → fits nested.inner

namespace Nests

variable {toks : TokenStream} {m out : Machine} {nested : Nested} {fits : TokenStream → Prop}

theorem entry_procedures (nests : Nests toks m nested) :
    nested.entry.procedures = m.procedures := by
  cases nests with
  | call last head args read found shallow => exact read.procedures
  | background last found => rfl
  | inline last found shallow => rfl
  | source last found => rfl

theorem complete_procedures (nests : Nests toks m nested) :
    (nested.complete out).2.procedures = out.procedures := by
  cases nests with
  | @call ready procedure name last head args read found shallow =>
    have left : (ready.leave out).procedures = out.procedures := out.endInvocation_procedures
    change (if (ready.leave out).halt.isSome then (last, ready.leave out)
      else (Statement.finish toks last _).run (ready.leave out)).2.procedures = out.procedures
    split
    · exact left
    · exact (((Statement.finish_routine toks last _).steady _).procedures).trans left
  | background last found => exact out.endInvocation_procedures
  | inline last found shallow => rfl
  | source last found => rfl

/-- A stream that is the body of a function has what all bodies have. -/
theorem inner_of_function (nests : Nests toks m nested) (knows : m.Knows fits)
    (function : nested.purpose ≠ .source) : fits nested.inner := by
  cases nests with
  | call last head args read found shallow =>
    exact (knows.of_eq read.procedures).found found
  | background last found => exact knows.found found
  | inline last found shallow => exact knows.found found
  | source last found => contradiction

end Nests

namespace Passes

open Statement

variable {fits : TokenStream → Prop} {toks : TokenStream} {i : Nat} {m : Machine}

theorem inner {nested : Nested} (passes : Passes fits) (fine : fits toks) (knows : m.Knows fits)
    (runs : nested? toks i m = some nested) : fits nested.inner := by
  by_cases included : nested.purpose = .source
  · exact passes.source fine runs included
  · exact (nested?_nests runs).inner_of_function knows included

theorem dispatch_knows (passes : Passes fits) (fine : fits toks) (inside : i < toks.size)
    (knows : m.Knows fits) (alone : nested? toks i m = none) :
    ((dispatch idle toks i).run m).2.Knows fits := by
  rcases dispatch_procedures toks i alone with same | defined
  · exact knows.of_eq same
  · rw [defined]
    exact knows.define (passes.definition fine inside)

end Passes

namespace Arrives

variable {toks : TokenStream} {i : Nat} {m out ready : Machine}

theorem inside (arrival : Arrives toks i m (.ready ready)) : i < toks.size := by
  cases arrival with
  | begins inside => exact inside

theorem ready_procedures (arrival : Arrives toks i m (.ready ready)) :
    ready.procedures = m.procedures := by
  cases arrival with
  | begins => rw [Machine.begun_eq]

theorem ends_procedures (arrival : Arrives toks i m (.ends out)) :
    out.procedures = m.procedures := by
  cases arrival with
  | still => rfl
  | cancelled => exact m.stop_procedures _
  | bug =>
    exact (Machine.stop_procedures _ _).trans (by rw [Machine.moveTo_eq])

end Arrives

namespace Machine

/-- What the functions and the stream of a walk have, every function has that is known at its end. -/
theorem exec_knows {fits : TokenStream → Prop} (passes : Passes fits) (steps : Nat)
    (toks : TokenStream) (i : Nat) (m : Machine) (fine : fits toks) (knows : m.Knows fits) :
    (exec steps toks i m).Knows fits := by
  induction steps generalizing toks i m with
  | zero => exact knows
  | succ steps ih =>
    rw [exec_succ]
    have arrival := arrives toks i m
    cases arrived : m.arrive toks i with
    | ends out =>
      rw [arrived] at arrival
      exact knows.of_eq arrival.ends_procedures
    | ready ready =>
      rw [arrived] at arrival
      have begun := knows.of_eq arrival.ready_procedures
      dsimp only
      cases runs : Statement.nested? toks i ready with
      | none =>
        exact ih toks _ _ fine (passes.dispatch_knows fine arrival.inside begun runs)
      | some nested =>
        have nests := Statement.nested?_nests runs
        have entry := begun.of_eq nests.entry_procedures
        have walked := ih nested.inner 0 nested.entry (passes.inner fine begun runs) entry
        exact ih toks _ _ fine (walked.of_eq nests.complete_procedures)

end Machine
end BigScript
