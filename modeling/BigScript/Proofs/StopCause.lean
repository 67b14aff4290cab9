import BigScript.Proofs.BugProtocol

/-!
# What a run can be stopped by

A source that uses a reserved name is refused before it runs.  A source that has been let through is
stopped by calls that are too deep, by a block that is not closed, by a bug that nothing checked or
because it has been cancelled, and by nothing else: no statement of it, and no source that it
includes, is refused in the way in which the source itself could have been.

Whether a source is let through does not depend on healing, which inserts words and numbers only.
-/

namespace BigScript

/-! ## Healing -/

namespace Heal

/-- Nothing that is looked for in vain in a `keep 1` is found because of healing. -/
theorem healFrom_findSome? {α : Type} (look : Token → Option α)
    (neutral : ∀ opener, (closing opener).findSome? look = none) (line : Nat) (loops : List Token)
    (toks : List Token) : (healFrom line loops toks).findSome? look = toks.findSome? look := by
  have inserted (loops : List Token) : (loops.flatMap closing).findSome? look = none := by
    induction loops with
    | nil => rfl
    | cons opener rest ih => rw [List.flatMap_cons, List.findSome?_append, neutral, ih, Option.or_none]
  induction toks generalizing line loops with
  | nil => rfl
  | cons t rest ih =>
    rw [healFrom]
    split
    · rw [List.findSome?_append, inserted, Option.none_or, List.findSome?_cons, List.findSome?_cons, ih]
    · dsimp only
      rw [List.findSome?_append, inserted, Option.none_or, List.findSome?_cons, List.findSome?_cons, ih]

end Heal

theorem offence?_heal (toks : TokenStream) : offence? (heal toks) = offence? toks := by
  unfold offence? heal
  exact Heal.healFrom_findSome? _ (fun opener => rfl) 0 [] toks.toList

/-- Healed or not, the tokens that are run are let through if those of the source are. -/
theorem Machine.offence?_prepare (source : String) (m : Machine) :
    offence? (m.prepare source).1 = offence? (scan source) := by
  unfold prepare
  dsimp only
  split
  · exact offence?_heal (scan source)
  · rfl

/-! ## Causes -/

/-- Whether a run that has been let through can be stopped by a cause. -/
def Cause.stopsRun : Cause → Bool
  | .stackOverflow _ | .badBlock _ | .bug _ | .cancelled _ => true
  | _ => false

theorem Cause.tag_of_stopsRun {cause : Cause} (stops : cause.stopsRun = true) :
    cause.tag ≠ "SyntaxError" := by
  cases cause with
  | stackOverflow | badBlock | bug | cancelled =>
    dsimp only [tag]
    decide
  | badScript | notFound | badConfig => cases stops

namespace Machine

/-- Whether a machine that has been stopped was stopped by such a cause. -/
def Lawful (m : Machine) : Prop := ∀ fault, m.halt = some fault → fault.cause.stopsRun = true

variable {m out : Machine}

theorem Lawful.of_halt (lawful : m.Lawful) (same : out.halt = m.halt) : out.Lawful := by
  unfold Lawful
  rw [same]
  exact lawful

theorem lawful_of_running (running : m.halt = none) : m.Lawful := by
  intro fault halted
  cases running.symm.trans halted

theorem Lawful.stop (lawful : m.Lawful) {cause : Cause} (stops : cause.stopsRun = true) :
    (m.stop cause).Lawful := by
  cases halted : m.halt with
  | some fault =>
    rw [m.stop_of_halted cause halted]
    exact lawful
  | none =>
    rw [m.stop_of_running cause halted]
    intro fault same
    obtain rfl := Option.some.inj same
    rw [annotate_cause]
    exact stops

theorem Lawful.endInvocation (lawful : m.Lawful) : m.endInvocation.Lawful := by
  unfold Machine.endInvocation
  split
  · exact lawful.stop rfl
  · exact lawful

end Machine

theorem Arrives.ends_lawful {toks : TokenStream} {i : Nat} {m out : Machine}
    (arrival : Arrives toks i m (.ends out)) (lawful : m.Lawful) : out.Lawful := by
  cases arrival with
  | still => exact lawful
  | cancelled => exact lawful.stop rfl
  | bug => exact (lawful.of_halt (by rw [Machine.moveTo_eq])).stop rfl

theorem Arrives.ready_running {toks : TokenStream} {i : Nat} {m ready : Machine}
    (arrival : Arrives toks i m (.ready ready)) : ready.halt = none := by
  cases arrival with
  | begins inside going =>
    rw [Machine.begun_eq]
    exact Machine.halt_of_not_isStopped going

namespace Nests

variable {toks : TokenStream} {m out : Machine} {nested : Nested}

theorem entry_running (nests : Nests toks m nested) (running : m.halt = none) :
    nested.entry.halt = none := by
  cases nests with
  | call last head args read => exact read.halt.trans running
  | background => rfl
  | inline => exact running
  | source => exact running

theorem complete_lawful (nests : Nests toks m nested) (before : m.Lawful) (after : out.Lawful) :
    (nested.complete out).2.Lawful := by
  cases nests with
  | @call ready procedure name last head args =>
    have left : (ready.leave out).Lawful := after.endInvocation.of_halt rfl
    change (if (ready.leave out).halt.isSome then (last, ready.leave out)
      else (Statement.finish toks last _).run (ready.leave out)).2.Lawful
    split
    · exact left
    · exact left.of_halt ((Statement.finish_routine toks last _).steady _).halt
  | background => exact before.of_halt rfl
  | inline => exact after.of_halt rfl
  | source => exact after

end Nests

namespace Machine

theorem dispatch_lawful {toks : TokenStream} {i : Nat} {m : Machine}
    (alone : Statement.nested? toks i m = none) (running : m.halt = none) :
    ((Statement.dispatch Statement.idle toks i).run m).2.Lawful := by
  rcases Statement.dispatch_going toks i alone running with still | ⟨fault, halted, cause⟩ |
    ⟨text, stopped⟩
  · exact lawful_of_running still
  · intro other same
    obtain rfl := Option.some.inj (halted.symm.trans same)
    rw [cause]
    rfl
  · rw [stopped]
    exact (lawful_of_running running).stop rfl

theorem exec_lawful (steps : Nat) (toks : TokenStream) (i : Nat) {m : Machine} (lawful : m.Lawful) :
    (exec steps toks i m).Lawful := by
  induction steps generalizing toks i m with
  | zero => exact lawful
  | succ steps ih =>
    rw [exec_succ]
    have arrival := arrives toks i m
    cases arrived : m.arrive toks i with
    | ends out =>
      rw [arrived] at arrival
      exact arrival.ends_lawful lawful
    | ready ready =>
      rw [arrived] at arrival
      have running := arrival.ready_running
      dsimp only
      cases runs : Statement.nested? toks i ready with
      | none => exact ih toks _ (dispatch_lawful runs running)
      | some nested =>
        have nests := Statement.nested?_nests runs
        have walked := ih nested.inner 0 (lawful_of_running (nests.entry_running running))
        exact ih toks _ (nests.complete_lawful (lawful_of_running running) walked)

/-- A source that is let through is not stopped as one that is refused. -/
theorem runSource_stopsRun {source : String} (allowed : offence? (scan source) = none) {m : Machine}
    (running : m.halt = none) {fault : Fault} (stopped : (m.runSource source).1 = some fault) :
    fault.cause.stopsRun = true := by
  have free := (offence?_prepare source m).trans allowed
  have start : (m.prepare source).2.Lawful := lawful_of_running running
  unfold runSource at stopped
  generalize m.prepare source = prepared at free start stopped
  rcases prepared with ⟨toks, ready⟩
  dsimp only at free stopped
  rw [free] at stopped
  exact (exec_lawful patience toks 0 start).endInvocation fault stopped

/-- A source that is not let through is refused by every machine. -/
theorem runSource_refused {source report : String} (refused : offence? (scan source) = some report)
    (m : Machine) :
    (m.runSource source).1 = some { cause := .badScript "script failed validation" } := by
  have offends := (offence?_prepare source m).trans refused
  unfold runSource
  generalize m.prepare source = prepared at offends ⊢
  rcases prepared with ⟨toks, ready⟩
  dsimp only at offends ⊢
  rw [offends]

end Machine
end BigScript
