import BigScript.Proofs.Activation

/-!
# Calls leave the variables of their callers alone

The body of a function sees the variables of everything that called it, and may give them new values
of its own, but it changes none of them: a call opens a frame for its body, and a variable that is
set goes into the innermost frame.  What a call can leave behind are global variables, and of these
only the ones whose names always belong to the globals, the targets of `global` assignments, and the
parts of a response.

`Scoped` says this of single statements.  Here it is carried along whole walks, by induction on the
bound on steps: the statements that a walk carries out are listed by `carriedOut`, and what they open
is what the walk may change.
-/

namespace BigScript

namespace Bindings

theorem valueOf?_erase_of_ne (vars : Bindings) {name other : String} (different : other ≠ name) :
    (vars.erase name).valueOf? other = vars.valueOf? other := by
  obtain ⟨entries⟩ := vars
  unfold erase valueOf?
  dsimp only
  induction entries with
  | nil => rfl
  | cons entry rest ih =>
      obtain ⟨third, value⟩ := entry
      by_cases same : third = name
      · have apart : third ≠ other := same ▸ different.symm
        simp [valueIn, same, ih, different.symm]
      · simp only [bne_iff_ne, ne_eq, same, not_false_eq_true, List.filter_cons_of_pos, valueIn, ih]

end Bindings

/-- What a call leaves alone: the local variables, and the global ones that are neither always global
nor free to change. -/
structure Isolated (before after : Machine) (free : String → Prop) : Prop where
  locals : after.locals = before.locals
  globals : ∀ name, after.globals.valueOf? name ≠ before.globals.valueOf? name →
    Machine.isGlobalName name = true ∨ free name

namespace Isolated

variable {before after : Machine} {free : String → Prop}

theorem scopes (isolated : Isolated before after free) : Scoped before after free where
  frames := congrArg List.length isolated.locals
  outer := congrArg (List.drop 1) isolated.locals
  globals := fun _ => isolated.globals

end Isolated

namespace Machine

open Statement

/-- A call whose body has kept to its own frame leaves the variables of its caller alone. -/
theorem leave_isolated {before out : Machine} {free : String → Prop} (procedure : Procedure)
    (args : List String) (line column : Nat)
    (inner : Scoped (before.entered procedure args line column) out free) :
    Isolated before (before.leave out) free := by
  have ended : Scoped out out.endInvocation free :=
    out.endInvocation_contained.toScoped.mono fun _ => False.elim
  have body := inner.trans ended
  refine ⟨body.outer, fun name changed => ?_⟩
  change out.endInvocation.globals.valueOf? name ≠ _ at changed
  by_cases result : name = "ReturnValue"
  · exact .inl (result ▸ by decide)
  · have kept : (before.entered procedure args line column).globals.valueOf? name =
        before.globals.valueOf? name := before.globals.valueOf?_erase_of_ne result
    exact body.globals (List.cons_ne_nil _ _) name (kept ▸ changed)

end Machine

/-- A statement that runs a stream changes what the stream changes, and no variables of its own but
those in the innermost frame. -/
theorem Nests.scopes {toks : TokenStream} {m out : Machine} {nested : Nested} {free : String → Prop}
    (nests : Nests toks m nested) (inner : Scoped nested.entry out free) :
    Scoped m (nested.complete out).2 free := by
  cases nests with
  | @call ready procedure name last head args read found shallow =>
      have left : Scoped m (ready.leave out) free :=
        (read.toScoped.mono fun _ => False.elim).trans
          (Machine.leave_isolated procedure args head.line head.column inner).scopes
      change Scoped m (if (ready.leave out).halt.isSome then (last, ready.leave out)
        else (Statement.finish toks last _).run (ready.leave out)).2 free
      split
      · exact left
      · have bound :=
          (Statement.finish_routine toks last [(ready.leave out).returned]).steady (ready.leave out)
        exact left.trans (bound.toScoped.mono fun _ => False.elim)
  | background last found =>
      have left := Machine.leave_isolated _ _ _ _ inner
      exact { frames := rfl, outer := rfl, globals := fun _ => left.globals }
  | inline last found shallow =>
      exact { frames := inner.frames, outer := inner.outer, globals := inner.globals }
  | source last found => exact inner

namespace Machine

open Statement

/-- The statements that a walk carries out, those of nested streams included: the stream and the
index of each. -/
def carriedOut : (steps : Nat) → TokenStream → (i : Nat) → Machine → List (TokenStream × Nat)
  | 0, _, _, _ => []
  | steps + 1, toks, i, m =>
    match m.arrive toks i with
    | .ends _ => []
    | .ready m =>
      (toks, i) ::
        match nested? toks i m with
        | some nested =>
          let done := nested.complete (exec steps nested.inner 0 nested.entry)
          carriedOut steps nested.inner 0 nested.entry ++ carriedOut steps toks (done.1 + 1) done.2
        | none =>
          let done := (dispatch idle toks i).run m
          carriedOut steps toks (done.1 + 1) done.2

/-- Whether one of the given statements opens a global variable. -/
def opened (statements : List (TokenStream × Nat)) (name : String) : Prop :=
  ∃ statement ∈ statements, opens statement.1 statement.2 name

theorem opened_of_subset {some all : List (TokenStream × Nat)} (subset : some ⊆ all) (name : String) :
    opened some name → opened all name := fun ⟨statement, member, opens⟩ =>
  ⟨statement, subset member, opens⟩

/-- A walk changes no outer frame, and no global variable that no statement of it opens. -/
theorem exec_scopes (steps : Nat) (toks : TokenStream) (i : Nat) (m : Machine) :
    Scoped m (exec steps toks i m) (opened (carriedOut steps toks i m)) := by
  induction steps generalizing toks i m with
  | zero => exact .of_eq rfl rfl
  | succ steps ih =>
      rw [exec_succ, carriedOut]
      have arrival := arrives toks i m
      cases arrived : m.arrive toks i with
      | ends out =>
          rw [arrived] at arrival
          exact arrival.ends_contained.toScoped.mono fun _ => False.elim
      | ready ready =>
          rw [arrived] at arrival
          refine (arrival.ready_contained.toScoped.mono fun _ => False.elim).trans ?_
          dsimp only
          cases runs : nested? toks i ready with
          | none =>
              have alone := (dispatch_contained toks i runs).toScoped
              refine (alone.mono fun name opens => ⟨_, List.mem_cons_self, opens⟩).trans ?_
              exact (ih toks _ _).mono (opened_of_subset (List.subset_cons_self _ _))
          | some nested =>
              refine Scoped.mono ?_ (opened_of_subset (List.subset_cons_self _ _))
              refine Scoped.trans ((nested?_nests runs).scopes ?_)
                ((ih toks _ _).mono (opened_of_subset (List.subset_append_right _ _)))
              exact (ih nested.inner 0 nested.entry).mono
                (opened_of_subset (List.subset_append_left _ _))

end Machine

namespace Statement

/-- A call leaves the frames of its callers as they were.  A global variable that it changes is
always global, or a statement that was carried out during the call opened it: a `global` assignment
to it, or a `reply` whose part it is. -/
theorem invoke_isolated (steps : Nat) (procedure : Procedure) (args : List String)
    (line column : Nat) (m : Machine) :
    let run : Runner := fun inner => modify (Machine.exec steps inner 0)
    let after := ((invoke run procedure args line column).run m).2
    after.locals = m.locals ∧
      ∀ name, after.globals.valueOf? name ≠ m.globals.valueOf? name →
        Machine.isGlobalName name = true ∨
        ∃ statement ∈ Machine.carriedOut steps procedure.body 0
            (m.entered procedure args line column),
          opens statement.1 statement.2 name := by
  intro run after
  by_cases deep : m.depth + 1 > deepestCall
  · have stopped : after = m.stop (.stackOverflow deepestCall) := by
      change ((invoke run procedure args line column).run m).2 = _
      rw [invoke_run, if_pos deep]
    rw [stopped, Machine.stop_eq]
    exact ⟨rfl, fun name changed => absurd rfl changed⟩
  · have left : after = m.leave (Machine.exec steps procedure.body 0
        (m.entered procedure args line column)) := by
      change ((invoke run procedure args line column).run m).2 = _
      rw [invoke_run, if_neg deep]
      rfl
    have isolated := Machine.leave_isolated procedure args line column
      (Machine.exec_scopes steps procedure.body 0 (m.entered procedure args line column))
    rw [left]
    exact ⟨isolated.locals, isolated.globals⟩

end Statement
end BigScript
