import BigScript.Run

/-!
# Actions that leave the control state alone

Most of what a statement does has nothing to do with control flow: it reads operands, binds names,
writes output, touches files.  `SameControl` collects what all of these actions leave alone, and
`Steady` says of an action that it does so in every machine.  `Scoped` is the part of it that speaks
of variables.  The property is closed under
sequencing and choice, so that a statement is steady as soon as the actions it is made of are.

What an action does to the pending bug is kept here too, because the protocol of bugs rests on it:
either nothing, or the last bug that it raised is pending when it is done.
-/

namespace BigScript

/-- What an action that drops no bug does to the pending one. -/
inductive Raises (before after : Machine) : Prop where
  | none (history : after.raises = before.raises) (bug : after.bug = before.bug)
  | last {message : String} {earlier : List String} (worded : message ≠ "")
      (history : after.raises = message :: earlier) (since : before.raises <:+ earlier)
      (bug : after.bug = some message)

namespace Raises

variable {before middle after : Machine}

theorem trans (first : Raises before middle) (second : Raises middle after) :
    Raises before after := by
  cases second with
  | none history bug =>
      cases first with
      | none earlier pending => exact .none (history.trans earlier) (bug.trans pending)
      | last worded raised since pending =>
          exact .last worded (history.trans raised) since (bug.trans pending)
  | last worded history since bug =>
      refine .last worded history ?_ bug
      cases first with
      | none earlier _ => rwa [earlier] at since
      | last _ raised before _ =>
          rw [raised] at since
          exact (before.trans (List.suffix_cons _ _)).trans since

/-- A pending bug stays pending. -/
theorem pending (raises : Raises before after) (bug : before.bug.isSome) : after.bug.isSome := by
  cases raises with
  | none _ same => rwa [same]
  | last _ _ _ same => rw [same]; rfl

/-- Every bug that is raised has a message. -/
theorem named (raises : Raises before after) (fine : before.bug ≠ some "") :
    after.bug ≠ some "" := by
  cases raises with
  | none _ same => rwa [same]
  | last worded _ _ same =>
      rw [same]
      exact fun empty => worded (Option.some.inj empty)

theorem history (raises : Raises before after) : before.raises <:+ after.raises := by
  cases raises with
  | none same _ => exact same ▸ List.suffix_refl _
  | last _ raised since _ => exact raised ▸ since.trans (List.suffix_cons _ _)

end Raises

/-- What an action leaves alone of the variables while a function is being carried out.  Of the
frames only the innermost one changes, and of the globals only those whose names always belong to
them, and those that are free to change. -/
structure Scoped (before after : Machine) (free : String → Prop := fun _ => False) : Prop where
  frames : after.locals.length = before.locals.length
  outer : after.locals.drop 1 = before.locals.drop 1
  globals : before.locals ≠ [] → ∀ name,
    after.globals.valueOf? name ≠ before.globals.valueOf? name →
      Machine.isGlobalName name = true ∨ free name

namespace Scoped

variable {before middle after : Machine} {free other : String → Prop}

theorem of_eq (locals : after.locals = before.locals) (globals : after.globals = before.globals) :
    Scoped before after free where
  frames := congrArg List.length locals
  outer := congrArg (List.drop 1) locals
  globals := fun _ name changed => absurd (congrArg (Bindings.valueOf? · name) globals) changed

theorem refl (m : Machine) : Scoped m m free := .of_eq rfl rfl

theorem inside (frames : after.locals.length = before.locals.length) (called : before.locals ≠ []) :
    after.locals ≠ [] := by
  rw [← List.length_pos_iff] at called ⊢
  rwa [frames]

theorem trans (first : Scoped before middle free) (second : Scoped middle after free) :
    Scoped before after free where
  frames := second.frames.trans first.frames
  outer := second.outer.trans first.outer
  globals := fun called name changed => by
    by_cases late : after.globals.valueOf? name = middle.globals.valueOf? name
    · exact first.globals called name (late ▸ changed)
    · exact second.globals (inside first.frames called) name late

theorem mono (kept : Scoped before after free) (wider : ∀ name, free name → other name) :
    Scoped before after other :=
  { kept with globals := fun called name changed =>
      (kept.globals called name changed).imp_right (wider name) }

/-- Setting a global variable that is free to change, or always global. -/
theorem setGlobal {name : String} (value : String) (m : Machine)
    (allowed : Machine.isGlobalName name = true ∨ free name) :
    Scoped m (m.setGlobal name value) free where
  frames := rfl
  outer := rfl
  globals := fun _ other changed => by
    by_cases same : other = name
    · exact same ▸ allowed
    · exact absurd (Bindings.valueOf?_set_of_ne m.globals same value) changed

end Scoped

/-- What an action without control flow leaves alone.  The output only grows. -/
structure SameControl (before after : Machine) (free : String → Prop := fun _ => False) : Prop
    extends Scoped before after free where
  loops : after.loops = before.loops
  calls : after.calls = before.calls
  depth : after.depth = before.depth
  returning : after.returning = before.returning
  halt : after.halt = before.halt
  taken : after.taken = before.taken
  ended : after.ended = before.ended
  exhausted : after.exhausted = before.exhausted
  line : after.line = before.line
  column : after.column = before.column
  procedures : after.procedures = before.procedures
  lines : after.lines = before.lines
  cancelled : after.cancelled = before.cancelled
  deadline : after.deadline = before.deadline
  raises : Raises before after
  output : ∃ text, after.output = before.output ++ text

namespace SameControl

variable {before middle after : Machine} {free other : String → Prop}

theorem refl (m : Machine) : SameControl m m free where
  toScoped := .refl m
  loops := rfl
  calls := rfl
  depth := rfl
  returning := rfl
  halt := rfl
  taken := rfl
  ended := rfl
  exhausted := rfl
  line := rfl
  column := rfl
  procedures := rfl
  lines := rfl
  cancelled := rfl
  deadline := rfl
  raises := .none rfl rfl
  output := ⟨"", by rw [String.append_empty]⟩

theorem trans (first : SameControl before middle free) (second : SameControl middle after free) :
    SameControl before after free where
  toScoped := first.toScoped.trans second.toScoped
  loops := second.loops.trans first.loops
  calls := second.calls.trans first.calls
  depth := second.depth.trans first.depth
  returning := second.returning.trans first.returning
  halt := second.halt.trans first.halt
  taken := second.taken.trans first.taken
  ended := second.ended.trans first.ended
  exhausted := second.exhausted.trans first.exhausted
  line := second.line.trans first.line
  column := second.column.trans first.column
  procedures := second.procedures.trans first.procedures
  lines := second.lines.trans first.lines
  cancelled := second.cancelled.trans first.cancelled
  deadline := second.deadline.trans first.deadline
  raises := first.raises.trans second.raises
  output := by
    rcases first.output with ⟨written, firstOutput⟩
    rcases second.output with ⟨more, secondOutput⟩
    exact ⟨written ++ more, by rw [secondOutput, firstOutput, String.append_assoc]⟩

theorem mono (same : SameControl before after free) (wider : ∀ name, free name → other name) :
    SameControl before after other :=
  { same with toScoped := same.toScoped.mono wider }

/-- A machine that differs in nothing but the world around it, its switches and its clocks. -/
theorem of_fields (threads : after.toThread = { before.toThread with
      lastStep := after.lastStep, lastReading := after.lastReading })
    (procedures : after.procedures = before.procedures) (lines : after.lines = before.lines)
    (ended : after.ended = before.ended) (exhausted : after.exhausted = before.exhausted)
    (cancelled : after.cancelled = before.cancelled) (deadline : after.deadline = before.deadline)
    (output : after.output = before.output) (globals : after.globals = before.globals) :
    SameControl before after free := by
  have field {α : Type} (part : Thread → α) :
      part after.toThread = part { before.toThread with
        lastStep := after.lastStep, lastReading := after.lastReading } := congrArg part threads
  exact {
    loops := field Thread.loops
    calls := field Thread.calls
    depth := field Thread.depth
    returning := field Thread.returning
    halt := field Thread.halt
    taken := field Thread.taken
    ended
    exhausted
    line := field Thread.line
    column := field Thread.column
    procedures
    lines
    cancelled
    deadline
    toScoped := .of_eq (field Thread.locals) globals
    raises := .none (field Thread.raises) (field Thread.bug)
    output := ⟨"", by rw [output, String.append_empty]⟩ }

end SameControl

/-! ## The machine's own operations -/

namespace Machine

theorem print_sameControl (text : String) (m : Machine) : SameControl m (m.print text) :=
  { (SameControl.refl m : SameControl m m) with raises := .none rfl rfl, output := ⟨text, rfl⟩ }

theorem note_sameControl (line : String) (m : Machine) : SameControl m (m.note line) :=
  .of_fields rfl rfl rfl rfl rfl rfl rfl rfl rfl

theorem watch_sameControl (name value : String) (m : Machine) :
    SameControl m (m.watch name value) := by
  unfold watch
  split
  · split
    · exact note_sameControl _ m
    · exact .refl m
  · exact .refl m

theorem setGlobal_sameControl {free : String → Prop} {name : String} (value : String) (m : Machine)
    (allowed : isGlobalName name = true ∨ free name) :
    SameControl m (m.setGlobal name value) free :=
  { (SameControl.refl m : SameControl m m free) with
    toScoped := .setGlobal value m allowed
    raises := .none rfl rfl }

theorem assign_sameControl (name value : String) (m : Machine) :
    SameControl m (m.assign name value) := by
  refine (m.watch_sameControl (storedName name) value).trans ?_
  unfold assign
  dsimp only
  generalize m.watch (storedName name) value = watched
  split
  · rename_i frame rest equation
    split
    · rename_i always
      exact setGlobal_sameControl _ watched (.inl always)
    · exact { (SameControl.refl watched : SameControl watched watched) with
        frames := by rw [equation]; rfl
        outer := by rw [equation]; rfl
        globals := fun _ _ changed => absurd rfl changed
        raises := .none rfl rfl }
  · rename_i equation
    -- Outside of every function there is nothing that a variable could leak from.
    exact { (SameControl.refl watched : SameControl watched watched) with
      frames := rfl
      outer := rfl
      globals := fun called => absurd equation called
      raises := .none rfl rfl }

theorem raiseBug_sameControl {message : String} (worded : message ≠ "") (m : Machine) :
    SameControl m (m.raiseBug message) :=
  have named : Scoped m (m.setGlobal "BugType" message) := .setGlobal message m (.inl (by decide))
  { (SameControl.refl m : SameControl m m) with
    frames := named.frames
    outer := named.outer
    globals := named.globals
    raises := .last worded rfl (List.suffix_refl _) rfl }

theorem sleep_sameControl (nanoseconds : Nat) (m : Machine) :
    SameControl m (m.sleep nanoseconds) := by
  unfold sleep
  split
  · exact .refl m
  · split <;> exact .of_fields rfl rfl rfl rfl rfl rfl rfl rfl rfl

theorem enable_sameControl (feature : String) (m : Machine) : SameControl m (m.enable feature) := by
  unfold enable
  split
  · exact .refl m
  · exact .of_fields rfl rfl rfl rfl rfl rfl rfl rfl rfl

end Machine

/-! ## Steady actions -/

/-- An action that leaves the control state of every machine alone, and of the global variables
those that are not free to change. -/
def Steady {α : Type} (act : Act α) (free : String → Prop := fun _ => False) : Prop :=
  ∀ m : Machine, SameControl m (act.run m).2 free

namespace Steady

variable {α β : Type} {free : String → Prop}

theorem pure (value : α) : Steady (Pure.pure value : Act α) free := fun m => .refl m

theorem get : Steady (MonadState.get : Act Machine) free := fun m => .refl m

theorem modify {change : Machine → Machine} (same : ∀ m, SameControl m (change m) free) :
    Steady (modify change : Act Unit) free := same

theorem bind {first : Act α} {next : α → Act β} (firstSteady : Steady first free)
    (nextSteady : ∀ value, Steady (next value) free) : Steady (first >>= next) free := fun m =>
  (firstSteady m).trans (nextSteady (first.run m).1 (first.run m).2)

/-- Sequencing where what follows relies on something about the answer. -/
theorem bindOf {first : Act α} {next : α → Act β} (holds : α → Prop) (firstSteady : Steady first free)
    (answers : ∀ m, holds (first.run m).1) (nextSteady : ∀ value, holds value → Steady (next value) free) :
    Steady (first >>= next) free := fun m =>
  (firstSteady m).trans (nextSteady (first.run m).1 (answers m) (first.run m).2)

theorem ite {condition : Prop} [Decidable condition] {first second : Act α}
    (firstSteady : Steady first free) (secondSteady : Steady second free) :
    Steady (if condition then first else second) free := by
  split
  · exact firstSteady
  · exact secondSteady

/-- What leaves all globals alone leaves those alone that are not free to change. -/
theorem widen {act : Act α} (steady : Steady act) : Steady act free := fun m =>
  (steady m).mono fun _ => False.elim

theorem mapM {change : α → Act β} (each : ∀ value, Steady (change value) free) (values : List α) :
    Steady (values.mapM change) free := by
  induction values with
  | nil => exact pure []
  | cons value rest ih =>
      rw [List.mapM_cons]
      exact (each value).bind fun first => ih.bind fun others => pure (first :: others)

end Steady
end BigScript
