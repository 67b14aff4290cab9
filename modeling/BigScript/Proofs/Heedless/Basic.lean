import BigScript.Proofs.Nesting

/-!
# Actions that do not look back

A run keeps a diary that it never reads: its output, its log, the line that was traced last, and the
history of its bugs.  `Heedless` says of an action that it goes the same way whatever is in the diary,
and that it leaves the settings alone with which the interpreter was made.  Like the properties of
control flow it is closed under sequencing and choice.

A look at the machine is not heedless by itself, because the diary is among what it brings.  What
follows a look is, as long as it comes out the same for every diary.
-/

namespace BigScript

/-- What an interpreter is given when it is made and what can happen to it from outside. -/
structure Settings where
  args : List String
  folder : String
  debug : Bool
  healing : Bool
  frame : Int
  cancelled : Bool
  deadline : Option Nat

/-- What is written down besides the output. -/
structure Diary where
  log : String
  traced : Nat
  raises : List String

namespace Machine

def settings (m : Machine) : Settings :=
  { args := m.args, folder := m.folder, debug := m.debug, healing := m.healing, frame := m.frame,
    cancelled := m.cancelled, deadline := m.deadline }

/-- The machine with another diary, and with something written in front of its output. -/
def recalling (written : String) (diary : Diary) (m : Machine) : Machine :=
  { m with
    output := written ++ m.output
    log := diary.log
    traced := diary.traced
    raises := diary.raises }

@[simp] theorem recalling_files (written : String) (diary : Diary) (m : Machine) :
    (m.recalling written diary).files = m.files := rfl

@[simp] theorem recalling_tokenValue (written : String) (diary : Diary) (m : Machine) (t : Token) :
    (m.recalling written diary).tokenValue t = m.tokenValue t := rfl

end Machine

/-- A change of the machine that keeps the settings and goes the same way for every diary. -/
structure Blind (change : Machine → Machine) : Prop where
  settings : ∀ m, (change m).settings = m.settings
  diary : ∀ m written diary, ∃ later,
    change (m.recalling written diary) = (change m).recalling written later

namespace Blind

/-- A change that does not touch the diary either. -/
theorem plain {change : Machine → Machine}
    (settings : (fun m => (change m).settings) = Machine.settings)
    (same : (fun written diary m => change (Machine.recalling written diary m)) =
      fun written diary m => (change m).recalling written diary) : Blind change where
  settings := congrFun settings
  diary m written diary := ⟨diary, congrFun (congrFun (congrFun same written) diary) m⟩

theorem id : Blind fun m => m := .plain rfl rfl

theorem comp {first second : Machine → Machine} (firstBlind : Blind first)
    (secondBlind : Blind second) : Blind fun m => second (first m) where
  settings m := (secondBlind.settings _).trans (firstBlind.settings m)
  diary m written diary := by
    rcases firstBlind.diary m written diary with ⟨middle, firstSame⟩
    rcases secondBlind.diary (first m) written middle with ⟨later, secondSame⟩
    exact ⟨later, by rw [firstSame, secondSame]⟩

theorem ite {condition : Prop} [Decidable condition] {first second : Machine → Machine}
    (firstBlind : Blind first) (secondBlind : Blind second) :
    Blind fun m => if condition then first m else second m := by
  by_cases holds : condition
  · simpa only [if_pos holds] using firstBlind
  · simpa only [if_neg holds] using secondBlind

/-- A change that depends on what the diary has no part in. -/
theorem choose {α : Type} {read : Machine → α} {change : α → Machine → Machine}
    (each : ∀ value, Blind (change value))
    (same : ∀ m written diary, read (m.recalling written diary) = read m) :
    Blind fun m => change (read m) m where
  settings m := (each (read m)).settings m
  diary m written diary := by
    rw [same]
    exact (each (read m)).diary m written diary

end Blind

/-! ## The machine's own operations -/

namespace Machine

theorem print_blind (text : String) : Blind (print text) :=
  .plain rfl <| by
    funext written diary m
    unfold print recalling
    dsimp only
    rw [String.append_assoc]

theorem note_blind (line : String) : Blind (note line) :=
  ⟨fun _ => rfl, fun _ _ diary => ⟨{ diary with log := _ }, rfl⟩⟩

theorem watch_blind (name value : String) : Blind (watch name value) where
  settings m := by
    unfold watch
    split
    · split <;> rfl
    · rfl
  diary m written diary := by
    have debugging : (m.recalling written diary).isDebugging = m.isDebugging := rfl
    have change : (m.recalling written diary).change? name value = m.change? name value := rfl
    unfold watch
    rw [debugging, change]
    split
    · split
      · exact (note_blind _).diary m written diary
      · exact ⟨diary, rfl⟩
    · exact ⟨diary, rfl⟩

theorem setGlobal_blind (name value : String) : Blind (setGlobal name value) :=
  .plain rfl rfl

theorem raiseBug_blind (message : String) : Blind (raiseBug message) :=
  ⟨fun _ => rfl, fun _ _ diary => ⟨{ diary with raises := message :: diary.raises }, rfl⟩⟩

theorem assign_blind (name value : String) : Blind (assign name value) where
  settings m := by
    rw [← (watch_blind (storedName name) value).settings m]
    unfold assign
    dsimp only
    generalize m.watch (storedName name) value = watched
    split
    · split <;> rfl
    · rfl
  diary m written diary := by
    rcases (watch_blind (storedName name) value).diary m written diary with ⟨later, same⟩
    refine ⟨later, ?_⟩
    unfold assign
    dsimp only
    rw [same]
    generalize m.watch (storedName name) value = watched
    have locals : (watched.recalling written later).locals = watched.locals := rfl
    rw [locals]
    split
    · split <;> rfl
    · rfl

theorem sleep_blind (nanoseconds : Nat) : Blind (sleep nanoseconds) where
  settings m := by
    unfold sleep
    split
    · rfl
    · split <;> rfl
  diary m written diary := by
    have cancelled : (m.recalling written diary).cancelled = m.cancelled := rfl
    have deadline : (m.recalling written diary).deadline = m.deadline := rfl
    unfold sleep
    rw [cancelled, deadline]
    refine ⟨diary, ?_⟩
    split
    · rfl
    · split <;> rfl

theorem enable_blind (feature : String) : Blind (enable feature) where
  settings m := by
    unfold enable
    split <;> rfl
  diary m written diary := by
    have enabled : (m.recalling written diary).isEnabled feature = m.isEnabled feature := rfl
    unfold enable
    rw [enabled]
    refine ⟨diary, ?_⟩
    split <;> rfl

theorem stop_blind (cause : Cause) : Blind (stop cause) where
  settings m := by
    unfold stop
    split <;> rfl
  diary m written diary := by
    have halt : (m.recalling written diary).halt = m.halt := rfl
    have fault : (m.recalling written diary).annotate { cause } = m.annotate { cause } := rfl
    unfold stop
    rw [halt, fault]
    refine ⟨diary, ?_⟩
    split
    · rfl
    · unfold recalling
      dsimp only
      rw [String.append_assoc]

theorem stopOnBug_blind : Blind stopOnBug := by
  let stopped (bug : Option String) : Machine → Machine :=
    stop (.bug (if (bug.getD "").isEmpty then "unknown bug" else bug.getD ""))
  have inRun : Blind fun m => stopped m.bug m :=
    .choose (fun bug => stop_blind _) fun _ _ _ => rfl
  exact inRun

theorem endInvocation_blind : Blind endInvocation where
  settings m := by
    unfold endInvocation
    split
    · exact stopOnBug_blind.settings m
    · rfl
  diary m written diary := by
    have owed : ((m.recalling written diary).halt.isNone && (m.recalling written diary).bug.isSome) =
      (m.halt.isNone && m.bug.isSome) := rfl
    unfold endInvocation
    rw [owed]
    split
    · exact stopOnBug_blind.diary m written diary
    · exact ⟨diary, rfl⟩

end Machine

/-! ## Heedless actions -/

/-- An action that keeps the settings and goes the same way for every diary. -/
structure Heedless {α : Type} (act : Act α) : Prop where
  settings : ∀ m, (act.run m).2.settings = m.settings
  diary : ∀ m written diary, ∃ later,
    act.run (m.recalling written diary) = ((act.run m).1, (act.run m).2.recalling written later)

namespace Heedless

variable {α β : Type}

theorem pure (value : α) : Heedless (Pure.pure value : Act α) :=
  ⟨fun _ => rfl, fun _ _ diary => ⟨diary, rfl⟩⟩

theorem modify {change : Machine → Machine} (blind : Blind change) :
    Heedless (modify change : Act Unit) where
  settings := blind.settings
  diary m written diary := by
    rcases blind.diary m written diary with ⟨later, same⟩
    exact ⟨later, Prod.ext rfl same⟩

/-- Sequencing where what follows relies on something about the answer. -/
theorem bindOf {first : Act α} {next : α → Act β} (holds : α → Prop) (firstHeedless : Heedless first)
    (answers : ∀ m, holds (first.run m).1) (nextHeedless : ∀ value, holds value → Heedless (next value)) :
    Heedless (first >>= next) where
  settings m := ((nextHeedless _ (answers m)).settings _).trans (firstHeedless.settings m)
  diary m written diary := by
    rcases firstHeedless.diary m written diary with ⟨middle, firstSame⟩
    rcases (nextHeedless _ (answers m)).diary (first.run m).2 written middle with ⟨later, nextSame⟩
    refine ⟨later, ?_⟩
    rw [Act.run_bind, firstSame, nextSame, Act.run_bind]

theorem bind {first : Act α} {next : α → Act β} (firstHeedless : Heedless first)
    (nextHeedless : ∀ value, Heedless (next value)) : Heedless (first >>= next) :=
  .bindOf (fun _ => True) firstHeedless (fun _ => trivial) fun value _ => nextHeedless value

/-- A look at the machine, of which the diary is left aside. -/
theorem look {next : Machine → Act β}
    (aside : (fun written diary m => next (Machine.recalling written diary m)) = fun _ _ => next)
    (heedless : ∀ m, Heedless (next m)) : Heedless (get >>= next) where
  settings m := (heedless m).settings m
  diary m written diary := by
    have same : next (m.recalling written diary) = next m :=
      congrFun (congrFun (congrFun aside written) diary) m
    rw [Act.run_bind, Act.run_get]
    dsimp only
    rw [same]
    exact (heedless m).diary m written diary

theorem ite {condition : Prop} [Decidable condition] {first second : Act α}
    (firstHeedless : Heedless first) (secondHeedless : Heedless second) :
    Heedless (if condition then first else second) := by
  split
  · exact firstHeedless
  · exact secondHeedless

theorem mapM {change : α → Act β} (each : ∀ value, Heedless (change value)) (values : List α) :
    Heedless (values.mapM change) := by
  induction values with
  | nil => exact pure []
  | cons value rest ih =>
    rw [List.mapM_cons]
    exact (each value).bind fun first => ih.bind fun others => pure (first :: others)

end Heedless
end BigScript
