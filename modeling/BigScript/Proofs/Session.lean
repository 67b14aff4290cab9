import BigScript.Proofs.Heedless.Statement
import BigScript.Tool.Shell

/-!
# Entries of a session do not disturb each other

An interactive session runs its entries one after another in one machine, and an entry may end in any
way: at its last line, by a bug or a fault inside of calls and loops, by `stop run` or by `return`.
`renewed` is a new interpreter that is given what a session keeps between entries, and nothing else:
the variables and functions, the features, the flag of the chain of branches, the events and network
settings, the files, the input that is left and the clocks.  The next entry does in the session what it
does there, apart from what is written already.

What an ended entry leaves behind beyond that falls into three parts.  `restart` sets the control state
back.  The diary is never read.  The place of the last statement is overwritten before it is read, by
the first statement of the next entry.
-/

namespace BigScript
namespace Session

/-- A new interpreter that is given what a session keeps. -/
def renewed (m : Machine) : Machine :=
  { toShared :=
      { toWorld := { m.toWorld with output := "", log := "" }
        globals := m.globals, procedures := m.procedures, features := m.features
        debug := m.debug, events := m.events, client := m.client }
    toThread := { taken := m.taken, lastStep := m.lastStep, lastReading := m.lastReading } }

/-- A session before its first entry. -/
def opened (world : World) (debug : Bool) : Machine := Machine.start { toWorld := world, debug }

/-- A session after some entries. -/
def after (entries : List String) (m : Machine) : Machine :=
  entries.foldl (fun m source => enter source m) m

/-- A machine in which nothing is under way, with the settings of a session. -/
structure Rested (m : Machine) : Prop where
  locals : m.locals = []
  loops : m.loops = []
  calls : m.calls = []
  depth : m.depth = 1
  bug : m.bug = none
  returning : m.returning = false
  halt : m.halt = none
  ended : m.ended = false
  settings : m.settings = (renewed m).settings

theorem opened_rested (world : World) (debug : Bool) : Rested (opened world debug) := by
  unfold opened Machine.start
  split <;> exact ⟨rfl, rfl, rfl, rfl, rfl, rfl, rfl, rfl, rfl⟩

/-- The machine at another place. -/
def placed (line column : Nat) (m : Machine) : Machine := { m with line, column }

/-! ## What a run does with the place it begins at -/

/-- Running tokens from the beginning keeps the settings. -/
theorem runAll_blind (toks : TokenStream) : Blind (Machine.runAll toks) :=
  (Machine.exec_blind Machine.patience toks 0).comp Machine.endInvocation_blind

theorem moveTo_placed (t : Token) (line column : Nat) (m : Machine) :
    (placed line column m).moveTo t = m.moveTo t := by
  unfold Machine.moveTo Machine.trace
  have reached : (t.line != (placed line column m).traced && (placed line column m).isDebugging) =
      (t.line != m.traced && m.isDebugging) := rfl
  rw [reached]
  split <;> rfl

/-- Coming to the first token of a stream, a machine that goes on either stops there at once or
overwrites the place it has come from. -/
theorem arrive_placed (toks : TokenStream) {m : Machine} (going : m.isStopped = false)
    (calm : m.cancellation? = none) (line column : Nat) :
    (m.arrive toks 0 = .ends m ∧
      (placed line column m).arrive toks 0 = .ends (placed line column m)) ∨
    (placed line column m).arrive toks 0 = m.arrive toks 0 := by
  have going : ¬ m.isStopped = true := Bool.eq_false_iff.mp going
  have placedGoing : ¬ (placed line column m).isStopped = true := going
  have placedCalm : (placed line column m).cancellation? = none := calm
  unfold Machine.arrive
  by_cases inside : 0 < toks.size
  · rw [dif_pos inside, dif_pos inside, if_neg going, if_neg placedGoing, calm, placedCalm]
    dsimp only
    by_cases finished : toks[0].isFinish
    · rw [if_pos finished, if_pos finished]
      exact .inl ⟨rfl, rfl⟩
    · rw [if_neg finished, if_neg finished, Machine.begun, Machine.begun, moveTo_placed]
      exact .inr rfl
  · rw [dif_neg inside, dif_neg inside]
    exact .inl ⟨rfl, rfl⟩

/-- Where no bug is pending, the place at which a run begins is lost in it, unless nothing is run. -/
theorem runAll_placed (toks : TokenStream) {m : Machine} (going : m.isStopped = false)
    (calm : m.cancellation? = none) (clear : m.bug = none) (line column : Nat) :
    ∃ lastLine lastColumn,
      Machine.runAll toks (placed line column m) = placed lastLine lastColumn (m.runAll toks) := by
  have steps : Machine.patience = Machine.patience - 1 + 1 := by decide
  have nothing {m : Machine} (clear : m.bug = none) : m.endInvocation = m := by
    unfold Machine.endInvocation
    rw [clear, Option.isSome_none, Bool.and_false]
    rfl
  unfold Machine.runAll Machine.runTokens
  rw [steps, Machine.exec_succ, Machine.exec_succ]
  rcases arrive_placed toks going calm line column with ⟨ends, placedEnds⟩ | same
  · rw [ends, placedEnds]
    have placedClear : (placed line column m).bug = none := clear
    dsimp only
    rw [nothing clear, nothing placedClear]
    exact ⟨line, column, rfl⟩
  · rw [same]
    exact ⟨_, _, rfl⟩

/-! ## An entry -/

/-- A machine at rest is the renewed one, but for its diary and its place. -/
theorem eq_renewed {m : Machine} (rested : Rested m) (unexhausted : m.exhausted = false)
    (lines : List String) :
    { m with lines } = placed m.line m.column (Machine.recalling m.output
      { log := m.log, traced := m.traced, raises := m.raises } { renewed m with lines }) := by
  have args : m.args = [] := congrArg Settings.args rested.settings
  have folder : m.folder = "" := congrArg Settings.folder rested.settings
  have healing : m.healing = false := congrArg Settings.healing rested.settings
  have frame : m.frame = 0 := congrArg Settings.frame rested.settings
  have cancelled : m.cancelled = false := congrArg Settings.cancelled rested.settings
  have deadline : m.deadline = none := congrArg Settings.deadline rested.settings
  have shared : { m.toShared with lines } =
      { (renewed m).toShared with output := m.output, log := m.log, lines } := by
    change Shared.mk m.toWorld m.globals m.procedures m.features lines m.args m.folder m.debug m.healing
      m.ended m.frame m.events m.client m.cancelled m.deadline m.exhausted = _
    rw [args, folder, healing, frame, cancelled, deadline, unexhausted, rested.ended]
    rfl
  have thread : m.toThread = { (renewed m).toThread with
      line := m.line, column := m.column, traced := m.traced, raises := m.raises } := by
    change Thread.mk m.locals m.loops m.calls m.depth m.bug m.raises m.returning m.halt m.taken m.line
      m.column m.traced m.lastStep m.lastReading = _
    rw [rested.locals, rested.loops, rested.calls, rested.depth, rested.bug, rested.returning,
      rested.halt]
    rfl
  have output : m.output = m.output ++ "" := String.append_empty.symm
  calc
    { m with lines } = Machine.mk { m.toShared with lines } m.toThread := rfl
    _ = _ := by
      rw [shared, thread]
      exact congrArg (fun output => Machine.mk
        { (renewed m).toShared with output, log := m.log, lines } _) output

/-- What running a source does once its tokens are prepared. -/
def carriedOut (toks : TokenStream) (m : Machine) : Option Fault × Machine :=
  match offence? toks with
  | some report => (some { cause := .badScript "script failed validation" }, m.print report)
  | none => ((m.runAll toks).halt, m.runAll toks)

theorem runSource_eq (source : String) (m : Machine) :
    m.runSource source = carriedOut (m.prepare source).1 { m with lines := Text.split "\n" source } := by
  unfold Machine.runSource carriedOut
  rfl

theorem carriedOut_settings (toks : TokenStream) (m : Machine) :
    (carriedOut toks m).2.settings = m.settings := by
  unfold carriedOut
  split
  · exact (Machine.print_blind _).settings m
  · exact (runAll_blind toks).settings m

/-- Neither the diary nor the place before a run shows in what the run does. -/
theorem carriedOut_recalling (toks : TokenStream) {m : Machine} (going : m.isStopped = false)
    (calm : m.cancellation? = none) (clear : m.bug = none) (written : String) (diary : Diary)
    (line column : Nat) :
    ∃ later lastLine lastColumn,
      carriedOut toks (placed line column (m.recalling written diary)) =
        ((carriedOut toks m).1,
          placed lastLine lastColumn ((carriedOut toks m).2.recalling written later)) := by
  unfold carriedOut
  split
  · rename_i report _
    rcases (Machine.print_blind report).diary m written diary with ⟨later, same⟩
    refine ⟨later, line, column, Prod.ext rfl ?_⟩
    change placed line column (Machine.print report (m.recalling written diary)) = _
    rw [same]
  · rcases (runAll_blind toks).diary m written diary with ⟨later, same⟩
    rcases runAll_placed toks (m := m.recalling written diary) going calm clear line column with
      ⟨lastLine, lastColumn, moved⟩
    refine ⟨later, lastLine, lastColumn, ?_⟩
    rw [moved, same]
    rfl

/-- An entry leaves a machine at rest behind, however it ended. -/
theorem enter_rested (source : String) {m : Machine} (rested : Rested m) : Rested (enter source m) := by
  unfold enter
  split
  · exact rested
  · have kept : (m.runSource source).2.restart.settings = m.settings := by
      rw [runSource_eq]
      exact carriedOut_settings _ _
    refine ⟨rfl, rfl, rfl, rfl, rfl, rfl, rfl, rfl, ?_⟩
    have debug : (m.runSource source).2.restart.debug = m.debug := congrArg Settings.debug kept
    rw [kept, rested.settings]
    unfold Machine.settings renewed
    rw [debug]

theorem after_rested (entries : List String) {m : Machine} (rested : Rested m) :
    Rested (after entries m) := by
  induction entries generalizing m with
  | nil => exact rested
  | cons source rest ih =>
    rw [after, List.foldl_cons]
    exact ih (enter_rested source rested)

/-- Running a source in a session and in the renewed machine comes to the same fault, and to machines
that differ in their diary and their place alone. -/
theorem runSource_renewed {m : Machine} (rested : Rested m) (unexhausted : m.exhausted = false)
    (source : String) :
    ∃ diary line column, m.runSource source = (((renewed m).runSource source).1,
      placed line column (((renewed m).runSource source).2.recalling m.output diary)) := by
  have healing : m.healing = (renewed m).healing := congrArg Settings.healing rested.settings
  have tokens : (m.prepare source).1 = ((renewed m).prepare source).1 := by
    unfold Machine.prepare
    rw [healing]
  rw [runSource_eq, runSource_eq, tokens, eq_renewed rested unexhausted]
  exact carriedOut_recalling _ rfl rfl rfl _ _ _ _

/-! ## The law -/

/-- What the machine after an entry has in common with the one after the same entry in a new
interpreter, where `before` was written already. -/
structure SameEntry (before : String) (done alone : Machine) : Prop where
  /-- The same was written behind what was written already. -/
  output : done.output = before ++ alone.output
  /-- The same variables and functions are left. -/
  globals : done.globals = alone.globals
  procedures : done.procedures = alone.procedures
  /-- Everything else that is kept for the entries behind it is the same as well. -/
  kept : renewed done = renewed alone
  /-- The one came to an end if the other did. -/
  exhausted : done.exhausted = alone.exhausted

/-- What an entry does in a session, compared with a new interpreter. -/
structure EntryLaw (m : Machine) (source : String) : Prop where
  /-- It comes to the same fault, if any, with the same place, trigger and call stack. -/
  fault : (m.runSource source).1 = ((renewed m).runSource source).1
  entry : SameEntry m.output (enter source m) (enter source (renewed m))

theorem entry_law {m : Machine} (rested : Rested m) (unexhausted : m.exhausted = false)
    (source : String) : EntryLaw m source := by
  rcases runSource_renewed rested unexhausted source with ⟨diary, line, column, same⟩
  refine ⟨by rw [same], ?_⟩
  by_cases blank : (Text.trim source).isEmpty = true
  · have left (m : Machine) : enter source m = m := if_pos blank
    rw [left, left]
    exact ⟨String.append_empty.symm, rfl, rfl, rfl, unexhausted⟩
  · have run (m : Machine) : enter source m = (m.runSource source).2.restart := if_neg blank
    rw [run, run, same]
    -- What the run itself comes to no longer matters.
    generalize ((renewed m).runSource source).2 = done
    exact ⟨rfl, rfl, rfl, rfl, rfl⟩

/-- Entries of a session do not disturb each other: after any entries that came to an end, whatever
that end was, an entry does what it does in a new interpreter that is given what the session keeps.
An entry that does not come to an end leaves the machine exhausted for good. -/
theorem session_law (world : World) (debug : Bool) (entries : List String)
    (finished : (after entries (opened world debug)).exhausted = false) (source : String) :
    EntryLaw (after entries (opened world debug)) source :=
  entry_law (after_rested entries (opened_rested world debug)) finished source

/-- Entries of which the first is ended by a bug inside of a call and a loop, the second one ends the
whole run, and the third one returns. -/
def interrupted : List String :=
  ["start doing F\ns.loop\n  X = 1 / 0\n  X = 2\nkeep\nend doing\nrun F", "stop run", "return 7"]

theorem session_law_interrupted :
    (after interrupted (opened {} false)).exhausted = false ∧
    EntryLaw (after interrupted (opened {} false)) "print ReturnValue" ∧
    (enter "print ReturnValue" (after interrupted (opened {} false))).output =
      (after interrupted (opened {} false)).output ++ "7\n" := by
  have evaluated : (after interrupted (opened {} false)).exhausted = false ∧
      (enter "print ReturnValue" (renewed (after interrupted (opened {} false)))).output = "7\n" := by
    decide +kernel
  have law := session_law {} false interrupted evaluated.1 "print ReturnValue"
  refine ⟨evaluated.1, law, ?_⟩
  rw [law.entry.output, evaluated.2]

end Session
end BigScript
