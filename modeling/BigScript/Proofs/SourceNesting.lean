import BigScript.Proofs.CallDepth

/-!
# The nesting of sources

A script runs other files in its own scope: those that it includes and the environments that it
attaches.  The depth of calls does not count them, and nothing else does: a file that can be read is
run, however many are open already.  Only the bodies of functions are bounded.

Files that include each other in a circle are therefore run for ever, one within the other, and no
error stops them.  `Circle` is about any number of files; a file that includes itself is the case of
one.
-/

namespace BigScript

namespace Machine

/-- A machine that nothing stops before its next statement. -/
structure Going (m : Machine) : Prop where
  unstopped : m.isStopped = false
  uncancelled : m.cancelled = false
  untimed : m.deadline = none
  fine : m.bug = none

namespace Going

variable {m : Machine}

theorem arrive (going : m.Going) {toks : TokenStream} {i : Nat}
    (unfinished : (toks.peek i).isFinish = false) :
    m.arrive toks i = .ready (m.begun (toks.peek i)) := by
  have inside := TokenStream.lt_of_not_finish unfinished
  have calm : m.cancellation? = none := by
    rw [cancellation?, going.uncancelled, going.untimed]
    rfl
  have moved : (m.moveTo (toks.peek i)).bug = none := (m.moveTo_bug _).trans going.fine
  unfold Machine.arrive
  rw [dif_pos inside, going.unstopped, calm, ← TokenStream.peek_of_lt inside]
  simp only [unfinished, moved, Option.isSome_none, Bool.false_and, Bool.false_eq_true, if_false]

theorem begun (going : m.Going) (t : Token) : (m.begun t).Going := by
  rw [begun_eq]
  exact { unstopped := going.unstopped, uncancelled := going.uncancelled
          untimed := going.untimed, fine := going.fine }

end Going

end Machine

namespace Statement

variable {toks : TokenStream} {i : Nat} {m : Machine}

/-- The text of the file that the statement at an index runs: a file that is included, or an
environment that is attached. -/
def source? (toks : TokenStream) (i : Nat) (m : Machine) : Option String :=
  match (toks.peek i).kind with
  | .word .use =>
    match includedFile? toks i m with
    | some (path, _) => (m.files.read (includePath m path)).toOption
    | none => none
  | .word .attach =>
    let name := (toks.peek (i + 1)).rawName
    if !toks.onLine i (i + 1) || name.isEmpty || Text.sameWord name "fixer" then none
    else (m.files.read (Path.join Verb.environmentFolder (name ++ ".bigenv"))).toOption
  | _ => none

theorem sourceNested?_of_read {path source : String} (last : Nat)
    (read : (m.files.read path).toOption = some source) :
    sourceNested? m path last = some (.ofSource last source m) := by
  unfold sourceNested?
  cases found : m.files.read path with
  | error problem =>
      rw [found] at read
      cases read
  | ok other =>
      rw [found] at read
      cases read
      rfl

/-- A file that can be read is run. -/
theorem nested?_of_source {source : String} (found : source? toks i m = some source) :
    ∃ last, nested? toks i m = some (.ofSource last source m) := by
  unfold source? at found
  unfold nested?
  split at found
  case h_1 head =>
    simp only [head]
    unfold useNested?
    cases included : includedFile? toks i m with
    | none =>
        rw [included] at found
        cases found
    | some file =>
        rw [included] at found
        exact ⟨file.2, sourceNested?_of_read file.2 found⟩
  case h_2 head =>
    simp only [head]
    unfold attachNested?
    dsimp only at found ⊢
    split at found
    · cases found
    · rename_i named
      rw [if_neg named]
      exact ⟨i + 1, sourceNested?_of_read (i + 1) found⟩
  case h_3 => cases found

end Statement

/-! ## Circles of files -/

/-- Sources of which each begins by including a file that holds one of them. -/
def Circle (m : Machine) (sources : String → Prop) : Prop :=
  ∀ source, sources source → ∃ path other, ((scan source).peek 0).kind = .word .use ∧
    ((scan source).peek 1).lexeme = .text path ∧ path.contains '$' = false ∧
    (m.files.read (Statement.includePath m path)).toOption = some other ∧ sources other

theorem Circle.begun {m : Machine} {sources : String → Prop} (circle : Circle m sources)
    (t : Token) : Circle (m.begun t) sources := by
  rw [Machine.begun_eq]
  exact circle

/-- A source of a circle begins with a statement that runs another one. -/
theorem Circle.source? {m : Machine} {sources : String → Prop} (circle : Circle m sources)
    {source : String} (member : sources source) :
    ((scan source).peek 0).isFinish = false ∧
      ∃ other, sources other ∧ Statement.source? (scan source) 0 m = some other := by
  rcases circle source member with ⟨path, other, head, named, plain, read, next⟩
  refine ⟨by rw [Token.isFinish, head]; rfl, other, next, ?_⟩
  have written : m.interpolate path = path := by
    rw [Machine.interpolate, interpolate, plain]
    rfl
  have included : Statement.includedFile? (scan source) 0 m = some (path, 1) := by
    unfold Statement.includedFile?
    rw [named]
    dsimp only
    rw [written]
  unfold Statement.source?
  rw [head, included]
  exact read

namespace Config

open Statement

variable {sources : String → Prop} {c next : Config}

/-- A moment at which a run goes round a circle of files. -/
structure Circling (sources : String → Prop) (c : Config) : Prop where
  going : c.machine.Going
  circle : Circle c.machine sources
  place : ∃ source, sources source ∧ c.focus = .token (scan source) 0
  waits : ∀ first ∈ c.waiting, first.nested.purpose = .source

/-- The run goes one source deeper. -/
theorem Circling.deeper (circling : Circling sources c) :
    ∃ next, Step c next ∧ Circling sources next ∧ next.waiting.length = c.waiting.length + 1 := by
  rcases c with ⟨m, focus, waiting⟩
  rcases circling with ⟨going, circle, ⟨source, member, here⟩, waits⟩
  cases here
  rcases (circle.begun ((scan source).peek 0)).source? member with ⟨unfinished, other, next, found⟩
  rcases nested?_of_source found with ⟨last, runs⟩
  refine ⟨_, .enter (going.arrive unfinished) runs, ?_, rfl⟩
  exact {
    going := going.begun _
    circle := circle.begun _
    place := ⟨other, next, rfl⟩
    waits := fun first within => by
      rcases List.mem_cons.mp within with rfl | within
      · rfl
      · exact waits first within }

theorem Reaches.circling (reached : Reaches c next) (circling : Circling sources c) :
    Circling sources next := by
  induction reached with
  | refl => exact circling
  | tail _ step ih =>
      -- The step that was taken is the one that goes deeper, because there is only one.
      rcases ih.deeper with ⟨other, taken, deeper, -⟩
      exact step_unique taken step ▸ deeper

/-- A run that goes round a circle comes to every depth. -/
theorem Circling.reaches (circling : Circling sources c) (n : Nat) :
    ∃ later, Reaches c later ∧ later.waiting.length = c.waiting.length + n := by
  induction n with
  | zero => exact ⟨c, .refl, rfl⟩
  | succ n ih =>
      rcases ih with ⟨later, reached, length⟩
      rcases (reached.circling circling).deeper with ⟨next, step, -, deeper⟩
      exact ⟨next, reached.tail step, by rw [deeper, length, Nat.add_assoc]⟩

end Config

/-! ## The law -/

open Config Statement

/-- What bounds the streams that are open within each other in the runs of a script, and what does
not. -/
structure SourceNesting (toks : TokenStream) (m : Machine) : Prop where
  /-- A thread is in the middle of fewer than a hundred bodies of functions. -/
  bodies : ∀ c, Reaches (.start toks m) c → activations c.waiting < deepestCall
  /-- A file that can be read is run, whatever is open already, and nothing counts it. -/
  admitted : ∀ c stream i ready source, Reaches (.start toks m) c → c.focus = .token stream i →
    c.machine.arrive stream i = .ready ready → source? stream i ready = some source →
      ∃ next nested, Step c next ∧ next.focus = .token (scan source) 0 ∧
        next.waiting = ⟨stream, nested⟩ :: c.waiting ∧ nested.purpose = .source ∧
        next.machine = ready ∧ next.machine.depth = c.machine.depth
  /-- A run that begins in a circle of files comes to every depth, and nothing stops it. -/
  circles : ∀ sources source, Circle m sources → sources source → toks = scan source → m.Going →
    (∀ n, ∃ c, Reaches (.start toks m) c ∧ c.waiting.length = n ∧
      ∀ first ∈ c.waiting, first.nested.purpose = .source) ∧
    ∀ c, Reaches (.start toks m) c → c.machine.halt = none ∧ ¬ c.Final

theorem source_nesting {toks : TokenStream} {m : Machine} (top : m.depth = 1)
    (fresh : m.calls = []) : SourceNesting toks m := by
  refine ⟨?bodies, ?admitted, ?circles⟩
  case bodies =>
    intro c reached
    have first : (Config.start toks m).Counted := ⟨⟨top, fresh, top ▸ by decide⟩, .nil⟩
    have level := (reached.counted first).level
    have shallow := level.shallow
    rw [level.depth] at shallow
    omega
  case admitted =>
    intro c stream i ready source reached here arrived found
    have arrival := arrives stream i c.machine
    rw [arrived] at arrival
    rcases nested?_of_source found with ⟨last, runs⟩
    rcases c with ⟨before, focus, waiting⟩
    cases here
    exact ⟨_, _, .enter arrived runs, rfl, rfl, rfl, rfl, arrival.ready_contained.depth⟩
  case circles =>
    intro sources source circle member same going
    have circling : Circling sources (.start toks m) :=
      ⟨going, circle, ⟨source, member, same ▸ rfl⟩, fun _ none => nomatch none⟩
    refine ⟨fun n => ?_, fun c reached => ?_⟩
    · rcases circling.reaches n with ⟨c, reached, length⟩
      exact ⟨c, reached, length.trans (Nat.zero_add n), (reached.circling circling).waits⟩
    · have still := reached.circling circling
      refine ⟨Machine.halt_of_not_isStopped still.going.unstopped, fun final => ?_⟩
      rcases still.place with ⟨other, -, here⟩
      cases here.symm.trans final

/-- A script that includes a file which holds the script itself. -/
def selfInclusion : String := "use \"again.big\""

/-- The folder in which it does so. -/
def selfIncluded : FileTree := { entries := [(["again.big"], .file (.text selfInclusion))] }

theorem selfInclusion_circle :
    Circle (.start { files := selfIncluded }) (· = selfInclusion) := by
  rintro _ rfl
  have scanned : ((scan selfInclusion).peek 0).kind = .word .use ∧
      ((scan selfInclusion).peek 1).kind = .text ∧
      ((scan selfInclusion).peek 1).content = "again.big" := by decide +kernel
  have named : ((scan selfInclusion).peek 1).lexeme = .text "again.big" :=
    (Token.lexeme_of_text scanned.2.1).trans (congrArg Lexeme.text scanned.2.2)
  exact ⟨"again.big", selfInclusion, scanned.1, named, by simp, by decide +kernel, rfl⟩

theorem start_going (files : FileTree) : (Machine.start { files }).Going := ⟨rfl, rfl, rfl, rfl⟩

theorem source_nesting_selfInclusion :
    (Machine.start { files := selfIncluded }).depth = 1 ∧
      (Machine.start { files := selfIncluded }).calls = [] ∧
      SourceNesting (scan selfInclusion) (.start { files := selfIncluded }) :=
  ⟨rfl, rfl, source_nesting rfl rfl⟩

/-- No number bounds the streams that are open within each other in every run. -/
theorem selfInclusion_unbounded :
    ¬ ∃ bound, ∀ script files c, Reaches (.start (scan script) (.start { files })) c →
      c.waiting.length ≤ bound := by
  rintro ⟨bound, bounded⟩
  have circling : Circling (· = selfInclusion)
      (.start (scan selfInclusion) (.start { files := selfIncluded })) :=
    ⟨start_going _, selfInclusion_circle, ⟨_, rfl, rfl⟩, fun _ none => nomatch none⟩
  rcases circling.reaches (bound + 1) with ⟨c, reached, length⟩
  have short := bounded _ _ c reached
  rw [length] at short
  exact absurd short (by simp [Config.start])

end BigScript
