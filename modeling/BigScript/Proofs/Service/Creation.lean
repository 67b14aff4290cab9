import BigScript.Proofs.Service.Revision
import Mathlib.Data.List.Induction

/-!
# Clients that create scripts of one name

To create a script is to look whether its name is free and then to put it.  Each of the two is one
step, but between the two steps of a client others may take theirs.  A client that has seen the name
free puts its script, whatever has been put there in the meantime.

So a creation does not exclude another one.  `creation_law` says which clients are told that they
have succeeded: until some moment nobody has succeeded, and exactly those succeed who look before it
and put after it.  What is stored in the end is what the last of them has put, and the scripts of the
others are lost.  Where every client takes its two steps at once, at most one of them succeeds.
-/

namespace BigScript
namespace Service

namespace Operation

/-- Whether an operation is about the script of a name. -/
def touches (name : String) : Operation → Bool
  | .put _ other _ => other == name
  | .create _ other _ => other == name
  | .delete other => other == name
  | _ => false

variable {catalog : Catalog} {operation : Operation} {name : String}

theorem run_script? (apart : operation.touches name = false) :
    (operation.run catalog).script? name = catalog.script? name := by
  have kept {changed : Catalog}
      (same : changed.scripts = catalog.scripts ∧ changed.revisions = catalog.revisions) :
      changed.script? name = catalog.script? name := by
    unfold Catalog.script?
    rw [same.1]
  cases answer : operation.apply catalog with
  | error refusal => rw [run_of_error answer]
  | ok changed =>
    rw [run_of_ok answer]
    cases operation with
    | put now other source =>
      cases answer
      rw [Catalog.put_script?, if_neg (beq_eq_false_iff_ne.mp apart)]
    | create now other source =>
      rcases snd_of_map answer with ⟨script, created⟩
      unfold Catalog.create at created
      split at created
      · cases created
      · cases created
        exact (Catalog.put_script? ..).trans (if_neg (beq_eq_false_iff_ne.mp apart))
    | delete other =>
      rw [Catalog.delete_script? answer, if_neg (beq_eq_false_iff_ne.mp apart)]
    | begin now id other args =>
      rcases snd_of_map answer with ⟨execution, begun⟩
      exact kept (Catalog.begin_scripts begun)
    | complete now id output globals => exact kept (Catalog.finish_scripts answer)
    | fail now id output fault => exact kept (Catalog.finish_scripts answer)
    | cancel now id => exact kept (Catalog.cancel_scripts answer)

end Operation

/-- Clients that create a script of one name.  Each of them has a number. -/
structure Contest where
  name : String
  now : Nat → Moment
  source : Nat → String

/-- How far a client has come, and what it has been told. -/
inductive Attempt where
  | pending
  | cleared
  | refused (refusal : Refusal)
  | created (script : Script)
deriving DecidableEq

/-- A step of a client, or something else that is done to the catalog. -/
inductive Turn where
  | look (client : Nat)
  | put (client : Nat)
  | other (operation : Operation)

/-- The catalog, and how far every client has come. -/
structure Scene where
  catalog : Catalog := {}
  attempts : Nat → Attempt := fun _ => .pending

namespace Scene

/-- Whether a client has been told that its script is stored. -/
def Succeeds (scene : Scene) (client : Nat) : Prop :=
  ∃ script, scene.attempts client = .created script

/-- Whether a client has seen that the name is free. -/
def Passed (scene : Scene) (client : Nat) : Prop :=
  scene.attempts client = .cleared ∨ scene.Succeeds client

/-- The scene once a client has come further. -/
def tell (scene : Scene) (client : Nat) (attempt : Attempt) : Scene :=
  { scene with attempts := fun other => if other = client then attempt else scene.attempts other }

variable {scene : Scene} {client other : Nat} {attempt : Attempt}

theorem tell_self : (scene.tell client attempt).attempts client = attempt := if_pos rfl

theorem tell_other (apart : other ≠ client) :
    (scene.tell client attempt).attempts other = scene.attempts other := if_neg apart

/-- What a client has been told last is what it has been told. -/
theorem tell_tell (scene : Scene) (client : Nat) (earlier attempt : Attempt) :
    (scene.tell client earlier).tell client attempt = scene.tell client attempt := by
  unfold tell
  congr 1
  funext other
  dsimp only
  split <;> rfl

/-- Telling something to a client that has been told nothing yet leaves what others have been
told. -/
theorem tell_iff (pending : scene.attempts client = .pending) {told : Attempt}
    (news : told ≠ .pending) (apart : told ≠ attempt) :
    (scene.tell client attempt).attempts other = told ↔ scene.attempts other = told := by
  by_cases same : other = client
  · subst same
    rw [tell_self, pending]
    exact iff_of_false apart.symm news.symm
  · rw [tell_other same]

end Scene

namespace Contest

/-- A client looks whether the name is free. -/
def look (contest : Contest) (scene : Scene) (client : Nat) : Scene :=
  scene.tell client
    (if (scene.catalog.script? contest.name).isSome then .refused (.taken contest.name)
      else .cleared)

/-- A client puts its script. -/
def put (contest : Contest) (scene : Scene) (client : Nat) : Scene :=
  let written := scene.catalog.put (contest.now client) contest.name (contest.source client)
  { scene with catalog := written.2.2 }.tell client (.created written.1)

/-- The scene after a turn.  A client looks once, and it puts once if it has seen the name free; other
turns of it change nothing. -/
def step (contest : Contest) (scene : Scene) : Turn → Scene
  | .look client => if scene.attempts client = .pending then contest.look scene client else scene
  | .put client => if scene.attempts client = .cleared then contest.put scene client else scene
  | .other operation => { scene with catalog := operation.run scene.catalog }

/-- The scene after turns in their order. -/
def after (contest : Contest) (scene : Scene) (turns : List Turn) : Scene :=
  turns.foldl contest.step scene

/-- Whether nobody but the clients touches the name. -/
def Alone (contest : Contest) (turns : List Turn) : Prop :=
  ∀ operation, .other operation ∈ turns → operation.touches contest.name = false

variable (contest : Contest) (scene : Scene)

theorem after_append (early late : List Turn) :
    contest.after scene (early ++ late) = contest.after (contest.after scene early) late :=
  List.foldl_append

/-- What a turn can do. -/
inductive Advances : Turn → Scene → Prop where
  | clears {client : Nat} (pending : scene.attempts client = .pending)
      (free : scene.catalog.script? contest.name = none) :
      Advances (.look client) (scene.tell client .cleared)
  | refuses {client : Nat} (pending : scene.attempts client = .pending)
      (taken : scene.catalog.script? contest.name ≠ none) :
      Advances (.look client) (scene.tell client (.refused (.taken contest.name)))
  | looked {client : Nat} (before : scene.attempts client ≠ .pending) :
      Advances (.look client) scene
  | creates {client : Nat} (cleared : scene.attempts client = .cleared) :
      Advances (.put client) (contest.put scene client)
  | idle {client : Nat} (uncleared : scene.attempts client ≠ .cleared) :
      Advances (.put client) scene
  | other (operation : Operation) :
      Advances (.other operation) { scene with catalog := operation.run scene.catalog }

theorem advances (turn : Turn) : contest.Advances scene turn (contest.step scene turn) := by
  cases turn with
  | look client =>
    by_cases pending : scene.attempts client = .pending
    · rw [step, if_pos pending, look]
      cases known : scene.catalog.script? contest.name with
      | none => exact .clears pending known
      | some script => exact .refuses pending (known ▸ Option.some_ne_none script)
    · rw [step, if_neg pending]
      exact .looked pending
  | put client =>
    by_cases cleared : scene.attempts client = .cleared
    · rw [step, if_pos cleared]
      exact .creates cleared
    · rw [step, if_neg cleared]
      exact .idle cleared
  | other operation => exact .other operation

variable {contest} {scene}

/-! ## What a turn does to a client -/

/-- What a turn can do to a client. -/
inductive Proceeds (contest : Contest) (scene : Scene) (client : Nat) : Turn → Attempt → Prop where
  | stays (turn : Turn) : Proceeds contest scene client turn (scene.attempts client)
  | clears (pending : scene.attempts client = .pending)
      (free : scene.catalog.script? contest.name = none) :
      Proceeds contest scene client (.look client) .cleared
  | refuses (pending : scene.attempts client = .pending)
      (taken : scene.catalog.script? contest.name ≠ none) :
      Proceeds contest scene client (.look client) (.refused (.taken contest.name))
  | creates (cleared : scene.attempts client = .cleared) :
      Proceeds contest scene client (.put client)
        (.created (scene.catalog.put (contest.now client) contest.name (contest.source client)).1)

namespace Advances

variable {turn : Turn} {next : Scene} {client : Nat}

theorem proceeds (advances : contest.Advances scene turn next) (client : Nat) :
    contest.Proceeds scene client turn (next.attempts client) := by
  cases advances with
  | @clears mover pending free =>
    by_cases same : client = mover
    · subst same
      rw [Scene.tell_self]
      exact .clears pending free
    · rw [Scene.tell_other same]
      exact .stays _
  | @refuses mover pending taken =>
    by_cases same : client = mover
    · subst same
      rw [Scene.tell_self]
      exact .refuses pending taken
    · rw [Scene.tell_other same]
      exact .stays _
  | @creates mover cleared =>
    by_cases same : client = mover
    · subst same
      rw [put, Scene.tell_self]
      exact .creates cleared
    · rw [put, Scene.tell_other same]
      exact .stays _
  | looked => exact .stays _
  | idle => exact .stays _
  | other => exact .stays _

/-- Who has succeeded goes on having done so. -/
theorem created (advances : contest.Advances scene turn next) {script : Script}
    (told : scene.attempts client = .created script) : next.attempts client = .created script := by
  have moves := advances.proceeds client
  generalize next.attempts client = after at moves ⊢
  cases moves with
  | stays => exact told
  | clears pending => cases pending.symm.trans told
  | refuses pending => cases pending.symm.trans told
  | creates cleared => cases cleared.symm.trans told

/-- Who has seen the name free goes on having seen it. -/
theorem passed (advances : contest.Advances scene turn next) (passed : scene.Passed client) :
    next.Passed client := by
  have moves := advances.proceeds client
  unfold Scene.Passed Scene.Succeeds at passed ⊢
  generalize next.attempts client = after at moves ⊢
  cases moves with
  | stays => exact passed
  | clears => exact .inl rfl
  | creates => exact .inr ⟨_, rfl⟩
  | refuses pending =>
    rcases passed with cleared | ⟨script, told⟩
    · cases pending.symm.trans cleared
    · cases pending.symm.trans told

/-- Who has succeeded had succeeded before, or puts its script, having seen the name free. -/
theorem succeeded (advances : contest.Advances scene turn next) (succeeds : next.Succeeds client) :
    scene.Succeeds client ∨ (turn = .put client ∧ scene.Passed client) := by
  rcases succeeds with ⟨script, told⟩
  have moves := advances.proceeds client
  rw [told] at moves
  generalize same : Attempt.created script = after at moves
  cases moves with
  | stays => exact .inl ⟨script, same.symm⟩
  | creates cleared => exact .inr ⟨rfl, .inl cleared⟩
  | clears => cases same
  | refuses => cases same

/-- Who has seen the name free had seen it before, or looks while it is free. -/
theorem looked_free (advances : contest.Advances scene turn next) (passed : next.Passed client) :
    scene.Passed client ∨
      (turn = .look client ∧ scene.catalog.script? contest.name = none) := by
  have moves := advances.proceeds client
  unfold Scene.Passed Scene.Succeeds at passed
  generalize next.attempts client = after at moves passed
  cases moves with
  | stays => exact .inl passed
  | clears _ free => exact .inr ⟨rfl, free⟩
  | creates cleared => exact .inl (.inl cleared)
  | refuses =>
    rcases passed with cleared | ⟨script, told⟩
    · cases cleared
    · cases told

/-- A turn either leaves alone what stands under the name, or it puts a script there. -/
theorem stands (advances : contest.Advances scene turn next) (alone : contest.Alone [turn]) :
    next.catalog.script? contest.name = scene.catalog.script? contest.name ∨
      ∃ mover, turn = .put mover ∧ next.catalog.script? contest.name ≠ none := by
  cases advances with
  | @creates mover =>
    have stored := Catalog.put_script? scene.catalog (contest.now mover) contest.name
      (contest.source mover) contest.name
    rw [if_pos rfl] at stored
    exact .inr ⟨mover, rfl, stored ▸ Option.some_ne_none _⟩
  | other operation => exact .inl (Operation.run_script? (alone operation List.mem_cons_self))
  | clears => exact .inl rfl
  | refuses => exact .inl rfl
  | looked => exact .inl rfl
  | idle => exact .inl rfl

end Advances

/-! ## What clients have been told -/

/-- The client whose script is stored: of those who have succeeded, the last. -/
structure Wins (contest : Contest) (scene : Scene) (client : Nat) (script : Script) : Prop where
  told : scene.attempts client = .created script
  stored : scene.catalog.script? contest.name = some script
  source : script.source = contest.source client
  last : ∀ other earlier, scene.attempts other = .created earlier → other ≠ client →
    earlier.revision < script.revision

/-- What clients have been told fits what is in the catalog.  The catalog at the beginning is known
only by whether the name was free. -/
structure Orderly (contest : Contest) (start : Catalog) (scene : Scene) : Prop where
  free_iff : scene.catalog.script? contest.name = none ↔
    start.script? contest.name = none ∧ ∀ client, ¬ scene.Succeeds client
  refused : ∀ client refusal, scene.attempts client = .refused refusal →
    refusal = .taken contest.name ∧ scene.catalog.script? contest.name ≠ none
  bounded : ∀ client script, scene.attempts client = .created script →
    script.revision ≤ scene.catalog.revisions
  wins : ∀ client, scene.Succeeds client → ∃ winner script, contest.Wins scene winner script

namespace Orderly

variable {start : Catalog} {next : Scene} {turn : Turn}

theorem opening (contest : Contest) (catalog : Catalog) :
    contest.Orderly catalog { catalog } where
  free_iff := by
    refine ⟨fun free => ⟨free, ?_⟩, And.left⟩
    rintro client ⟨script, told⟩
    cases told
  refused := by
    intro client refusal told
    cases told
  bounded := by
    intro client script told
    cases told
  wins := by
    rintro client ⟨script, told⟩
    cases told

/-- A turn that stores nothing under the name. -/
theorem keeps (orderly : contest.Orderly start scene)
    (stands : next.catalog.script? contest.name = scene.catalog.script? contest.name)
    (revisions : scene.catalog.revisions ≤ next.catalog.revisions)
    (created : ∀ client script, next.attempts client = .created script ↔
      scene.attempts client = .created script)
    (refused : ∀ client refusal, next.attempts client = .refused refusal →
      scene.attempts client = .refused refusal ∨
        (refusal = .taken contest.name ∧ scene.catalog.script? contest.name ≠ none)) :
    contest.Orderly start next where
  free_iff := by
    unfold Scene.Succeeds
    simp only [stands, created]
    exact orderly.free_iff
  refused := by
    intro client refusal told
    rw [stands]
    rcases refused client refusal told with before | fresh
    · exact orderly.refused client refusal before
    · exact fresh
  bounded := by
    intro client script told
    exact Nat.le_trans (orderly.bounded client script ((created client script).mp told)) revisions
  wins := by
    rintro client ⟨script, told⟩
    rcases orderly.wins client ⟨script, (created client script).mp told⟩ with ⟨winner, best, wins⟩
    refine ⟨winner, best, (created winner best).mpr wins.told, stands.trans wins.stored,
      wins.source, ?_⟩
    intro other earlier before
    exact wins.last other earlier ((created other earlier).mp before)

/-- The turn of a client that stores its script. -/
theorem put (orderly : contest.Orderly start scene) (client : Nat) :
    contest.Orderly start (contest.put scene client) := by
  have stored := Catalog.put_script? scene.catalog (contest.now client) contest.name
    (contest.source client) contest.name
  rw [if_pos rfl] at stored
  have before {other : Nat} {script : Script} (apart : other ≠ client)
      (told : (contest.put scene client).attempts other = .created script) :
      script.revision ≤ scene.catalog.revisions :=
    orderly.bounded other script ((Scene.tell_other apart).symm.trans told)
  have wins : contest.Wins (contest.put scene client) client
      (scene.catalog.put (contest.now client) contest.name (contest.source client)).1 := by
    refine ⟨Scene.tell_self, stored, rfl, ?_⟩
    intro other earlier told apart
    exact Nat.lt_succ_of_le (before apart told)
  constructor
  · refine iff_of_false ?_ ?_
    · intro free
      exact Option.some_ne_none _ (stored.symm.trans free)
    · rintro ⟨-, nobody⟩
      exact nobody client ⟨_, wins.told⟩
  · intro other refusal told
    refine ⟨?_, stored ▸ Option.some_ne_none _⟩
    by_cases same : other = client
    · subst same
      cases wins.told.symm.trans told
    · exact (orderly.refused other refusal ((Scene.tell_other same).symm.trans told)).1
  · intro other script told
    change _ ≤ scene.catalog.revisions + 1
    by_cases same : other = client
    · subst same
      cases wins.told.symm.trans told
      exact Nat.le_refl _
    · exact Nat.le_succ_of_le (before same told)
  · exact fun _ _ => ⟨client, _, wins⟩

theorem step (orderly : contest.Orderly start scene) (advances : contest.Advances scene turn next)
    (alone : contest.Alone [turn]) : contest.Orderly start next := by
  cases advances with
  | clears pending =>
    refine orderly.keeps rfl (Nat.le_refl _) ?_ ?_
    · exact fun client script => Scene.tell_iff pending Attempt.noConfusion Attempt.noConfusion
    · intro client refusal told
      exact .inl ((Scene.tell_iff pending Attempt.noConfusion Attempt.noConfusion).mp told)
  | refuses pending taken =>
    refine orderly.keeps rfl (Nat.le_refl _) ?_ ?_
    · exact fun client script => Scene.tell_iff pending Attempt.noConfusion Attempt.noConfusion
    · intro client refusal told
      by_cases same : refusal = .taken contest.name
      · exact .inr ⟨same, taken⟩
      · refine .inl ((Scene.tell_iff pending Attempt.noConfusion ?_).mp told)
        exact fun other => same (Attempt.refused.inj other)
  | @creates client => exact orderly.put client
  | other operation =>
    refine orderly.keeps (Operation.run_script? (alone operation List.mem_cons_self)) ?_
      (fun _ _ => Iff.rfl) (fun _ _ told => .inl told)
    exact scene.catalog.revisions_le_after [operation]
  | looked => exact orderly
  | idle => exact orderly

end Orderly

/-- Who looks while the name is free has seen it free. -/
theorem Advances.sees {start : Catalog} {next : Scene} {client : Nat}
    (advances : contest.Advances scene (.look client) next) (orderly : contest.Orderly start scene)
    (free : scene.catalog.script? contest.name = none) : next.Passed client := by
  cases advances with
  | clears => exact .inl Scene.tell_self
  | refuses _ taken => exact absurd free taken
  | looked before =>
    cases told : scene.attempts client with
    | pending => exact absurd told before
    | cleared => exact .inl told
    | refused refusal => exact absurd free (orderly.refused client refusal told).2
    | created script => exact .inr ⟨script, told⟩

/-- Who has seen the name free succeeds by putting its script, whatever stands there by then. -/
theorem Advances.stores {next : Scene} {client : Nat}
    (advances : contest.Advances scene (.put client) next) (passed : scene.Passed client) :
    next.Succeeds client := by
  cases advances with
  | creates => exact ⟨_, Scene.tell_self⟩
  | idle uncleared => exact passed.resolve_left uncleared

/-! ## Sequences of turns -/

section Sequences

variable {turns : List Turn} {client : Nat}

theorem Alone.of_append {early late : List Turn} (alone : contest.Alone (early ++ late)) :
    contest.Alone early ∧ contest.Alone late :=
  ⟨fun operation member => alone operation (List.mem_append_left _ member),
    fun operation member => alone operation (List.mem_append_right _ member)⟩

theorem Alone.of_cons {turn : Turn} {rest : List Turn} (alone : contest.Alone (turn :: rest)) :
    contest.Alone [turn] ∧ contest.Alone rest :=
  (show contest.Alone ([turn] ++ rest) from alone).of_append

theorem Orderly.after {start : Catalog} (orderly : contest.Orderly start scene)
    (alone : contest.Alone turns) : contest.Orderly start (contest.after scene turns) := by
  induction turns generalizing scene with
  | nil => exact orderly
  | cons turn rest ih =>
    rcases alone.of_cons with ⟨here, further⟩
    exact ih (orderly.step (contest.advances scene turn) here) further

theorem after_passed (turns : List Turn) (passed : scene.Passed client) :
    (contest.after scene turns).Passed client := by
  induction turns generalizing scene with
  | nil => exact passed
  | cons turn rest ih => exact ih ((contest.advances scene turn).passed passed)

theorem after_succeeds (turns : List Turn) (succeeds : scene.Succeeds client) :
    (contest.after scene turns).Succeeds client := by
  rcases succeeds with ⟨script, told⟩
  refine ⟨script, ?_⟩
  induction turns generalizing scene with
  | nil => exact told
  | cons turn rest ih => exact ih ((contest.advances scene turn).created told)

theorem free_of_after (alone : contest.Alone turns)
    (free : (contest.after scene turns).catalog.script? contest.name = none) :
    scene.catalog.script? contest.name = none := by
  induction turns generalizing scene with
  | nil => exact free
  | cons turn rest ih =>
    rcases alone.of_cons with ⟨here, further⟩
    rcases (contest.advances scene turn).stands here with same | ⟨-, -, taken⟩
    · exact same.symm.trans (ih further free)
    · exact absurd (ih further free) taken

end Sequences

/-! ## Who succeeds -/

section Moment

variable {catalog : Catalog} {turns early late : List Turn} {client : Nat}

/-- Who looks while the name is free and puts its script later succeeds. -/
theorem succeeds_of_mem (alone : contest.Alone early)
    (free : (contest.after { catalog } early).catalog.script? contest.name = none)
    (looks : .look client ∈ early) (puts : .put client ∈ late) :
    (contest.after { catalog } (early ++ late)).Succeeds client := by
  have passed : (contest.after { catalog } early).Passed client := by
    rcases List.append_of_mem looks with ⟨before, since, rfl⟩
    rcases alone.of_append with ⟨first, second⟩
    rw [after_append] at free ⊢
    have orderly := (Orderly.opening contest catalog).after first
    exact after_passed since ((contest.advances _ _).sees orderly (free_of_after second free))
  rcases List.append_of_mem puts with ⟨between, since, rfl⟩
  rw [after_append, after_append]
  exact after_succeeds since ((contest.advances _ _).stores (after_passed between passed))

theorem look_mem (passed : (contest.after { catalog } turns).Passed client) :
    .look client ∈ turns := by
  induction turns using List.reverseRecOn with
  | nil =>
    rcases passed with cleared | ⟨script, told⟩
    · cases cleared
    · cases told
  | append_singleton before turn ih =>
    rw [after_append] at passed
    rcases (contest.advances _ turn).looked_free passed with already | ⟨rfl, -⟩
    · exact List.mem_append_left _ (ih already)
    · exact List.mem_append_right _ List.mem_cons_self

/-- Nobody sees the name free unless it was free at the beginning. -/
theorem free_of_passed (alone : contest.Alone turns)
    (passed : (contest.after { catalog } turns).Passed client) :
    catalog.script? contest.name = none := by
  induction turns using List.reverseRecOn with
  | nil =>
    rcases passed with cleared | ⟨script, told⟩
    · cases cleared
    · cases told
  | append_singleton before turn ih =>
    have first := alone.of_append.1
    rw [after_append] at passed
    rcases (contest.advances _ turn).looked_free passed with already | ⟨-, free⟩
    · exact ih first already
    · exact free_of_after first free

/-- Until some moment the name is free.  Who has seen it free looked before that moment, and who has
succeeded put its script after it. -/
theorem moment_of_free (free : catalog.script? contest.name = none) (alone : contest.Alone turns) :
    ∃ early late, turns = early ++ late ∧
      (contest.after { catalog } early).catalog.script? contest.name = none ∧
      (∀ client, (contest.after { catalog } turns).Passed client → .look client ∈ early) ∧
      (∀ client, (contest.after { catalog } turns).Succeeds client → .put client ∈ late) := by
  induction turns using List.reverseRecOn with
  | nil =>
    refine ⟨[], [], rfl, free, ?_, ?_⟩
    · exact fun client passed => look_mem passed
    · rintro client ⟨script, told⟩
      cases told
  | append_singleton before turn ih =>
    rcases alone.of_append with ⟨first, last⟩
    have orderly := (Orderly.opening contest catalog).after alone
    by_cases still : (contest.after { catalog } (before ++ [turn])).catalog.script? contest.name = none
    · -- The moment is not there yet.
      refine ⟨before ++ [turn], [], (List.append_nil _).symm, still, ?_, ?_⟩
      · exact fun client passed => look_mem passed
      · intro client succeeds
        exact absurd succeeds ((orderly.free_iff.mp still).2 client)
    · rw [after_append] at still ⊢
      by_cases vacant : (contest.after { catalog } before).catalog.script? contest.name = none
      · -- The last turn is the first that puts a script there.
        refine ⟨before, [turn], rfl, vacant, ?_, ?_⟩
        · intro client passed
          rcases (contest.advances _ turn).looked_free passed with already | ⟨rfl, -⟩
          · exact look_mem already
          · rcases (contest.advances _ _).stands last with same | ⟨mover, other, -⟩
            · exact absurd (same.trans vacant) still
            · cases other
        · intro client succeeds
          rcases (contest.advances _ turn).succeeded succeeds with already | ⟨rfl, -⟩
          · have nobody := (((Orderly.opening contest catalog).after first).free_iff.mp vacant).2
            exact absurd already (nobody client)
          · exact List.mem_cons_self
      · rcases ih first with ⟨early, late, rfl, empty, looked, stored⟩
        refine ⟨early, late ++ [turn], List.append_assoc .., empty, ?_, ?_⟩
        · intro client passed
          rcases (contest.advances _ turn).looked_free passed with already | ⟨-, free⟩
          · exact looked client already
          · exact absurd free vacant
        · intro client succeeds
          rcases (contest.advances _ turn).succeeded succeeds with already | ⟨rfl, -⟩
          · exact List.mem_append_left _ (stored client already)
          · exact List.mem_append_right _ List.mem_cons_self

end Moment

/-! ## Both steps at once -/

/-- A client has its script created by the catalog, in a single step. -/
def create (contest : Contest) (scene : Scene) (client : Nat) : Scene :=
  match scene.catalog.create (contest.now client) contest.name (contest.source client) with
  | .ok (script, catalog) => { scene with catalog }.tell client (.created script)
  | .error refusal => scene.tell client (.refused refusal)

/-- A client that takes both steps at once has its script created in a single step. -/
theorem together {client : Nat} (pending : scene.attempts client = .pending) :
    contest.after scene [.look client, .put client] = contest.create scene client := by
  have looked : contest.step scene (.look client) = contest.look scene client := if_pos pending
  change contest.step (contest.step scene (.look client)) (.put client) = _
  rw [looked, look]
  unfold create Catalog.create
  cases known : scene.catalog.script? contest.name with
  | none =>
    change contest.step (scene.tell client .cleared) (.put client) = _
    rw [step, if_pos Scene.tell_self]
    exact Scene.tell_tell { scene with catalog := _ } client .cleared _
  | some script =>
    change contest.step (scene.tell client (.refused (.taken contest.name))) (.put client) = _
    have uncleared : (scene.tell client (.refused (.taken contest.name))).attempts client ≠
        .cleared := Scene.tell_self ▸ Attempt.noConfusion
    rw [step, if_neg uncleared]

/-- Whether every client takes its two steps at once. -/
inductive AtOnce : List Turn → Prop where
  | none : AtOnce []
  | client (number : Nat) {rest : List Turn} (atonce : AtOnce rest) :
      AtOnce (.look number :: .put number :: rest)
  | other (operation : Operation) {rest : List Turn} (atonce : AtOnce rest) :
      AtOnce (.other operation :: rest)

/-- How things stand between the creations of clients that take their steps at once. -/
structure Exclusive (scene : Scene) : Prop where
  uncleared : ∀ client, scene.attempts client ≠ .cleared
  one : ∀ first second, scene.Succeeds first → scene.Succeeds second → first = second

namespace Exclusive

variable {start : Catalog} {turns : List Turn}

theorem creates (exclusive : Exclusive scene) (orderly : contest.Orderly start scene)
    (client : Nat) : Exclusive (contest.after scene [.look client, .put client]) := by
  by_cases pending : scene.attempts client = .pending
  · rw [together pending, create]
    cases answer : scene.catalog.create (contest.now client) contest.name
      (contest.source client) with
    | error refusal =>
      have same {other : Nat} {told : Attempt} (news : told ≠ .pending)
          (apart : told ≠ .refused refusal) :
          (scene.tell client (.refused refusal)).attempts other = told ↔
            scene.attempts other = told := Scene.tell_iff pending news apart
      constructor
      · intro other cleared
        exact exclusive.uncleared other ((same Attempt.noConfusion Attempt.noConfusion).mp cleared)
      · rintro first second ⟨one, told⟩ ⟨two, said⟩
        exact exclusive.one first second
          ⟨one, (same Attempt.noConfusion Attempt.noConfusion).mp told⟩
          ⟨two, (same Attempt.noConfusion Attempt.noConfusion).mp said⟩
    | ok created =>
      have free : scene.catalog.script? contest.name = none := by
        unfold Catalog.create at answer
        split at answer
        · cases answer
        · assumption
      -- While the name is free, nobody else has succeeded.
      have nobody := (orderly.free_iff.mp free).2
      have only {other : Nat} (succeeds : ({ scene with catalog := created.2 }.tell client
          (.created created.1)).Succeeds other) : other = client := by
        rcases succeeds with ⟨script, told⟩
        by_contra apart
        exact nobody other ⟨script, (Scene.tell_other apart).symm.trans told⟩
      constructor
      · intro other cleared
        by_cases same : other = client
        · subst same
          cases Scene.tell_self.symm.trans cleared
        · exact exclusive.uncleared other ((Scene.tell_other same).symm.trans cleared)
      · exact fun first second one two => (only one).trans (only two).symm
  · have still : contest.after scene [.look client, .put client] = scene := by
      have looked : contest.step scene (.look client) = scene := if_neg pending
      change contest.step (contest.step scene (.look client)) (.put client) = scene
      rw [looked, step, if_neg (exclusive.uncleared client)]
    rw [still]
    exact exclusive

theorem after (exclusive : Exclusive scene) (orderly : contest.Orderly start scene)
    (alone : contest.Alone turns) (atonce : AtOnce turns) :
    Exclusive (contest.after scene turns) := by
  induction atonce generalizing scene with
  | none => exact exclusive
  | client number _ ih =>
    have both : contest.Alone ([.look number, .put number] ++ _) := alone
    rcases both.of_append with ⟨here, further⟩
    exact ih (exclusive.creates orderly number) (orderly.after here) further
  | other operation _ ih =>
    rcases alone.of_cons with ⟨here, further⟩
    exact ih ⟨exclusive.uncleared, exclusive.one⟩ (orderly.after here) further

end Exclusive
end Contest

/-! ## The law -/

/-- What clients that create scripts of one name are told, and what is stored in the end.

Two of them can be told that they have succeeded, and the law says exactly when.  Clients that take
their two steps at once create their scripts as the server does, and at most one of them succeeds. -/
structure CreationLaw (contest : Contest) (catalog : Catalog) (turns : List Turn) : Prop where
  /-- Until some moment nobody has succeeded.  If the name was free at the beginning, those succeed
  who look before that moment and put after it. -/
  moment : ∃ early late, turns = early ++ late ∧
    (∀ client, ¬ (contest.after { catalog } early).Succeeds client) ∧
    ∀ client, (contest.after { catalog } turns).Succeeds client ↔
      catalog.script? contest.name = none ∧ .look client ∈ early ∧ .put client ∈ late
  /-- What is stored is the script of the last that has succeeded, and no other client's. -/
  wins : ∀ client, (contest.after { catalog } turns).Succeeds client →
    ∃ winner script, contest.Wins (contest.after { catalog } turns) winner script
  /-- The name is free as long as it has been from the beginning and nobody has succeeded. -/
  free : (contest.after { catalog } turns).catalog.script? contest.name = none ↔
    catalog.script? contest.name = none ∧
      ∀ client, ¬ (contest.after { catalog } turns).Succeeds client
  /-- Who is refused is told that the name is taken, and so it is. -/
  refused : ∀ client refusal, (contest.after { catalog } turns).attempts client = .refused refusal →
    refusal = .taken contest.name ∧
      (contest.after { catalog } turns).catalog.script? contest.name ≠ none
  together : ∀ client, (contest.after { catalog } turns).attempts client = .pending →
    contest.after { catalog } (turns ++ [.look client, .put client]) =
      contest.create (contest.after { catalog } turns) client
  atonce : Contest.AtOnce turns → ∀ first second,
    (contest.after { catalog } turns).Succeeds first →
      (contest.after { catalog } turns).Succeeds second → first = second

theorem creation_law (contest : Contest) (catalog : Catalog) (turns : List Turn)
    (alone : contest.Alone turns) : CreationLaw contest catalog turns := by
  have opening := Contest.Orderly.opening contest catalog
  have orderly := opening.after alone
  constructor
  · by_cases free : catalog.script? contest.name = none
    · rcases Contest.moment_of_free free alone with ⟨early, late, rfl, vacant, looked, stored⟩
      have first := alone.of_append.1
      refine ⟨early, late, rfl, ((opening.after first).free_iff.mp vacant).2, ?_⟩
      intro client
      constructor
      · exact fun succeeds => ⟨free, looked client (.inr succeeds), stored client succeeds⟩
      · rintro ⟨-, looks, puts⟩
        exact Contest.succeeds_of_mem first vacant looks puts
    · refine ⟨[], turns, rfl, ?_, ?_⟩
      · rintro client ⟨script, told⟩
        cases told
      · intro client
        refine iff_of_false ?_ fun both => free both.1
        exact fun succeeds => free (Contest.free_of_passed alone (.inr succeeds))
  · exact orderly.wins
  · exact orderly.free_iff
  · exact orderly.refused
  · intro client pending
    rw [Contest.after_append, Contest.together pending]
  · intro atonce
    refine (Contest.Exclusive.after ⟨?_, ?_⟩ opening alone atonce).one
    · intro client cleared
      cases cleared
    · rintro first second ⟨script, told⟩
      cases told

/-- Two clients that create a script of one name. -/
def twoClients : Contest where
  name := "a"
  now := fun _ => {}
  source := fun client => if client = 0 then "print 1" else "print 2"

/-- The first creates its script while the second has looked and has not put yet. -/
def overlapping : List Turn := [.look 1, .look 0, .put 0, .put 1]

theorem overlapping_alone : twoClients.Alone overlapping := by
  intro operation member
  simp [overlapping] at member

/-- Both are told that they have succeeded, and what the first has put is lost. -/
theorem creation_law_overlapping :
    twoClients.Alone overlapping ∧ CreationLaw twoClients {} overlapping ∧
      (twoClients.after {} overlapping).catalog.scripts.map (·.source) = ["print 2"] :=
  ⟨overlapping_alone, creation_law twoClients {} overlapping overlapping_alone, by decide⟩

theorem creation_not_exclusive : ¬ ∀ (contest : Contest) (catalog : Catalog) (turns : List Turn),
    contest.Alone turns → ∀ first second, (contest.after { catalog } turns).Succeeds first →
      (contest.after { catalog } turns).Succeeds second → first = second := by
  intro always
  have one : (twoClients.after {} overlapping).Succeeds 0 := ⟨_, rfl⟩
  have two : (twoClients.after {} overlapping).Succeeds 1 := ⟨_, rfl⟩
  exact absurd (always twoClients {} overlapping overlapping_alone 0 1 one two) (by decide)

end Service
end BigScript
