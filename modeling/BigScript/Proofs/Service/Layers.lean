import BigScript.Proofs.Service.Attendance
import BigScript.Service.Flags
import Mathlib

/-!
# Layers of settings

The settings of the service come from four places, each of which wins over those before it: the
defaults, the configuration document, the environment and the flags.  The last value that is said for
a setting counts.

The settings are judged twice, before the flags are put over them and after.  What is accepted is
always the whole overlay, with its durations; but a value that a flag replaces is judged all the same,
and settings that would do are refused for its sake.  That can happen to a port, and to a watch without
a folder.
-/

namespace BigScript
namespace Service

/-! ## Overlays -/

/-- What one place says about the settings. -/
structure Layer where
  host : Option String := none
  port : Option Int := none
  scriptsFolder : Option String := none
  watch : Option Bool := none
  debug : Option Bool := none
  heal : Option Bool := none
  dataFolder : Option String := none
  timeout : Option String := none

namespace Layer

/-- What a variable of the environment says; an empty one says nothing. -/
def told (environment : List (String × String)) (name : String) : Option String :=
  (environment.lookup name).filter (· ≠ "")

theorem told_getD (environment : List (String × String)) (name fallback : String) :
    (match environment.lookup name with
      | some found => if found.isEmpty then fallback else found
      | none => fallback) = (told environment name).getD fallback := by
  unfold told
  cases environment.lookup name with
  | none => rfl
  | some found => by_cases empty : found = "" <;> simp [empty, Option.filter]

/-- What the environment says.  A port or a truth value that cannot be read says nothing. -/
def ofEnvironment (environment : List (String × String)) : Layer where
  host := told environment "HOST"
  port := (told environment "PORT").bind Number.parseInt?
  scriptsFolder := told environment "BIGRUN_SCRIPTS_DIR"
  debug := (told environment "BIGRUN_DEBUG").bind Settings.truth?
  dataFolder := told environment "BIGRUN_DATA_DIR"
  timeout := told environment "BIGRUN_TIMEOUT"

/-- What the flags say. -/
def ofFlags (flags : Flags) : Layer where
  host := flags.host
  port := flags.port
  scriptsFolder := flags.scriptsFolder
  watch := flags.watch
  debug := flags.debug
  heal := flags.heal

end Layer

/-- The last value that is said, or the one at the start. -/
def latest {α : Type} (start : α) (said : List (Option α)) : α :=
  said.reduceOption.getLast?.getD start

theorem latest_append {α : Type} (start : α) (said later : List (Option α)) :
    latest (latest start said) later = latest start (said ++ later) := by
  unfold latest
  rw [List.reduceOption_append, List.getLast?_append]
  cases later.reduceOption.getLast? <;> rfl

theorem latest_singleton {α : Type} (start : α) (said : Option α) :
    latest start [said] = said.getD start := by
  cases said <;> rfl

namespace Settings

/-- The settings with layers over them, of which later ones win. -/
def overlay (settings : Settings) (layers : List Layer) : Settings where
  host := latest settings.host (layers.map (·.host))
  port := latest settings.port (layers.map (·.port))
  scriptsFolder := latest settings.scriptsFolder (layers.map (·.scriptsFolder))
  watch := latest settings.watch (layers.map (·.watch))
  debug := latest settings.debug (layers.map (·.debug))
  heal := latest settings.heal (layers.map (·.heal))
  dataFolder := latest settings.dataFolder (layers.map (·.dataFolder))
  timeout := latest settings.timeout (layers.map (·.timeout))
  schedules := settings.schedules

theorem overlay_append (settings : Settings) (layers later : List Layer) :
    (settings.overlay layers).overlay later = settings.overlay (layers ++ later) := by
  simp only [overlay, latest_append, List.map_append]

theorem overlay_singleton (settings : Settings) (layer : Layer) :
    settings.overlay [layer] =
      { settings with
        host := layer.host.getD settings.host
        port := layer.port.getD settings.port
        scriptsFolder := layer.scriptsFolder.getD settings.scriptsFolder
        watch := layer.watch.getD settings.watch
        debug := layer.debug.getD settings.debug
        heal := layer.heal.getD settings.heal
        dataFolder := layer.dataFolder.getD settings.dataFolder
        timeout := layer.timeout.getD settings.timeout } := by
  simp only [overlay, List.map_cons, List.map_nil, latest_singleton]

/-- The environment is a layer over the settings before it. -/
theorem inEnvironment_eq (environment : List (String × String)) (settings : Settings) :
    settings.inEnvironment environment = settings.overlay [.ofEnvironment environment] := by
  have read {α : Type} (read? : String → Option α) (nothing : read? "" = none) (name : String) :
      read? ((Layer.told environment name).getD "") = (Layer.told environment name).bind read? := by
    cases Layer.told environment name with
    | none => exact nothing
    | some found => rfl
  have text := Layer.told_getD environment
  have port : Number.parseInt? _ = _ := (congrArg _ (text "PORT" "")).trans (read _ (by decide) _)
  have debug : truth? _ = _ := (congrArg _ (text "BIGRUN_DEBUG" "")).trans (read _ (by decide) _)
  rw [inEnvironment, overlay_singleton, Settings.mk.injEq]
  exact ⟨text _ _, congrArg (Option.getD · _) port, text _ _, rfl,
    congrArg (Option.getD · _) debug, rfl, text _ _, text _ _, rfl⟩

end Settings

/-- The flags are a layer over the settings before them. -/
theorem Flags.applied_eq (flags : Flags) (settings : Settings) :
    flags.applied settings = settings.overlay [.ofFlags flags] := by
  rw [Settings.overlay_singleton]
  rfl

namespace Settings

/-- The settings of a document with the environment over them. -/
def beneathFlags (decoded : Settings) (environment : List (String × String)) : Settings :=
  decoded.overlay [.ofEnvironment environment]

/-- The settings of a document with the environment and the flags over them. -/
def layered (decoded : Settings) (environment : List (String × String)) (flags : Flags) : Settings :=
  decoded.overlay [.ofEnvironment environment, .ofFlags flags]

theorem layered_eq (decoded : Settings) (environment : List (String × String)) (flags : Flags) :
    decoded.layered environment flags = flags.applied (decoded.beneathFlags environment) := by
  rw [flags.applied_eq, beneathFlags, overlay_append]
  rfl

end Settings

/-! ## What is accepted -/

/-- Whether a text gives the longest time that a run may take.  No text gives no limit, which is
written as zero. -/
def Limits (timeout : String) (limit : Duration) : Prop :=
  (timeout = "" ∧ limit = ⟨0⟩) ∨ (Duration.read? timeout = some limit ∧ 0 ≤ limit.nanoseconds)

/-- Whether a text gives the time between two runs of a schedule. -/
def Recurs (every : String) (interval : Duration) : Prop :=
  Duration.read? every = some interval ∧ Duration.second.nanoseconds ≤ interval.nanoseconds

/-- Whether a schedule will do. -/
structure Schedule.Valid (schedule : Schedule) : Prop where
  script : schedule.script ≠ ""
  every : ∃ interval, Recurs schedule.every interval

/-- Whether a job is a schedule with its interval. -/
structure Job.Carries (schedule : Schedule) (job : Job) : Prop where
  same : job.toSchedule = schedule
  interval : Recurs schedule.every job.interval

namespace Settings

/-- Whether the port is one. -/
def PortFits (settings : Settings) : Prop := 1 ≤ settings.port ∧ settings.port ≤ 65535

/-- Whether there is a folder to watch, if one is watched. -/
def Watchable (settings : Settings) : Prop := settings.watch = true → settings.scriptsFolder ≠ ""

/-- Whether settings will do. -/
structure Valid (settings : Settings) : Prop where
  port : settings.PortFits
  watch : settings.Watchable
  timeout : ∃ limit, Limits settings.timeout limit
  schedules : ∀ schedule ∈ settings.schedules, schedule.Valid

end Settings

/-- Whether a plan is the settings with their durations. -/
structure Plan.Carries (plan : Plan) (settings : Settings) : Prop where
  same : plan.settings = settings
  limit : Limits settings.timeout plan.limit
  jobs : List.Forall₂ Job.Carries settings.schedules plan.jobs

section Verdicts

variable {settings : Settings} {plan : Plan}

theorem Settings.limit_ok_iff {limit : Duration} :
    settings.limit = .ok limit ↔ Limits settings.timeout limit := by
  have nothing : Duration.read? "" = none := by decide +kernel
  have zero : Duration.read? "0" = some ⟨0⟩ := by decide +kernel
  unfold Settings.limit Limits
  generalize settings.timeout = timeout
  by_cases free : timeout = "" ∨ timeout = "0"
  · rw [if_pos (by simpa using free), Except.ok.injEq]
    rcases free with rfl | rfl
    · rw [nothing]
      simp [eq_comm]
    · rw [zero, Option.some.injEq]
      constructor
      · rintro rfl
        exact .inr ⟨rfl, Int.le_refl 0⟩
      · rintro (⟨empty, -⟩ | ⟨same, -⟩)
        · exact absurd empty (by decide)
        · exact same
  · have given : timeout ≠ "" := fun empty => free (.inl empty)
    rw [if_neg (by simpa using free)]
    cases Duration.read? timeout with
    | none => simp [given]
    | some found =>
      dsimp only
      split
      · next negative =>
        simp only [reduceCtorEq, given, false_and, Option.some.injEq, false_or, false_iff, not_and]
        rintro rfl
        exact Int.not_le.mpr negative
      · next atLeast =>
        simp only [Except.ok.injEq, given, false_and, Option.some.injEq, false_or, iff_self_and]
        rintro rfl
        exact Int.not_lt.mp atLeast

theorem Schedule.job_ok_iff {index : Nat} {schedule : Schedule} {job : Job} :
    schedule.job index = .ok job ↔ schedule.script ≠ "" ∧ job.Carries schedule := by
  unfold Schedule.job
  dsimp only
  by_cases unnamed : schedule.script = ""
  · simp [unnamed]
  rw [if_neg (by simpa using unnamed)]
  constructor
  · intro accepted
    split at accepted
    · cases accepted
    · next interval reads =>
      split at accepted
      · cases accepted
      · next long =>
        cases accepted
        exact ⟨unnamed, rfl, reads, Int.not_lt.mp long⟩
  · rintro ⟨-, rfl, reads, long⟩
    rw [reads]
    dsimp only
    rw [if_neg (Int.not_lt.mpr long)]

theorem Schedule.jobs_ok_iff {schedules : List Schedule} {index : Nat} {jobs : List Job} :
    Schedule.jobs index schedules = .ok jobs ↔
      (∀ schedule ∈ schedules, schedule.script ≠ "") ∧ List.Forall₂ Job.Carries schedules jobs := by
  induction schedules generalizing index jobs with
  | nil =>
    rw [List.forall₂_nil_left_iff]
    constructor
    · intro accepted
      cases accepted
      exact ⟨List.forall_mem_nil _, rfl⟩
    · rintro ⟨-, rfl⟩
      rfl
  | cons schedule rest ih =>
    rw [List.forall_mem_cons, List.forall₂_cons_left_iff]
    constructor
    · intro accepted
      rcases Server.ok_of_bind accepted with ⟨job, first, accepted⟩
      rcases Server.ok_of_bind accepted with ⟨others, later, accepted⟩
      cases accepted
      rcases job_ok_iff.mp first with ⟨named, carries⟩
      rcases ih.mp later with ⟨allNamed, carry⟩
      exact ⟨⟨named, allNamed⟩, job, others, carries, carry, rfl⟩
    · rintro ⟨⟨named, allNamed⟩, job, others, carries, carry, rfl⟩
      rw [Schedule.jobs, job_ok_iff.mpr ⟨named, carries⟩, ih.mpr ⟨allNamed, carry⟩]
      rfl

theorem Job.exists_carries_iff {schedule : Schedule} :
    (∃ job : Job, job.Carries schedule) ↔ ∃ interval, Recurs schedule.every interval := by
  constructor
  · rintro ⟨job, carries⟩
    exact ⟨job.interval, carries.interval⟩
  · rintro ⟨interval, recurs⟩
    exact ⟨{ schedule with interval }, rfl, recurs⟩

theorem Schedule.exists_jobs_iff {schedules : List Schedule} :
    (∃ jobs, List.Forall₂ Job.Carries schedules jobs) ↔
      ∀ schedule ∈ schedules, ∃ job : Job, job.Carries schedule := by
  induction schedules with
  | nil => exact ⟨fun _ => List.forall_mem_nil _, fun _ => ⟨[], .nil⟩⟩
  | cons schedule rest ih =>
    rw [List.forall_mem_cons, ← ih]
    constructor
    · rintro ⟨jobs, carry⟩
      rcases carry with _ | ⟨carries, carry⟩
      exact ⟨⟨_, carries⟩, _, carry⟩
    · rintro ⟨⟨job, carries⟩, jobs, carry⟩
      exact ⟨job :: jobs, .cons carries carry⟩

namespace Settings

theorem accept_eq (port : settings.PortFits) (watch : settings.Watchable) :
    settings.accept = settings.limit >>= fun limit =>
      Schedule.jobs 0 settings.schedules >>= fun jobs => .ok { settings, limit, jobs } := by
  have fits : (settings.port < 1 || 65535 < settings.port : Bool) = false := by
    simpa only [Bool.or_eq_false_iff, decide_eq_false_iff_not, Int.not_lt, PortFits] using port
  have watched : (settings.watch && settings.scriptsFolder.isEmpty) = false := by
    simpa [Watchable] using watch
  unfold accept
  rw [fits, watched]
  rfl

theorem accept_ok_fits (accepted : settings.accept = .ok plan) :
    settings.PortFits ∧ settings.Watchable := by
  unfold accept at accepted
  cases fits : (settings.port < 1 || 65535 < settings.port : Bool) with
  | true => rw [fits] at accepted; cases accepted
  | false =>
    cases watched : settings.watch && settings.scriptsFolder.isEmpty with
    | true => rw [fits, watched] at accepted; cases accepted
    | false =>
      constructor
      · simpa only [Bool.or_eq_false_iff, decide_eq_false_iff_not, Int.not_lt, PortFits] using fits
      · simpa [Watchable] using watched

/-- Settings are accepted exactly if they will do, and what is accepted is these settings. -/
theorem accept_ok_iff : settings.accept = .ok plan ↔ settings.Valid ∧ plan.Carries settings := by
  constructor
  · intro accepted
    rcases accept_ok_fits accepted with ⟨port, watch⟩
    rw [accept_eq port watch] at accepted
    rcases Server.ok_of_bind accepted with ⟨limit, limits, accepted⟩
    rcases Server.ok_of_bind accepted with ⟨jobs, carried, accepted⟩
    cases accepted
    rcases Schedule.jobs_ok_iff.mp carried with ⟨named, carry⟩
    have limits := limit_ok_iff.mp limits
    refine ⟨⟨port, watch, ⟨_, limits⟩, fun schedule among => ⟨named schedule among, ?_⟩⟩,
      rfl, limits, carry⟩
    exact Job.exists_carries_iff.mp (Schedule.exists_jobs_iff.mp ⟨_, carry⟩ schedule among)
  · rintro ⟨valid, carries⟩
    have named (schedule : Schedule) (among : schedule ∈ settings.schedules) : schedule.script ≠ "" :=
      (valid.schedules schedule among).script
    rw [accept_eq valid.port valid.watch, limit_ok_iff.mpr carries.limit,
      Schedule.jobs_ok_iff.mpr ⟨named, carries.jobs⟩]
    change Except.ok (Plan.mk settings plan.limit plan.jobs) = _
    rw [← carries.same]

/-- Some plan is accepted exactly if the settings will do. -/
theorem accepts_iff : (∃ plan, settings.accept = .ok plan) ↔ settings.Valid := by
  constructor
  · rintro ⟨plan, accepted⟩
    exact (accept_ok_iff.mp accepted).1
  · intro valid
    rcases valid.timeout with ⟨limit, limits⟩
    rcases Schedule.exists_jobs_iff.mpr fun schedule among =>
      Job.exists_carries_iff.mpr (valid.schedules schedule among).every with ⟨jobs, carry⟩
    exact ⟨⟨settings, limit, jobs⟩, accept_ok_iff.mpr ⟨valid, rfl, limits, carry⟩⟩

end Settings

end Verdicts

/-! ## Loading -/

/-- What the configuration file at a path says over the defaults.  The default file need not be
there. -/
inductive Decodes (files : FileTree) (path : String) : Settings → Prop where
  | file {document : String} {decoded : Settings}
      (found : files.read (if path.isEmpty then Settings.defaultFile else path) = .ok document)
      (reads : Settings.inDocument document {} = .ok decoded) : Decodes files path decoded
  | absent (unnamed : path = "") (missing : files.read Settings.defaultFile = .error .missing) :
    Decodes files path {}

section Loading

variable {files : FileTree} {environment : List (String × String)} {path : String}
  {decoded : Settings} {args : List String} {flags : Flags}

theorem mapError_refused (answer : Except Cause Plan) :
    (match answer with
      | .ok plan => (pure plan : Except LoadProblem Plan)
      | .error cause => throw (.refused cause)) = answer.mapError .refused := by
  cases answer <;> rfl

/-- Settings that can be read are judged with the environment over them. -/
theorem Decodes.load_eq (decodes : Decodes files path decoded) :
    Settings.load files environment path =
      (decoded.beneathFlags environment).accept.mapError LoadProblem.refused := by
  rw [Settings.beneathFlags, ← Settings.inEnvironment_eq, ← mapError_refused]
  unfold Settings.load
  cases decodes with
  | file found reads =>
    dsimp only
    rw [found]
    dsimp only
    rw [reads]
    rfl
  | absent unnamed missing =>
    subst unnamed
    dsimp only
    rw [if_pos (by decide), missing]
    rfl

/-- The settings are judged before and after the flags are put over them. -/
theorem Decodes.ofArguments_eq (decodes : Decodes files (flags.config.getD "") decoded)
    (given : Flags.read {} none args = .ok flags) :
    Settings.ofArguments files environment args =
      (decoded.beneathFlags environment).accept.mapError LoadProblem.refused >>= fun _ =>
        (decoded.layered environment flags).accept.mapError LoadProblem.refused := by
  unfold Settings.ofArguments
  rw [given]
  change Settings.load files environment _ >>= _ = _
  rw [decodes.load_eq]
  cases before : (decoded.beneathFlags environment).accept with
  | error _ => rfl
  | ok plan =>
    have same := (Settings.accept_ok_iff.mp before).2.same
    rw [Settings.layered_eq, ← same]
    exact mapError_refused _

theorem Decodes.ofArguments_ok_iff {plan : Plan}
    (decodes : Decodes files (flags.config.getD "") decoded)
    (given : Flags.read {} none args = .ok flags) :
    Settings.ofArguments files environment args = .ok plan ↔
      (decoded.beneathFlags environment).Valid ∧ (decoded.layered environment flags).Valid ∧
        plan.Carries (decoded.layered environment flags) := by
  rw [decodes.ofArguments_eq given, ← Settings.accept_ok_iff, ← Settings.accepts_iff]
  cases (decoded.beneathFlags environment).accept with
  | error _ => exact ⟨nofun, fun ⟨⟨_, accepted⟩, _⟩ => nomatch accepted⟩
  | ok first =>
    change (Settings.accept _).mapError LoadProblem.refused = _ ↔ _
    cases (decoded.layered environment flags).accept <;> simp [Except.mapError]

theorem Settings.beneathFlags_portFits (unsaid : flags.port = none)
    (fits : (decoded.layered environment flags).PortFits) :
    (decoded.beneathFlags environment).PortFits := by
  rw [Settings.layered_eq, Settings.PortFits, Flags.applied, unsaid] at fits
  exact fits

theorem Settings.beneathFlags_watchable (unsaid : flags.watch = none)
    (unnamed : flags.scriptsFolder = none) (watchable : (decoded.layered environment flags).Watchable) :
    (decoded.beneathFlags environment).Watchable := by
  rw [Settings.layered_eq, Settings.Watchable, Flags.applied, unsaid, unnamed] at watchable
  exact watchable

/-- Settings that do with the flags over them do without these as well, except for the port and the
folder that is watched. -/
theorem Settings.beneathFlags_valid_iff (valid : (decoded.layered environment flags).Valid) :
    (decoded.beneathFlags environment).Valid ↔
      (decoded.beneathFlags environment).PortFits ∧ (decoded.beneathFlags environment).Watchable := by
  constructor
  · intro fine
    exact ⟨fine.port, fine.watch⟩
  · rintro ⟨port, watch⟩
    rw [Settings.layered_eq, flags.applied_eq, Settings.overlay_singleton] at valid
    exact ⟨port, watch, valid.timeout, valid.schedules⟩

end Loading

/-! ## The law -/

/-- What becomes of the settings in a document, an environment and flags. -/
structure LayeringLaw (files : FileTree) (environment : List (String × String)) (args : List String)
    (flags : Flags) (decoded : Settings) : Prop where
  /-- Exactly the whole overlay is accepted, with the durations it gives, if it will do and would
  without the flags. -/
  accepted : ∀ plan, Settings.ofArguments files environment args = .ok plan ↔
    (decoded.beneathFlags environment).Valid ∧ (decoded.layered environment flags).Valid ∧
      plan.Carries (decoded.layered environment flags)
  /-- So they are accepted if both will do. -/
  succeeds : (∃ plan, Settings.ofArguments files environment args = .ok plan) ↔
    (decoded.beneathFlags environment).Valid ∧ (decoded.layered environment flags).Valid
  /-- Where the port beneath the flags is one, and a folder stands beneath them for a watch that does,
  the whole overlay alone decides. -/
  unspoiled : (decoded.beneathFlags environment).PortFits →
    (decoded.beneathFlags environment).Watchable →
      ((∃ plan, Settings.ofArguments files environment args = .ok plan) ↔
        (decoded.layered environment flags).Valid)
  /-- An overlay that will do is refused exactly for a value that a flag replaces. -/
  spoiled : (decoded.layered environment flags).Valid →
    ((∀ plan, Settings.ofArguments files environment args ≠ .ok plan) ↔
      (flags.port ≠ none ∧ ¬ (decoded.beneathFlags environment).PortFits) ∨
        ((flags.watch ≠ none ∨ flags.scriptsFolder ≠ none) ∧
          ¬ (decoded.beneathFlags environment).Watchable))
  /-- What the environment replaces does not matter. -/
  replaced : ∀ others otherwise, Decodes others (flags.config.getD "") otherwise →
    otherwise.beneathFlags environment = decoded.beneathFlags environment →
      Settings.ofArguments others environment args = Settings.ofArguments files environment args

theorem layering_law {files : FileTree} {environment : List (String × String)} {args : List String}
    {flags : Flags} {decoded : Settings} (given : Flags.read {} none args = .ok flags)
    (decodes : Decodes files (flags.config.getD "") decoded) :
    LayeringLaw files environment args flags decoded := by
  have accepted (plan : Plan) :
      Settings.ofArguments files environment args = .ok plan ↔
        (decoded.beneathFlags environment).Valid ∧ (decoded.layered environment flags).Valid ∧
          plan.Carries (decoded.layered environment flags) :=
    decodes.ofArguments_ok_iff given
  have succeeds : (∃ plan, Settings.ofArguments files environment args = .ok plan) ↔
      (decoded.beneathFlags environment).Valid ∧ (decoded.layered environment flags).Valid := by
    constructor
    · rintro ⟨plan, ok⟩
      have parts := (accepted plan).mp ok
      exact ⟨parts.1, parts.2.1⟩
    · rintro ⟨before, after⟩
      rcases Settings.accepts_iff.mpr after with ⟨plan, ok⟩
      exact ⟨plan, (accepted plan).mpr ⟨before, Settings.accept_ok_iff.mp ok⟩⟩
  have unspoiled (port : (decoded.beneathFlags environment).PortFits)
      (watch : (decoded.beneathFlags environment).Watchable) :
      (∃ plan, Settings.ofArguments files environment args = .ok plan) ↔
        (decoded.layered environment flags).Valid := by
    rw [succeeds]
    constructor
    · exact And.right
    · intro after
      exact ⟨(Settings.beneathFlags_valid_iff after).mpr ⟨port, watch⟩, after⟩
  refine ⟨accepted, succeeds, unspoiled, ?_, ?_⟩
  · intro after
    have refused : (∀ plan, Settings.ofArguments files environment args ≠ .ok plan) ↔
        ¬ ((decoded.beneathFlags environment).PortFits ∧
          (decoded.beneathFlags environment).Watchable) := by
      rw [← Settings.beneathFlags_valid_iff after, ← and_iff_left (a := Settings.Valid _) after,
        ← succeeds, not_exists]
    rw [refused]
    constructor
    · intro spoilt
      by_cases port : (decoded.beneathFlags environment).PortFits
      · have unwatchable : ¬ (decoded.beneathFlags environment).Watchable :=
          fun watch => spoilt ⟨port, watch⟩
        refine .inr ⟨?_, unwatchable⟩
        by_contra unsaid
        rcases not_or.mp unsaid with ⟨unwatched, unnamed⟩
        exact unwatchable
          (Settings.beneathFlags_watchable (not_not.mp unwatched) (not_not.mp unnamed) after.watch)
      · exact .inl ⟨fun unsaid => port (Settings.beneathFlags_portFits unsaid after.port), port⟩
    · rintro (⟨-, port⟩ | ⟨-, watch⟩) ⟨fits, watchable⟩
      · exact port fits
      · exact watch watchable
  · intro others otherwise decodesToo same
    rw [decodesToo.ofArguments_eq given, decodes.ofArguments_eq given, Settings.layered_eq,
      Settings.layered_eq, same]

/-! ### A watched folder -/

/-- A file that asks for scripts to be watched. -/
def watchFile : FileTree := ⟨[([Settings.defaultFile], .file (.text "watch: true"))]⟩

theorem watchFile_decodes : Decodes watchFile "" { watch := true } :=
  have found : watchFile.read Settings.defaultFile = .ok "watch: true" :=
    Server.ok_of_toOption (by decide +kernel)
  .file found (Server.ok_of_toOption (by decide +kernel))

/-- The flag that names a folder of scripts. -/
def folderFlag : List String := ["--scripts-dir", "scripts"]

theorem folderFlag_read : Flags.read {} none folderFlag = .ok { scriptsFolder := some "scripts" } :=
  Server.ok_of_toOption (by decide +kernel)

theorem watched_valid {folder : String} (named : folder ≠ "") :
    Settings.Valid { watch := true, scriptsFolder := folder } :=
  have minutes : Duration.read? "5m" = some ⟨300000000000⟩ := by decide +kernel
  have port : (1 : Int) ≤ 8787 ∧ (8787 : Int) ≤ 65535 := by decide
  ⟨port, fun _ => named, ⟨_, .inr ⟨minutes, by decide⟩⟩, nofun⟩

/-- With another folder beneath it, the flag decides which folder is watched. -/
theorem layering_law_folder :
    Flags.read {} none folderFlag = .ok { scriptsFolder := some "scripts" } ∧
      Decodes watchFile "" { watch := true } ∧
      Settings.ofArguments watchFile [("BIGRUN_SCRIPTS_DIR", "old")] folderFlag =
        .ok ⟨{ watch := true, scriptsFolder := "scripts" }, ⟨300000000000⟩, []⟩ := by
  refine ⟨folderFlag_read, watchFile_decodes, ?_⟩
  have law : LayeringLaw watchFile [("BIGRUN_SCRIPTS_DIR", "old")] folderFlag
      { scriptsFolder := some "scripts" } { watch := true } :=
    layering_law folderFlag_read watchFile_decodes
  have beneath : Settings.beneathFlags { watch := true } [("BIGRUN_SCRIPTS_DIR", "old")] =
      { watch := true, scriptsFolder := "old" } := by
    decide +kernel
  have whole : Settings.layered { watch := true } [("BIGRUN_SCRIPTS_DIR", "old")]
      { scriptsFolder := some "scripts" } = { watch := true, scriptsFolder := "scripts" } := by
    decide +kernel
  rw [law.accepted, beneath, whole]
  have minutes : Duration.read? "5m" = some ⟨300000000000⟩ := by decide +kernel
  exact ⟨watched_valid (by decide), watched_valid (by decide), rfl, .inr ⟨minutes, by decide⟩, .nil⟩

/-- Without one, the file is refused for a folder that the flag names. -/
theorem folder_named_late :
    Flags.read {} none folderFlag = .ok { scriptsFolder := some "scripts" } ∧
      Decodes watchFile "" { watch := true } ∧
      (Settings.layered { watch := true } [] { scriptsFolder := some "scripts" }).Valid ∧
      Settings.ofArguments watchFile [] folderFlag =
        .error (.refused (.badConfig "watch requires scripts_dir")) := by
  refine ⟨folderFlag_read, watchFile_decodes, ?_, ?_⟩
  · have whole : Settings.layered { watch := true } [] { scriptsFolder := some "scripts" } =
        { watch := true, scriptsFolder := "scripts" } := by
      decide +kernel
    rw [whole]
    exact watched_valid (by decide)
  · rw [watchFile_decodes.ofArguments_eq folderFlag_read]
    rfl

end Service
end BigScript
