import BigScript.Fault
import BigScript.Number.Read
import BigScript.Text.Quoted
import BigScript.Time.Calendar

/-!
# Settings of the service

What the service is told by its configuration document, by the environment and by its flags, and the
conditions under which it accepts them.
-/

namespace BigScript
namespace Service

/-- A script that is run again and again. -/
structure Schedule where
  script : String := ""
  every : String := ""
  args : List String := []
deriving DecidableEq, Repr

/-- The settings, with durations as they are written. -/
structure Settings where
  host : String := "0.0.0.0"
  port : Int := 8787
  scriptsFolder : String := ""
  watch : Bool := false
  debug : Bool := false
  heal : Bool := false
  /-- The folder that scripts find in the variable `Dir`. -/
  dataFolder : String := ""
  /-- The longest time that a run may take; zero or nothing is no limit. -/
  timeout : String := "5m"
  schedules : List Schedule := []
deriving DecidableEq, Repr

/-- A schedule with its interval. -/
structure Job extends Schedule where
  interval : Duration
deriving DecidableEq, Repr

/-- Settings that have been accepted, with the durations they give. -/
structure Plan where
  settings : Settings
  limit : Duration
  jobs : List Job
deriving DecidableEq, Repr

namespace Settings

/-- The address on which the service listens. -/
def address (settings : Settings) : String :=
  settings.host ++ ":" ++ Number.intText settings.port

/-- The longest time that a run may take. -/
def limit (settings : Settings) : Except Cause Duration :=
  if settings.timeout.isEmpty || settings.timeout == "0" then .ok ⟨0⟩
  else
    match Duration.read? settings.timeout with
    | some limit =>
      if limit.nanoseconds < 0 then
        .error (.badConfig ("invalid timeout " ++ Text.quoted settings.timeout))
      else .ok limit
    | none => .error (.badConfig ("invalid timeout " ++ Text.quoted settings.timeout))

end Settings

namespace Schedule

/-- A schedule with its interval, which is a second at least. -/
def job (index : Nat) (schedule : Schedule) : Except Cause Job :=
  let named := "schedule " ++ Text.quoted schedule.script ++ ": "
  if schedule.script.isEmpty then
    .error (.badConfig ("schedule " ++ Number.digitText index ++ ": script is required"))
  else
    match Duration.read? schedule.every with
    | none => .error (.badConfig (named ++ "invalid interval " ++ Text.quoted schedule.every))
    | some interval =>
      if interval.nanoseconds < Duration.second.nanoseconds then
        .error (.badConfig (named ++ "interval " ++ interval.text ++ " is shorter than 1s"))
      else .ok { schedule with interval }

/-- The jobs of a list of schedules, numbered from an index. -/
def jobs (index : Nat) : List Schedule → Except Cause (List Job)
  | [] => .ok []
  | schedule :: rest => do
    let first ← schedule.job index
    let others ← jobs (index + 1) rest
    return first :: others

end Schedule

namespace Settings

/-- Accepts settings, or names the first of them that will not do. -/
def accept (settings : Settings) : Except Cause Plan := do
  if settings.port < 1 || 65535 < settings.port then
    throw (.badConfig ("port " ++ Number.intText settings.port ++ " out of range"))
  if settings.watch && settings.scriptsFolder.isEmpty then
    throw (.badConfig "watch requires scripts_dir")
  let limit ← settings.limit
  let jobs ← Schedule.jobs 0 settings.schedules
  return { settings, limit, jobs }

/-- The truth values as they are written. -/
def truth? (text : String) : Option Bool :=
  if ["1", "t", "T", "TRUE", "true", "True"].contains text then some true
  else if ["0", "f", "F", "FALSE", "false", "False"].contains text then some false
  else none

/-- The settings with what the environment says about them. -/
def inEnvironment (environment : List (String × String)) (settings : Settings) : Settings :=
  let text (name fallback : String) : String :=
    match environment.lookup name with
    | some found => if found.isEmpty then fallback else found
    | none => fallback
  { settings with
    host := text "HOST" settings.host
    port := (Number.parseInt? (text "PORT" "")).getD settings.port
    scriptsFolder := text "BIGRUN_SCRIPTS_DIR" settings.scriptsFolder
    dataFolder := text "BIGRUN_DATA_DIR" settings.dataFolder
    timeout := text "BIGRUN_TIMEOUT" settings.timeout
    debug := (truth? (text "BIGRUN_DEBUG" "")).getD settings.debug }

end Settings
end Service
end BigScript
