import BigScript.Service.Deploy

/-!
# Scheduled runs

Jobs that run deployed scripts at fixed intervals.
-/

namespace BigScript
namespace Service

namespace Server

/-- Notes the jobs that are set up. -/
def register (server : Server) (jobs : List Job) : Server :=
  jobs.foldl (fun server job =>
    server.note ("Scheduled script " ++ Text.quoted job.script ++ " every " ++ job.interval.text))
    server

/-- Runs the script of a job and notes how that went. -/
def runJob (server : Server) (script : String) (args : List String) : Server :=
  let named := "Scheduled run of " ++ Text.quoted script
  match server.execute script args with
  | .error refusal => server.note (named ++ " failed to start: " ++ refusal.text)
  | .ok (execution, server) =>
    server.note (named ++ " finished: " ++ execution.outcome.state ++ " (" ++ execution.id ++ ")")

end Server

/-- The names of jobs in their order. -/
def jobNames (jobs : List Job) : List String := (jobs.map (·.script)).mergeSort (· ≤ ·)

end Service
end BigScript
