import BigScript.Tool.Shell
import BigScript.Tool.Summary

/-!
# Commands

What the program is asked to do on the command line, and what it answers given the files that it
finds.
-/

namespace BigScript

/-- A command. -/
inductive Command where
  | run (path : String) (invocation : Invocation)
  | tokens (path : String)
  | show (path : String)
  | whatis (word : String)
  | help
deriving DecidableEq, Repr

namespace Command

/-- The command that arguments ask for.  Switches before the script count as those after it. -/
def ofArgs (args : List String) : Command :=
  match args with
  | [] => .help
  | ["tokens", path] => .tokens path
  | ["show", path] => .show path
  | ["whatis", word] => .whatis word
  | "run" :: rest =>
    let switches := rest.takeWhile fun a => a == "--debug" || a == "--heal"
    match rest.drop switches.length with
    | path :: rest => .run path (.ofArgs (switches ++ rest) false false)
    | [] => .help
  | path :: rest => .run path (.ofArgs rest false false)

/-- How the program is used. -/
def usage : String :=
  "bigrun runs .big scripts, explains their keywords and serves them over HTTP.\n\n" ++
  "Usage:\n  bigrun [file.big] [args...]\n\n" ++
  "Available Commands:\n" ++
  "  run     Run a script\n" ++
  "  show    Summarize the structure of a script\n" ++
  "  tokens  Print the token stream of a script\n" ++
  "  whatis  Explain a keyword\n"

/-- A world in which a text has been written and nothing else has happened. -/
def writing (world : World) (text : String) : World := { world with output := world.output ++ text }

/-- Carries out a command.  The answer is the status of the program and the world afterwards. -/
def carryOut (command : Command) (world : World) : Nat × World :=
  match command with
  | .run path invocation =>
    let (status, machine) := invocation.run world path
    (status, machine.toWorld)
  | .tokens path =>
    match world.files.read path with
    | .ok source => (0, writing world (listTokens (scan source)))
    | .error problem =>
      (1, writing world ("Error: reading script: " ++ problem.reading path ++ "\n"))
  | .show path =>
    match world.files.read path with
    | .ok source => (0, writing world ((Summary.ofSource source).text path))
    | .error _ => (0, writing world ("Big Error: Could not open '" ++ path ++ "'\n"))
  | .whatis word => (0, writing world (Help.explain (textbookIn world.files) word))
  | .help => (0, writing world usage)

end Command
end BigScript
