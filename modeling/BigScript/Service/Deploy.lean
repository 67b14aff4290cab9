import BigScript.Service.Server
import BigScript.Token.Reserved

/-!
# Deploying scripts

Scripts come from clients or from files of a folder.  A script has a name of letters, digits, hyphens
and underscores that begins with a letter, and a source that uses no reserved name.
-/

namespace BigScript
namespace Service

/-- The ending of script files. -/
def scriptEnding : String := ".big"

/-- Whether a name will do for a script. -/
def isScriptName (name : String) : Bool :=
  match name.toList with
  | [] => false
  | c :: cs => c.isAlpha && cs.all fun c => c.isAlphanum || c == '_' || c == '-'

/-- The name of the script that a file holds, if its own name will do. -/
def scriptName? (path : String) : Option String :=
  let file := Path.base path
  if Path.extension file != scriptEnding then none
  else
    let name := Text.withoutEnding file scriptEnding
    if isScriptName name && name.utf8ByteSize ≤ 128 then some name else none

/-- What is wrong with a source, if it uses a reserved name. -/
def sourceProblem? (source : String) : Option String := (offence? (scan source)).map Text.trim

/-- What happens to a file of a watched folder. -/
inductive FileChange where
  | created
  | written
  | removed
  | renamed
  | touched
deriving DecidableEq, Repr

namespace Server

/-- Deploys the script of a file, or tells why it does not. -/
def deployFile (server : Server) (path : String) : Except String Server :=
  let file := Path.base path
  match scriptName? path with
  | none =>
    .error ("skipping " ++ Text.quoted file ++ ": not a " ++ scriptEnding ++
      " file with a valid name")
  | some name =>
    match server.files.read path with
    | .error problem =>
      .error ("reading " ++ Text.quoted path ++ ": " ++ problem.reading path)
    | .ok source =>
      match sourceProblem? source with
      | some problem => .error ("rejecting " ++ Text.quoted path ++ ": " ++ problem)
      | none =>
        let (_, created, catalog) := server.catalog.put server.now name source
        let word := if created then "Loaded" else "Reloaded"
        .ok ({ server with catalog }.note
          (word ++ " script " ++ Text.quoted name ++ " from " ++ file))

/-- Deploys files one after another, noting those that will not do, and counts the others. -/
def deployFiles (server : Server) (count : Nat) : List String → Nat × Server
  | [] => (count, server)
  | path :: rest =>
    match server.deployFile path with
    | .ok server => deployFiles (server.wait 1000) (count + 1) rest
    | .error problem => deployFiles (server.note ("Warning: " ++ problem)) count rest

/-- Deploys the scripts of a folder. -/
def loadFolder (server : Server) (folder : String) : Except String Server :=
  match server.files.list folder with
  | .error problem =>
    let operation := if problem == .notFolder then "readdirent" else "open"
    .error ("reading scripts directory: " ++ problem.during operation folder)
  | .ok (place, names) =>
    let isScriptFile (name : String) : Bool :=
      Path.extension name == scriptEnding && server.files.find? (place ++ [name]) != some .folder
    let paths := ((names.mergeSort (· ≤ ·)).filter isScriptFile).map (Path.join folder)
    let (count, server) := server.deployFiles 0 paths
    .ok (server.note ("Loaded " ++ Number.digitText count ++ " script(s) from " ++ folder))

/-- Follows a change of a file: scripts are deployed again when written and deleted when gone. -/
def follow (server : Server) (change : FileChange) (path : String) : Server :=
  match scriptName? path with
  | none => server
  | some name =>
    match change with
    | .removed => dropScript server name
    | .renamed => dropScript server name
    | .created => deployOrNote server path
    | .written => deployOrNote server path
    | .touched => server
where
  dropScript (server : Server) (name : String) : Server :=
    match server.catalog.delete name with
    | .ok catalog => { server with catalog }.note ("Removed script " ++ Text.quoted name)
    | .error _ => server
  deployOrNote (server : Server) (path : String) : Server :=
    match server.deployFile path with
    | .ok server => server
    | .error problem => server.note ("Warning: " ++ problem)

end Server
end Service
end BigScript
