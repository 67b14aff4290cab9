import BigScript.Files.Store
import BigScript.Files.Path

/-!
# File trees

The files a script works with, as a value: a finite map from places to folders and files, where a
place is the list of names that leads to it from the working folder.  Every operation either
changes the tree or names the problem that kept it from doing so.
-/

namespace BigScript

/-- What a file holds. -/
inductive Content where
  | text (content : String)
  | ledger (ledger : Ledger)
  | database (database : Database)
deriving DecidableEq, Repr

/-- What stands at a place. -/
inductive Node where
  | folder
  | file (content : Content)
deriving DecidableEq, Repr

/-- Why an operation on files failed. -/
inductive FileProblem where
  | missing
  | notFolder
  | isFolder
  | exists
  | notEmpty
  | invalid
  | busy
deriving DecidableEq, Repr

namespace FileProblem

/-- The words for a problem. -/
def text : FileProblem → String
  | .missing => "no such file or directory"
  | .notFolder => "not a directory"
  | .isFolder => "is a directory"
  | .exists => "file exists"
  | .notEmpty => "directory not empty"
  | .invalid => "invalid argument"
  | .busy => "device or resource busy"

/-- A problem met by an operation on a path. -/
def during (problem : FileProblem) (operation path : String) : String :=
  operation ++ " " ++ path ++ ": " ++ problem.text

/-- A problem met while reading a file: a folder can be opened, but not read. -/
def reading (problem : FileProblem) (path : String) : String :=
  problem.during (if problem == .isFolder then "read" else "open") path

end FileProblem

/-- The names that lead to a file from the working folder. -/
abbrev FilePlace := List String

/-- Folders and files by their places.  The working folder itself is not listed. -/
structure FileTree where
  entries : List (FilePlace × Node) := []
deriving Repr

namespace FileTree

/-- What stands at a place. -/
def find? (tree : FileTree) (place : FilePlace) : Option Node :=
  if place.isEmpty then some .folder else tree.entries.lookup place

/-- The tree with a node put at a place. -/
def put (tree : FileTree) (place : FilePlace) (node : Node) : FileTree :=
  if tree.entries.any (·.1 == place) then
    { entries := tree.entries.map fun entry => if entry.1 == place then (place, node) else entry }
  else { entries := tree.entries ++ [(place, node)] }

/-- The tree without a place and everything below it. -/
def erase (tree : FileTree) (place : FilePlace) : FileTree :=
  { entries := tree.entries.filter fun entry => !place.isPrefixOf entry.1 }

/-- The place of the enclosing folder. -/
def parent (place : FilePlace) : FilePlace := place.dropLast

/-- Follows the parts of a path from a place up to its last part, whose existence is left open. -/
def walk (tree : FileTree) (place : FilePlace) : List String → Except FileProblem FilePlace
  | [] => .ok place
  | part :: rest =>
    match tree.find? place with
    | none => .error .missing
    | some (.file _) => .error .notFolder
    | some .folder =>
      if part == "" || part == "." then walk tree place rest
      else if part == ".." then
        if place.isEmpty then .error .missing else walk tree (parent place) rest
      else walk tree (place ++ [part]) rest

/-- The place a path leads to.  The enclosing folder of its last part exists. -/
def locate (tree : FileTree) (path : String) : Except FileProblem FilePlace :=
  if path.isEmpty || Path.isAbsolute path then .error .missing
  else tree.walk [] (Path.parts path)

/-- A path without the slashes at its end. -/
def unslashed (path : String) : String :=
  String.ofList (Text.dropRightWhile (· == '/') path.toList)

/-- The folder in which the last part of a path stands, and that part. -/
def locateLast (tree : FileTree) (path : String) : Except FileProblem (FilePlace × String) := do
  if path.isEmpty || Path.isAbsolute path then .error .missing
  else
    let parts := Path.parts (unslashed path)
    let folder ← tree.walk [] (parts.dropLast ++ [""])
    return (folder, parts.getLastD "")

/-- Whether a part of a path is no name: it leads to the folder itself or to the one around it. -/
def isDots (part : String) : Bool := part == "." || part == ".."

/-- What stands at the end of a path. -/
def lookup (tree : FileTree) (path : String) : Except FileProblem (FilePlace × Node) := do
  let place ← tree.locate path
  match tree.find? place with
  | some node => .ok (place, node)
  | none => .error .missing

/-- The content of the file at the end of a path. -/
def content (tree : FileTree) (path : String) : Except FileProblem Content := do
  match (← tree.lookup path).2 with
  | .file content => .ok content
  | .folder => .error .isFolder

/-- The text of a file that holds text. -/
def Content.asText : Content → String
  | .text content => content
  | _ => ""

/-- The text of the file at the end of a path. -/
def read (tree : FileTree) (path : String) : Except FileProblem String :=
  (tree.content path).map Content.asText

/-- The place at which a file can be written: no folder stands there, and none is asked for by a
slash at the end. -/
def writable (tree : FileTree) (path : String) : Except FileProblem FilePlace := do
  let place ← tree.locate (unslashed path)
  if Text.endsWith path "/" then .error .isFolder
  else
    match tree.find? place with
    | some .folder => .error .isFolder
    | _ => .ok place

/-- Writes a file, replacing what it held. -/
def write (tree : FileTree) (path : String) (content : Content) : Except FileProblem FileTree := do
  let place ← tree.writable path
  return tree.put place (.file content)

/-- Adds text to the end of a file. -/
def append (tree : FileTree) (path text : String) : Except FileProblem FileTree := do
  let place ← tree.writable path
  let before := match tree.find? place with
    | some (.file content) => Content.asText content
    | _ => ""
  return tree.put place (.file (.text (before ++ text)))

/-- The names of what a folder holds, in order. -/
def names (tree : FileTree) (place : FilePlace) : List String :=
  ((tree.entries.filter fun entry => !entry.1.isEmpty && parent entry.1 == place).filterMap
    fun entry => entry.1.getLast?).mergeSort (· ≤ ·)

/-- The names of what the folder at the end of a path holds. -/
def list (tree : FileTree) (path : String) : Except FileProblem (FilePlace × List String) := do
  match ← tree.lookup path with
  | (place, .folder) => .ok (place, tree.names place)
  | (_, .file _) => .error .notFolder

/-- Makes the folders that lead to a place and the one at it.  A file in the way is named: one that
the path leads to is no folder, and one that the path leads through is there already. -/
def makeFolders (tree : FileTree) (place : FilePlace) : List String → Except String FileTree
  | [] => .ok tree
  | part :: rest =>
    if part == "" || part == "." then makeFolders tree place rest
    else if part == ".." then makeFolders tree (parent place) rest
    else
      let next := place ++ [part]
      match tree.find? next with
      | some .folder => makeFolders tree next rest
      | some (.file _) =>
        let path := Text.join "/" next
        if rest.isEmpty then .error (FileProblem.notFolder.during "mkdir" path)
        else .error (FileProblem.exists.during "mkdir" (path ++ "/"))
      | none => makeFolders (tree.put next .folder) next rest

/-- Makes a folder and every folder that leads to it. -/
def makeFolder (tree : FileTree) (path : String) : Except String FileTree :=
  if path.isEmpty || Path.isAbsolute path then .error (FileProblem.missing.during "mkdir" path)
  else tree.makeFolders [] (Path.parts path)

/-- Removes a file, or a folder with everything in it.  A folder cannot be removed by a path that
ends in a dot. -/
def remove (tree : FileTree) (path : String) : Except FileProblem FileTree := do
  let (place, _) ← tree.lookup path
  if place.isEmpty || (Path.parts path).getLast? == some "." then .error .invalid
  else return tree.erase place

/-- Copies a file, with the problem if there is one.  The target is emptied before the source is
read, so a file copied onto itself ends up empty, and a folder leaves an empty target behind. -/
def copy (tree : FileTree) (source target : String) : FileTree × Option String :=
  match tree.lookup source with
  | .error problem => (tree, some (problem.during "open" source))
  | .ok (place, _) =>
    match tree.writable target with
    | .error problem => (tree, some (problem.during "open" target))
    | .ok destination =>
      let emptied := tree.put destination (.file (.text ""))
      match emptied.find? place with
      | some (.file content) => (emptied.put destination (.file content), none)
      | _ => (emptied, some (FileProblem.isFolder.during "write" (target ++ ": copy_file_range")))

/-- Moves what stands at one place to another. -/
def rename (tree : FileTree) (source target : FilePlace) : FileTree :=
  let moved := (tree.entries.filter fun entry => source.isPrefixOf entry.1).map fun entry =>
    (target ++ entry.1.drop source.length, entry.2)
  let kept := (tree.erase source).erase target
  { entries := kept.entries ++ moved }

/-- Gives a file or a folder a new path.  Neither path may end in dots, and only the paths of folders
may end in a slash; a folder replaces nothing and cannot be put into itself. -/
def relocate (tree : FileTree) (source target : String) : Except FileProblem FileTree := do
  let (sourceFolder, sourceName) ← tree.locateLast source
  let (targetFolder, targetName) ← tree.locateLast target
  if isDots sourceName || isDots targetName then .error .busy
  else
    let place := sourceFolder ++ [sourceName]
    let destination := targetFolder ++ [targetName]
    let slashed := Text.endsWith source "/" || Text.endsWith target "/"
    match tree.find? place, tree.find? destination with
    | none, _ => .error .missing
    | some (.file _), there =>
      if slashed then .error .notFolder
      else if there == some .folder then .error .isFolder
      else if destination == place then .ok tree
      else .ok (tree.rename place destination)
    | some .folder, there =>
      if destination == place then .ok tree
      else if place.isPrefixOf destination then .error .invalid
      else
        match there with
        | some (.file _) => .error .notFolder
        | some .folder => .error .notEmpty
        | none => .ok (tree.rename place destination)

/-- Moves a file or a folder to a new path, at which no other folder may stand. -/
def move (tree : FileTree) (source target : String) : Except FileProblem FileTree := do
  match tree.lookup target with
  | .ok (there, .folder) =>
    let (place, _) ← tree.lookup source
    if source == target || place != there then .error .exists else tree.relocate source target
  | _ => tree.relocate source target

/-- A tree with the given files; a path that ends in a slash is an empty folder. -/
def ofFiles (files : List (String × String)) : FileTree :=
  files.foldl (fun tree (path, content) =>
    if Text.endsWith path "/" then (tree.makeFolder path).toOption.getD tree
    else
      let tree := (tree.makeFolder (Path.folder path)).toOption.getD tree
      (tree.write path (.text content)).toOption.getD tree) {}

/-- Every folder and file with its path; the path of a folder ends in a slash and holds no
text. -/
def listing (tree : FileTree) : List (String × Option String) :=
  tree.entries.map fun (place, node) =>
    let path := Text.join "/" place
    match node with
    | .folder => (path ++ "/", none)
    | .file content =>
      if Text.endsWith path ".dbig" || Text.endsWith path ".db" then (path, none)
      else (path, some (Content.asText content))

end FileTree
end BigScript
