import BigScript.Statement.Basic

/-!
# Files

Statements that read, write, create, delete, copy and move files.  What fails raises a bug that
names the problem.
-/

namespace BigScript
namespace Verb

/-- Replaces the files of a run. -/
def setFiles (files : FileTree) : Act Unit := modify fun m => { m with files }

/-- Binds the text of a file. -/
def openFile : Statement := fun toks i => do
  let (name, last) ← Operand.value toks (i + 1)
  if name.isEmpty then Statement.abandon toks i
  else
    match (← get).files.read name with
    | .ok content => Statement.finish toks last [content]
    | .error _ =>
      Statement.raise ("File Error: Could not read '" ++ name ++ "'")
      Statement.finish toks last [""]

/-- Writes a file, or adds to it. -/
def writeFile (adding : Bool) : Statement := fun toks i => do
  let (content, last) ← Operand.text toks (i + 1)
  match ← Results.targetValue? toks (last + 1) with
  | none => Statement.abandon toks i
  | some (name, last) =>
    let files := (← get).files
    match if adding then files.append name content else files.write name (.text content) with
    | .ok files => setFiles files
    | .error problem => Statement.raise ("Open Error: " ++ problem.during "open" name)
    return last

/-- Creates a folder or an empty file in a folder. -/
def create : Statement := fun toks i => do
  let kind := toks.peek (i + 1)
  if kind.isWord .folder || kind.isWord .file then
    let (name, last) ← Operand.text toks (i + 2)
    match ← Results.targetValue? toks (last + 1) with
    | none => Statement.abandon toks i
    | some (folder, last) =>
      let path := Path.join folder name
      let files := (← get).files
      if kind.isWord .folder then
        match files.makeFolder path with
        | .ok files => setFiles files
        | .error problem => Statement.raise ("Create Folder Error: " ++ problem)
      else
        match files.write path (.text "") with
        | .ok files => setFiles files
        | .error problem => Statement.raise ("Create File Error: " ++ problem.during "open" path)
      return last
  else Statement.abandon toks i

/-- Deletes a file, or a folder with everything in it. -/
def delete : Statement := fun toks i => do
  if (toks.peek (i + 1)).isWord .file then
    match ← Results.targetValue? toks (i + 2) with
    | none => Statement.abandon toks i
    | some (path, last) =>
      match (← get).files.remove path with
      | .ok files => setFiles files
      | .error problem => Statement.raise ("Delete Error: " ++ problem.during "remove" path)
      return last
  else Statement.abandon toks i

/-- Reads the two paths of a copy or a move. -/
def sourceAndTarget? (toks : TokenStream) (i : Nat) : Act (Option (String × String × Nat)) := do
  if (toks.peek i).isWord .file then
    match ← Results.targetValue? toks (i + 1) with
    | none => return none
    | some (source, last) =>
      if (toks.peek (last + 1)).isWord .to then
        match ← Results.targetValue? toks (last + 2) with
        | none => return none
        | some (target, last) => return some (source, target, last)
      else return none
  else return none

/-- Copies a file. -/
def copyFile : Statement := fun toks i => do
  match ← sourceAndTarget? toks (i + 1) with
  | none => Statement.abandon toks i
  | some (source, target, last) =>
    let (files, problem) := (← get).files.copy source target
    setFiles files
    match problem with
    | some problem => Statement.raise ("Copy Error: " ++ problem)
    | none => pure ()
    return last

/-- Moves a file or a folder. -/
def moveFile : Statement := fun toks i => do
  match ← sourceAndTarget? toks (i + 1) with
  | none => Statement.abandon toks i
  | some (source, target, last) =>
    match (← get).files.move source target with
    | .ok files => setFiles files
    | .error problem =>
      Statement.raise ("Move Error: " ++ problem.during "rename" (source ++ " " ++ target))
    return last

end Verb
end BigScript
