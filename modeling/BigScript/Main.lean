import BigScript.Tool.Command

/-!
# The program

The files below the working folder are read, the command is carried out on them, and what it changed
and wrote is put in place.  The clock of a script counts from the start of the system.  Of a program
that has died there is only the complaint.
-/

namespace BigScript
namespace Outer

/-- Reads the texts in a folder and in the folders within it, down to a depth. -/
def readFolder (depth : Nat) (folder at' : String) : IO (List (String × String)) := do
  match depth with
  | 0 => return []
  | depth + 1 =>
    let mut found := []
    for entry in ← (← IO.FS.realPath folder).readDir do
      let name := at' ++ entry.fileName
      if ← entry.path.isDir then
        found := found ++ (name ++ "/", "") :: (← readFolder depth entry.path.toString (name ++ "/"))
      else
        let bytes ← IO.FS.readBinFile entry.path
        if let some text := String.fromUTF8? bytes then
          found := found ++ [(name, text)]
    return found

/-- Puts the texts in place that a command has changed. -/
def writeChanges (before after : FileTree) : IO Unit := do
  for (path, content) in after.listing do
    if Text.endsWith path "/" then IO.FS.createDirAll path
    else if let some text := content then
      if before.read path |>.toOption |>.all (· != text) then IO.FS.writeFile path text
  for (path, content) in before.listing do
    if content.isSome && !(after.read path).isOk then IO.FS.removeFile path

end Outer
end BigScript

open BigScript in
/-- Carries out the command that the arguments ask for. -/
def main (args : List String) : IO UInt32 := do
  let found ← Outer.readFolder 8 "." ""
  let files := FileTree.ofFiles found
  let input ← (← IO.getStdin).readToEnd
  let now ← IO.monoNanosNow
  let world : World :=
    { files, input := input.toList, luck := now.toUInt64, calendar := now / 1000000000 }
  let (status, world) := (Command.ofArgs args).carryOut world
  if world.crashed then
    IO.eprintln "panic: invalid argument to IntN"
    return 2
  IO.eprint world.log
  IO.print world.output
  Outer.writeChanges files world.files
  return status.toUInt32
