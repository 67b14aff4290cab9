import BigScript.Pattern.Read
import BigScript.Statement.Basic
import BigScript.Verb.Book

/-!
# Texts

Statements that split texts, replace in them and look for patterns.
-/

namespace BigScript
namespace Verb

/-- The trimmed parts of a text; without a separator there is one. -/
def trimmedParts (separator source : String) : List String :=
  if separator.isEmpty then [Text.trim source] else (Text.split separator source).map Text.trim

/-- Splits a value: `split X by D & set as {A} {B}`. -/
def split : Statement := fun toks i => do
  let (source, last) ← Operand.value toks (i + 1)
  if (toks.peek (last + 1)).isWord .byWord then
    let (separator, last) ← Operand.value toks (last + 2)
    Statement.finish toks last (trimmedParts separator source)
  else Statement.abandon toks i

/-- Replaces in a file. -/
def replaceInFile (old new path : String) : Act Unit := do
  let files := (← get).files
  match files.read path with
  | .error _ => Statement.raise "File Error: Could not read file for replace"
  | .ok content =>
    match files.write path (.text (Text.replaceAll old new content)) with
    | .ok files => setFiles files
    | .error problem => Statement.raise ("File Error: " ++ problem.during "open" path)

/-- Replaces in a variable or in a file: `replace A with B @{Var}`. -/
def replace : Statement := fun toks i => do
  let (old, last) ← Operand.text toks (i + 1)
  if (toks.peek (last + 1)).isWord .withWord then
    let (new, last) ← Operand.text toks (last + 2)
    let target := toks.peek (last + 2)
    match ← Results.targetName? toks (last + 1) with
    | none => Statement.abandon toks i
    | some (name, last) =>
      if target.isSymbol .leftBrace then
        modify fun m => m.assign name (Text.replaceAll old new (m.getD name ""))
      else
        match target.lexeme with
        | .text s => replaceInFile old new ((← get).interpolate s)
        | _ => replaceInFile old new name
      return last
  else Statement.abandon toks i

/-- Tells whether a pattern is found in a text: `bmath "text" @"pattern"`. -/
def findPattern : Statement := fun toks i => do
  let (subject, last) ← Operand.value toks (i + 1)
  match ← Results.targetValue? toks (last + 1) with
  | none => Statement.abandon toks i
  | some (pattern, last) =>
    Statement.finish toks last [Value.ofBool (Pattern.matchesText pattern subject)]

/-- What is printed where embedded programs have not been switched on. -/
def foreignLocked : String := "Big Error: pyBig is locked! Use 'use pyBig' first."

/-- Runs an embedded program.  There is nothing here to run it with, so that it raises a bug. -/
def foreign : Statement := fun _ i => do
  if (← get).isEnabled "pybig" then Statement.raise "PyBig Error: python3 was not found"
  else Statement.printLine foreignLocked
  return i

end Verb
end BigScript
