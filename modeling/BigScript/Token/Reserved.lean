import BigScript.Token.Basic

/-!
# Reserved names

Some names belong to the language and cannot be used for variables.  A script that uses one is
refused before it runs, with a report of the first offence.
-/

namespace BigScript

/-- A name that scripts must not use, with three names to use in its place. -/
structure ReservedName where
  name : String
  first : String
  second : String
  third : String

namespace ReservedName

/-- All reserved names. -/
def all : List ReservedName := [⟨"Val", "Value", "Num", "MyVal"⟩]

/-- The reserved name that a token uses. -/
def usedBy? (t : Token) : Option ReservedName :=
  if t.kind == .name then all.find? (·.name == t.content) else none

/-- The report of a reserved name used on a line. -/
def report (reserved : ReservedName) (line : Nat) : String :=
  "Big Error: '" ++ reserved.name ++ "' is a reserved internal keyword!\n" ++
  "  > Line " ++ Number.digitText line ++ ": Do not use '" ++ reserved.name ++
    "' as a variable name.\n" ++
  "  > Fix: Rename it to '" ++ reserved.first ++ "', '" ++ reserved.second ++ "', or '" ++
    reserved.third ++ "'.\n"

end ReservedName

/-- The report of the first reserved name among the tokens, or `none` when the script may run. -/
def offence? (toks : TokenStream) : Option String :=
  toks.toList.findSome? fun t => (ReservedName.usedBy? t).map fun r => r.report t.line

end BigScript
