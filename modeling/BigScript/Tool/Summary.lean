import BigScript.Token.Scan

/-!
# Looking at scripts

Two views of a script that do not run it: the list of its tokens, and a summary of its structure.
-/

namespace BigScript

/-- One line of a token listing: the place, in columns of four, and the token. -/
def listToken (t : Token) : String :=
  Text.padLeft 4 ' ' (Number.digitText t.line) ++ ":" ++
    Text.padRight 4 ' ' (Number.digitText t.column) ++ " " ++ t.describe ++ "\n"

/-- The tokens of a script, one on each line. -/
def listTokens (toks : TokenStream) : String := String.join (toks.toList.map listToken)

/-- The summary of a script. -/
structure Summary where
  lines : Nat
  /-- The number of branches and alternatives. -/
  branches : Nat := 0
  loops : Nat := 0
  /-- The names behind the word that opens and closes definitions. -/
  functions : List String := []
  /-- The number of arithmetic signs. -/
  operations : Nat := 0
deriving DecidableEq, Repr

namespace Summary

/-- The number of lines of a source, empty lines at its end not counted. -/
def lineCount (source : String) : Nat :=
  if source.isEmpty then 0
  else
    let kept := Text.dropRightWhile (· == '\n') source.toList
    (Text.split "\n" (String.ofList kept)).length

/-- Whether a token is an arithmetic sign. -/
def isOperation (t : Token) : Bool :=
  [Kind.symbol .plus, .symbol .minus, .symbol .star, .symbol .slash].contains t.kind

/-- Each token with the one behind it. -/
def neighbours : List Token → List (Token × Token)
  | [] => []
  | [t] => [(t, Token.absent)]
  | t :: next :: rest => (t, next) :: neighbours (next :: rest)

/-- The summary of a source. -/
def ofSource (source : String) : Summary :=
  let toks := (scan source).toList
  let pairs := neighbours toks
  { lines := lineCount source
    branches := toks.countP fun t => t.isWord .ifWord || t.isWord .orWord
    loops := pairs.countP fun (t, next) => t.isWord .start && next.isWord .loop
    functions := pairs.filterMap fun (t, next) =>
      match next.lexeme with
      | .name name => if t.isWord .doing then some name else none
      | _ => none
    operations := toks.countP isOperation }

/-- The summary as a block of lines under the name of the script. -/
def text (summary : Summary) (name : String) : String :=
  "--- Analysis for: " ++ name ++ " ---\n" ++
  "Lines:   " ++ Number.digitText summary.lines ++ "\n" ++
  "Logic:   " ++ Number.digitText summary.branches ++ " if/or blocks\n" ++
  "Loops:   " ++ Number.digitText summary.loops ++ " loop blocks\n" ++
  "Doing:   " ++ Number.digitText summary.functions.length ++ " defined blocks: [" ++
    Text.join ", " summary.functions ++ "]\n" ++
  "Math:    " ++ Number.digitText summary.operations ++ " math operations\n" ++
  "----------------------------------\n"

end Summary
end BigScript
