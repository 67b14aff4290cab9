import BigScript.Run
import BigScript.Text.Basic
import BigScript.Token.Keyword
import BigScript.Tool.Textbook

/-!
# The command line

What the command line does with a script file and its arguments, and the interactive session: when
an entry is complete, how words are completed, and how an entry is run.
-/

namespace BigScript

/-!
## Help

The explanation of a word from the textbook, and suggestions for words that have no page: those that
hold the letters of the word in order, the closest ones first.
-/

namespace Help

/-- Whether the first text can be had from the second by leaving out characters. -/
def isScattered : List Char → List Char → Bool
  | [], _ => true
  | _ :: _, [] => false
  | a :: as, b :: bs => if a == b then isScattered as bs else isScattered (a :: as) bs

/-- Whether a word is scattered over another one that is not shorter, in any letter case.  Lengths
are counted in bytes. -/
def fits (word target : String) : Bool :=
  (Text.lower word).utf8ByteSize ≤ (Text.lower target).utf8ByteSize &&
    isScattered (Text.lower word).toList (Text.lower target).toList

/-- The next row of the table of edit distances, given the row before it, the entry to the left and
the character of the row. -/
def nextRow (c : Char) (left : Nat) : List Char → List Nat → List Nat
  | t :: ts, diagonal :: above :: row =>
    let entry := min (min (above + 1) (left + 1)) (if c == t then diagonal else diagonal + 1)
    entry :: nextRow c entry ts (above :: row)
  | _, _ => []

/-- The rows of the table of edit distances from a row on. -/
def lastRow (target : List Char) (row : List Nat) : List Char → List Nat
  | [] => row
  | c :: cs =>
    let first := row.headD 0 + 1
    lastRow target (first :: nextRow c first target row) cs

/-- The number of characters to insert, remove or replace to get from one text to another. -/
def distance (source target : String) : Nat :=
  (lastRow target.toList (List.range (target.length + 1)) source.toList).getLastD 0

/-- The words that fit, with their distances. -/
def ranked (words : List String) (word : String) : List (Nat × String) :=
  let near := words.filter (fits word)
  let chosen := if near.isEmpty then words.filter (fits · word) else near
  chosen.map fun other => (distance word other, other)

/-- Up to three suggestions for a word. -/
def suggestions (words : List String) (word : String) : List String :=
  (((ranked words word).mergeSort fun a b => a.1 ≤ b.1).take 3).map (·.2)

/-- A text, or another one in its place where it is empty. -/
def orElse (text otherwise : String) : String := if text.isEmpty then otherwise else text

/-- The last line of an explanation. -/
def footer : String := "+----------------------------+\n"

/-- A page of the textbook as a block of lines. -/
def pageText (page : TextbookPage) : String :=
  "+--- Textbook: " ++ orElse page.title "Untitled" ++ " ---+\n" ++
  "| Description: " ++ orElse page.description "No description." ++ "\n" ++
  "| Example:     " ++ orElse page.sample "No example provided." ++ "\n" ++ footer

/-- The explanation of a word. -/
def explain (book : Textbook) (word : String) : String :=
  let sought := Text.lower word
  match book.page? sought with
  | some page => pageText page
  | none =>
    let similar := suggestions book.words sought
    "+--- BigHelp: " ++ word ++ " ---+\n" ++
    "| I don't have a textbook entry for that keyword yet.\n" ++
    (if (Keyword.ofText? sought).isSome then
      "| '" ++ sought ++ "' is a reserved keyword.\n" else "") ++
    (if similar.isEmpty then "" else "| Did you mean: " ++ Text.join ", " similar ++ "?\n") ++
    footer

end Help

/-! ## Runs and sessions -/

/-- The arguments of a script and the switches found among them. -/
structure Invocation where
  args : List String
  debug : Bool := false
  heal : Bool := false
deriving DecidableEq, Repr

namespace Invocation

/-- Takes the switches out of the arguments. -/
def ofArgs (args : List String) (debug heal : Bool) : Invocation :=
  { args := args.filter fun a => a != "--debug" && a != "--heal"
    debug := debug || args.contains "--debug"
    heal := heal || args.contains "--heal" }

/-- Runs a script file in a world.  The answer is the status of the program and the machine at the
end. -/
def run (invocation : Invocation) (world : World) (path : String) : Nat × Machine :=
  let m : Machine := Machine.start
    { toWorld := world, args := invocation.args, debug := invocation.debug,
      healing := invocation.heal }
  if Path.extension path != ".big" then
    (1, Machine.print "Big Error: I only speak .big! Please provide a valid file.\n"
      { toShared := { toWorld := world }, toThread := {} })
  else
    let m := if invocation.debug then m.note "Debug mode enabled. Tracing execution..." else m
    match m.runFile path with
    | (none, m) => (0, m)
    | (some fault, m) =>
      (1, if fault.cause.isNotFound then m.print ("Big Error: " ++ fault.message ++ "\n") else m)

end Invocation

namespace Session

/-- Whether the lines of an entry open a block that is not finished: the first one begins with a
word that opens a block, and the last one is not empty. -/
def needsMore (lines : List String) : Bool :=
  match lines with
  | [] => false
  | first :: _ =>
    let head := (scan first).peek 0
    !(Text.trim (lines.getLastD "")).isEmpty &&
      (head.isWord .ifWord || head.isWord .orWord || head.isWord .start)

/-- The ways to complete the last word of a line, in order. -/
def completions (line : String) : List String :=
  let isGap : Char → Bool := fun c => c == ' ' || c == '\t'
  let word := (line.toList.reverse.takeWhile fun c => !isGap c).reverse
  let before := String.ofList (line.toList.take (line.length - word.length))
  let start := Text.lower (String.ofList word)
  if start.isEmpty then []
  else
    (((Keyword.spellings.map (·.1)).filter fun k => Text.startsWith k start).map
      fun k => before ++ k).mergeSort (· ≤ ·)

/-- Runs an entry and makes the machine ready for the next one; an empty entry does nothing. -/
def enter (source : String) (m : Machine) : Machine :=
  if (Text.trim source).isEmpty then m else (m.runSource source).2.restart

end Session

/-- Where a textbook file is looked for. -/
def textbookPath : String := "assets/textbook.json"

/-- The pages that come with the program, with those of a textbook file put in. -/
def textbookIn (files : FileTree) : Textbook :=
  match files.read textbookPath with
  | .ok text => Textbook.builtin.extend ((Textbook.read? text).getD {})
  | .error _ => Textbook.builtin

end BigScript
