import BigScript.Json.Read
import BigScript.Text.Casing

/-!
# The textbook

Pages that explain the words of the language.  The pages that come with the program can be replaced
and extended by a textbook file.
-/

namespace BigScript

/-- A page of the textbook. -/
structure TextbookPage where
  title : String := ""
  description : String := ""
  sample : String := ""
deriving DecidableEq, Repr

/-- A page with the word it explains. -/
structure TextbookEntry where
  word : String
  page : TextbookPage
deriving DecidableEq, Repr

/-- Pages by the words they explain, each word once. -/
structure Textbook where
  entries : List TextbookEntry := []
deriving DecidableEq, Repr

namespace Textbook

/-- The page of a word. -/
def page? (book : Textbook) (word : String) : Option TextbookPage :=
  (book.entries.find? (·.word == word)).map (·.page)

/-- The words that have a page. -/
def words (book : Textbook) : List String := book.entries.map (·.word)

/-- The textbook with a page put in. -/
def put (book : Textbook) (entry : TextbookEntry) : Textbook :=
  { entries := book.entries.filter (·.word != entry.word) ++ [entry] }

/-- The textbook with the pages of another one put in, under words in lower case. -/
def extend (book other : Textbook) : Textbook :=
  other.entries.foldl (fun book entry => book.put ⟨Text.lower entry.word, entry.page⟩) book

/-- Sets a field of a page from a field of a document.  Field names are read in any letter case,
and other fields are left out. -/
def setField? (page : TextbookPage) (name : String) (value : Json) : Option TextbookPage :=
  let set : (String → TextbookPage) → Option TextbookPage := fun change =>
    match value with
    | .string text => some (change text)
    | .null => some page
    | _ => none
  match Text.lower name with
  | "title" => set fun title => { page with title }
  | "description" => set fun description => { page with description }
  | "example" => set fun sample => { page with sample }
  | _ => some page

/-- The page that a document describes. -/
def pageOf? : Json → Option TextbookPage
  | .object fields => fields.foldlM (fun page (name, value) => setField? page name value) {}
  | .null => some {}
  | _ => none

/-- The textbook that a text describes: one document with a page for each word. -/
def read? (text : String) : Option Textbook := do
  let (document, rest) ← Json.readPrefix? text
  if (Json.skipBlanks rest).isEmpty then
    match document with
    | .object fields =>
      let entries ← fields.mapM fun (word, value) => (pageOf? value).map (TextbookEntry.mk word)
      return entries.foldl put {}
    | .null => return {}
    | _ => none
  else none

/-- The pages that come with the program. -/
def builtin : Textbook where
  entries :=
  [⟨"print", ⟨"print",
     "Writes values to the output. Join several values with &. 'print update' rewrites the current line.",
     "print \"Hello \" & Name"⟩⟩,
   ⟨"set", ⟨"set as",
     "Binds the result of a verb to one or more variables. 'set as list' keeps every result in one list.",
     "get len \"hello\" & set as \x7bN\x7d"⟩⟩,
   ⟨"if", ⟨"if / or",
     "Runs the indented block when the condition holds. 'or' chains further conditions and a bare 'or' is the else branch.",
     "if Score > 10\n    print \"high\"\nor\n    print \"low\""⟩⟩,
   ⟨"loop", ⟨"start loop / keep",
     "Repeats the block until 'keep' is false. 'start loop .r.N' caps the iterations and 'start loop on \x7bL\x7d as \x7bItem\x7d' walks a list or map.",
     "start loop\n    N = N + 1\nkeep N < 5"⟩⟩,
   ⟨"keep", ⟨"keep",
     "Closes a loop block. 'keep' alone loops forever, 'keep COND' loops while COND holds.",
     "keep N < 10"⟩⟩,
   ⟨"stop", ⟨"stop loop / stop run",
     "'stop loop' leaves the innermost loop and 'stop run' ends the whole script.",
     "if N = 3\n    stop loop"⟩⟩,
   ⟨"doing", ⟨"start doing / end doing",
     "Defines a function. Parameters are local; ReturnValue holds the value of the last 'return'.",
     "start doing Total(A, B)\n    return A + B\nend doing"⟩⟩,
   ⟨"run", ⟨"run",
     "Calls a function defined with 'start doing'. 'run background' starts it concurrently.",
     "run Total(2, 3) & set as \x7bSum\x7d"⟩⟩,
   ⟨"bug", ⟨"if any bug found",
     "Checks the pending bug. An unchecked bug halts the script at the next statement; BugType names it.",
     "X = 1 / 0\nif any bug found\n    print BugType"⟩⟩,
   ⟨"wait", ⟨"wait",
     "Sleeps for N seconds.",
     "wait 0.5 s"⟩⟩,
   ⟨"ask", ⟨"ask input",
     "Reads a line of input after printing an optional prompt.",
     "ask input \"Name? \" & set as \x7bName\x7d"⟩⟩,
   ⟨"get", ⟨"get",
     "The value verb: list items, counts, lengths, type checks, time, settings, markdown and luck all start with get.",
     "get count of \x7bList\x7d & set as \x7bN\x7d"⟩⟩,
   ⟨"list", ⟨"list",
     "Edits a JSON list variable: add, remove, cut, sort, insert, folder.",
     "list add \"x\" to @\x7bItems\x7d"⟩⟩,
   ⟨"map", ⟨"map",
     "Edits a JSON object variable: set, get, check, remove, merge.",
     "map set \"k\" as \"v\" @\x7bConfig\x7d"⟩⟩,
   ⟨"event", ⟨"event push / pop",
     "A first-in first-out queue shared by the script and its background runs.",
     "event push \"job\"\nevent pop & set as \x7bE\x7d"⟩⟩,
   ⟨"bignet", ⟨"get web / get post",
     "Fetches a URL or posts data to it. Network failures raise a bug and bind a BigNet Error text.",
     "get web \"https://example.com\" & set as \x7bPage\x7d"⟩⟩,
   ⟨"sql", ⟨"sql",
     "Runs SQLite statements after 'use sql'. Query results bind as a JSON list of rows.",
     "use sql\nget sql \"SELECT 1\" on \"app.db\" & set as list \x7bRows\x7d"⟩⟩,
   ⟨"dbig", ⟨"dbig",
     "A key to value store kept in a .dbig file: set, get, remove and check.",
     "dbig set \"Name\" as \"bob\" @\"people.dbig\""⟩⟩,
   ⟨"bit", ⟨"bit",
     "Hashing and ciphers: bit hash, bit checksum, bit code/decode with nebc, bit aes and bit demon.",
     "bit code \"hello\" with \"key\" nebc & set as \x7bEnc\x7d"⟩⟩,
   ⟨"pybig", ⟨"python3 start / end",
     "Runs an embedded python3 block after 'use pyBig'. Its output is printed.",
     "use pyBig\npython3 start\nprint(1 + 1)\npython3 end"⟩⟩,
   ⟨"reply", ⟨"reply",
     "Shapes the HTTP response of a script run by the service: reply with, reply point, reply note and reply file.",
     "reply with \"ok\"\nreply point 201"⟩⟩,
   ⟨"use", ⟨"use",
     "Enables a feature (sql, pyBig, sbig, web) or runs another .big file in the current scope.",
     "use \"helpers.big\""⟩⟩,
   ⟨"attach", ⟨"attach",
     "Includes env_lib/<name>.bigenv. 'attach fixer' turns on the heal pass that closes loops missing a keep.",
     "attach fixer"⟩⟩,
   ⟨"luck", ⟨"get luck",
     "Persona data and randomness: random numbers in a range, names, emails and UUIDs.",
     "get luck random 1 to 6 & set as \x7bDie\x7d"⟩⟩,
   ⟨"split", ⟨"split",
     "Splits text by a delimiter and binds the trimmed parts in order.",
     "split \"a,b,c\" by \",\" & set as \x7bA\x7d \x7bB\x7d \x7bC\x7d"⟩⟩]

end Textbook
end BigScript
