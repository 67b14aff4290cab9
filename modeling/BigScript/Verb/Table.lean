import BigScript.Statement.Basic
import BigScript.Verb.Book

/-!
# Tables and key files

`sql` runs statements on database files, and `dbig` keeps values under names in key files.
-/

namespace BigScript
namespace Verb

/-- What is printed where tables have not been switched on. -/
def tablesLocked : String :=
  "Big Error: SQL engine is locked! You must write 'use sql' at the start of your file."

/-- Reads a statement and the database file it is meant for: `"query" on "file"`. -/
def tableStatement? (toks : TokenStream) (i : Nat) : Act (Option (String × String × Nat)) := do
  if (← get).isEnabled "sql" then
    let (query, last) ← Operand.text toks (i + 1)
    if (toks.peek (last + 1)).isWord .on then
      let (file, last) ← Operand.text toks (last + 2)
      return some (query, file, last)
    else return none
  else
    Statement.printLine tablesLocked
    return none

/-- The tables of a database file; a file that is not there is made. -/
def openTables (path : String) : Act (Option Database) := do
  let files := (← get).files
  match files.content path with
  | .ok (.database db) => return some db
  | .ok (.text "") =>
    setFiles ((files.write path (.database {})).toOption.getD files)
    return some {}
  | .ok _ => return none
  | .error _ =>
    match files.write path (.database {}) with
    | .ok files =>
      setFiles files
      return some {}
    | .error _ => return none

/-- Runs a statement on a database file; a failure raises a bug that begins with `failed`. -/
def runTables (query path failed : String) : Act (Option (List String)) := do
  match ← openTables path with
  | none =>
    Statement.raise ("SQL Error: Failed to open database. unable to open database file")
    return none
  | some db =>
    match db.run? query with
    | none =>
      Statement.raise ("SQL Error: " ++ failed ++ " Failed - sqlite: prepare: near \"" ++ query ++
        "\": syntax error")
      return none
    | some (rows, db) =>
      let files := (← get).files
      setFiles ((files.write path (.database db)).toOption.getD files)
      return some rows

/-- Runs a statement and drops its rows: `run sql "query" on "file"`. -/
def sql : Statement := fun toks i => do
  match ← tableStatement? toks i with
  | none => Statement.abandon toks i
  | some (query, file, last) =>
    let _ ← runTables query file "Run"
    return last

/-- Binds the first column of the rows of a query. -/
def getSql : Statement := fun toks i => do
  match ← tableStatement? toks i with
  | none => Statement.abandon toks i
  | some (query, file, last) =>
    match ← runTables query file "Prepare" with
    | some rows => Statement.finish toks last rows
    | none => return last

/-- The ending of key files. -/
def keyFileEnding : String := ".dbig"

/-- Reads the key file a statement is meant for.  Another file is refused, with a message where the
statement is a `loud` one. -/
def keyFile? (loud : Bool) (toks : TokenStream) (i : Nat) : Act (Option (String × Nat)) := do
  match ← Results.targetValue? toks i with
  | none => return none
  | some (file, last) =>
    if Text.endsWith file keyFileEnding then return some (file, last)
    else
      if loud then Statement.printLine "Big Error: DBB only works with .dbig files!"
      return none

/-- The words for a key file that cannot be opened. -/
def keyFileProblem : String := "Dbig Error: unable to open database file: out of memory (14)"

/-- Opens a key file, which is made where it is missing; a failure raises a bug. -/
def openKeys? (path : String) : Act (Option Ledger) := do
  let files := (← get).files
  let made : Act (Option Ledger) := do
    match files.write path (.ledger {}) with
    | .ok files =>
      setFiles files
      return some {}
    | .error _ =>
      Statement.raise keyFileProblem
      return none
  match files.content path with
  | .ok (.ledger ledger) => return some ledger
  | .ok (.text "") => made
  | .ok _ =>
    Statement.raise "Dbig Error: file is not a database (26)"
    return none
  | .error _ => made

/-- Stores a changed key file. -/
def saveKeys (path : String) (ledger : Ledger) : Act Unit := do
  let files := (← get).files
  setFiles ((files.write path (.ledger ledger)).toOption.getD files)

/-- The values that are stored for a text: the elements of a list, or the text itself. -/
def storedValues (explicitList : Bool) (raw : String) : List String :=
  if explicitList || Text.startsWith raw "[" then
    match Json.readArrayText? raw with
    | some items => items.map Json.render
    | none => [raw]
  else [raw]

/-- Stores values under a name: `dbig set "Key" as V @"file.dbig"`. -/
def keySet : Statement := fun toks i => do
  let (key, last) ← Operand.text toks (i + 2)
  if (toks.peek (last + 1)).isWord .asWord then
    let explicitList := (toks.peek (last + 2)).isWord .list
    let (raw, last) ← Operand.text toks (if explicitList then last + 3 else last + 2)
    match ← keyFile? true toks (last + 1) with
    | none => Statement.abandon toks i
    | some (file, last) =>
      match ← openKeys? file with
      | some ledger => saveKeys file (ledger.set key (storedValues explicitList raw))
      | none => pure ()
      return last
  else Statement.abandon toks i

/-- Drops the values under a name. -/
def keyRemove : Statement := fun toks i => do
  let (key, last) ← Operand.text toks (i + 2)
  match ← keyFile? true toks (last + 1) with
  | none => Statement.abandon toks i
  | some (file, last) =>
    match ← openKeys? file with
    | some ledger => saveKeys file (ledger.remove key)
    | none => pure ()
    return last

/-- Binds the values under a name. -/
def keyGet : Statement := fun toks i => do
  let (key, last) ← Operand.text toks (i + 2)
  match ← keyFile? true toks (last + 1) with
  | none => Statement.abandon toks i
  | some (file, last) =>
    match ← openKeys? file with
    | some ledger => Statement.finish toks last (ledger.get key)
    | none => return last

/-- Whether a stored value satisfies a comparison with a target.  Numbers are compared as numbers;
other values only for equality. -/
def valueFits (op : Kind) (target value : String) : Bool :=
  match Number.parse? value, Number.parse? target with
  | some n, some t =>
    match op with
    | .symbol .greater => n > t
    | .symbol .less => n < t
    | .symbol .assign => (n - t).abs < 0.0001
    | _ => false
  | _, _ => op == .symbol .assign && value == target

/-- Binds the names that have a fitting value: `dbig check keys value < 10 @"file.dbig"`. -/
def keyScan : Statement := fun toks i => do
  if (toks.peek (i + 3)).isWord .value then
    let op := toks.kindAt (i + 4)
    let (target, last) ← Operand.text toks (i + 5)
    match ← keyFile? false toks (last + 1) with
    | none => Statement.abandon toks i
    | some (file, last) =>
      match ← openKeys? file with
      | some ledger => Statement.finish toks last (ledger.namesWhere (valueFits op target))
      | none => return last
  else Statement.abandon toks i

/-- Tells whether a name has a value, or has the given one. -/
def keyCheck : Statement := fun toks i => do
  if (toks.peek (i + 2)).isWord .keys then keyScan toks i
  else
    let (item, last) ← Operand.text toks (i + 2)
    let (key, sought, last) ←
      if (toks.peek (last + 1)).isWord .of then do
        let (key, last) ← Operand.text toks (last + 2)
        pure (key, some item, last)
      else pure (item, none, last)
    match ← keyFile? false toks (last + 1) with
    | none => Statement.abandon toks i
    | some (file, last) =>
      match ← openKeys? file with
      | some ledger => Statement.finish toks last [Value.ofBool (ledger.holds key sought)]
      | none => return last

/-- Reads or changes a key file. -/
def dbig : Statement := fun toks i => do
  match (toks.peek (i + 1)).lexeme with
  | .word .get => keyGet toks i
  | .word .set => keySet toks i
  | .word .remove => keyRemove toks i
  | .word .check => keyCheck toks i
  | _ => Statement.abandon toks i

end Verb
end BigScript
