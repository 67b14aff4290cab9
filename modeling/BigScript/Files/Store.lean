import BigScript.Text.Basic
import BigScript.Number.Read

/-!
# Stores in files

A ledger is the store behind a key file: rows in the order in which they were written, each a value
kept under a name at a position.  Setting a name drops its former rows and writes one row for each
new value.

A small relational store serves the table statements: tables are created with named columns, rows are
inserted, and a query selects columns of the rows of one table, optionally in the order of a
column.  Statements outside this part of the language are refused.
-/

namespace BigScript

/-! ## Ledgers -/

/-- One value kept under a name. -/
structure LedgerRow where
  name : String
  position : Nat
  value : String
deriving DecidableEq, Repr

/-- Rows in the order in which they were written. -/
structure Ledger where
  rows : List LedgerRow := []
deriving DecidableEq, Repr

namespace Ledger

/-- The values kept under a name, in the order of their positions. -/
def get (ledger : Ledger) (name : String) : List String :=
  ((ledger.rows.filter (·.name == name)).mergeSort fun a b => a.position ≤ b.position).map (·.value)

/-- The ledger without the rows of a name. -/
def remove (ledger : Ledger) (name : String) : Ledger :=
  { rows := ledger.rows.filter (·.name != name) }

/-- The rows that keep values under a name. -/
def rowsFor (name : String) (values : List String) : List LedgerRow :=
  values.mapIdx fun position value => ⟨name, position, value⟩

/-- The ledger with a name set to the given values. -/
def set (ledger : Ledger) (name : String) (values : List String) : Ledger :=
  { rows := (ledger.remove name).rows ++ rowsFor name values }

/-- Whether a name has a value, or has the given one. -/
def holds (ledger : Ledger) (name : String) (value : Option String) : Bool :=
  ledger.rows.any fun row => row.name == name && (value.all (· == row.value))

/-- The names that have a value satisfying `p`, each once, in the order of their first such row. -/
def namesWhere (ledger : Ledger) (p : String → Bool) : List String :=
  ((ledger.rows.filter fun row => p row.value).map (·.name)).eraseDups

end Ledger

/-! ## Relations -/

/-- A table: its columns and its rows. -/
structure Relation where
  name : String
  columns : List String
  rows : List (List String) := []
deriving DecidableEq, Repr

/-- The tables of a database file. -/
structure Database where
  relations : List Relation := []
deriving DecidableEq, Repr

namespace Database

/-- The units of a statement: words, quoted texts and single punctuation characters. -/
inductive Unit where
  | word (text : String)
  | quoted (text : String)
  | punct (char : Char)
deriving DecidableEq, Repr

/-- Characters of words and numbers. -/
def isWordChar (c : Char) : Bool := c.isAlphanum || c == '_' || c == '.' || c.toNat > 127

/-- Reads a quoted text after its opening quote, a doubled quote standing for one. -/
def readQuoted (read : List Char) : List Char → Option (List Char × List Char)
  | [] => none
  | '\x27' :: '\x27' :: cs => readQuoted ('\x27' :: read) cs
  | '\x27' :: cs => some (read.reverse, cs)
  | c :: cs => readQuoted (c :: read) cs

/-- The units of a statement; the first argument bounds the number of steps. -/
def units : Nat → List Char → Option (List Unit)
  | 0, _ => none
  | _, [] => some []
  | steps + 1, c :: cs =>
    if Text.isSpace c then units steps cs
    else if c == '\x27' then
      match readQuoted [] cs with
      | some (text, rest) => (units steps rest).map (Unit.quoted (String.ofList text) :: ·)
      | none => none
    else if isWordChar c then
      let word := (c :: cs).takeWhile isWordChar
      (units steps ((c :: cs).drop word.length)).map (Unit.word (String.ofList word) :: ·)
    else (units steps cs).map (Unit.punct c :: ·)

/-- A unit as a word in lower case. -/
def keyOf : Unit → String
  | .word text => Text.lower text
  | .quoted _ => ""
  | .punct c => String.singleton c

/-- Splits units at commas outside parentheses. -/
def splitCommas (depth : Nat) (part : List Unit) : List Unit → List (List Unit)
  | [] => [part.reverse]
  | .punct ',' :: rest =>
    if depth = 0 then part.reverse :: splitCommas 0 [] rest
    else splitCommas depth (.punct ',' :: part) rest
  | .punct '(' :: rest => splitCommas (depth + 1) (.punct '(' :: part) rest
  | .punct ')' :: rest => splitCommas (depth - 1) (.punct ')' :: part) rest
  | u :: rest => splitCommas depth (u :: part) rest

/-- The content of a parenthesised list of units. -/
def inParens (part : List Unit) : Option (List Unit) :=
  match part with
  | .punct '(' :: rest => if rest.getLast? == some (.punct ')') then some rest.dropLast else none
  | _ => none

/-- The value of a literal. -/
def literal? : List Unit → Option String
  | [.quoted text] => some text
  | [.word text] => if (Number.parse? text).isSome then some text else none
  | [.punct '-', .word text] => if (Number.parse? text).isSome then some ("-" ++ text) else none
  | _ => none

/-- The table of a name, in any letter case. -/
def find? (db : Database) (name : String) : Option Relation :=
  db.relations.find? fun r => Text.lower r.name == Text.lower name

/-- The database with one table replaced. -/
def put (db : Database) (relation : Relation) : Database :=
  { relations := db.relations.map fun r => if r.name == relation.name then relation else r }

/-- The values of one row of an insertion. -/
def rowValues? (relation : Relation) (part : List Unit) : Option (List String) := do
  let inner ← inParens part
  let values ← (splitCommas 0 [] inner).mapM literal?
  if values.length = relation.columns.length then some values else none

/-- The index of a column, in any letter case. -/
def columnIndex? (relation : Relation) (name : String) : Option Nat :=
  relation.columns.findIdx? fun column => Text.lower column == Text.lower name

/-- The rows of a table in the order of a column. -/
def ordered (relation : Relation) (column : Nat) (descending : Bool) : List (List String) :=
  relation.rows.mergeSort fun a b =>
    let x := a.getD column ""
    let y := b.getD column ""
    if descending then y ≤ x else x ≤ y

/-- What the tail of a query selects: the rows of the table, in the order it asks for. -/
def queryRows? (relation : Relation) : List Unit → Option (List (List String))
  | [] => some relation.rows
  | [o, b, .word column] =>
    if keyOf o == "order" && keyOf b == "by" then
      (columnIndex? relation column).map (ordered relation · false)
    else none
  | [o, b, .word column, d] =>
    if keyOf o == "order" && keyOf b == "by" && (keyOf d == "desc" || keyOf d == "asc") then
      (columnIndex? relation column).map (ordered relation · (keyOf d == "desc"))
    else none
  | _ => none

/-- Drops a semicolon at the end. -/
def withoutSemicolon (us : List Unit) : List Unit :=
  if us.getLast? == some (.punct ';') then us.dropLast else us

/-- Runs a statement: the first column of its rows and the changed database, or `none` where the
statement is refused. -/
def run? (db : Database) (statement : String) : Option (List String × Database) := do
  let all ← units (statement.length + 1) statement.toList
  match withoutSemicolon all with
  | [] => some ([], db)
  | c :: t :: .word name :: rest =>
    if keyOf c == "create" && keyOf t == "table" then do
      let inner ← inParens rest
      let columns ← (splitCommas 0 [] inner).mapM fun part =>
        match part with
        | .word column :: _ => some column
        | _ => none
      if (db.find? name).isSome then none
      else some ([], { relations := db.relations ++ [{ name, columns }] })
    else if keyOf c == "insert" && keyOf t == "into" then do
      let relation ← db.find? name
      match rest with
      | v :: tuples =>
        if keyOf v == "values" then do
          let rows ← (splitCommas 0 [] tuples).mapM (rowValues? relation)
          some ([], db.put { relation with rows := relation.rows ++ rows })
        else none
      | [] => none
    else if keyOf c == "delete" && keyOf t == "from" && rest.isEmpty then do
      let relation ← db.find? name
      some ([], db.put { relation with rows := [] })
    else if keyOf c == "select" && keyOf t != "" then
      match t :: .word name :: rest with
      | column :: f :: .word table :: tail =>
        if keyOf f == "from" then do
          let relation ← db.find? table
          let index ← if keyOf column == "*" then some 0 else columnIndex? relation (keyOf column)
          let rows ← queryRows? relation tail
          some (rows.map (·.getD index ""), db)
        else none
      | _ => none
    else none
  | [s, value] =>
    if keyOf s == "select" then (literal? [value]).map fun text => ([text], db) else none
  | _ => none

end Database
end BigScript
