import BigScript.Bytes.Encoding
import BigScript.Files.Tree
import BigScript.Service.Settings
import BigScript.Yaml.Scalar

/-!
# The configuration document

Settings are written as a YAML mapping.  Every field must be known and be written once; the problems
with values are collected, so that one reading reports all of them.
-/

namespace BigScript
namespace Service

open Yaml (Meaning)

/-- Reading values: problems with values are collected, a problem with the document ends it. -/
abbrev Decoder := StateT (List String) (Except String)

namespace Decoder

/-- Notes a problem at a line. -/
def complain (line : Nat) (message : String) : Decoder Unit :=
  modify fun found => found ++ ["line " ++ Number.digitText line ++ ": " ++ message]

/-- The start of a text as it is shown in a problem: seven bytes when there are more than ten. -/
def shown (text : String) : String :=
  if text.utf8ByteSize > 10 then
    Bytes.lossyText ((Bytes.ofText text).take 7) ++ "..."
  else text

/-- Notes that a value is of another type. -/
def mismatch (line : Nat) (tag shownText type : String) : Decoder Unit :=
  complain line ("cannot unmarshal " ++ tag ++ shownText ++ " into " ++ type)

/-- The tags whose scalars are read by their meaning. -/
def standardTags : List String := ["!!bool", "!!int", "!!float", "!!null", "!!timestamp"]

/-- What a scalar stands for, given its tag. -/
def scalarMeaning (text : String) (plain : Bool) (tag : String) : Decoder Meaning :=
  if tag == "!!str" || (tag.isEmpty && !plain) then pure (.text text)
  else if tag.isEmpty then pure (if text == "<<" then .merge else Yaml.meaning text)
  else if tag == "!!binary" then
    match Bytes.ofBase64? text with
    | some bytes => pure (.text (Bytes.lossyText bytes))
    | none => throw "!!binary value contains invalid base64 data"
  else if standardTags.contains tag then
    let meant := Yaml.meaning text
    if meant.tag == tag then pure meant
    else
      match meant, tag with
      | .whole n, "!!float" => pure (.real (Number.ofInt n))
      | meant, _ => throw ("cannot decode " ++ meant.tag ++ " \x60" ++ text ++ "\x60 as a " ++ tag)
  else pure (.text text)

/-- The node that a reference leads to. -/
def target (node : Yaml.Node) : Decoder Yaml.Node :=
  match node with
  | .alias name none _ => throw ("anchor '" ++ name ++ "' value contains itself")
  | .alias _ (some node) _ => pure node
  | node => pure node

/-- Reads a scalar into a type: `accept` gives the value for a meaning that will do.  A node that
stands for nothing gives no value, and is no problem. -/
def scalar {α : Type} (type : String) (accept : String → Meaning → Option α) (node : Yaml.Node) :
    Decoder (Option α) := do
  match ← target node with
  | .scalar text plain tag line =>
    match ← scalarMeaning text plain tag with
    | .nothing => pure none
    | meant =>
      match accept text meant with
      | some value => pure (some value)
      | none =>
        mismatch line (if tag.isEmpty then meant.tag else tag) (" \x60" ++ shown text ++ "\x60") type
        pure none
  | .sequence _ tag line =>
    mismatch line (if tag.isEmpty then "!!seq" else tag) "" type
    pure none
  | .mapping _ tag line =>
    mismatch line (if tag.isEmpty then "!!map" else tag) "" type
    pure none
  | .alias _ _ _ => pure none

/-- Reads a text: any scalar will do as it is written. -/
def text (node : Yaml.Node) : Decoder (Option String) :=
  scalar "string" (fun text _ => some text) node

/-- Reads a whole number: a number with a fraction is cut. -/
def number (node : Yaml.Node) : Decoder (Option Int) :=
  scalar "int" (fun _ meant => match meant with
    | .whole n => if n < Number.twoTo 63 then some n else none
    | .real x => if x ≤ 9223372036854775807.0 then some (Number.toInt64 x) else none
    | _ => none) node

/-- Reads a truth value, for which some further words will do. -/
def truth (node : Yaml.Node) : Decoder (Option Bool) :=
  scalar "bool" (fun _ meant => match meant with
    | .truth b => some b
    | .text word =>
      if ["y", "Y", "yes", "on"].contains word then some true
      else if ["n", "N", "no", "off"].contains word then some false
      else none
    | _ => none) node

/-- Reads the items of a sequence, leaving out those without a value. -/
def items {α : Type} (item : Yaml.Node → Decoder (Option α)) :
    List Yaml.Node → Decoder (List α)
  | [] => pure []
  | node :: rest => do
    let first ← item node
    let others ← items item rest
    return first.toList ++ others

/-- Reads a sequence.  A node that stands for nothing is an empty one. -/
def list {α : Type} (type : String) (item : Yaml.Node → Decoder (Option α)) (node : Yaml.Node) :
    Decoder (Option (List α)) := do
  match ← target node with
  | .sequence nodes _ _ => return some (← items item nodes)
  | .scalar text plain tag line =>
    match ← scalarMeaning text plain tag with
    | .nothing => return some []
    | meant =>
      mismatch line (if tag.isEmpty then meant.tag else tag) (" \x60" ++ shown text ++ "\x60") type
      return none
  | .mapping _ tag line =>
    mismatch line (if tag.isEmpty then "!!map" else tag) "" type
    return none
  | .alias _ _ _ => return none

/-- The text by which keys are told apart, with its kind. -/
def keyIdentity : Yaml.Node → Nat × String
  | .scalar text _ _ _ => (0, text)
  | .sequence _ _ _ => (1, "")
  | .mapping _ _ _ => (2, "")
  | .alias name _ _ => (3, name)

/-- The line of a node. -/
def lineOf : Yaml.Node → Nat
  | .scalar _ _ _ line => line
  | .sequence _ _ line => line
  | .mapping _ _ line => line
  | .alias _ _ line => line

/-- Notes the keys that are written again later. -/
def repeatedKeys : List Yaml.Node → List String
  | [] => []
  | key :: rest =>
    (rest.filter fun later => keyIdentity later == keyIdentity key).map (fun later =>
      "line " ++ Number.digitText (lineOf later) ++ ": mapping key " ++
        Text.quoted (keyIdentity later).2 ++ " already defined at line " ++
        Number.digitText (lineOf key)) ++ repeatedKeys rest

/-- A field of a record: how its value changes the record. -/
structure Field (α : Type) where
  name : String
  read : Yaml.Node → α → Decoder α

/-- A field with a value of its own type. -/
def Field.of {α β : Type} (name : String) (read : Yaml.Node → Decoder (Option β))
    (put : β → α → α) : Field α :=
  ⟨name, fun node record => do
    match ← read node with
    | some value => pure (put value record)
    | none => pure record⟩

/-- Whether a key stands for the fields of another mapping. -/
def isMerge : Yaml.Node → Bool
  | .scalar text plain tag _ => text == "<<" && plain && (tag.isEmpty || tag == "!!merge")
  | _ => false

/-- Reads the entries of a mapping into a record, and the mappings that are to be merged.  A field
whose name is in `done` keeps its value. -/
def fields {α : Type} (type : String) (known : List (Field α)) (merged : Bool) :
    List (Yaml.Node × Yaml.Node) → List String → α → Decoder (α × List Yaml.Node × List String)
  | [], done, record => pure (record, [], done)
  | (key, value) :: rest, done, record => do
    if isMerge key then
      let (record, others, done) ← fields type known merged rest done record
      return (record, value :: others, done)
    match ← text key with
    | none => fields type known merged rest done record
    | some name =>
      match known.find? (·.name == name) with
      | none =>
        complain (lineOf key) ("field " ++ name ++ " not found in type " ++ type)
        fields type known merged rest done record
      | some field =>
        if done.contains name then
          if !merged then
            complain (lineOf key) ("field " ++ name ++ " already set in type " ++ type)
          fields type known merged rest done record
        else
          let record ← field.read value record
          fields type known merged rest (name :: done) record

/-- Reads a record from a mapping, after which come the fields of the mappings merged into it. -/
def mappingFields {α : Type} (steps : Nat) (type : String) (known : List (Field α)) (merged : Bool)
    (done : List String) (entries : List (Yaml.Node × Yaml.Node)) (record : α) :
    Decoder (α × List String) := do
  match steps with
  | 0 => pure (record, done)
  | steps + 1 =>
    let repeated := repeatedKeys (entries.map (·.1))
    if !repeated.isEmpty then
      modify (· ++ repeated)
      return (record, done)
    let (record, others, done) ← fields type known merged entries done record
    match others.getLast? with
    | none => return (record, done)
    | some node =>
      let sources ← match ← target node with
        | .mapping entries _ _ => pure [entries]
        | .sequence nodes _ _ =>
          nodes.mapM fun node => do
            match ← target node with
            | .mapping entries _ _ => pure entries
            | _ => throw "map merge requires map or sequence of maps as the value"
        | _ => throw "map merge requires map or sequence of maps as the value"
      sources.foldlM (fun (record, done) entries =>
        mappingFields steps type known true done entries record) (record, done)

/-- Reads a record.  A node that stands for nothing leaves it as it was, without a value. -/
def record {α : Type} (type : String) (known : List (Field α)) (start : α) (node : Yaml.Node) :
    Decoder (Option α) := do
  match ← target node with
  | .mapping entries _ _ =>
    let (record, _) ← mappingFields 100 type known false [] entries start
    return some record
  | node => scalar type (fun _ _ => none) node

end Decoder

namespace Settings

open Decoder

/-- The fields of a schedule. -/
def scheduleFields : List (Decoder.Field Schedule) :=
  [.of "script" Decoder.text fun value schedule => { schedule with script := value },
   .of "every" Decoder.text fun value schedule => { schedule with every := value },
   .of "args" (list "[]string" Decoder.text) fun value schedule => { schedule with args := value }]

/-- The fields of the document. -/
def documentFields : List (Decoder.Field Settings) :=
  [.of "host" Decoder.text fun value settings => { settings with host := value },
   .of "port" number fun value settings => { settings with port := value },
   .of "scripts_dir" Decoder.text fun value settings => { settings with scriptsFolder := value },
   .of "watch" truth fun value settings => { settings with watch := value },
   .of "debug" truth fun value settings => { settings with debug := value },
   .of "heal" truth fun value settings => { settings with heal := value },
   .of "data_dir" Decoder.text fun value settings => { settings with dataFolder := value },
   .of "timeout" Decoder.text fun value settings => { settings with timeout := value },
   .of "schedules" (list "[]config.Schedule" (record "config.Schedule" scheduleFields {}))
     fun value settings => { settings with schedules := value }]

/-- The size in bytes that a document may have. -/
def largestDocument : Nat := 64 * 1024

/-- The words for collected problems. -/
def problemsText (problems : List String) : String :=
  "yaml: unmarshal errors:\n  " ++ Text.join "\n  " problems

/-- The settings with what a document says about them. -/
def inDocument (document : String) (settings : Settings) : Except Cause Settings :=
  let size := document.utf8ByteSize
  if size > largestDocument then
    .error (.badConfig ("config size " ++ Number.digitText size ++ " exceeds maximum " ++
      Number.digitText largestDocument ++ " bytes"))
  else
    let invalid (message : String) : Except Cause Settings :=
      .error (.badConfig ("invalid YAML: " ++ message))
    match Yaml.document? document with
    | .error problem => invalid problem.text
    | .ok none => .ok settings
    | .ok (some node) =>
      match (record "config.Config" documentFields settings node).run [] with
      | .error message => invalid ("yaml: " ++ message)
      | .ok (found, []) => .ok (found.getD settings)
      | .ok (_, problems) => invalid (problemsText problems)

end Settings

/-- Why settings could not be loaded. -/
inductive LoadProblem where
  | refused (cause : Cause)
  | inFile (path : String) (cause : Cause)
  | unreadable (message : String)
  | badFlag (message : String)
deriving DecidableEq, Repr

namespace LoadProblem

/-- The words for a problem. -/
def text : LoadProblem → String
  | .refused cause => Fault.text { cause }
  | .inFile path cause => "loading " ++ path ++ ": " ++ Fault.text { cause }
  | .unreadable message => "reading config: " ++ message
  | .badFlag message => message

/-- The kind of a problem: the tag of a refusal, and none for the others. -/
def tag? : LoadProblem → Option String
  | .refused cause => some cause.tag
  | _ => none

end LoadProblem

namespace Settings

/-- The file that is read when none is named. -/
def defaultFile : String := "bigrun.yaml"

/-- The settings of a document alone. -/
def read (document : String) : Except LoadProblem Plan :=
  match (inDocument document {}) >>= accept with
  | .ok plan => .ok plan
  | .error cause => .error (.refused cause)

/-- The settings of the environment alone. -/
def ofEnvironment (environment : List (String × String)) : Except LoadProblem Plan :=
  match (inEnvironment environment {}).accept with
  | .ok plan => .ok plan
  | .error cause => .error (.refused cause)

/-- The settings of a file and the environment.  Where no file is named, the default one need not be
there. -/
def load (files : FileTree) (environment : List (String × String)) (path : String) :
    Except LoadProblem Plan := do
  let name := if path.isEmpty then defaultFile else path
  let settings ← match files.read name with
    | .ok document =>
      match inDocument document {} with
      | .ok settings => pure settings
      | .error cause => throw (.inFile name cause)
    | .error problem =>
      if problem == .missing && path.isEmpty then pure {}
      else throw (.unreadable (problem.reading name))
  match (inEnvironment environment settings).accept with
  | .ok plan => return plan
  | .error cause => throw (.refused cause)

end Settings
end Service
end BigScript
