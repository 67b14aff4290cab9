import BigScript.Statement.Basic

/-!
# Lists and maps

Statements on variables that hold lists and maps.  A variable that holds neither is left as it is.
-/

namespace BigScript
namespace Verb

/-- Changes the list in a variable; an unset variable is an empty list. -/
def updateList (name : String) (change : List Json → List Json) : Act Unit := do
  match Json.readArrayText? ((← get).getD name "[]") with
  | some items => modify (Machine.assign name (Json.write (.array (change items))))
  | none => pure ()

/-- Whether an element is the given text. -/
def isText (text : String) : Json → Bool
  | .string s => s == text
  | _ => false

/-- Takes an element out of a list. -/
def cutAt (k : Nat) (items : List Json) : List Json := items.eraseIdx k

/-- Puts an element in front of the one at an index, or at the end. -/
def insertAt (k : Nat) (item : Json) (items : List Json) : List Json :=
  items.take k ++ item :: items.drop k

/-- A list in the order of the texts of its elements. -/
def sorted (items : List Json) : List Json :=
  items.mergeSort fun a b => !(b.render < a.render)

/-- Reads an item and the variable it is meant for, with an optional word between them. -/
def itemAndTarget? (particle : Keyword) (toks : TokenStream) (i : Nat) :
    Act (Option (String × String × Nat)) := do
  let (item, last) ← Operand.value toks i
  let next := if (toks.peek (last + 1)).isWord particle then last + 2 else last + 1
  match ← Results.targetName? toks next with
  | some (name, last) => return some (item, name, last)
  | none => return none

/-- Reads a position and the variable it is meant for. -/
def positionAndTarget? (toks : TokenStream) (i : Nat) : Act (Option (String × String × Nat)) := do
  match ← Results.targetValue? toks i with
  | none => return none
  | some (position, last) =>
    match ← Results.targetName? toks (last + 1) with
    | none => return none
    | some (name, last) => return some (position, name, last)

/-- Skips the words that may stand before a position. -/
def skipPositionWords (toks : TokenStream) (i : Nat) : Nat :=
  if h : i < toks.size then
    if toks[i].isWord .atWord || toks[i].isWord .on then skipPositionWords toks (i + 1) else i
  else i
termination_by toks.size - i

/-- Binds the names in a folder. -/
def listFolder : Statement := fun toks i => do
  match ← Results.targetValue? toks (i + 2) with
  | none => Statement.abandon toks i
  | some (path, last) =>
    match (← get).files.list path with
    | .error problem =>
      Statement.raise ("List Folder Error: " ++ problem.during "open" path)
      Statement.finish toks last [Value.nothing]
    | .ok (_, names) => Statement.finish toks last names

/-- Changes a list, or lists a folder. -/
def list : Statement := fun toks i => do
  match (toks.peek (i + 1)).lexeme with
  | .word .add =>
    match ← itemAndTarget? .to toks (i + 2) with
    | some (item, name, last) =>
      updateList name (· ++ [.string item])
      return last
    | none => Statement.abandon toks i
  | .word .remove =>
    match ← itemAndTarget? .fromWord toks (i + 2) with
    | some (item, name, last) =>
      updateList name (·.filter fun element => !isText item element)
      return last
    | none => Statement.abandon toks i
  | .word .cut =>
    match ← positionAndTarget? toks (i + 2) with
    | some (position, name, last) =>
      updateList name (cutAt (Value.index position))
      return last
    | none => Statement.abandon toks i
  | .word .sort =>
    match ← Results.targetName? toks (i + 2) with
    | some (name, last) =>
      updateList name sorted
      return last
    | none => Statement.abandon toks i
  | .word .insert =>
    let (item, last) ← Operand.value toks (i + 2)
    match ← positionAndTarget? toks (skipPositionWords toks (last + 1)) with
    | some (position, name, last) =>
      updateList name (insertAt (Value.index position) (.string item))
      return last
    | none => Statement.abandon toks i
  | .word .folder => listFolder toks i
  | _ => Statement.abandon toks i

/-- The text of a map without fields. -/
def emptyMap : String := "\x7b\x7d"

/-- Changes the map in a variable; an unset variable is an empty map. -/
def updateMap (name : String) (change : List (String × Json) → List (String × Json)) : Act Unit := do
  match Json.readObjectText? ((← get).getD name emptyMap) with
  | some fields => modify (Machine.assign name (Json.write (.object (change fields))))
  | none => pure ()

/-- Reads a key and the name of the map it is looked up in, as in `"Key" of {M}`. -/
def keyOfMap? (toks : TokenStream) (i : Nat) : Act (Option (String × String × Nat)) := do
  let (key, last) ← Operand.value toks i
  if (toks.peek (last + 1)).isWord .of then
    let (name, last) := toks.bracedName (last + 2)
    return some (key, name, last)
  else return none

/-- Sets a field of a map. -/
def mapSet : Statement := fun toks i => do
  let (key, last) ← Operand.value toks (i + 2)
  if (toks.peek (last + 1)).isWord .asWord then
    let (value, last) ← Operand.value toks (last + 2)
    match ← Results.targetName? toks (last + 1) with
    | some (name, last) =>
      updateMap name (Json.putField key (.string value))
      return last
    | none => Statement.abandon toks i
  else Statement.abandon toks i

/-- Puts the fields of one map into another. -/
def mapMerge : Statement := fun toks i => do
  let (source, last) := toks.bracedName (i + 2)
  match ← Results.targetName? toks (last + 1) with
  | none => Statement.abandon toks i
  | some (name, last) =>
    match Json.readObjectText? ((← get).getD source emptyMap) with
    | some fields => updateMap name (Json.mergeFields · fields)
    | none => pure ()
    return last

/-- Reads or changes a map. -/
def map : Statement := fun toks i => do
  match (toks.peek (i + 1)).lexeme with
  | .word .set => mapSet toks i
  | .word .get =>
    match ← keyOfMap? toks (i + 2) with
    | none => Statement.abandon toks i
    | some (key, name, last) =>
      let raw := (← get).getD name emptyMap
      if (Json.readObjectText? raw).isSome then
        Statement.finish toks last [Value.fieldOrNothing raw key]
      else return last
  | .word .check =>
    match ← keyOfMap? toks (i + 2) with
    | none => Statement.abandon toks i
    | some (key, name, last) =>
      let raw := (← get).getD name emptyMap
      Statement.finish toks last [Value.ofBool (Value.field? raw key).isSome]
  | .word .remove =>
    match ← itemAndTarget? .fromWord toks (i + 2) with
    | some (key, name, last) =>
      updateMap name (Json.dropField key)
      return last
    | none => Statement.abandon toks i
  | .word .merge => mapMerge toks i
  | _ => Statement.abandon toks i

/-- Hands a map over as a JSON text: `pack {M} as json & set as {J}`. -/
def pack : Statement := fun toks i => do
  let (name, last) := toks.bracedName (i + 1)
  if (toks.peek (last + 1)).isWord .asWord && (toks.peek (last + 2)).isWord .json then
    let source := (← get).getD name emptyMap
    if Text.startsWith (Text.trim source) "\x7b" then Statement.finish toks (last + 2) [source]
    else
      Statement.raise "Pack Error: Source is not a Map"
      return toks.lineEnd (last + 2)
  else Statement.abandon toks i

/-- Checks a JSON text and binds it: `unpack X as map & set as {M}`. -/
def unpack : Statement := fun toks i => do
  let (source, last) ← Operand.text toks (i + 1)
  if (toks.peek (last + 1)).isWord .asWord && (toks.peek (last + 2)).isWord .map then
    if (Json.read? source).isSome then Statement.finish toks (last + 2) [source]
    else
      Statement.raise "Unpack Error: Invalid JSON String"
      Statement.finish toks (last + 2) [emptyMap]
  else Statement.abandon toks i

/-- Adds a signal to the end of the queue, or takes the first one from it. -/
def event : Statement := fun toks i => do
  match (toks.peek (i + 1)).lexeme with
  | .word .push =>
    let (signal, last) ← Operand.text toks (i + 2)
    modify fun m => { m with events := m.events ++ [signal] }
    return last
  | .word .pop =>
    match (← get).events with
    | [] => Statement.finish toks (i + 1) [Value.nothing]
    | signal :: rest =>
      modify fun m => { m with events := rest }
      Statement.finish toks (i + 1) [signal]
  | _ => Statement.abandon toks i

end Verb
end BigScript
