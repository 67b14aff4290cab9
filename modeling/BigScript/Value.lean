import BigScript.Json.Read
import BigScript.Number.Decimal
import BigScript.Number.Read

/-!
# Script values

The value of a variable is always a text.  Lists and maps are the texts of JSON arrays and objects;
the functions here read and change such texts.  A loop reads a list more leniently than the list
statements do: it splits at every comma.
-/

namespace BigScript
namespace Value

/-- The value of an absent result. -/
def nothing : String := "nothing"

/-- The text of a truth value. -/
def ofBool (b : Bool) : String := if b then "true" else "false"

/-- Whether a text is read as true: it is neither empty nor zero nor a word for false or
nothing. -/
def isTruthy (s : String) : Bool :=
  !(["", "0", "false", nothing].contains (Text.lower (Text.trim s)))

/-- The items of a bracketed text, split at every comma, without blanks and quotes around them.  A
text without brackets has no items. -/
def looseItems (raw : String) : List String :=
  let trimmed := Text.trim raw
  if Text.startsWith trimmed "[" && Text.endsWith trimmed "]" && 2 ≤ trimmed.length then
    let inner := Text.trim (String.ofList ((trimmed.toList.drop 1).dropLast))
    if inner.isEmpty then []
    else (Text.split "," inner).map fun part => Text.trimWhere (· == '"') (Text.trim part)
  else []

/-- The names of the fields of a map text, in order. -/
def mapKeys (raw : String) : List String :=
  match Json.readObjectText? raw with
  | some fields => fields.map (·.1)
  | none => []

/-- The value of a field of a map text. -/
def field? (raw name : String) : Option String := do
  let fields ← Json.readObjectText? raw
  let value ← Json.field? name fields
  return value.render

/-- The value of a field of a map text, or nothing. -/
def fieldOrNothing (raw name : String) : String := (field? raw name).getD nothing

/-- A map text with a field set to a string, if the text is a map. -/
def withField? (raw name value : String) : Option String := do
  let fields ← Json.readObjectText? raw
  return Json.write (.object (Json.putField name (.string value) fields))

/-- The index a 1-based position text stands for; positions below one count as the first. -/
def index (position : String) : Nat :=
  (Number.toInt64 (Number.parseOrZero position) - 1).toNat

/-- The element of a list text at a position, or nothing past its end; `none` if the text is no
list. -/
def listItem? (raw position : String) : Option String := do
  let items ← Json.readArrayText? raw
  return ((items[index position]?).map Json.render).getD nothing

/-- The number of elements of a list text, zero if the text is no list. -/
def listLength (raw : String) : Nat := ((Json.readArrayText? raw).getD []).length

end Value
end BigScript
