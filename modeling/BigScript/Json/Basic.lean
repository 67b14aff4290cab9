import BigScript.Text.Quoted

/-!
# JSON documents

Lists and maps are kept as JSON texts.  A document keeps each number as it was written.  A document
in order has the fields of each object in the order of their names, each name once.
-/

namespace BigScript

/-- A JSON document. -/
inductive Json where
  | null
  | bool (value : Bool)
  | number (written : String)
  | string (value : String)
  | array (items : List Json)
  | object (fields : List (String × Json))
deriving Repr, Inhabited

namespace Json

/-- Puts a field among fields ordered by name; a field of the same name is replaced. -/
def putField (name : String) (value : Json) : List (String × Json) → List (String × Json)
  | [] => [(name, value)]
  | (other, v) :: rest =>
    if name == other then (name, value) :: rest
    else if name < other then (name, value) :: (other, v) :: rest
    else (other, v) :: putField name value rest

/-- The value of a field. -/
def field? (name : String) (fields : List (String × Json)) : Option Json := fields.lookup name

/-- The fields without the one of the given name. -/
def dropField (name : String) (fields : List (String × Json)) : List (String × Json) :=
  fields.filter (·.1 != name)

/-- The fields with those of `others` put among them. -/
def mergeFields (fields others : List (String × Json)) : List (String × Json) :=
  others.foldl (fun all (name, value) => putField name value all) fields

mutual
/-- A document in order: the fields of every object by their names, the last of each name. -/
def ordered : Json → Json
  | .array items => .array (orderedItems items)
  | .object fields => .object (orderedFields [] fields)
  | document => document

/-- The items of an array in order. -/
def orderedItems : List Json → List Json
  | [] => []
  | item :: rest => ordered item :: orderedItems rest

/-- Fields put one after another among those that are in order already. -/
def orderedFields (fields : List (String × Json)) : List (String × Json) → List (String × Json)
  | [] => fields
  | (name, value) :: rest => orderedFields (putField name (ordered value) fields) rest
end

end Json

/-!
## Writing JSON

A document is written without blanks.  Quotes, backslashes and control characters are escaped, and
so are the two separators that end lines in other languages; every other character stands for
itself.
-/

namespace Json

/-- The written form of one character of a string. -/
def writeChar (c : Char) : String :=
  match c with
  | '"' => "\\\""
  | '\\' => "\\\\"
  | '\x08' => "\\b"
  | '\x0c' => "\\f"
  | '\n' => "\\n"
  | '\r' => "\\r"
  | '\t' => "\\t"
  | c =>
    if c.toNat < 32 || c.toNat == 0x2028 || c.toNat == 0x2029 then
      "\\u" ++ Text.hexDigits 4 c.toNat
    else String.singleton c

/-- The written form of a string. -/
def writeString (s : String) : String :=
  (s.toList.foldl (fun text c => text ++ writeChar c) "\"") ++ "\""

mutual
/-- The text of a document. -/
def write : Json → String
  | .null => "null"
  | .bool value => if value then "true" else "false"
  | .number written => written
  | .string value => writeString value
  | .array items => "[" ++ Text.join "," (writeItems items) ++ "]"
  | .object fields => "\x7b" ++ Text.join "," (writeFields fields) ++ "\x7d"

/-- The texts of the items of an array. -/
def writeItems : List Json → List String
  | [] => []
  | item :: rest => write item :: writeItems rest

/-- The texts of the fields of an object. -/
def writeFields : List (String × Json) → List String
  | [] => []
  | (name, value) :: rest => (writeString name ++ ":" ++ write value) :: writeFields rest
end

/-- A document as the value of a script: strings raw, everything else as written. -/
def render : Json → String
  | .string value => value
  | document => write document

/-- The text of an array of strings. -/
def writeStrings (items : List String) : String := write (.array (items.map .string))

end Json

end BigScript
