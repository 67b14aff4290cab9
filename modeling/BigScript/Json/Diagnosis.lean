import BigScript.Bytes.Encoding
import BigScript.Json.Read
import BigScript.Text.Quoted

/-!
# What is wrong with a document

A reader of JSON that keeps no values: it walks through a text one character at a time and tells the
first character that cannot stand where it stands, or that the text ends too early.
-/

namespace BigScript
namespace Json
namespace Diagnosis

/-- The collections that are open around a place, and for an object the part that is read. -/
inductive Level where
  | key
  | field
  | item
deriving DecidableEq, Repr

/-- What is expected at a place. -/
inductive Place where
  | value
  | itemOrEnd
  | name
  | nameOrEnd
  | afterValue
  | inString
  | inEscape
  | inCode (left : Nat)
  | afterMinus
  | afterZero
  | inWhole
  | afterPoint
  | inFraction
  | afterExponentMark
  | afterExponentSign
  | inExponent
  | inWord (word : String) (rest : List Char)
deriving DecidableEq, Repr

/-- A place with the collections around it. -/
structure State where
  place : Place := .value
  levels : List Level := []

/-- A character as it is shown: only its first byte is looked at. -/
def shown (c : Char) : String :=
  let byte := ((Bytes.ofText (String.singleton c)).head?.map (·.toNat)).getD 0
  let c := Char.ofNat byte
  if c == '\'' then "'\\''"
  else if c == '"' then "'\"'"
  else "'" ++ Text.Quoted.char c ++ "'"

/-- The problem of a character. -/
def unexpected {α : Type} (c : Char) (context : String) : Except String α :=
  .error ("invalid character " ++ shown c ++ " " ++ context)

/-- The problem of a text that ends too early. -/
def early : String := "unexpected end of JSON input"

/-- The words of the language. -/
def words : List (Char × String) := [('t', "true"), ('f', "false"), ('n', "null")]

/-- Begins a value. -/
def beginValue (state : State) (c : Char) : Except String State :=
  if c == '\x7b' then .ok ⟨.nameOrEnd, .key :: state.levels⟩
  else if c == '[' then .ok ⟨.itemOrEnd, .item :: state.levels⟩
  else if c == '"' then .ok { state with place := .inString }
  else if c == '-' then .ok { state with place := .afterMinus }
  else if c == '0' then .ok { state with place := .afterZero }
  else if isDigit c then .ok { state with place := .inWhole }
  else
    match words.lookup c with
    | some word => .ok { state with place := .inWord word (word.toList.drop 1) }
    | none => unexpected c "looking for beginning of value"

/-- What may follow a value. -/
def afterValue (state : State) (c : Char) : Except String State :=
  if isBlank c then .ok { state with place := .afterValue }
  else
    match state.levels with
    | [] => unexpected c "after top-level value"
    | .key :: outer =>
      if c == ':' then .ok ⟨.value, .field :: outer⟩ else unexpected c "after object key"
    | .field :: outer =>
      if c == ',' then .ok ⟨.name, .key :: outer⟩
      else if c == '\x7d' then .ok ⟨.afterValue, outer⟩
      else unexpected c "after object key:value pair"
    | .item :: outer =>
      if c == ',' then .ok ⟨.value, state.levels⟩
      else if c == ']' then .ok ⟨.afterValue, outer⟩
      else unexpected c "after array element"

/-- Reads one character. -/
def step (state : State) (c : Char) : Except String State :=
  let go (place : Place) : Except String State := .ok { state with place }
  match state.place with
  | .value => if isBlank c then .ok state else beginValue state c
  | .itemOrEnd =>
    if isBlank c then .ok state
    else if c == ']' then .ok ⟨.afterValue, state.levels.drop 1⟩
    else beginValue state c
  | .name =>
    if isBlank c then .ok state
    else if c == '"' then go .inString
    else unexpected c "looking for beginning of object key string"
  | .nameOrEnd =>
    if isBlank c then .ok state
    else if c == '\x7d' then .ok ⟨.afterValue, state.levels.drop 1⟩
    else if c == '"' then go .inString
    else unexpected c "looking for beginning of object key string"
  | .afterValue => afterValue state c
  | .inString =>
    if c == '"' then go .afterValue
    else if c == '\\' then go .inEscape
    else if c.toNat < 0x20 then unexpected c "in string literal"
    else .ok state
  | .inEscape =>
    if c == 'u' then go (.inCode 4)
    else if (shortEscape? c).isSome then go .inString
    else unexpected c "in string escape code"
  | .inCode left =>
    if (hexValue? c).isSome then go (if left ≤ 1 then .inString else .inCode (left - 1))
    else unexpected c "in \\u hexadecimal character escape"
  | .afterMinus =>
    if c == '0' then go .afterZero
    else if isDigit c then go .inWhole
    else unexpected c "in numeric literal"
  | .afterZero =>
    if c == '.' then go .afterPoint
    else if c == 'e' || c == 'E' then go .afterExponentMark
    else afterValue state c
  | .inWhole =>
    if isDigit c then .ok state
    else if c == '.' then go .afterPoint
    else if c == 'e' || c == 'E' then go .afterExponentMark
    else afterValue state c
  | .afterPoint =>
    if isDigit c then go .inFraction else unexpected c "after decimal point in numeric literal"
  | .inFraction =>
    if isDigit c then .ok state
    else if c == 'e' || c == 'E' then go .afterExponentMark
    else afterValue state c
  | .afterExponentMark =>
    if c == '+' || c == '-' then go .afterExponentSign
    else if isDigit c then go .inExponent
    else unexpected c "in exponent of numeric literal"
  | .afterExponentSign =>
    if isDigit c then go .inExponent else unexpected c "in exponent of numeric literal"
  | .inExponent => if isDigit c then .ok state else afterValue state c
  | .inWord word rest =>
    match rest with
    | [] => afterValue state c
    | expected :: rest =>
      if c == expected then go (if rest.isEmpty then .afterValue else .inWord word rest)
      else
        unexpected c ("in literal " ++ word ++ " (expecting '" ++ String.singleton expected ++ "')")

/-- Whether a text may end at a place. -/
def mayEnd (state : State) : Bool :=
  state.levels.isEmpty &&
    match state.place with
    | .afterValue => true
    | .afterZero => true
    | .inWhole => true
    | .inFraction => true
    | .inExponent => true
    | _ => false

/-- Reads the characters of a text. -/
def walk (state : State) : List Char → Except String State
  | [] => .ok state
  | c :: cs =>
    match step state c with
    | .ok state => walk state cs
    | .error message => .error message

end Diagnosis

/-- What is wrong with a text that is to be one document, if anything is. -/
def diagnosis? (text : String) : Option String :=
  match Diagnosis.walk {} text.toList with
  | .error message => some message
  | .ok state => if Diagnosis.mayEnd state then none else some Diagnosis.early

end Json
end BigScript
