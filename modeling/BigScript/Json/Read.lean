import BigScript.Json.Basic

/-!
# Reading JSON

Reading takes the first document of a text, with blanks before it, and leaves the rest alone.  The
document is read as it is written and then put in order.
Strings must escape control characters; an escaped half of a surrogate pair without its other half
becomes the replacement character.  Arrays and objects nest at most ten thousand deep.
-/

namespace BigScript
namespace Json

/-- Characters between the parts of a document. -/
def isBlank (c : Char) : Bool := c == ' ' || c == '\t' || c == '\n' || c == '\r'

/-- Drops blanks from the front. -/
def skipBlanks (cs : List Char) : List Char := cs.dropWhile isBlank

/-- The deepest nesting of arrays and objects. -/
def deepest : Nat := 10000

/-- Decimal digits. -/
def isDigit (c : Char) : Bool := '0' ≤ c && c ≤ '9'

/-- Reads the digits of a part of a number, at least one. -/
def readDigits? (cs : List Char) : Option (List Char × List Char) :=
  let digits := cs.takeWhile isDigit
  if digits.isEmpty then none else some (digits, cs.drop digits.length)

/-- Reads the whole part of a number: a zero, or digits that do not begin with one. -/
def readWhole? : List Char → Option (List Char × List Char)
  | '0' :: cs => some (['0'], cs)
  | cs => readDigits? cs

/-- Reads the part of a number after its point, if there is a point. -/
def readFraction? : List Char → Option (List Char × List Char)
  | '.' :: cs => (readDigits? cs).map fun (digits, rest) => ('.' :: digits, rest)
  | cs => some ([], cs)

/-- Reads the sign of an exponent. -/
def readExponentSign : List Char → List Char × List Char
  | '+' :: cs => (['+'], cs)
  | '-' :: cs => (['-'], cs)
  | cs => ([], cs)

/-- Reads the exponent of a number, if there is one. -/
def readExponent? : List Char → Option (List Char × List Char)
  | c :: cs =>
    if c == 'e' || c == 'E' then
      let (sign, digits) := readExponentSign cs
      (readDigits? digits).map fun (size, rest) => (c :: sign ++ size, rest)
    else some ([], c :: cs)
  | [] => some ([], [])

/-- Reads a number and keeps it as it is written. -/
def readNumber? (cs : List Char) : Option (List Char × List Char) := do
  let (sign, body) := match cs with
    | '-' :: rest => (['-'], rest)
    | rest => ([], rest)
  let (whole, rest) ← readWhole? body
  let (fraction, rest) ← readFraction? rest
  let (exponent, rest) ← readExponent? rest
  return (sign ++ whole ++ fraction ++ exponent, rest)

/-- The value of a hexadecimal digit. -/
def hexValue? (c : Char) : Option Nat :=
  if isDigit c then some (c.toNat - 48)
  else if 'a' ≤ c && c ≤ 'f' then some (c.toNat - 87)
  else if 'A' ≤ c && c ≤ 'F' then some (c.toNat - 55)
  else none

/-- Reads the four digits of an escaped code unit. -/
def readUnit? : List Char → Option (Nat × List Char)
  | a :: b :: c :: d :: rest => do
    let a ← hexValue? a
    let b ← hexValue? b
    let c ← hexValue? c
    let d ← hexValue? d
    return (((a * 16 + b) * 16 + c) * 16 + d, rest)
  | _ => none

/-- The first half of a surrogate pair. -/
def isHighHalf (unit : Nat) : Bool := 0xD800 ≤ unit && unit < 0xDC00

/-- The second half of a surrogate pair. -/
def isLowHalf (unit : Nat) : Bool := 0xDC00 ≤ unit && unit < 0xE000

/-- What stands for half a surrogate pair on its own. -/
def replacement : Char := Char.ofNat 0xFFFD

/-- The character of an escaped code unit, given the code unit escaped directly after it, and
whether that one was used. -/
def unitChar (unit : Nat) (next : Option Nat) : Char × Bool :=
  if isHighHalf unit then
    match next with
    | some low =>
      if isLowHalf low then (Char.ofNat (0x10000 + (unit - 0xD800) * 1024 + (low - 0xDC00)), true)
      else (replacement, false)
    | none => (replacement, false)
  else if isLowHalf unit then (replacement, false)
  else (Char.ofNat unit, false)

/-- The character of a short escape. -/
def shortEscape? : Char → Option Char
  | '"' => some '"'
  | '\\' => some '\\'
  | '/' => some '/'
  | 'b' => some '\x08'
  | 'f' => some '\x0c'
  | 'n' => some '\n'
  | 'r' => some '\r'
  | 't' => some '\t'
  | _ => none

/-- Reads a string after its opening quote, with the characters read so far given in reverse. -/
def readString? (read : List Char) : List Char → Option (List Char × List Char)
  | [] => none
  | '"' :: rest => some (read.reverse, rest)
  | '\\' :: 'u' :: a :: b :: c :: d :: rest => do
    let (unit, _) ← readUnit? [a, b, c, d]
    match rest with
    | '\\' :: 'u' :: a :: b :: c :: d :: after =>
      let next := (readUnit? [a, b, c, d]).map (·.1)
      let (char, used) := unitChar unit next
      if used then readString? (char :: read) after
      else readString? (char :: read) ('\\' :: 'u' :: a :: b :: c :: d :: after)
    | rest => readString? ((unitChar unit none).1 :: read) rest
  | '\\' :: e :: rest => do
    let char ← shortEscape? e
    readString? (char :: read) rest
  | c :: rest =>
    if c.toNat < 32 || c == '\\' then none else readString? (c :: read) rest

/-- Reads a fixed word. -/
def readWord? (word : String) (document : Json) (cs : List Char) : Option (Json × List Char) :=
  (Text.dropStart? word.toList cs).map fun rest => (document, rest)

mutual
/-- Reads a document at the given depth of nesting.  The first argument bounds the number of steps
and is the length of the text at the start. -/
def readValue? (steps depth : Nat) (cs : List Char) : Option (Json × List Char) :=
  match steps with
  | 0 => none
  | steps + 1 =>
    match skipBlanks cs with
    | '{' :: rest => if depth < deepest then readObject? steps (depth + 1) rest else none
    | '[' :: rest => if depth < deepest then readArray? steps (depth + 1) rest else none
    | '"' :: rest => (readString? [] rest).map fun (s, rest) => (.string (String.ofList s), rest)
    | 't' :: rest => readWord? "rue" (.bool true) rest
    | 'f' :: rest => readWord? "alse" (.bool false) rest
    | 'n' :: rest => readWord? "ull" .null rest
    | rest => (readNumber? rest).map fun (digits, rest) => (.number (String.ofList digits), rest)

/-- Reads an object after its opening brace. -/
def readObject? (steps depth : Nat) (cs : List Char) : Option (Json × List Char) :=
  match steps with
  | 0 => none
  | steps + 1 =>
    match skipBlanks cs with
    | '}' :: rest => some (.object [], rest)
    | rest => readFields? steps depth [] rest

/-- Reads the fields of an object from the name of one, with the fields read so far in reverse. -/
def readFields? (steps depth : Nat) (fields : List (String × Json)) (cs : List Char) :
    Option (Json × List Char) :=
  match steps with
  | 0 => none
  | steps + 1 =>
    match skipBlanks cs with
    | '"' :: rest => do
      let (name, rest) ← readString? [] rest
      match skipBlanks rest with
      | ':' :: rest =>
        let (value, rest) ← readValue? steps depth rest
        let fields := (String.ofList name, value) :: fields
        match skipBlanks rest with
        | ',' :: rest => readFields? steps depth fields rest
        | '}' :: rest => some (.object fields.reverse, rest)
        | _ => none
      | _ => none
    | _ => none

/-- Reads an array after its opening bracket. -/
def readArray? (steps depth : Nat) (cs : List Char) : Option (Json × List Char) :=
  match steps with
  | 0 => none
  | steps + 1 =>
    match skipBlanks cs with
    | ']' :: rest => some (.array [], rest)
    | rest => readItems? steps depth [] rest

/-- Reads the items of an array from one of them, with the items read so far in reverse. -/
def readItems? (steps depth : Nat) (items : List Json) (cs : List Char) :
    Option (Json × List Char) :=
  match steps with
  | 0 => none
  | steps + 1 => do
    let (item, rest) ← readValue? steps depth cs
    match skipBlanks rest with
    | ',' :: rest => readItems? steps depth (item :: items) rest
    | ']' :: rest => some (.array (item :: items).reverse, rest)
    | _ => none
end

/-- The first document of a text as it is written, and what follows it. -/
def readPrefix? (text : String) : Option (Json × List Char) :=
  let cs := text.toList
  readValue? (2 * cs.length + 2) 0 cs

/-- The first document of a text as it is written, with its fields where they stand. -/
def readWritten? (text : String) : Option Json := (readPrefix? text).map (·.1)

/-- The first document of a text. -/
def read? (text : String) : Option Json := (readWritten? text).map ordered

/-- The first document of a text, if it is an array. -/
def readArrayText? (text : String) : Option (List Json) :=
  match read? text with
  | some (.array items) => some items
  | _ => none

/-- The first document of a text, if it is an object. -/
def readObjectText? (text : String) : Option (List (String × Json)) :=
  match read? text with
  | some (.object fields) => some fields
  | _ => none

end Json
end BigScript
