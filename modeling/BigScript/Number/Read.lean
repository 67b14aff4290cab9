import BigScript.Number.Binary
import BigScript.Text.Basic

/-!
# Reading numbers

A number is written in decimal, or in hexadecimal with a binary exponent, with an optional sign,
point and exponent; single underscores may stand between digits.  The words for infinity and for
no number are read in any letter case.  The number read is the double nearest to what is written.
-/

namespace BigScript
namespace Number

/-- The outcome of reading a number. -/
inductive Reading where
  | malformed
  | tooLarge (negative : Bool)
  | exact (value : Float)

namespace Reading

/-- The number, if it was written well and fits. -/
def value? : Reading → Option Float
  | .exact value => some value
  | _ => none

/-- The number as far as it could be read: a malformed text counts as zero and a number that is
too large as infinity. -/
def lenient : Reading → Float
  | .malformed => 0
  | .tooLarge negative => infinity negative
  | .exact value => value

end Reading

/-- The value of a digit in a base of ten or sixteen. -/
def digitValue? (hexadecimal : Bool) (c : Char) : Option Nat :=
  if '0' ≤ c && c ≤ '9' then some (c.toNat - 48)
  else if hexadecimal && 'a' ≤ c.toLower && c.toLower ≤ 'f' then some (c.toLower.toNat - 87)
  else none

/-- The digits of a number as they are read: their value, how many stand after the point, and what
was seen. -/
structure Mantissa where
  value : Nat := 0
  places : Nat := 0
  point : Bool := false
  digits : Bool := false

/-- Reads digits, underscores and at most one point. -/
def readMantissa (hexadecimal : Bool) (read : Mantissa) : List Char → Mantissa × List Char
  | [] => (read, [])
  | c :: cs =>
    if c == '_' then readMantissa hexadecimal read cs
    else if c == '.' then
      if read.point then (read, c :: cs)
      else readMantissa hexadecimal { read with point := true } cs
    else
      match digitValue? hexadecimal c with
      | some d =>
        readMantissa hexadecimal
          { read with
            value := read.value * (if hexadecimal then 16 else 10) + d
            places := if read.point then read.places + 1 else read.places
            digits := true } cs
      | none => (read, c :: cs)

/-- Reads the digits and underscores of an exponent.  Past ten thousand its size no longer
matters. -/
def readExponent (size : Nat) : List Char → Nat × List Char
  | [] => (size, [])
  | c :: cs =>
    if c == '_' then readExponent size cs
    else if '0' ≤ c && c ≤ '9' then
      readExponent (if size < 10000 then size * 10 + (c.toNat - 48) else size) cs
    else (size, c :: cs)

/-- A sign and what follows it. -/
def readSign : List Char → Bool × List Char
  | '-' :: cs => (true, cs)
  | '+' :: cs => (false, cs)
  | cs => (false, cs)

/-- What precedes a character, as far as the place of underscores is concerned. -/
inductive Before where
  | start
  | digit
  | underscore
  | other
deriving DecidableEq

/-- Whether each underscore stands between digits, given what came before. -/
def underscoresFit (hexadecimal : Bool) (before : Before) : List Char → Bool
  | [] => before != .underscore
  | c :: cs =>
    if (digitValue? hexadecimal c).isSome then underscoresFit hexadecimal .digit cs
    else if c == '_' then before == .digit && underscoresFit hexadecimal .underscore cs
    else before != .underscore && underscoresFit hexadecimal .other cs

/-- Whether the underscores of a written number separate digits.  The mark of a base counts as a
digit. -/
def underscoresSeparate (cs : List Char) : Bool :=
  match (readSign cs).2 with
  | '0' :: mark :: rest =>
    if mark.toLower == 'x' then underscoresFit true .digit rest
    else if mark.toLower == 'b' || mark.toLower == 'o' then underscoresFit false .digit rest
    else underscoresFit false .start ('0' :: mark :: rest)
  | rest => underscoresFit false .start rest

/-- The double nearest to `value * base ^ exponent`, where a value far outside the range of doubles
is settled by its size alone. -/
def scaled (negative : Bool) (value : Nat) (base : Nat) (exponent : Int) : Reading :=
  let size : Int :=
    if base = 10 then exponent + (Nat.toDigits 10 value).length
    else Int.tdiv (exponent + Nat.log2 value) 3
  if value = 0 then .exact (ofParts negative 0)
  else if size > 400 then .tooLarge negative
  else if size < -400 then .exact (ofParts negative 0)
  else
    match nearest negative (value * Nat.pow base exponent.toNat) (Nat.pow base (-exponent).toNat) with
    | some x => .exact x
    | none => .tooLarge negative

/-- Reads a number written with digits. -/
def readDigits (text : List Char) : Reading :=
  let (negative, body) := readSign text
  let (hexadecimal, body) :=
    match body with
    | '0' :: mark :: next :: rest =>
      if mark.toLower == 'x' then (true, next :: rest) else (false, body)
    | _ => (false, body)
  let (mantissa, rest) := readMantissa hexadecimal {} body
  let places : Int := if hexadecimal then 4 * mantissa.places else mantissa.places
  let base := if hexadecimal then 2 else 10
  let mark := if hexadecimal then 'p' else 'e'
  let finish (exponent : Int) (rest : List Char) : Reading :=
    if !mantissa.digits || !rest.isEmpty || (text.contains '_' && !underscoresSeparate text) then
      .malformed
    else scaled negative mantissa.value base (exponent - places)
  match rest with
  | [] => if hexadecimal then .malformed else finish 0 []
  | c :: cs =>
    if c.toLower == mark then
      let (below, digits) := readSign cs
      match digits with
      | [] => .malformed
      | d :: _ =>
        if '0' ≤ d && d ≤ '9' then
          let (size, rest) := readExponent 0 digits
          finish (if below then -(size : Int) else size) rest
        else .malformed
    else .malformed

/-- Reads a number: a word for infinity or for no number, or digits. -/
def read (text : String) : Reading :=
  let (negative, word) := readSign text.toList
  let word := (String.ofList word).map Char.toLower
  if word == "inf" || word == "infinity" then .exact (infinity negative)
  else if text.map Char.toLower == "nan" then .exact undefined
  else readDigits text.toList

/-- The number a text stands for, with blanks around it ignored. -/
def parse? (text : String) : Option Float := (read (Text.trim text)).value?

/-- The number a text stands for, or zero. -/
def parseOrZero (text : String) : Float := (parse? text).getD 0

/-- Reads a whole number of 64 signed bits: an optional sign and decimal digits. -/
def parseInt? (text : String) : Option Int :=
  let (negative, digits) := readSign text.toList
  if digits.isEmpty || !digits.all (fun c => '0' ≤ c && c ≤ '9') then none
  else
    let size : Nat := digits.foldl (fun n c => n * 10 + (c.toNat - 48)) 0
    let whole : Int := if negative then -(size : Int) else size
    if leastInt64 ≤ whole ∧ whole < twoTo 63 then some whole else none

end Number
end BigScript
