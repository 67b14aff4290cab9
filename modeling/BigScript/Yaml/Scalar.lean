import BigScript.Number.Read
import BigScript.Yaml.Node

/-!
# The meaning of plain scalars

A plain scalar stands for nothing, a truth value, a number or a moment if it is written like one, and
for its own text otherwise.
-/

namespace BigScript
namespace Yaml

/-- What a scalar stands for. -/
inductive Meaning where
  | nothing
  | truth (value : Bool)
  | whole (value : Int)
  | real (value : Float)
  | moment
  | text (value : String)
  | merge

namespace Meaning

/-- The tag of a meaning. -/
def tag : Meaning → String
  | .nothing => "!!null"
  | .truth _ => "!!bool"
  | .whole _ => "!!int"
  | .real _ => "!!float"
  | .moment => "!!timestamp"
  | .text _ => "!!str"
  | .merge => "!!merge"

end Meaning

/-- The scalars of fixed spelling. -/
def constants : List (String × Meaning) :=
  ["true", "True", "TRUE"].map (·, Meaning.truth true) ++
  ["false", "False", "FALSE"].map (·, Meaning.truth false) ++
  ["", "~", "null", "Null", "NULL"].map (·, Meaning.nothing) ++
  [".nan", ".NaN", ".NAN"].map (·, Meaning.real Number.undefined) ++
  [".inf", ".Inf", ".INF", "+.inf", "+.Inf", "+.INF"].map (·, Meaning.real (Number.infinity false)) ++
  ["-.inf", "-.Inf", "-.INF"].map (·, Meaning.real (Number.infinity true))

/-- Decimal digits. -/
def isDecimal (c : Char) : Bool := '0' ≤ c && c ≤ '9'

/-- The digits of a whole number and their base: `0x`, `0o`, `0b` and a leading zero mark a base. -/
def basedDigits : List Char → Nat × List Char
  | '0' :: mark :: rest =>
    match mark.toLower with
    | 'x' => (16, rest)
    | 'o' => (8, rest)
    | 'b' => (2, rest)
    | _ => (8, mark :: rest)
  | cs => (10, cs)

/-- The value of digits in a base. -/
def digitsIn? (base : Nat) (digits : List Char) : Option Nat :=
  if digits.isEmpty then none
  else digits.foldlM (fun n c => match hexValue? c with
    | some d => if d < base then some (base * n + d) else none
    | none => none) 0

/-- The whole number of 64 bits, signed or not, that a scalar writes. -/
def whole? (cs : List Char) : Option Int :=
  let (negative, body) := Number.readSign cs
  let signed := cs.length != body.length
  let (base, digits) := basedDigits body
  match digitsIn? base digits with
  | none => none
  | some size =>
    if negative then (if size ≤ Number.twoTo 63 then some (-size) else none)
    else if size < Number.twoTo 63 || (!signed && size < Number.twoTo 64) then some size
    else none

/-- Digits with an optional fraction and exponent, after the sign. -/
def isRealForm (cs : List Char) : Bool :=
  let body := (Number.readSign cs).2
  let front := body.takeWhile isDecimal
  let rest := body.drop front.length
  let (fraction, rest) := match rest with
    | '.' :: more => (some (more.takeWhile isDecimal), more.dropWhile isDecimal)
    | rest => (none, rest)
  let numberFits := !front.isEmpty || fraction.any (!·.isEmpty)
  let exponentFits := match rest with
    | [] => true
    | c :: more =>
      let digits := (Number.readSign more).2
      (c == 'e' || c == 'E') && !digits.isEmpty && digits.all isDecimal
  numberFits && exponentFits

/-- A run of one or two digits and what follows it. -/
def shortNumber (cs : List Char) : Option (Nat × List Char) :=
  let digits := (cs.takeWhile isDecimal).take 2
  if digits.isEmpty then none
  else some (digits.foldl (fun n c => 10 * n + (c.toNat - 48)) 0, cs.drop digits.length)

/-- The number of days in a month. -/
def daysIn (year month : Nat) : Nat :=
  if month = 2 then
    if year % 4 = 0 && (year % 100 != 0 || year % 400 = 0) then 29 else 28
  else if [4, 6, 9, 11].contains month then 30 else 31

/-- A time zone after a time: a letter for the common time, or hours and minutes. -/
def isZone : List Char → Bool
  | ['Z'] => true
  | [sign, a, b, ':', c, d] =>
    (sign == '+' || sign == '-') && [a, b, c, d].all isDecimal
  | _ => false

/-- A fraction of a second, if any, and what follows it. -/
def dropFraction : List Char → List Char
  | '.' :: c :: rest => if isDecimal c then rest.dropWhile isDecimal else '.' :: c :: rest
  | ',' :: c :: rest => if isDecimal c then rest.dropWhile isDecimal else ',' :: c :: rest
  | rest => rest

/-- Hours, minutes and seconds, and what follows them. -/
def afterClock (cs : List Char) : Option (List Char) := do
  let (hour, rest) ← shortNumber cs
  let rest ← Text.dropStart? [':'] rest
  let (minute, rest) ← shortNumber rest
  let rest ← Text.dropStart? [':'] rest
  let (second, rest) ← shortNumber rest
  if hour < 24 && minute < 60 && second < 60 then some (dropFraction rest) else none

/-- Whether a scalar writes a day, or a moment of a day. -/
def isMoment (cs : List Char) : Bool :=
  let year := cs.takeWhile isDecimal
  if year.length != 4 then false
  else
    let found : Option Bool := do
      let rest ← Text.dropStart? ['-'] (cs.drop 4)
      let (month, rest) ← shortNumber rest
      let rest ← Text.dropStart? ['-'] rest
      let (day, rest) ← shortNumber rest
      let number := year.foldl (fun n c => 10 * n + (c.toNat - 48)) 0
      if month = 0 || 12 < month || day = 0 || daysIn number month < day then none
      else
        match rest with
        | [] => some true
        | 'T' :: rest => (afterClock rest).map isZone
        | 't' :: rest => (afterClock rest).map isZone
        | ' ' :: rest => (afterClock rest).map List.isEmpty
        | _ => none
    found.getD false

/-- The characters with which numbers begin. -/
def startsNumber (c : Char) : Bool := isDecimal c || c == '+' || c == '-'

/-- What a plain scalar stands for. -/
def meaning (scalar : String) : Meaning :=
  match constants.lookup scalar with
  | some known => known
  | none =>
    let cs := scalar.toList
    if cs.head? == some '.' then
      match (Number.read scalar).value? with
      | some value => .real value
      | none => .text scalar
    else if cs.head?.any startsNumber then
      let bare := cs.filter (· != '_')
      if isMoment cs then .moment
      else
        match whole? bare with
        | some value => .whole value
        | none =>
          if isRealForm bare then
            match (Number.read (String.ofList bare)).value? with
            | some value => .real value
            | none => .text scalar
          else .text scalar
    else .text scalar

end Yaml
end BigScript
