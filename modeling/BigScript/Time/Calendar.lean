import BigScript.Number.Decimal

/-!
# Moments and the calendar

A moment is counted in nanoseconds from the start of 1970 in universal time, and is written as a day
of the calendar and a time of that day.
-/

/-!
## Durations

Lengths of time in nanoseconds, written as numbers with units such as `1h30m` or `1.5s`.
-/

namespace BigScript

/-- A length of time in nanoseconds. -/
structure Duration where
  nanoseconds : Int := 0
deriving DecidableEq, Repr

namespace Duration

/-- The units with their lengths in nanoseconds. -/
def units : List (String × Nat) :=
  [("ns", 1), ("us", 1000), ("µs", 1000), ("μs", 1000), ("ms", 1000000), ("s", 1000000000),
   ("m", 60000000000), ("h", 3600000000000)]

/-- One second. -/
def second : Duration := ⟨1000000000⟩

/-- Decimal digits. -/
def isDigit (c : Char) : Bool := '0' ≤ c && c ≤ '9'

/-- The value of decimal digits. -/
def digitsValue (cs : List Char) : Nat := cs.foldl (fun n c => 10 * n + (c.toNat - 48)) 0

/-- The largest size of a duration. -/
def limit : Nat := Number.twoTo 63

/-- The nanoseconds of a fraction of a unit, rounded towards zero. -/
def fractionOf (digits : List Char) (unit : Nat) : Nat :=
  let kept := digits.take 18
  let scale := Number.ofInt (Number.tenTo kept.length)
  (Number.toInt64 (Number.ofInt (digitsValue kept) * (Number.ofInt unit / scale))).toNat

/-- Reads numbers with units, adding them up. -/
def readParts (steps : Nat) (total : Nat) (cs : List Char) : Option Nat :=
  match steps, cs with
  | _, [] => some total
  | 0, _ => none
  | steps + 1, cs =>
    let whole := cs.takeWhile isDigit
    let rest := cs.drop whole.length
    let (fraction, rest) := match rest with
      | '.' :: more =>
        let digits := more.takeWhile isDigit
        (digits, more.drop digits.length)
      | rest => ([], rest)
    let name := rest.takeWhile fun c => c != '.' && !isDigit c
    if whole.isEmpty && fraction.isEmpty then none
    else
      match units.lookup (String.ofList name) with
      | none => none
      | some unit =>
        let part := digitsValue whole * unit + fractionOf fraction unit
        if digitsValue whole * unit > limit || part > limit || total + part > limit then none
        else readParts steps (total + part) (rest.drop name.length)

/-- The duration that a text writes: an optional sign and numbers with units, or a plain zero. -/
def read? (text : String) : Option Duration :=
  let (negative, body) := match text.toList with
    | '-' :: rest => (true, rest)
    | '+' :: rest => (false, rest)
    | cs => (false, cs)
  if body == ['0'] then some ⟨0⟩
  else if body.isEmpty then none
  else
    match readParts body.length 0 body with
    | none => none
    | some size =>
      if negative then some ⟨-size⟩ else if size < limit then some ⟨size⟩ else none

/-- A size over a power of ten as a decimal without zeros at its end. -/
def decimal (size places : Nat) : String :=
  let whole := size / Number.tenTo places
  let rest := Text.padLeft places '0' (Number.digitText (size % Number.tenTo places))
  let shown := Text.dropRightWhile (· == '0') rest.toList
  Number.digitText whole ++
    (if places = 0 || shown.isEmpty then "" else "." ++ String.ofList shown)

/-- A size in the largest units that fit, the smallest of them with a fraction. -/
def sizeText (size : Nat) : String :=
  if size = 0 then "0s"
  else if size < 1000 then Number.digitText size ++ "ns"
  else if size < 1000000 then decimal size 3 ++ "µs"
  else if size < 1000000000 then decimal size 6 ++ "ms"
  else
    let seconds := decimal (size % 60000000000) 9 ++ "s"
    let minutes := size / 60000000000
    if minutes = 0 then seconds
    else if minutes < 60 then Number.digitText minutes ++ "m" ++ seconds
    else Number.digitText (minutes / 60) ++ "h" ++ Number.digitText (minutes % 60) ++ "m" ++ seconds

/-- The text of a duration. -/
def text (d : Duration) : String :=
  Number.signed (d.nanoseconds < 0) (sizeText d.nanoseconds.natAbs)

end Duration
end BigScript

/-! ## Dates -/

namespace BigScript

/-- A moment in nanoseconds from the start of 1970. -/
structure Moment where
  nanoseconds : Int := 0
deriving DecidableEq, Repr

/-- A day of the calendar. -/
structure Day where
  year : Int
  month : Nat
  day : Nat
deriving DecidableEq, Repr

namespace Day

/-- The day that is a number of days after the start of 1970.  Years are counted from March in cycles
of four centuries, so that a leap day ends a year. -/
def ofNumber (number : Int) : Day :=
  let shifted := number + 719468
  let cycle := shifted.fdiv 146097
  let inCycle := (shifted - cycle * 146097).toNat
  let yearInCycle := (inCycle - inCycle / 1460 + inCycle / 36524 - inCycle / 146096) / 365
  let inYear := inCycle - (365 * yearInCycle + yearInCycle / 4 - yearInCycle / 100)
  let fromMarch := (5 * inYear + 2) / 153
  let month := if fromMarch < 10 then fromMarch + 3 else fromMarch - 9
  { year := yearInCycle + cycle * 400 + (if month ≤ 2 then 1 else 0)
    month
    day := inYear - (153 * fromMarch + 2) / 5 + 1 }

/-- A number in two digits. -/
def twoDigits (n : Nat) : String := Text.padLeft 2 '0' (Number.digitText n)

/-- A year in four digits at least. -/
def yearText (year : Int) : String :=
  Number.signed (year < 0) (Text.padLeft 4 '0' (Number.digitText year.natAbs))

/-- The text of a day. -/
def text (day : Day) : String :=
  yearText day.year ++ "-" ++ twoDigits day.month ++ "-" ++ twoDigits day.day

end Day

namespace Moment

/-- The moment of a number of seconds. -/
def ofSeconds (seconds : Int) : Moment := ⟨seconds * 1000000000⟩

/-- Whole seconds from the start of 1970. -/
def seconds (moment : Moment) : Int := moment.nanoseconds.fdiv 1000000000

/-- The day of a moment. -/
def day (moment : Moment) : Day := Day.ofNumber (moment.seconds.fdiv 86400)

/-- The time of day in hours, minutes and seconds. -/
def clock (moment : Moment) : String :=
  let second := (moment.seconds.fmod 86400).toNat
  Day.twoDigits (second / 3600) ++ ":" ++ Day.twoDigits (second / 60 % 60) ++ ":" ++
    Day.twoDigits (second % 60)

/-- A moment as people read it. -/
def text (moment : Moment) : String := moment.day.text ++ " " ++ moment.clock

/-- A moment as programs read it, with the fraction of the second. -/
def stamp (moment : Moment) : String :=
  let fraction := (moment.nanoseconds.fmod 1000000000).toNat
  let digits := Text.dropRightWhile (· == '0')
    (Text.padLeft 9 '0' (Number.digitText fraction)).toList
  moment.day.text ++ "T" ++ moment.clock ++
    (if digits.isEmpty then "" else "." ++ String.ofList digits) ++ "Z"

/-- The time from one moment to another. -/
def since (moment earlier : Moment) : Duration := ⟨moment.nanoseconds - earlier.nanoseconds⟩

/-- The moment after some nanoseconds. -/
def after (moment : Moment) (nanoseconds : Nat) : Moment := ⟨moment.nanoseconds + nanoseconds⟩

end Moment
end BigScript
