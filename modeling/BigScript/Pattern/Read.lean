import BigScript.Pattern.Basic
import BigScript.Number.Decimal

/-!
# Reading patterns

The written form of patterns: literals, classes, groups, alternatives and repetitions, with switches
for letter case, lines and the meaning of the dot.  A text that is no pattern is refused.
-/

namespace BigScript
namespace Pattern

/-- The switches of a pattern. -/
structure Switches where
  folded : Bool := false
  lines : Bool := false
  dotAll : Bool := false
  lazy : Bool := false
deriving DecidableEq, Repr

/-- Digits of a class. -/
def digitRanges : List (Nat × Nat) := [(48, 57)]

/-- Blanks of a class. -/
def spaceRanges : List (Nat × Nat) := [(9, 10), (12, 13), (32, 32)]

/-- Word characters of a class. -/
def wordRanges : List (Nat × Nat) := [(48, 57), (65, 90), (95, 95), (97, 122)]

/-- The classes written with one letter behind a backslash. -/
def letterClass? : Char → Option ClassPart
  | 'd' => some (.ranges digitRanges false)
  | 'D' => some (.ranges digitRanges true)
  | 's' => some (.ranges spaceRanges false)
  | 'S' => some (.ranges spaceRanges true)
  | 'w' => some (.ranges wordRanges false)
  | 'W' => some (.ranges wordRanges true)
  | _ => none

/-- The classes written as `[:name:]`. -/
def namedClass? : String → Option (List (Nat × Nat))
  | "alnum" => some [(48, 57), (65, 90), (97, 122)]
  | "alpha" => some [(65, 90), (97, 122)]
  | "ascii" => some [(0, 127)]
  | "blank" => some [(9, 9), (32, 32)]
  | "cntrl" => some [(0, 31), (127, 127)]
  | "digit" => some [(48, 57)]
  | "graph" => some [(33, 126)]
  | "lower" => some [(97, 122)]
  | "print" => some [(32, 126)]
  | "punct" => some [(33, 47), (58, 64), (91, 96), (123, 126)]
  | "space" => some [(9, 13), (32, 32)]
  | "upper" => some [(65, 90)]
  | "word" => some wordRanges
  | "xdigit" => some [(48, 57), (65, 70), (97, 102)]
  | _ => none

/-- The properties of characters by their names. -/
def property? : String → Option ClassPart
  | "Any" => some (.ranges [(0, 0x10FFFF)] false)
  | "L" => some (.property .letter false)
  | "Lu" => some (.property .capital false)
  | "Ll" => some (.property .small false)
  | "N" => some (.property .digit false)
  | "Nd" => some (.property .digit false)
  | "P" => some (.property .punctuation false)
  | "S" => some (.property .symbol false)
  | "Z" => some (.property .space false)
  | "Greek" => some (.ranges [(0x370, 0x373), (0x375, 0x377), (0x37A, 0x37D), (0x37F, 0x37F),
      (0x384, 0x384), (0x386, 0x386), (0x388, 0x3E1), (0x3F0, 0x3FF), (0x1F00, 0x1FFE)] false)
  | "Cyrillic" => some (.ranges [(0x400, 0x484), (0x487, 0x52F), (0x1C80, 0x1C88),
      (0x2DE0, 0x2DFF), (0xA640, 0xA69F)] false)
  | "Han" => some (.ranges [(0x2E80, 0x2FD5), (0x3005, 0x3005), (0x3007, 0x3007),
      (0x3021, 0x3029), (0x3038, 0x303B), (0x3400, 0x4DBF), (0x4E00, 0x9FFF), (0xF900, 0xFAD9),
      (0x20000, 0x323AF)] false)
  | "Latin" => some (.ranges [(65, 90), (97, 122), (0xAA, 0xAA), (0xBA, 0xBA), (0xC0, 0xD6),
      (0xD8, 0xF6), (0xF8, 0x2B8), (0x1E00, 0x1EFF)] false)
  | _ => none

/-- The opposite of a part of a class. -/
def opposite : ClassPart → ClassPart
  | .ranges ranges negated => .ranges ranges !negated
  | .property property negated => .property property !negated

/-- Reads a property behind `\p` or `\P`. -/
def readProperty? (negated : Bool) : List Char → Option (ClassPart × List Char)
  | '{' :: cs =>
    let name := cs.takeWhile (· != '}')
    if name.length < cs.length then
      let rest := cs.drop (name.length + 1)
      match name with
      | '^' :: name =>
        (property? (String.ofList name)).map fun part =>
          (if negated then part else opposite part, rest)
      | name =>
        (property? (String.ofList name)).map fun part =>
          (if negated then opposite part else part, rest)
    else none
  | c :: cs =>
    (property? (String.singleton c)).map fun part => (if negated then opposite part else part, cs)
  | [] => none

/-- The value of a hexadecimal digit. -/
def hexValue? (c : Char) : Option Nat :=
  if c.isDigit then some (c.toNat - 48)
  else if 'a' ≤ c && c ≤ 'f' then some (c.toNat - 87)
  else if 'A' ≤ c && c ≤ 'F' then some (c.toNat - 55)
  else none

/-- The value of hexadecimal digits. -/
def hexNumber? (cs : List Char) : Option Nat :=
  if cs.isEmpty then none
  else cs.foldl (fun n c => do return (← n) * 16 + (← hexValue? c)) (some 0)

/-- Octal digits. -/
def isOctal (c : Char) : Bool := '0' ≤ c && c ≤ '7'

/-- The value of octal digits. -/
def octalNumber (cs : List Char) : Nat := cs.foldl (fun n c => n * 8 + (c.toNat - 48)) 0

/-- Reads the character that a backslash and what follows it stand for. -/
def readEscape? : List Char → Option (Char × List Char)
  | [] => none
  | '0' :: cs =>
    let digits := (cs.take 2).takeWhile isOctal
    some (Char.ofNat (octalNumber digits), cs.drop digits.length)
  | 'x' :: '{' :: cs => do
    let digits := cs.takeWhile (· != '}')
    let n ← hexNumber? digits
    if digits.length < cs.length && n ≤ 0x10FFFF then
      some (Char.ofNat n, cs.drop (digits.length + 1))
    else none
  | 'x' :: a :: b :: cs => do
    let n ← hexNumber? [a, b]
    return (Char.ofNat n, cs)
  | 'a' :: cs => some ('\x07', cs)
  | 'f' :: cs => some ('\x0c', cs)
  | 'n' :: cs => some ('\n', cs)
  | 'r' :: cs => some ('\r', cs)
  | 't' :: cs => some ('\t', cs)
  | 'v' :: cs => some ('\x0b', cs)
  | c :: cs =>
    if isOctal c && (cs.head?).any isOctal then
      let digits := (cs.take 2).takeWhile isOctal
      some (Char.ofNat (octalNumber (c :: digits)), cs.drop digits.length)
    else if c.toNat < 128 && !c.isAlphanum then some (c, cs)
    else none

/-- Reads one character of a class. -/
def readClassChar? : List Char → Option (Char × List Char)
  | [] => none
  | '\\' :: cs => readEscape? cs
  | c :: cs => some (c, cs)

/-- Reads a class written as `[:name:]` or `[:^name:]` behind its first two characters. -/
def readNamed? (cs : List Char) : Option (Option ClassPart × List Char) :=
  match Text.cutChars [':', ']'] cs with
  | none => none
  | some (name, rest) =>
    match name with
    | '^' :: name => some ((namedClass? (String.ofList name)).map (.ranges · true), rest)
    | name => some ((namedClass? (String.ofList name)).map (.ranges · false), rest)

/-- Reads the parts of a class up to its closing bracket. -/
def readParts? (steps : Nat) (first : Bool) (parts : List ClassPart) (cs : List Char) :
    Option (List ClassPart × List Char) :=
  match steps with
  | 0 => none
  | steps + 1 =>
    match cs with
    | [] => none
    | ']' :: rest => if first then plain steps parts cs else some (parts.reverse, rest)
    | '[' :: ':' :: rest =>
      match readNamed? rest with
      | some (some part, rest) => readParts? steps false (part :: parts) rest
      | some (none, _) => none
      | none => plain steps parts cs
    | '\\' :: c :: rest =>
      match letterClass? c with
      | some part => readParts? steps false (part :: parts) rest
      | none =>
        if c == 'p' || c == 'P' then
          match readProperty? (c == 'P') rest with
          | some (part, rest) => readParts? steps false (part :: parts) rest
          | none => none
        else plain steps parts cs
    | cs => plain steps parts cs
termination_by (steps, 0)
where
  /-- Reads a character or a range of characters. -/
  plain (steps : Nat) (parts : List ClassPart) (cs : List Char) :
      Option (List ClassPart × List Char) :=
    match readClassChar? cs with
    | none => none
    | some (low, '-' :: rest) =>
      if rest.head? == some ']' || rest.isEmpty then
        readParts? steps false (.ranges [(low.toNat, low.toNat)] false :: parts) ('-' :: rest)
      else
        match readClassChar? rest with
        | none => none
        | some (high, rest) =>
          if high < low then none
          else readParts? steps false (.ranges [(low.toNat, high.toNat)] false :: parts) rest
    | some (c, rest) => readParts? steps false (.ranges [(c.toNat, c.toNat)] false :: parts) rest
  termination_by (steps, 1)

/-- Reads a class behind its opening bracket. -/
def readClass? (switches : Switches) (cs : List Char) : Option (CharClass × List Char) :=
  let (negated, body) := match cs with
    | '^' :: rest => (true, rest)
    | cs => (false, cs)
  (readParts? (2 * cs.length + 2) true [] body).map fun (parts, rest) =>
    ({ parts, negated, folded := switches.folded }, rest)

/-- The largest count of a repetition. -/
def largestCount : Nat := 1000

/-- Reads a count, which has no leading zeros. -/
def readCount? (cs : List Char) : Option (Nat × List Char) :=
  let digits := cs.takeWhile Char.isDigit
  if digits.isEmpty || (digits.length > 1 && digits.head? == some '0') then none
  else some (digits.foldl (fun n c => 10 * n + (c.toNat - 48)) 0, cs.drop digits.length)

/-- Reads the counts of a repetition behind its opening brace. -/
def readCounts? (cs : List Char) : Option (Nat × Option Nat × List Char) :=
  match readCount? cs with
  | none => none
  | some (least, '}' :: rest) => some (least, some least, rest)
  | some (least, ',' :: '}' :: rest) => some (least, none, rest)
  | some (least, ',' :: rest) =>
    match readCount? rest with
    | some (most, '}' :: rest) => some (least, some most, rest)
    | _ => none
  | _ => none

/-- A repetition operator. -/
inductive Repetition where
  | counts (least : Nat) (most : Option Nat) (rest : List Char)
  /-- Counts that are out of range. -/
  | invalid
  /-- No repetition. -/
  | missing

/-- Reads a repetition operator with the mark of a lazy one. -/
def readRepetition (cs : List Char) : Repetition :=
  let dropMark : List Char → List Char := fun cs =>
    match cs with
    | '?' :: rest => rest
    | cs => cs
  match cs with
  | '*' :: rest => .counts 0 none (dropMark rest)
  | '+' :: rest => .counts 1 none (dropMark rest)
  | '?' :: rest => .counts 0 (some 1) (dropMark rest)
  | '{' :: rest =>
    match readCounts? rest with
    | none => .missing
    | some (least, most, rest) =>
      if least > largestCount || most.any (fun n => n > largestCount || n < least) then .invalid
      else .counts least most (dropMark rest)
  | _ => .missing

/-- Reads switches up to a colon or a closing parenthesis; the answer says which of them came. -/
def readSwitches? (on : Bool) (seen : Bool) (switches : Switches) :
    List Char → Option (Switches × Bool × List Char)
  | [] => none
  | 'i' :: cs => readSwitches? on true { switches with folded := on } cs
  | 'm' :: cs => readSwitches? on true { switches with lines := on } cs
  | 's' :: cs => readSwitches? on true { switches with dotAll := on } cs
  | 'U' :: cs => readSwitches? on true { switches with lazy := on } cs
  | '-' :: cs => if on then readSwitches? false false switches cs else none
  | ':' :: cs => if on || seen then some (switches, true, cs) else none
  | ')' :: cs => if on || seen then some (switches, false, cs) else none
  | _ => none

/-- The opening of a group: of a group with a name, a plain one, or only switches. -/
inductive Opening where
  | group (switches : Switches) (name : Option String) (rest : List Char)
  | switches (switches : Switches) (rest : List Char)
  | invalid

/-- The opening of a group with a name, read behind the bracket before the name. -/
def readGroupName (switches : Switches) (cs : List Char) : Opening :=
  let name := cs.takeWhile (· != '>')
  if name.length < cs.length && !name.isEmpty && name.all isWordChar then
    .group switches (some (String.ofList name)) (cs.drop (name.length + 1))
  else .invalid

/-- Reads what follows an opening parenthesis. -/
def readOpening (switches : Switches) : List Char → Opening
  | '?' :: 'P' :: '<' :: cs => readGroupName switches cs
  | '?' :: '<' :: cs => readGroupName switches cs
  | '?' :: cs =>
    match readSwitches? true false switches cs with
    | some (inner, true, rest) => .group inner none rest
    | some (inner, false, rest) => .switches inner rest
    | none => .invalid
  | cs => .group switches none cs

/-- The sequence of patterns kept in reverse. -/
def joined : List Pattern → Pattern
  | [] => .empty
  | [p] => p
  | last :: rest => .sequence (joined rest) last

/-- The pattern of a literal character. -/
def literal (switches : Switches) (c : Char) : Pattern := .char (.single c switches.folded)

/-- The pattern of a dot. -/
def dot (switches : Switches) : Pattern :=
  if switches.dotAll then .char { parts := [.ranges [(0, 0x10FFFF)] false] }
  else .char { parts := [.ranges [(10, 10)] true] }

/-- Reads one pattern written behind a backslash that stands outside of classes. -/
def readBackslash? (switches : Switches) : List Char → Option (Pattern × List Char)
  | [] => none
  | 'A' :: cs => some (.anchor .textStart, cs)
  | 'z' :: cs => some (.anchor .textEnd, cs)
  | 'b' :: cs => some (.anchor .wordEdge, cs)
  | 'B' :: cs => some (.anchor .noWordEdge, cs)
  | c :: cs =>
    match letterClass? c with
    | some part => some (.char { parts := [part], folded := switches.folded }, cs)
    | none =>
      if c == 'p' || c == 'P' then
        (readProperty? (c == 'P') cs).map fun (part, rest) =>
          (.char { parts := [part], folded := switches.folded }, rest)
      else (readEscape? (c :: cs)).map fun (d, rest) => (literal switches d, rest)

/-- What has been read of a group: the alternatives before the current one, and the items of the
current one in reverse; `repeated` says that the last item carries a repetition. -/
structure Progress where
  before : Option Pattern := none
  items : List Pattern := []
  repeated : Bool := false
  names : List String := []

namespace Progress

/-- Adds an item to the current alternative. -/
def add (progress : Progress) (item : Pattern) : Progress :=
  { progress with items := item :: progress.items, repeated := false }

/-- The pattern of the alternatives read so far. -/
def pattern (progress : Progress) : Pattern :=
  match progress.before with
  | some before => .choice before (joined progress.items)
  | none => joined progress.items

/-- Begins the next alternative. -/
def alternative (progress : Progress) : Progress :=
  { before := some progress.pattern, names := progress.names }

/-- Repeats the last item. -/
def repeatLast? (progress : Progress) (least : Nat) (most : Option Nat) : Option Progress :=
  match progress.items with
  | [] => none
  | last :: rest =>
    let item := Pattern.repeated last least most
    if progress.repeated || item.copies > largestCount then none
    else some { progress with items := item :: rest, repeated := true }

end Progress

/-- Reads the alternatives of a group up to the parenthesis that closes it, or up to the end of the
text at depth zero.  The first argument bounds the number of steps. -/
def readGroup? (steps : Nat) (depth : Nat) (switches : Switches) (progress : Progress)
    (cs : List Char) : Option (Progress × List Char) :=
  match steps with
  | 0 => none
  | steps + 1 =>
    match readRepetition cs with
    | .invalid => none
    | .counts least most rest =>
      match progress.repeatLast? least most with
      | some progress => readGroup? steps depth switches progress rest
      | none => none
    | .missing =>
      match cs with
      | [] => if depth = 0 then some (progress, []) else none
      | ')' :: rest => if depth = 0 then none else some (progress, rest)
      | '|' :: rest => readGroup? steps depth switches progress.alternative rest
      | '(' :: rest =>
        match readOpening switches rest with
        | .invalid => none
        | .switches inner rest =>
          readGroup? steps depth inner { progress with repeated := false } rest
        | .group inner name rest =>
          if name.any progress.names.contains then none
          else
            let names := name.toList ++ progress.names
            match readGroup? steps (depth + 1) inner { names } rest with
            | some (group, rest) =>
              let progress := { progress.add group.pattern with names := group.names }
              readGroup? steps depth switches progress rest
            | none => none
      | '[' :: rest =>
        match readClass? switches rest with
        | some (set, rest) => readGroup? steps depth switches (progress.add (.char set)) rest
        | none => none
      | '.' :: rest => readGroup? steps depth switches (progress.add (dot switches)) rest
      | '^' :: rest =>
        let anchor := if switches.lines then Anchor.lineStart else .textStart
        readGroup? steps depth switches (progress.add (.anchor anchor)) rest
      | '$' :: rest =>
        let anchor := if switches.lines then Anchor.lineEnd else .textEnd
        readGroup? steps depth switches (progress.add (.anchor anchor)) rest
      | '\\' :: 'Q' :: rest =>
        let (quoted, rest) := (Text.cutChars ['\\', 'E'] rest).getD (rest, [])
        let progress := quoted.foldl (fun progress c => progress.add (literal switches c)) progress
        readGroup? steps depth switches progress rest
      | '\\' :: rest =>
        match readBackslash? switches rest with
        | some (item, rest) => readGroup? steps depth switches (progress.add item) rest
        | none => none
      | c :: rest => readGroup? steps depth switches (progress.add (literal switches c)) rest

/-- The pattern that a text writes, if it writes one. -/
def read? (text : String) : Option Pattern :=
  (readGroup? (text.length + 1) 0 {} {} text.toList).map fun (progress, _) => progress.pattern

/-- Whether the pattern that a text writes is found in another text; a text that writes none is
never found. -/
def matchesText (pattern subject : String) : Bool :=
  match read? pattern with
  | some p => p.foundIn subject
  | none => false

end Pattern
end BigScript
