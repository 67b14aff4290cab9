import BigScript.Yaml.Token

/-!
# Written scalars

The texts of a document: plain, between quotes, or in an indented block.  Lines of plain and quoted
texts are folded: a single break counts as a space and further breaks are kept.
-/

namespace BigScript
namespace Yaml

/-- The gap after a word of a scalar: blanks within the line, or the breaks that were passed. -/
structure Gap where
  blanks : List Char := []
  broken : Bool := false
  first : List Char := []
  others : List Char := []

namespace Gap

/-- The text that a gap stands for. -/
def folded (gap : Gap) : List Char :=
  if gap.broken then
    if gap.first.head? == some '\n' then (if gap.others.isEmpty then [' '] else gap.others)
    else gap.first ++ gap.others
  else gap.blanks

/-- Adds a line break. -/
def addBreak (gap : Gap) (taken : List Char) : Gap :=
  if gap.broken then { gap with others := gap.others ++ taken }
  else { gap with blanks := [], broken := true, first := taken }

/-- Adds a blank, which counts only before the first break. -/
def addBlank (gap : Gap) (c : Char) : Gap :=
  if gap.broken then gap else { gap with blanks := gap.blanks ++ [c] }

end Gap

/-- Passes blanks and line breaks.  Where `indent` is given, a tab before that column on a new line
is refused, and its place is the error. -/
def passGap (steps : Nat) (indent : Option Int) (gap : Gap) (cursor : Cursor) :
    Except Mark (Gap × Cursor) :=
  match steps, cursor.rest with
  | steps + 1, c :: _ =>
    if isBlank c then
      if gap.broken && c == '\t' && indent.any (fun least => (cursor.mark.column : Int) < least) then
        .error cursor.mark
      else passGap steps indent (gap.addBlank c) cursor.skip
    else if isBreak c then
      let (taken, cursor) := cursor.takeBreak
      passGap steps indent (gap.addBreak taken) cursor
    else .ok (gap, cursor)
  | _, _ => .ok (gap, cursor)

/-- Whether a plain scalar ends before the next character of a word. -/
def endsPlain (inFlow : Bool) (cursor : Cursor) : Bool :=
  (cursor.isAt ':' && cursor.skip.atGap) ||
    (inFlow && cursor.next fun c => [',', '?', '[', ']', '{', '}'].contains c)

/-- The characters of one word of a plain scalar. -/
def plainWord (steps : Nat) (inFlow : Bool) (word : List Char) (cursor : Cursor) :
    List Char × Cursor :=
  match steps, cursor.rest with
  | steps + 1, c :: _ =>
    if cursor.atGap || endsPlain inFlow cursor then (word.reverse, cursor)
    else plainWord steps inFlow (c :: word) cursor.skip
  | _, _ => (word.reverse, cursor)

/-- Reads a plain scalar: words with gaps between them, as far as the indentation allows.  The flag
tells whether it ended on a later line than its last word. -/
def plainFrom (steps : Nat) (inFlow : Bool) (indent : Int) (start : Mark) (text : List Char)
    (gap : Gap) (cursor : Cursor) : Except Problem (String × Bool × Cursor) :=
  match steps with
  | 0 => .ok (String.ofList text, gap.broken, cursor)
  | steps + 1 =>
    if cursor.atSeparator || cursor.isAt '#' then .ok (String.ofList text, gap.broken, cursor)
    else
      let (word, cursor) := plainWord cursor.rest.length inFlow [] cursor
      let (text, gap) := if word.isEmpty then (text, gap) else (text ++ gap.folded ++ word, {})
      if !(cursor.next fun c => isBlank c || isBreak c) then
        .ok (String.ofList text, gap.broken, cursor)
      else
        match passGap cursor.rest.length (some indent) gap cursor with
        | .error place =>
          .error (.inText "found a tab character that violates indentation" start place)
        | .ok (gap, cursor) =>
          if !inFlow && (cursor.mark.column : Int) < indent then
            .ok (String.ofList text, gap.broken, cursor)
          else plainFrom steps inFlow indent start text gap cursor

/-- Reads a plain scalar. -/
def plain (inFlow : Bool) (indent : Int) (cursor : Cursor) :
    Except Problem (String × Bool × Cursor) :=
  plainFrom (cursor.rest.length + 1) inFlow indent cursor.mark [] {} cursor

/-- The characters that an escape of one letter stands for. -/
def escapes : List (Char × Char) :=
  [('0', '\x00'), ('a', '\x07'), ('b', '\x08'), ('t', '\t'), ('\t', '\t'), ('n', '\n'),
   ('v', '\x0b'), ('f', '\x0c'), ('r', '\r'), ('e', '\x1b'), (' ', ' '), ('"', '"'),
   ('\'', '\''), ('/', '/'), ('\\', '\\'), ('N', '\u0085'), ('_', '\u00a0'), ('L', '\u2028'), ('P', '\u2029')]

/-- The escapes followed by the hexadecimal digits of a character, with how many they take. -/
def codedEscapes : List (Char × Nat) := [('x', 2), ('u', 4), ('U', 8)]

/-- The value of a hexadecimal digit. -/
def hexValue? (c : Char) : Option Nat :=
  if '0' ≤ c && c ≤ '9' then some (c.toNat - 48)
  else if 'a' ≤ c.toLower && c.toLower ≤ 'f' then some (c.toLower.toNat - 87)
  else none

/-- The value of hexadecimal digits, if all of them are there. -/
def hexCode? (width : Nat) (cs : List Char) : Option Nat :=
  let digits := cs.take width
  if digits.length < width then none
  else digits.foldlM (fun n c => (hexValue? c).map (16 * n + ·)) 0

/-- Reads an escape after its backslash. -/
def escape (start : Mark) (cursor : Cursor) : Except Problem (Char × Cursor) :=
  match cursor.skip.rest with
  | [] => .error (.inText "found unknown escape character" start cursor.mark)
  | c :: rest =>
    match escapes.lookup c with
    | some meant => .ok (meant, cursor.skipMany 2)
    | none =>
      match codedEscapes.lookup c with
      | none => .error (.inText "found unknown escape character" start cursor.mark)
      | some width =>
        let here := cursor.skipMany 2
        match hexCode? width rest with
        | none => .error (.inText "did not find expected hexdecimal number" start here.mark)
        | some code =>
          if (0xD800 ≤ code && code ≤ 0xDFFF) || code > 0x10FFFF then
            .error (.inText "found invalid Unicode character escape code" start here.mark)
          else .ok (Char.ofNat code, here.skipMany width)

/-- The characters of one word of a quoted scalar.  The flag tells whether it ended with an escaped
line break. -/
def quotedWord (steps : Nat) (single : Bool) (start : Mark) (word : List Char) (cursor : Cursor) :
    Except Problem (List Char × Bool × Cursor) :=
  match steps, cursor.rest with
  | steps + 1, c :: _ =>
    if cursor.atGap then .ok (word.reverse, false, cursor)
    else if single then
      if c == '\'' then
        if cursor.skip.isAt '\'' then quotedWord steps single start ('\'' :: word) (cursor.skipMany 2)
        else .ok (word.reverse, false, cursor)
      else quotedWord steps single start (c :: word) cursor.skip
    else if c == '"' then .ok (word.reverse, false, cursor)
    else if c == '\\' then
      if cursor.skip.next isBreak then .ok (word.reverse, true, cursor.skip.takeBreak.2)
      else
        match escape start cursor with
        | .error problem => .error problem
        | .ok (meant, cursor) => quotedWord steps single start (meant :: word) cursor
    else quotedWord steps single start (c :: word) cursor.skip
  | _, _ => .ok (word.reverse, false, cursor)

/-- Reads a quoted scalar after its opening quote. -/
def quotedFrom (steps : Nat) (single : Bool) (start : Mark) (text : List Char) (cursor : Cursor) :
    Except Problem (String × Cursor) :=
  match steps with
  | 0 => .ok (String.ofList text, cursor)
  | steps + 1 =>
    if cursor.atSeparator then
      .error (.inText "found unexpected document indicator" start cursor.mark)
    else if cursor.rest.isEmpty then
      .error (.inText "found unexpected end of stream" start cursor.mark)
    else
      match quotedWord cursor.rest.length single start [] cursor with
      | .error problem => .error problem
      | .ok (word, broken, cursor) =>
        if cursor.isAt (if single then '\'' else '"') then
          .ok (String.ofList (text ++ word), cursor.skip)
        else
          match passGap cursor.rest.length none { broken } cursor with
          | .error _ => .ok (String.ofList (text ++ word), cursor)
          | .ok (gap, cursor) => quotedFrom steps single start (text ++ word ++ gap.folded) cursor

/-- Reads a quoted scalar. -/
def quotedScalar (single : Bool) (cursor : Cursor) : Except Problem (String × Cursor) :=
  quotedFrom (cursor.rest.length + 1) single cursor.mark [] cursor.skip

/-- How the breaks at the end of a block are kept. -/
inductive Chomp where
  | clip
  | strip
  | keep
deriving DecidableEq

/-- The indicator of how the breaks at the end are kept. -/
def chompOf (cursor : Cursor) : Option Chomp :=
  match cursor.rest with
  | '+' :: _ => some .keep
  | '-' :: _ => some .strip
  | _ => none

/-- The indicator of an indentation. -/
def indentOf (start : Mark) (cursor : Cursor) : Except Problem (Nat × Cursor) :=
  match cursor.rest with
  | c :: _ =>
    if c == '0' then
      .error (.inText "found an indentation indicator equal to 0" start cursor.mark)
    else if '1' ≤ c && c ≤ '9' then .ok (c.toNat - 48, cursor.skip)
    else .ok (0, cursor)
  | [] => .ok (0, cursor)

/-- The indicators of a block scalar, in either order. -/
def blockHeader (start : Mark) (cursor : Cursor) : Except Problem (Chomp × Nat × Cursor) := do
  match chompOf cursor with
  | some chomp =>
    let (indent, cursor) ← indentOf start cursor.skip
    return (chomp, indent, cursor)
  | none =>
    let (indent, cursor) ← indentOf start cursor
    if indent = 0 then return (.clip, 0, cursor)
    match chompOf cursor with
    | some chomp => return (chomp, indent, cursor.skip)
    | none => return (.clip, indent, cursor)

/-- Passes the indentation and the empty lines of a block, of which `indent` is known or zero.
The result has the breaks passed and the widest indentation seen. -/
def blockGap (steps : Nat) (indent widest : Nat) (breaks : List Char) (start : Mark)
    (cursor : Cursor) : Except Problem (List Char × Nat × Cursor) :=
  match steps with
  | 0 => .ok (breaks, widest, cursor)
  | steps + 1 =>
    let spaces := (cursor.rest.takeWhile (· == ' ')).length
    let passed := if indent = 0 then spaces else min spaces (indent - cursor.mark.column)
    let cursor := cursor.skipMany passed
    let widest := max widest cursor.mark.column
    if (indent = 0 || cursor.mark.column < indent) && cursor.isAt '\t' then
      .error (.inText "found a tab character where an indentation space is expected" start
        cursor.mark)
    else if cursor.next isBreak then
      let (taken, cursor) := cursor.takeBreak
      blockGap steps indent widest (breaks ++ taken) start cursor
    else .ok (breaks, widest, cursor)

/-- What has been read of a block scalar: its text, the break after its last line, and the empty
lines after that. -/
structure BlockText where
  text : List Char := []
  lineBreak : List Char := []
  breaks : List Char := []
  blank : Bool := false

/-- Adds a line to a block scalar.  A folded block joins lines that do not begin with a blank. -/
def BlockText.addLine (block : BlockText) (literal blank : Bool) (line lineBreak : List Char) :
    BlockText :=
  let joined := !literal && !block.blank && !blank && block.lineBreak.head? == some '\n'
  let between :=
    if joined then (if block.breaks.isEmpty then [' '] else []) else block.lineBreak
  { text := block.text ++ between ++ block.breaks ++ line, lineBreak, breaks := [], blank }

/-- The text of a finished block scalar. -/
def BlockText.finish (block : BlockText) : Chomp → String
  | .strip => String.ofList block.text
  | .clip => String.ofList (block.text ++ block.lineBreak)
  | .keep => String.ofList (block.text ++ block.lineBreak ++ block.breaks)

/-- Reads the lines of a block scalar. -/
def blockLines (steps : Nat) (literal : Bool) (indent : Nat) (start : Mark) (block : BlockText)
    (cursor : Cursor) : Except Problem (BlockText × Cursor) :=
  match steps with
  | 0 => .ok (block, cursor)
  | steps + 1 =>
    if cursor.mark.column != indent || cursor.rest.isEmpty then .ok (block, cursor)
    else
      let line := cursor.rest.takeWhile (!isBreak ·)
      let blank := cursor.next isBlank
      let (taken, after) := (cursor.skipMany line.length).takeBreak
      match blockGap (after.rest.length + 1) indent 0 [] start after with
      | .error problem => .error problem
      | .ok (breaks, _, cursor) =>
        blockLines steps literal indent start
          { block.addLine literal blank line taken with breaks } cursor

/-- Reads a block scalar. -/
def blockScalar (literal : Bool) (outer : Int) (cursor : Cursor) :
    Except Problem (String × Cursor) := do
  let start := cursor.mark
  let (chomp, increment, cursor) ← blockHeader start cursor.skip
  let cursor := cursor.skipWhile isBlank
  let cursor := if cursor.isAt '#' then cursor.skipWhile (!isBreak ·) else cursor
  if !cursor.atLineEnd then
    throw (.inText "did not find expected comment or line break" start cursor.mark)
  let cursor := cursor.takeBreak.2
  let given := if increment = 0 then 0 else outer.toNat + increment
  let (breaks, widest, cursor) ← blockGap (cursor.rest.length + 1) given 0 [] start cursor
  let indent := if given = 0 then max (max widest (outer + 1).toNat) 1 else given
  let (block, cursor) ←
    blockLines (cursor.rest.length + 1) literal indent start { breaks } cursor
  return (block.finish chomp, cursor)

end Yaml
end BigScript
