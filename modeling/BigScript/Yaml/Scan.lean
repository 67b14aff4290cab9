import BigScript.Yaml.Written

/-!
# Finding the tokens of a document

A scalar or a collection may turn out to be the key of a mapping only when its colon is met, so the
reader remembers where a key may have begun.  Changes of indentation open and close blocks.
-/

namespace BigScript
namespace Yaml

/-- A place where the key of a mapping may have begun. -/
structure PossibleKey where
  /-- No other reading of the document is possible. -/
  required : Bool
  /-- The number of the token that begins the key. -/
  number : Nat
  mark : Mark

/-- The state of reading tokens. -/
structure Scan where
  cursor : Cursor
  tokens : Array Token := #[]
  /-- One place for each open flow collection, and one for the blocks around them. -/
  keys : List (Option PossibleKey) := [none]
  indent : Int := -1
  /-- The indentations of the blocks around the current one. -/
  outer : List Int := []
  keyAllowed : Bool := true

namespace Scan

/-- Within a collection between brackets or braces. -/
def inFlow (scan : Scan) : Bool := scan.keys.length > 1

/-- The problem found at the current place. -/
def problem (scan : Scan) (message : String) : Problem :=
  .inText message scan.cursor.mark scan.cursor.mark

/-- The problem of a key without its colon. -/
def lostKey (scan : Scan) (key : PossibleKey) : Problem :=
  .inText "could not find expected ':'" key.mark scan.cursor.mark

/-- Appends a token. -/
def push (scan : Scan) (kind : TokenKind) (mark : Mark) : Scan :=
  { scan with tokens := scan.tokens.push ⟨kind, mark⟩ }

/-- Inserts a token before the one of a number. -/
def insertAt (scan : Scan) (number : Nat) (kind : TokenKind) (mark : Mark) : Scan :=
  { scan with
    tokens := (scan.tokens.toList.take number ++ ⟨kind, mark⟩ :: scan.tokens.toList.drop number).toArray }

/-- Appends a token of some characters. -/
def take (scan : Scan) (kind : TokenKind) (size : Nat) : Scan :=
  { scan.push kind scan.cursor.mark with cursor := scan.cursor.skipMany size }

/-- Sets the place where a key may have begun in the current collection. -/
def setKey (scan : Scan) (key : Option PossibleKey) : Scan :=
  { scan with keys := key :: scan.keys.drop 1 }

/-- Gives up the possible key of the current collection. -/
def dropKey (scan : Scan) : Except Problem Scan :=
  match scan.keys.head?.join with
  | some key => if key.required then .error (scan.lostKey key) else .ok (scan.setKey none)
  | none => .ok scan

/-- Remembers that a key may begin here. -/
def saveKey (scan : Scan) : Except Problem Scan :=
  if !scan.keyAllowed then .ok scan
  else
    match scan.dropKey with
    | .error problem => .error problem
    | .ok scan =>
      let required := !scan.inFlow && scan.indent == scan.cursor.mark.column
      .ok (scan.setKey (some ⟨required, scan.tokens.size, scan.cursor.mark⟩))

/-- The possible key of the current collection, if its colon may still follow: on the same line and
within 1024 characters. -/
def liveKey (scan : Scan) : Except Problem (Option PossibleKey) :=
  match scan.keys.head?.join with
  | none => .ok none
  | some key =>
    if key.mark.line < scan.cursor.mark.line || key.mark.index + 1024 < scan.cursor.mark.index then
      if key.required then .error (scan.lostKey key) else .ok none
    else .ok (some key)

/-- Opens a block at a column that is further in than the current one, before the token of a number
or at the end. -/
def openBlock (scan : Scan) (column : Nat) (number : Option Nat) (kind : TokenKind) (mark : Mark) :
    Scan :=
  if scan.inFlow || !(scan.indent < (column : Int)) then scan
  else
    let opened := { scan with outer := scan.indent :: scan.outer, indent := column }
    match number with
    | some number => opened.insertAt number kind mark
    | none => opened.push kind mark

/-- Closes the blocks that are further in than a column. -/
def closeBlocks (steps : Nat) (column : Int) (mark : Mark) (scan : Scan) : Scan :=
  match steps with
  | 0 => scan
  | steps + 1 =>
    if scan.inFlow || !(column < scan.indent) then scan
    else
      closeBlocks steps column mark
        { scan.push .blockEnd mark with
          indent := scan.outer.headD (-1)
          outer := scan.outer.drop 1 }

/-- Closes the blocks that are further in than a column. -/
def unroll (scan : Scan) (column : Int) (mark : Mark) : Scan :=
  closeBlocks (scan.outer.length + 1) column mark scan

/-- Passes comments that follow one another with only blanks and breaks between them. -/
def passComments (steps : Nat) (cursor : Cursor) : Cursor :=
  match steps with
  | 0 => cursor
  | steps + 1 =>
    let ended := cursor.skipWhile (!isBreak ·)
    match passGap ended.rest.length none {} ended with
    | .ok (_, later) => if later.isAt '#' then passComments steps later else ended
    | .error _ => ended

/-- Passes blanks, comments and line breaks.  Outside of flow collections a new line may begin a
key, and a tab may not stand where a key could begin. -/
def passBlanks (steps : Nat) (scan : Scan) : Scan :=
  match steps with
  | 0 => scan
  | steps + 1 =>
    let cursor := scan.cursor
    let cursor := if cursor.mark.column == 0 && cursor.isAt '\ufeff' then cursor.skip else cursor
    let tabs := scan.inFlow || !scan.keyAllowed
    let cursor := cursor.skipWhile fun c => c == ' ' || (tabs && c == '\t')
    let cursor := if cursor.isAt '#' then passComments cursor.rest.length cursor else cursor
    if cursor.next isBreak then
      passBlanks steps
        { scan with
          cursor := cursor.takeBreak.2
          keyAllowed := scan.keyAllowed || !scan.inFlow }
    else { scan with cursor }

/-- Opens a collection between brackets or braces. -/
def openFlow (scan : Scan) (kind : TokenKind) : Except Problem Scan := do
  let scan ← scan.saveKey
  return { scan.take kind 1 with keys := none :: scan.keys, keyAllowed := true }

/-- Closes a collection between brackets or braces. -/
def closeFlow (scan : Scan) (kind : TokenKind) : Except Problem Scan := do
  let scan ← scan.dropKey
  let keys := if scan.inFlow then scan.keys.drop 1 else scan.keys
  return { scan.take kind 1 with keys, keyAllowed := false }

/-- A comma between the entries of a collection. -/
def flowEntry (scan : Scan) : Except Problem Scan := do
  let scan ← scan.dropKey
  return { scan.take .flowEntry 1 with keyAllowed := true }

/-- The dash of an entry of a block sequence. -/
def blockEntry (scan : Scan) : Except Problem Scan := do
  if !scan.inFlow && !scan.keyAllowed then
    throw (scan.problem "block sequence entries are not allowed in this context")
  let mark := scan.cursor.mark
  let scan ← (scan.openBlock mark.column none .blockSequence mark).dropKey
  return { scan.take .entry 1 with keyAllowed := true }

/-- The question mark of a key. -/
def explicitKey (scan : Scan) : Except Problem Scan := do
  if !scan.inFlow && !scan.keyAllowed then
    throw (scan.problem "mapping keys are not allowed in this context")
  let mark := scan.cursor.mark
  let scan ← (scan.openBlock mark.column none .blockMapping mark).dropKey
  return { scan.take .key 1 with keyAllowed := !scan.inFlow }

/-- The colon before a value. -/
def mappingValue (scan : Scan) : Except Problem Scan := do
  match ← scan.liveKey with
  | some key =>
    let scan := scan.insertAt key.number .key key.mark
    let scan := scan.openBlock key.mark.column (some key.number) .blockMapping key.mark
    return { (scan.setKey none).take .value 1 with keyAllowed := false }
  | none =>
    let mark := scan.cursor.mark
    if !scan.inFlow && !scan.keyAllowed then
      throw (scan.problem "mapping values are not allowed in this context")
    let scan := (scan.setKey none).openBlock mark.column none .blockMapping mark
    return { scan.take .value 1 with keyAllowed := !scan.inFlow }

/-- Characters that may follow the name of an anchor. -/
def endsAnchor (cursor : Cursor) : Bool :=
  cursor.atGap || cursor.next fun c => ['?', ':', ',', ']', '}', '%', '@', '\x60'].contains c

/-- An anchor or a reference to one. -/
def anchor (scan : Scan) (kind : String → TokenKind) : Except Problem Scan := do
  let scan ← scan.saveKey
  let start := scan.cursor.mark
  let name := scan.cursor.skip.rest.takeWhile isNameChar
  let after := scan.cursor.skipMany (name.length + 1)
  if name.isEmpty || !endsAnchor after then
    throw (.inText "did not find expected alphabetic or numeric character" start after.mark)
  return { scan.push (kind (String.ofList name)) start with cursor := after, keyAllowed := false }

/-- Characters of the rest of a tag. -/
def isTagChar (c : Char) : Bool :=
  isNameChar c || [';', '/', '?', ':', '@', '&', '=', '+', '$', '.', '%', '!', '~', '*', '\'', '(',
    ')', ',', '[', ']'].contains c

/-- The short form of a tag written in full. -/
def shortTag (full : String) : String :=
  let known := "tag:yaml.org,2002:"
  if Text.startsWith full known then "!!" ++ Text.withoutStart full known else full

/-- Reads a tag: in full between angle brackets, with a handle, or local. -/
def readTag (cursor : Cursor) : Except Problem (String × Cursor) := do
  let start := cursor.mark
  if cursor.skip.isAt '<' then
    let name := (cursor.skipMany 2).rest.takeWhile isTagChar
    let after := cursor.skipMany (name.length + 2)
    if name.isEmpty then throw (.inText "did not find expected tag URI" start after.mark)
    if !after.isAt '>' then throw (.inText "did not find the expected '>'" start after.mark)
    return (shortTag (String.ofList name), after.skip)
  let handle := cursor.skip.rest.takeWhile isNameChar
  let afterHandle := cursor.skipMany (handle.length + 1)
  if afterHandle.isAt '!' then
    let name := afterHandle.skip.rest.takeWhile isTagChar
    let after := afterHandle.skipMany (name.length + 1)
    if name.isEmpty then throw (.inText "did not find expected tag URI" start after.mark)
    return ("!" ++ String.ofList handle ++ "!" ++ String.ofList name, after)
  let name := cursor.skip.rest.takeWhile isTagChar
  return ("!" ++ String.ofList name, cursor.skipMany (name.length + 1))

/-- A tag before a node. -/
def tag (scan : Scan) : Except Problem Scan := do
  let scan ← scan.saveKey
  let start := scan.cursor.mark
  let (text, after) ← readTag scan.cursor
  if !after.atGap then
    throw (.inText "did not find expected whitespace or line break" start after.mark)
  return { scan.push (.tag text) start with cursor := after, keyAllowed := false }

/-- A scalar in a block. -/
def block (scan : Scan) (literal : Bool) : Except Problem Scan := do
  let scan ← scan.dropKey
  let (text, after) ← blockScalar literal scan.indent scan.cursor
  return { scan.push (.scalar text false) scan.cursor.mark with cursor := after, keyAllowed := true }

/-- A scalar between quotes. -/
def quotes (scan : Scan) (single : Bool) : Except Problem Scan := do
  let scan ← scan.saveKey
  let (text, after) ← quotedScalar single scan.cursor
  return { scan.push (.scalar text false) scan.cursor.mark with cursor := after, keyAllowed := false }

/-- A plain scalar. -/
def bare (scan : Scan) : Except Problem Scan := do
  let scan ← scan.saveKey
  let (text, newLine, after) ← plain scan.inFlow (scan.indent + 1) scan.cursor
  return { scan.push (.scalar text true) scan.cursor.mark with cursor := after, keyAllowed := newLine }

/-- A separator of documents. -/
def separator (scan : Scan) (kind : TokenKind) : Except Problem Scan := do
  let scan ← (scan.unroll (-1) scan.cursor.mark).dropKey
  return { scan.take kind 3 with keyAllowed := false }

/-- A directive: a line that begins with a percent sign. -/
def directive (scan : Scan) : Except Problem Scan := do
  let scan ← (scan.unroll (-1) scan.cursor.mark).dropKey
  let start := scan.cursor.mark
  let name := String.ofList (scan.cursor.skip.rest.takeWhile isNameChar)
  let line := scan.cursor.rest.takeWhile (!isBreak ·)
  if name.isEmpty then
    throw (.inText "could not find expected directive name" start scan.cursor.skip.mark)
  if name != "YAML" && name != "TAG" then
    throw (.inText "found unknown directive name" start scan.cursor.skip.mark)
  let version := Text.trim (String.ofList ((line.drop 5).takeWhile (· != '#')))
  let kind := if name == "YAML" then TokenKind.version version else .directive
  return { (scan.push kind start) with cursor := scan.cursor.skipMany line.length, keyAllowed := false }

/-- The end of the document, which counts as the start of a new line. -/
def finish (scan : Scan) : Except Problem Scan := do
  let mark := scan.cursor.mark
  let mark := if mark.column == 0 then mark else { mark with line := mark.line + 1, column := 0 }
  let scan := { scan with cursor := { scan.cursor with mark } }
  let scan ← (scan.unroll (-1) mark).dropKey
  return scan.push .streamEnd mark

/-- Whether a plain scalar may begin with these characters. -/
def startsPlain (scan : Scan) : Bool :=
  match scan.cursor.rest with
  | [] => false
  | c :: after =>
    let gapFollows := scan.cursor.skip.atGap
    if c == '-' then !(after.head?.any isBlank)
    else if c == '?' || c == ':' then !scan.inFlow && !gapFollows
    else !(isBlank c || isBreak c || [',', '[', ']', '{', '}', '#', '&', '*', '!', '|', '>', '\'', '"',
      '%', '@', '\x60'].contains c)

/-- Reads the next token. -/
def next (scan : Scan) : Except Problem Scan :=
  let before := scan.cursor.mark
  let scan := passBlanks (scan.cursor.rest.length + 1) scan
  let cursor := scan.cursor
  let scan := scan.unroll cursor.mark.column before
  let gapFollows := cursor.skip.atGap
  match cursor.rest with
  | [] => scan.finish
  | c :: _ =>
    if cursor.mark.column == 0 && c == '%' then scan.directive
    else if cursor.atMarker '-' then scan.separator .documentStart
    else if cursor.atMarker '.' then scan.separator .documentEnd
    else if c == '[' then scan.openFlow .flowSequence
    else if c == '{' then scan.openFlow .flowMapping
    else if c == ']' then scan.closeFlow .flowSequenceEnd
    else if c == '}' then scan.closeFlow .flowMappingEnd
    else if c == ',' then scan.flowEntry
    else if c == '-' && gapFollows then scan.blockEntry
    else if c == '?' && (scan.inFlow || gapFollows) then scan.explicitKey
    else if c == ':' && (scan.inFlow || gapFollows) then scan.mappingValue
    else if c == '*' then scan.anchor .alias
    else if c == '&' then scan.anchor .anchor
    else if c == '!' then scan.tag
    else if c == '|' && !scan.inFlow then scan.block true
    else if c == '>' && !scan.inFlow then scan.block false
    else if c == '\'' then scan.quotes true
    else if c == '"' then scan.quotes false
    else if scan.startsPlain then scan.bare
    else .error (scan.problem "found character that cannot start any token")

/-- The tokens that a reader of tokens meets before a problem: the reader looks two tokens ahead,
and further while a key may begin at the token. -/
def metBefore (scan : Scan) : List Token :=
  let ahead := scan.tokens.size - 1
  let least := scan.keys.foldl (fun n key => match key with
    | some key => if scan.cursor.mark.line ≤ key.mark.line then min n key.number else n
    | none => n) ahead
  scan.tokens.toList.take least

/-- Reads all tokens, ending with the end of the document or a problem. -/
def run (steps : Nat) (scan : Scan) : List Token :=
  match steps with
  | 0 => scan.tokens.toList
  | steps + 1 =>
    match scan.next with
    | .error problem => scan.metBefore ++ [⟨.broken problem, scan.cursor.mark⟩]
    | .ok scan =>
      if scan.tokens.back?.any (·.kind == .streamEnd) then scan.tokens.toList else run steps scan

end Scan

/-- Characters that a document may contain. -/
def isAllowed (c : Char) : Bool :=
  let code := c.toNat
  code == 9 || code == 10 || code == 13 || (32 ≤ code && code ≤ 126) || code == 0x85 ||
    (0xA0 ≤ code && code ≤ 0xFFFD) || 0x10000 ≤ code

/-- The tokens of a document. -/
def tokens (document : String) : List Token :=
  let characters := match document.toList with
    | '\ufeff' :: rest => rest
    | cs => cs
  if characters.all isAllowed then Scan.run (characters.length + 2) { cursor := { rest := characters } }
  else [⟨.broken ⟨"control characters are not allowed", 0⟩, {}⟩]

end Yaml
end BigScript
