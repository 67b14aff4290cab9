import BigScript.Markdown.Inline
import BigScript.Markdown.Tag
import BigScript.Markdown.Target

/-!
# Reading a text

A text is read from left to right into pieces.  A bracket that closes makes a link of the pieces since
the last one that opened, if a target follows or the pieces are a label.
-/

/-!
## Emphasis

Runs of stars, underscores and tildes may open or close emphasis.  Which of them do is decided from
left to right: a run that can close is paired with the nearest run before it that can open.
-/

namespace BigScript
namespace Markdown

/-- A run of marks.  `count` marks of it are still to be used. -/
structure Run where
  mark : Char
  count : Nat
  written : Nat
  opens : Bool
  closes : Bool

/-- A piece of a text while its parts are being found. -/
inductive Piece where
  | part (made : Inline)
  | run (marks : Run)
  /-- A bracket that may begin a link, with what follows it. -/
  | bracket (image : Bool) (rest : List Char)

namespace Run

/-- A run of marks between two characters. -/
def ofContext (mark : Char) (count : Nat) (before after : Char) : Run :=
  let left := !isAnyBlank after &&
    (!isAnyPunctuation after || isAnyBlank before || isAnyPunctuation before)
  let right := !isAnyBlank before &&
    (!isAnyPunctuation before || isAnyBlank after || isAnyPunctuation after)
  if mark == '_' then
    { mark, count, written := count
      opens := left && (!right || isAnyPunctuation before)
      closes := right && (!left || isAnyPunctuation after) }
  else { mark, count, written := count, opens := left, closes := right }

/-- How many marks of two runs form a pair. -/
def paired (opener closer : Run) : Nat :=
  if !opener.opens || opener.mark != closer.mark then 0
  else if (opener.closes || closer.opens) && (opener.written + closer.written) % 3 == 0 &&
      closer.written % 3 != 0 then 0
  else if 2 ≤ opener.count && 2 ≤ closer.count then 2
  else 1

/-- The marks of a run that are left over. -/
def leftover (run : Run) : List Char := List.replicate run.count run.mark

/-- What a pair of marks makes of what it encloses. -/
def enclose (run : Run) (used : Nat) (children : List Inline) : Inline :=
  if run.mark == '~' then .struck children
  else if used == 2 then .strong children
  else .emphasis children

end Run

namespace Piece

/-- A piece that has not become part of anything else. -/
def settled : Piece → Inline
  | .part made => made
  | .run marks => .text marks.leftover
  | .bracket image _ => .text (if image then ['!', '['] else ['['])

/-- Splits the pieces before a closing run, the last of them first, at the run that it is paired
with: the number of marks in the pair, the opening run, the pieces within, and those before. -/
def opener? (closer : Run) (within : List Piece) :
    List Piece → Option (Nat × Run × List Piece × List Piece)
  | [] => none
  | .run marks :: before =>
    match marks.paired closer with
    | 0 => opener? closer (.run marks :: within) before
    | used => some (used, marks, within, before)
  | piece :: before => opener? closer (piece :: within) before

/-- Pairs the runs of some pieces.  The pieces before are kept with the last first; the first argument
bounds the number of steps. -/
def pairFrom (steps : Nat) (before : List Piece) (pieces : List Piece) : List Piece :=
  match steps, pieces with
  | 0, pieces => before.reverse ++ pieces
  | _, [] => before.reverse
  | steps + 1, .run marks :: rest =>
    if !marks.closes then pairFrom steps (.run marks :: before) rest
    else
      match opener? marks [] before with
      | none =>
        let kept : Piece := if marks.opens then .run marks else .part (.text marks.leftover)
        pairFrom steps (kept :: before) rest
      | some (used, opening, within, outer) =>
        let made := marks.enclose used (within.map settled)
        let outer :=
          if used < opening.count then .run { opening with count := opening.count - used } :: outer
          else outer
        let rest :=
          if used < marks.count then .run { marks with count := marks.count - used } :: rest else rest
        pairFrom steps (.part made :: outer) rest
  | steps + 1, piece :: rest => pairFrom steps (piece :: before) rest

/-- The number of steps that pairing can take: one for each piece and one for each mark. -/
def weight : List Piece → Nat
  | [] => 0
  | .run marks :: rest => marks.count + 1 + weight rest
  | _ :: rest => 1 + weight rest

/-- The parts that some pieces form. -/
def parts (pieces : List Piece) : List Inline :=
  (pairFrom (weight pieces + 1) [] pieces).map settled

end Piece
end Markdown
end BigScript

/-! ## Reading from left to right -/

namespace BigScript
namespace Markdown
namespace Span

/-- The state of reading a text.  The pieces and the plain characters have the last first; `before`
is the character read last. -/
structure State where
  pieces : List Piece := []
  plain : List Char := []
  before : Char := '\n'

/-- Plain characters become a piece. -/
def State.flush (state : State) : State :=
  if state.plain.isEmpty then state
  else
    { state with
      pieces := .part (.text (resolve state.plain.reverse)) :: state.pieces
      plain := [] }

/-- Adds a piece after the plain characters. -/
def State.push (state : State) (before : Char) (piece : Piece) : State :=
  { state.flush with pieces := piece :: state.flush.pieces, before }

/-- Adds a plain character. -/
def State.char (state : State) (c : Char) : State :=
  { state with plain := c :: state.plain, before := c }

/-- The plain characters of a line, the last first, without what ends the line, and the break between
it and the next.  A backslash, or two spaces, before its end force a break; other blanks are dropped. -/
def lineBreak (plain : List Char) : List Char × Inline :=
  let body := match plain with
    | '\r' :: rest => rest
    | plain => plain
  let soft := (plain.dropWhile isBlank, Inline.softBreak)
  match body with
  | ['\\'] => ([], .hardBreak)
  | '\\' :: c :: rest => if c == '\\' then soft else (c :: rest, .hardBreak)
  | ' ' :: ' ' :: rest => (rest.dropWhile isBlank, .hardBreak)
  | _ => soft

/-- Ends a line, after which `before` stands in the file before the next one. -/
def State.endLine (state : State) (before : Char) : State :=
  let (plain, part) := lineBreak state.plain
  { state with plain }.push before (.part part)

/-- Takes characters up to a run of exactly some backticks. -/
def untilTicks? (count : Nat) : (steps : Nat) → List Char → Option (List Char × List Char)
  | 0, _ => none
  | _, [] => none
  | steps + 1, c :: cs =>
    if c == '\x60' then
      let run := (c :: cs).takeWhile (· == '\x60')
      let rest := (c :: cs).drop run.length
      if run.length == count then some ([], rest)
      else (untilTicks? count steps rest).map fun (taken, rest) => (run ++ taken, rest)
    else (untilTicks? count steps cs).map fun (taken, rest) => (c :: taken, rest)

/-- The content of a code span: one blank at each end is dropped unless all is blank. -/
def codeContent (cs : List Char) : List Char :=
  let isEdge (c : Char) : Bool := c == ' ' || c == '\n'
  if !isEmptyLine cs && cs.head?.any isEdge && cs.getLast?.any isEdge
  then (cs.drop 1).dropLast else cs

/-- Splits pieces, the last of them first, at the last bracket: whether it begins an image, what
follows it, the pieces after it and those before it. -/
def lastBracket? (within : List Piece) :
    List Piece → Option (Bool × List Char × List Piece × List Piece)
  | [] => none
  | .bracket image rest :: before => some (image, rest, within, before)
  | piece :: before => lastBracket? (piece :: within) before

/-- The target of a link whose label was read, given what follows the closing bracket. -/
def target? (targets : Targets) (label cs : List Char) : Option (Target × List Char) :=
  let shortcut := (Target.follow? targets label).map fun target => (target, cs)
  match cs with
  | '(' :: rest =>
    match Target.inParentheses? rest with
    | some found => some found
    | none => shortcut
  | '[' :: rest =>
    match Target.closure? '[' ']' rest with
    | some (name, rest) =>
      (Target.follow? targets (if isEmptyLine name then label else name)).map fun target =>
        (target, rest)
    | none => shortcut
  | _ => shortcut

/-- The brackets among pieces: whether each begins an image, and what follows it. -/
def brackets : List Piece → List (Bool × List Char)
  | [] => []
  | .bracket image rest :: pieces => (image, rest) :: brackets pieces
  | _ :: pieces => brackets pieces

/-- The number of bytes from the first open bracket to the end of the last one, given the pieces with
the last of them first. -/
def openSpan (margins : List (List Char)) (pieces : List Piece) : Nat :=
  let found := brackets pieces
  match found.head?, found.getLast? with
  | some (_, last), some (image, first) =>
    (if image then 2 else 1) + Passage.size (Passage.between margins first last)
  | _, _ => 0

/-- Open brackets that reach farther than this leave no room for a link. -/
def longestOpenSpan : Nat := 998

/-- Takes a closing bracket; `cs` follows it. -/
def closeBracket (targets : Targets) (margins : List (List Char)) (state : State) (cs : List Char) :
    State × List Char :=
  let state := state.flush
  match lastBracket? [] state.pieces with
  | none => (state.char ']', cs)
  | some (image, rest, within, outer) =>
    let open' : Piece := .part (Piece.bracket image rest).settled
    let unlinked := ({ state with pieces := within.reverse ++ open' :: outer }.char ']', cs)
    if longestOpenSpan < openSpan margins outer then unlinked
    else if !image && Inline.anyLink (within.map Piece.settled) then unlinked
    else
      match target? targets (Passage.between margins rest (']' :: cs)) cs with
      | none => unlinked
      | some (target, rest) =>
        let children := Piece.parts within
        let made :=
          if image then Inline.image target.destination target.title children
          else Inline.link target.destination target.title children
        ({ state with pieces := .part made :: outer, before := ')' }, rest)

/-- Takes what follows an opening angle bracket. -/
def angle (state : State) (cs : List Char) : State × List Char :=
  match Tag.mail? cs, Tag.address? cs, Tag.after? cs with
  | some (content, rest), _, _ => (state.push '>' (.part (.address true content)), rest)
  | none, some (content, rest), _ => (state.push '>' (.part (.address false content)), rest)
  | none, none, some rest => (state.push '>' (.part .tag), rest)
  | none, none, none => (state.char '<', cs)

/-- Takes a run of backticks, after which `cs` follows. -/
def ticks (state : State) (count : Nat) (cs : List Char) : State × List Char :=
  match untilTicks? count (cs.length + 1) cs with
  | some (content, rest) => (state.push '\x60' (.part (.code (codeContent content))), rest)
  | none => (state.push '\x60' (.part (.text (List.replicate count '\x60'))), cs)

/-- Takes a run of marks, after which `cs` follows.  More than two tildes together are plain. -/
def marks (state : State) (mark : Char) (count : Nat) (cs : List Char) : State × List Char :=
  if mark == '~' && (2 < count || state.before == '~') then
    ({ state with plain := List.replicate count mark ++ state.plain, before := mark }, cs)
  else
    (state.push mark (.run (.ofContext mark count state.before (cs.headD ' '))), cs)

/-- Reads a text.  The third argument bounds the number of steps. -/
def read (targets : Targets) (margins : List (List Char)) (steps : Nat) (state : State)
    (cs : List Char) : State :=
  match steps, cs with
  | 0, _ => state
  | _, [] => state
  | steps + 1, '\n' :: rest =>
    read targets margins steps (state.endLine (Passage.characterBefore margins rest)) rest
  | steps + 1, '\\' :: c :: rest =>
    if isPunctuation c then read targets margins steps ((state.char '\\').char c) rest
    else read targets margins steps (state.char '\\') (c :: rest)
  | steps + 1, '!' :: '[' :: rest =>
    read targets margins steps (state.push '[' (.bracket true rest)) rest
  | steps + 1, '[' :: rest => read targets margins steps (state.push '[' (.bracket false rest)) rest
  | steps + 1, ']' :: rest =>
    let (state, rest) := closeBracket targets margins state rest
    read targets margins steps state rest
  | steps + 1, '<' :: rest =>
    let (state, rest) := angle state rest
    read targets margins steps state rest
  | steps + 1, c :: rest =>
    if c == '\x60' || c == '*' || c == '_' || c == '~' then
      let run := (c :: rest).takeWhile (· == c)
      let after := (c :: rest).drop run.length
      let (state, rest) :=
        if c == '\x60' then ticks state run.length after else marks state c run.length after
      read targets margins steps state rest
    else read targets margins steps (state.char c) rest

end Span

/-- The parts of a passage. -/
def inlines (targets : Targets) (passage : Passage) : List Inline :=
  let content := trimRight passage.content
  Piece.parts
    (Span.read targets passage.margins (content.length + 1) {} content).flush.pieces.reverse

end Markdown
end BigScript
