import BigScript.Markdown.Block
import BigScript.Markdown.Line

/-!
# Finding the blocks of a text

Lines are taken one after the other.  The blocks that are still open are kept as a stack: those that
hold others, and below them at most one that holds lines.  A line first passes the marks of the open
blocks, then opens new blocks, and what is left of it is text.
-/

/-!
## Tables

A table is a part of a paragraph: the line of its header, a line that tells how its columns are
aligned, and its rows.
-/

namespace BigScript
namespace Markdown
namespace Table

/-- The alignment that an entry of the second line stands for; the result is missing if the entry is
not well formed. -/
def align? (entry : List Char) : Option (Option Align) :=
  let trimmed := trimRight (trimLeft entry)
  let (left, rest) := match trimmed with
    | ':' :: rest => (true, rest)
    | rest => (false, rest)
  let dashes := rest.takeWhile (· == '-')
  if dashes.isEmpty then none
  else
    match left, rest.drop dashes.length with
    | false, [] => some none
    | true, [] => some (some .left)
    | false, [':'] => some (some .right)
    | true, [':'] => some (some .center)
    | _, _ => none

/-- Drops an empty entry at the start and at the end. -/
def withoutEdges (entries : List (List Char)) : List (List Char) :=
  let entries := match entries with
    | first :: rest => if isEmptyLine first then rest else entries
    | [] => []
  match entries.getLast? with
  | some last => if isEmptyLine last then entries.dropLast else entries
  | none => entries

/-- The alignments that a line stands for, at least one.  A line of nothing but dashes stands for none,
but the end of a line is more than dashes. -/
def aligns? (line : List Char) : Option (List (Option Align)) :=
  let fits (c : Char) : Bool := isBlank c || c == '-' || c == '|' || c == ':'
  if 3 < Line.indentOf 0 line || line.all (· == '-') || !line.all fits then none
  else
    match (withoutEdges (Text.splitChars ['|'] line)).mapM align? with
    | some [] => none
    | found => found

/-- Splits a row at the bars that no backslash precedes.  `before` is the character read last. -/
def splitRow (before : Char) (cell : List Char) : List Char → List (List Char)
  | [] => [cell.reverse]
  | '|' :: cs =>
    if before == '\\' then splitRow '|' ('|' :: cell) cs
    else cell.reverse :: splitRow '|' [] cs
  | c :: cs => splitRow c (c :: cell) cs

/-- The texts of the cells of a row.  The bars at both of its ends do not count, and nothing after the
last bar is no cell. -/
def texts (line : List Char) : List (List Char) :=
  let body := match trimRight (trimLeft line) with
    | '|' :: rest => rest
    | rest => rest
  let cells := splitRow ' ' [] (if body.getLast? == some '|' then body.dropLast else body)
  let cells := if cells.getLast? == some [] then cells.dropLast else cells
  cells.map fun cell => trimRight (trimLeft cell)

/-- The cells of a row: as many as the table has columns. -/
def row (aligns : List (Option Align)) (line : List Char) : List Cell :=
  let found := List.zipWith (fun content align => (⟨content, align⟩ : Cell)) (texts line) aligns
  found ++ List.replicate (aligns.length - found.length) ⟨[], none⟩

/-- A table that begins with the header `header`, followed by `lines`.  The inner result is missing if
the header has more cells than the table has columns. -/
def ofLines? (header : List Char) (lines : List (List Char)) : Option (Option Block) :=
  match lines with
  | [] => none
  | second :: rows =>
    (aligns? second).map fun aligns =>
      if aligns.length < (texts header).length then none
      else some (.table (row aligns header) (rows.map (row aligns)))

/-- Splits a paragraph at its table: the number of lines before it and the table. -/
def split (before : Nat) : List (List Char) → Option (Nat × Block)
  | [] => none
  | line :: rest =>
    match ofLines? line rest with
    | some table => table.map fun table => (before, table)
    | none => split (before + 1) rest

end Table
end Markdown
end BigScript

/-! ## Taking lines -/

namespace BigScript
namespace Markdown

/-- A block that holds others. -/
inductive Container where
  | quote
  | list (mark : Char) (start : Option Nat)
  /-- The lines of an item are indented by its width. -/
  | item (width : Nat)

/-- A finished block, with whether an empty line stands before it and whether one stands between the
blocks that it holds. -/
structure Child where
  block : Block
  afterBlank : Bool := false
  gaps : Bool := false

/-- An open block that holds others, the last of them first. -/
structure Frame where
  container : Container
  afterBlank : Bool := false
  children : List Child := []

/-- An open block that holds lines, the last of them first. -/
inductive Leaf where
  | none
  | paragraph (lines : List Line)
  /-- Code between marks; `indent` is the number of spaces and tabs before the first of them. -/
  | fenced (mark : Char) (count indent : Nat) (language : Option (List Char))
    (code : List (List Char))
  | indented (code : List (List Char))
  | tags (block : TagBlock)

/-- The state of finding blocks.  The frames have the innermost first. -/
structure Outline where
  frames : List Frame := []
  /-- The finished blocks outside of all frames, the last of them first. -/
  children : List Child := []
  leaf : Leaf := .none
  leafAfterBlank : Bool := false
  targets : Targets := []
  /-- The number of frames within which the last line was empty, if it was. -/
  blankWithin : Option Nat := none
  /-- Whether an empty line follows an item without content, and no item has begun since. -/
  deserted : Bool := false
  /-- Set after a line that has closed a block of tags together with its own end: the next line stands
  within all open frames, whatever it begins with.  The value tells whether an empty line stands before
  what it opens. -/
  inside : Option Bool := none

namespace Outline

/-- Adds a finished block to the innermost frame. -/
def add (outline : Outline) (child : Child) : Outline :=
  match outline.frames with
  | frame :: outer =>
    { outline with frames := { frame with children := child :: frame.children } :: outer }
  | [] => { outline with children := child :: outline.children }

/-- Takes a paragraph apart: the targets known after its definitions, its other lines before a table,
and the table. -/
def settle (targets : Targets) (lines : List Line) : Targets × List Line × Option Block :=
  let text := (lines.map Line.text).flatten
  let (targets, taken) :=
    Target.definitions (lines.length + 1) (Passage.lineEnds text) targets text
  let lines := Target.without 0 taken lines
  match Table.split 0 (lines.map Line.text) with
  | some (count, table) => (targets, lines.take count, some table)
  | none => (targets, lines, none)

/-- Lines without the blanks before them and without those after the last one. -/
def tidied (lines : List Line) : List Line :=
  let begun := lines.map Line.begun
  match begun.getLast? with
  | some last => begun.dropLast ++ [{ last with content := trimRight last.content }]
  | none => []

/-- Drops the empty lines at the end, where they come first. -/
def dropEmptyLines (lines : List (List Char)) : List (List Char) := lines.dropWhile isEmptyLine

/-- Adds what is left of a paragraph whose lines are all taken: a table, or nothing but its place. -/
def addRemains (afterBlank : Bool) (table : Option Block) (outline : Outline) : Outline :=
  match table with
  | some table => outline.add { block := table }
  | none => outline.add { block := .bare ⟨[], []⟩, afterBlank }

/-- Finishes the open block that holds lines. -/
def closeLeaf (outline : Outline) : Outline :=
  let afterBlank := outline.leafAfterBlank
  let closed := { outline with leaf := .none }
  match outline.leaf with
  | .none => closed
  | .paragraph lines =>
    match settle outline.targets lines.reverse with
    | (targets, [], table) => { closed with targets }.addRemains afterBlank table
    | (targets, before, table) =>
      let block := Block.paragraph (.ofLines before)
      let added := { closed with targets }.add { block, afterBlank }
      match table with
      | some table => added.add { block := table }
      | none => added
  | .fenced _ _ _ language code =>
    closed.add { block := .code language code.reverse.flatten, afterBlank }
  | .indented code =>
    closed.add { block := .code none (dropEmptyLines code).reverse.flatten, afterBlank }
  | .tags _ => closed.add { block := .tags false, afterBlank }

/-- A block in a list without gaps. -/
def bareBlock : Block → Block
  | .paragraph passage => .bare passage
  | block => block

/-- An item of a list without gaps. -/
def bareItem : Block → Block
  | .item children => .item (children.map bareBlock)
  | block => block

/-- Whether a list has gaps: empty lines between its items or between the blocks of one. -/
def hasGaps (items : List Child) : Bool :=
  items.any Child.gaps || (items.drop 1).any Child.afterBlank

/-- What a frame becomes when it is finished. -/
def finished (frame : Frame) : Child :=
  let afterBlank := frame.afterBlank
  let children := frame.children.reverse
  let blocks := children.map Child.block
  match frame.container with
  | .quote => { block := .quote blocks, afterBlank }
  | .item _ => { block := .item blocks, afterBlank, gaps := (children.drop 1).any Child.afterBlank }
  | .list _ start =>
    { block := .list start (if hasGaps children then blocks else blocks.map bareItem), afterBlank }

/-- Finishes the innermost frame. -/
def closeFrame (outline : Outline) : Outline :=
  let outline := outline.closeLeaf
  match outline.frames with
  | [] => outline
  | frame :: outer => { outline with frames := outer }.add (finished frame)

/-- Finishes a number of frames, and the block that holds lines. -/
def closeFrames : (count : Nat) → Outline → Outline
  | 0, outline => outline.closeLeaf
  | count + 1, outline => closeFrames count outline.closeFrame

/-- Whether a frame that is the innermost one holds nothing. -/
def isVacant (outline : Outline) : Bool :=
  match outline.frames, outline.leaf with
  | frame :: _, .none => frame.children.isEmpty
  | _, _ => false

/-- Whether a line stays within a list, the last item of which has a width.  An item that is not
indented as far, or that follows an item without content, continues the list if its mark is the same;
no other line that is indented less stays, nor does any line after a deserted item. -/
def staysInList (deserted vacant : Bool) (mark : Char) (width : Nat) (line : Line) : Bool :=
  if line.isEmpty then true
  else
    let marker :=
      if (line.indent < width || vacant) && line.indent < 4 then Line.marker? line.text else none
    match marker with
    | some found => found.mark == mark && !Line.isRule (line.text.drop (found.size - 1))
    | none => width ≤ line.indent && !deserted

/-- What is left of a line within an item.  Of an empty line, only its end is left. -/
def withinItem? (deserted vacant : Bool) (width : Nat) (line : Line) : Option Line :=
  if line.isEmpty then some line.ending
  else if ((deserted && vacant) || line.indent < width) && line.indent < 4 then none
  else line.dropIndent? width

/-- How far a line passes the open frames. -/
structure Progress where
  /-- The number of frames passed. -/
  passed : Nat := 0
  /-- What is left of the line. -/
  line : Line
  /-- The number of frames within which the line is empty, if it is. -/
  blankWithin : Option Nat := none
  deserted : Bool

/-- Notes whether the line is empty within the frames that it has passed. -/
def Progress.noted (progress : Progress) : Progress :=
  { progress with
    blankWithin :=
      progress.blankWithin <|> (if progress.line.isEmpty then some progress.passed else none) }

/-- Passes the frames, given from the outside to the inside.  `vacant` tells that the last of them
holds nothing. -/
def pass (vacant : Bool) (progress : Progress) : List Frame → Progress
  | [] => progress.noted
  | frame :: inner =>
    let progress := progress.noted
    let line := progress.line
    let deserted := progress.deserted
    match frame.container with
    | .quote =>
      match line.quoted? with
      | some rest => pass vacant { progress with passed := progress.passed + 1, line := rest } inner
      | none => progress
    | .item width =>
      match withinItem? deserted (vacant && inner.isEmpty) width line with
      | some rest => pass vacant { progress with passed := progress.passed + 1, line := rest } inner
      | none => progress
    | .list mark _ =>
      let vacantItem := vacant && inner.length == 1
      let width := match inner with
        | { container := .item width, .. } :: _ => width
        | _ => 0
      if staysInList deserted vacantItem mark width line then
        pass vacant
          { progress with
            passed := progress.passed + 1
            deserted := deserted || (line.isEmpty && vacantItem) }
          inner
      else progress

/-- Where a line stands while it opens blocks. -/
structure Place where
  /-- The frames that the line did not pass. -/
  unpassed : Nat
  /-- Whether an empty line stands before it. -/
  afterBlank : Bool
  /-- Whether the line has opened a block. -/
  opened : Bool := false

/-- Whether the open paragraph may go on. -/
def inParagraph (place : Place) (outline : Outline) : Bool :=
  !place.opened && match outline.leaf with
    | .paragraph _ => true
    | _ => false

/-- Finishes what the line has not passed. -/
def leave (place : Place) (outline : Outline) : Outline :=
  if place.opened then outline else outline.closeFrames place.unpassed

/-- Adds a block that takes the rest of the line. -/
def addBlock (place : Place) (block : Block) (outline : Outline) : Outline :=
  (outline.leave place).add { block, afterBlank := place.afterBlank }

/-- Opens a block that holds lines. -/
def openLeaf (place : Place) (leaf : Leaf) (outline : Outline) : Outline :=
  { outline.leave place with leaf, leafAfterBlank := place.afterBlank }

/-- Opens a block that holds others. -/
def push (place : Place) (container : Container) (outline : Outline) : Outline :=
  { outline with frames := { container, afterBlank := place.afterBlank } :: outline.frames }

/-- Opens an item, in the open list if the line has left only an item of it. -/
def openItem (place : Place) (mark : Char) (start : Option Nat) (width : Nat) (outline : Outline) :
    Outline :=
  let left := { outline.leave place with deserted := false }
  match left.frames with
  | { container := .list _ _, .. } :: _ => left.push place (.item width)
  | _ => (left.push place (.list mark start)).push place (.item width)

/-- The item that a line begins: its mark, its number, its width and what is left of the line.  In a
paragraph only items with content begin, and of numbered ones only the first.  The gap after the mark
belongs to it, unless it is wider than four columns; a tab in it reaches as far as if the line began
with the mark's own margin. -/
def item? (inParagraph : Bool) (line : Line) : Option (Char × Option Nat × Nat × Line) :=
  match Line.marker? line.text with
  | none => none
  | some marker =>
    let vacant := isEmptyLine marker.rest
    if inParagraph && (vacant || marker.number.any (· != 1)) then none
    else
      let gap := Line.indentOf marker.size marker.rest
      let gap := if vacant || 4 < gap then 1 else gap
      let (count, beyond) := (Line.reach? marker.size gap 0 marker.rest).getD (0, 0)
      some (marker.mark, marker.number, marker.size + gap,
        (line.skip (marker.size + count)).padded beyond)

/-- Adds a line to the open paragraph. -/
def extendParagraph (line : Line) (outline : Outline) : Outline :=
  match outline.leaf with
  | .paragraph lines => { outline with leaf := .paragraph (line :: lines) }
  | _ => outline

/-- Underlines the open paragraph, and tells whether it has become a heading: it has not if nothing of
it is left after its definitions and tables. -/
def underline (level : Nat) (outline : Outline) : Outline × Bool :=
  match outline.leaf with
  | .paragraph lines =>
    let afterBlank := outline.leafAfterBlank
    let closed := { outline with leaf := .none }
    match settle outline.targets (tidied lines.reverse) with
    | (targets, [], table) => ({ closed with targets }.addRemains afterBlank table, false)
    | (targets, before, table) =>
      let closed := match table with
        | some table => { closed with targets }.add { block := table }
        | none => { closed with targets }
      (closed.add { block := .heading level (.ofLines before), afterBlank }, true)
  | _ => (outline, false)

/-- The language of a block of code: the first word of the text after its marks. -/
def language? (text : List Char) : Option (List Char) :=
  if text.isEmpty then none else some (text.takeWhile (· != ' '))

/-- The block that a line opens that takes all of it. -/
def openWhole? (place : Place) (line : Line) (outline : Outline) : Option Outline :=
  if Passage.size line.text ≤ line.indent then none
  else
    match Line.heading? line.body, Line.fence? line.body with
    | some (level, content), _ => some (outline.addBlock place (.heading level ⟨content, []⟩))
    | none, some (mark, count, info) =>
      some (outline.openLeaf place (.fenced mark count line.indentSize (language? info) []))
    | none, none =>
      (Line.tagBlock? (outline.inParagraph place) line.text).map fun block =>
        if Line.endsTags block line.text then outline.addBlock place (.tags false)
        else outline.openLeaf place (.tags block)

/-- Whether the line stands in the same frame as the open paragraph. -/
def besideParagraph (place : Place) (outline : Outline) : Bool :=
  outline.inParagraph place && place.unpassed == 0

/-- Opens the blocks that begin with what is left of a line.  The first argument bounds their
number. -/
def openBlocks (steps : Nat) (place : Place) (line : Line) (outline : Outline) : Outline :=
  match steps with
  | 0 => outline
  | steps + 1 =>
    if line.isEmpty then outline.leave place
    else if 4 ≤ line.indent then
      if outline.inParagraph place then outline.extendParagraph line
      else outline.openLeaf place (.indented line.indentedCode?.toList)
    else
      match if outline.besideParagraph place then Line.underline? line.text else none with
      | some level =>
        match outline.underline level with
        | (outline, true) => outline
        | (outline, false) => openBlocks steps place line outline
      | none =>
        if Line.isRule line.body then outline.addBlock place .rule
        else
          match item? (outline.besideParagraph place) line with
          | some (mark, number, width, rest) =>
            openBlocks steps { place with opened := true } rest
              (outline.openItem place mark number width)
          | none =>
            match line.quoted? with
            | some rest =>
              openBlocks steps { place with opened := true } rest
                ((outline.leave place).push place .quote)
            | none =>
              match outline.openWhole? place line with
              | some outline => outline
              | none =>
                if outline.inParagraph place then outline.extendParagraph line
                else outline.openLeaf place (.paragraph [line])

/-- Takes what is left of a line that has passed all frames.  A block of code or of tags that is open
takes it whole. -/
def takeWithin (place : Place) (line : Line) (outline : Outline) : Outline :=
  let opening := openBlocks (line.text.length + 2) place line outline
  match outline.leaf with
  | .fenced mark count indent language code =>
    if Line.closesFence mark count line then outline.closeLeaf
    else
      let code := Line.fencedCode indent line :: code
      { outline with leaf := .fenced mark count indent language code }
  | .indented code =>
    match line.indentedCode? with
    | some more => { outline with leaf := .indented (more :: code) }
    | none => opening
  | .tags .upToBlank => if line.isEmpty then outline.closeLeaf else outline
  | .tags block =>
    if Line.endsTags block line.text then
      let inside := match block with
        | .upTo _ => some place.afterBlank
        | _ => none
      { outline with leaf := .none, inside }.add
        { block := .tags true, afterBlank := outline.leafAfterBlank }
    else outline
  | _ => opening

/-- Takes a line. -/
def takeLine (outline : Outline) (content : List Char) : Outline :=
  let line : Line := { content }
  match outline.inside with
  | some afterBlank =>
    let outline := { outline with inside := none, blankWithin := none }
    openBlocks (content.length + 2) { unpassed := 0, afterBlank } line outline
  | none =>
    let frames := outline.frames.reverse
    let progress := pass outline.isVacant { line, deserted := outline.deserted } frames
    let place : Place :=
      { unpassed := frames.length - progress.passed
        afterBlank := outline.blankWithin.any (· ≤ progress.passed) }
    let outline := { outline with deserted := progress.deserted, blankWithin := progress.blankWithin }
    if progress.line.isOver then outline
    else if place.unpassed == 0 then outline.takeWithin place progress.line
    else openBlocks (content.length + 2) place progress.line outline

/-- Finds the blocks of lines. -/
def ofLines (lines : List (List Char)) : Outline :=
  let outline := lines.foldl takeLine {}
  outline.closeFrames outline.frames.length

end Outline

/-- The lines of a text, with their ends; `begun` is the line read so far, the last character first. -/
def textLines (begun : List Char) : List Char → List (List Char)
  | [] => if begun.isEmpty then [] else [begun.reverse]
  | c :: cs =>
    if c == '\n' then (c :: begun).reverse :: textLines [] cs else textLines (c :: begun) cs

/-- The page that a text in Markdown stands for. -/
def page (text : String) : String :=
  let outline := Outline.ofLines (textLines [] text.toList)
  Block.htmlAll outline.targets (outline.children.reverse.map Child.block)

end Markdown
end BigScript
