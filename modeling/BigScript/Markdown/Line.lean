import BigScript.Markdown.Inline
import BigScript.Markdown.Tag

/-!
# Lines

What is left of a line after the marks of the blocks around it, and which block begins there.  A tab
reaches to the next column that is a multiple of four; of a tab that a mark takes only in part, spaces
are left.  The end of a line belongs to it.
-/

namespace BigScript
namespace Markdown

/-- What is left of a line. -/
structure Line where
  /-- What stood before it, the last character first. -/
  margin : List Char := []
  /-- The column at which `content` begins. -/
  column : Nat := 0
  /-- The spaces that a tab has left before `content`. -/
  padding : Nat := 0
  content : List Char

/-- What ends a block of tags. -/
inductive TagBlock where
  /-- The block ends with a line that closes an element whose content is kept as it is. -/
  | verbatim
  /-- The block ends with a line that holds a text. -/
  | upTo (ending : String)
  /-- The block ends before an empty line. -/
  | upToBlank

/-- The mark of a list item. -/
structure Marker where
  mark : Char
  /-- The number of an ordered item. -/
  number : Option Nat
  /-- The characters up to and including the mark. -/
  size : Nat
  /-- What follows the mark. -/
  rest : List Char

namespace Line

/-- The number of columns that a character at a column takes. -/
def width (column : Nat) (c : Char) : Nat := if c == '\t' then 4 - column % 4 else 1

/-- Spaces and tabs, of which an indent is made. -/
def isIndent (c : Char) : Bool := c == ' ' || c == '\t'

/-- The columns of spaces and tabs at the start of characters. -/
def indentOf (column : Nat) : List Char → Nat
  | c :: cs =>
    if isIndent c then width column c + indentOf (column + width column c) cs else 0
  | [] => 0

/-- The characters of a line. -/
def text (line : Line) : List Char := List.replicate line.padding ' ' ++ line.content

/-- The column at which the characters of a line begin. -/
def start (line : Line) : Nat := line.column - line.padding

/-- The columns of spaces and tabs at the start. -/
def indent (line : Line) : Nat := indentOf line.start line.text

/-- The characters from the first one on that is neither a space nor a tab. -/
def body (line : Line) : List Char := line.text.dropWhile isIndent

/-- The number of spaces and tabs at the start. -/
def indentSize (line : Line) : Nat := (line.text.takeWhile isIndent).length

/-- Whether nothing is left. -/
def isEmpty (line : Line) : Bool := isEmptyLine line.text

/-- Whether not even the end of the line is left, as at the end of the text. -/
def isOver (line : Line) : Bool := line.text.isEmpty

/-- Drops characters. -/
def skip : (count : Nat) → Line → Line
  | 0, line => line
  | count + 1, line =>
    if line.padding != 0 then skip count { line with padding := line.padding - 1 }
    else
      match line.content with
      | c :: cs =>
        skip count
          { margin := c :: line.margin, column := line.column + width line.column c, content := cs }
      | [] => line

/-- A line before which a tab has left spaces. -/
def padded (line : Line) (padding : Nat) : Line := { line with padding := max padding line.padding }

/-- How many characters at the start take a number of columns, and the columns that the last of them
takes beyond; `taken` columns are taken already. -/
def reach? (column goal taken : Nat) : List Char → Option (Nat × Nat)
  | c :: cs =>
    if goal ≤ taken then some (0, taken - goal)
    else if isIndent c then
      (reach? column goal (taken + width (column + taken) c) cs).map fun (count, beyond) =>
        (count + 1, beyond)
    else none
  | [] => if goal ≤ taken then some (0, taken - goal) else none

/-- Drops columns of spaces and tabs, if there are as many. -/
def dropIndent? (line : Line) (columns : Nat) : Option Line :=
  (reach? line.start columns 0 line.text).map fun (count, beyond) =>
    (line.skip count).padded beyond

/-- The line from its first character on that is not blank. -/
def begun (line : Line) : Line := line.skip (line.text.takeWhile isBlank).length

/-- Only the end of the line, if it has one. -/
def ending (line : Line) : Line :=
  line.skip (line.text.takeWhile (· != '\n')).length

/-- What follows the mark of a quotation. -/
def quoted? (line : Line) : Option Line :=
  if 3 < line.indent then none
  else
    match line.body with
    | '>' :: rest =>
      let inner := line.skip (line.indentSize + 1)
      match rest with
      | ' ' :: _ => some (inner.skip 1)
      | '\t' :: _ => some ((inner.skip 1).padded (width inner.start '\t' - 1))
      | _ => some inner
    | _ => none

/-- Whether characters divide the text: at least three of a mark and nothing else. -/
def isRule (cs : List Char) : Bool :=
  let marks := cs.filter fun c => !isBlank c
  match marks with
  | mark :: rest => (mark == '*' || mark == '-' || mark == '_') && 2 ≤ rest.length && rest.all (· == mark)
  | [] => false

/-- The level of the heading that a line underlines. -/
def underline? (cs : List Char) : Option Nat :=
  match trimRight (cs.dropWhile (· == ' ')) with
  | '=' :: rest => if rest.all (· == '=') then some 1 else none
  | '-' :: rest => if rest.all (· == '-') then some 2 else none
  | _ => none

/-- The level and the text of a heading, given a line without its indent. -/
def heading? (cs : List Char) : Option (Nat × List Char) :=
  let level := (cs.takeWhile (· == '#')).length
  let rest := cs.drop level
  if level == 0 || 6 < level || !(rest.isEmpty || rest.head?.any isBlank) then none
  else
    let text := trimRight (trimLeft rest)
    let open' := Text.dropRightWhile (· == '#') text
    if open'.isEmpty then some (level, [])
    else if open'.getLast?.any isBlank then some (level, trimRight open')
    else some (level, text)

/-- The mark, its count and the text after it of a line, without its indent, that opens a block of
code.  A single byte after the marks is no text. -/
def fence? (cs : List Char) : Option (Char × Nat × List Char) :=
  match cs with
  | mark :: _ =>
    let count := (cs.takeWhile (· == mark)).length
    let rest := cs.drop count
    let text := if Passage.size rest ≤ 1 then [] else trimRight (trimLeft rest)
    if !(mark == '\x60' || mark == '~') || count < 3 || (mark == '\x60' && text.contains '\x60')
    then none else some (mark, count, text)
  | [] => none

/-- Whether a line closes a block of code. -/
def closesFence (mark : Char) (count : Nat) (line : Line) : Bool :=
  let found := (line.body.takeWhile (· == mark)).length
  line.indent ≤ 3 && count ≤ found && isEmptyLine (line.body.drop found)

/-- Characters with the end of a line. -/
def ended (cs : List Char) : List Char :=
  if cs.isEmpty || cs.getLast? == some '\n' then cs else cs ++ ['\n']

/-- The code that a line adds to a block between marks, the first of which has `size` spaces and tabs
before it.  As many columns of its indent are dropped; if there are fewer, all of it, but an empty line
stays as it is. -/
def fencedCode (size : Nat) (line : Line) : List Char :=
  ended <|
    if size == 0 then line.text
    else
      match line.dropIndent? size with
      | some rest => rest.text
      | none =>
        match line.body with
        | [] => line.content
        | '\n' :: _ => line.content
        | _ => line.content.drop line.indentSize

/-- Drops columns of blanks from an empty line, of which the last character stays.  Every tab counts
as four columns, and leaves spaces for those that are too many. -/
def dropBlanks : (columns : Nat) → List Char → List Char
  | 0, cs => cs
  | columns + 1, c :: d :: cs =>
    if c == ' ' then dropBlanks columns (d :: cs)
    else if c == '\t' then
      if 3 ≤ columns then dropBlanks (columns - 3) (d :: cs)
      else List.replicate (3 - columns) ' ' ++ d :: cs
    else c :: d :: cs
  | _, cs => cs

/-- The code that a line adds to a block that is indented, if it does. -/
def indentedCode? (line : Line) : Option (List Char) :=
  if line.isEmpty then some (dropBlanks (4 - line.padding) line.content)
  else (line.dropIndent? 4).map fun rest => ended rest.text

/-- The mark of a list item at the start of characters. -/
def marker? (cs : List Char) : Option Marker :=
  let spaces := (cs.takeWhile (· == ' ')).length
  let cs := cs.drop spaces
  let found : Option Marker :=
    match cs with
    | c :: rest =>
      if c == '-' || c == '*' || c == '+' then
        some { mark := c, number := none, size := spaces + 1, rest }
      else
        let digits := cs.takeWhile isDigit
        match cs.drop digits.length with
        | mark :: rest =>
          if digits.isEmpty || 9 < digits.length || !(mark == '.' || mark == ')') then none
          else
            let number := digits.foldl (fun n c => 10 * n + (c.toNat - '0'.toNat)) 0
            some { mark, number := some number, size := spaces + digits.length + 1, rest }
        | [] => none
    | [] => none
  if 3 < spaces then none
  else found.filter fun marker => marker.rest.head?.all fun c => isIndent c || c == '\n'

/-- The elements that begin a block of tags in any place. -/
def blockNames : List String :=
  ["address", "article", "aside", "base", "basefont", "blockquote", "body", "caption", "center",
   "col", "colgroup", "dd", "details", "dialog", "dir", "div", "dl", "dt", "fieldset", "figcaption",
   "figure", "footer", "form", "frame", "frameset", "h1", "h2", "h3", "h4", "h5", "h6", "head",
   "header", "hr", "html", "iframe", "legend", "li", "link", "main", "menu", "menuitem", "meta",
   "nav", "noframes", "ol", "optgroup", "option", "p", "param", "search", "section", "summary",
   "table", "tbody", "td", "tfoot", "th", "thead", "title", "tr", "track", "ul"]

/-- The elements whose content is kept as it is. -/
def verbatimNames : List String := ["pre", "script", "style", "textarea"]

/-- Characters in lower case. -/
def lowered (cs : List Char) : String := String.ofList (cs.map Char.toLower)

/-- Whether a line ends here. -/
def isLineEnd (cs : List Char) : Bool := cs.isEmpty || cs == ['\n'] || cs == ['\r', '\n']

/-- Whether what follows the name of a tag lets a block begin. -/
def endsName (isGap : Char → Bool) : List Char → Bool
  | '>' :: _ => true
  | '/' :: '>' :: _ => true
  | cs => isLineEnd cs || cs.head?.any isGap

/-- Whether a tag has attributes, given what follows its name; the result is missing unless the tag
takes the rest of the line. -/
def wholeTag? (cs : List Char) : Option Bool :=
  let rest := Tag.afterAttributes cs.length cs
  let attributed := rest.length < cs.length
  let after := match rest.dropWhile (· == ' ') with
    | '>' :: after => some after
    | '/' :: '>' :: after => some after
    | _ => none
  (after.filter fun after => isLineEnd (after.dropWhile (· == ' '))).map fun _ => attributed

/-- What ends the block of tags that begins with a tag, given what follows its bracket.  A tag of
another element than those of blocks takes the whole line and does not interrupt a paragraph. -/
def elementBlock? (inParagraph : Bool) (cs : List Char) : Option TagBlock :=
  let (slash, body) := match cs with
    | '/' :: rest => (true, rest.dropWhile (· == ' '))
    | cs => (false, cs)
  match Tag.afterName? body with
  | none => none
  | some (name, rest) =>
    let closing := slash && cs.drop 1 == body
    let name := lowered name
    let isGap (c : Char) : Bool := isBlank c || c == '\x0c'
    if !slash && verbatimNames.contains name && endsName isGap rest then some .verbatim
    else if blockNames.contains name && (endsName (· == ' ') rest || (wholeTag? rest).isSome) then
      some .upToBlank
    else
      match wholeTag? rest with
      | some attributed =>
        if ["pre", "script", "style"].contains name || inParagraph || (closing && attributed)
        then none else some .upToBlank
      | none => none

/-- What ends the block of tags that begins with a line.  Only spaces stand before its bracket. -/
def tagBlock? (inParagraph : Bool) (cs : List Char) : Option TagBlock :=
  match cs.dropWhile (· == ' ') with
  | '<' :: '!' :: '-' :: '-' :: _ => some (.upTo "-->")
  | '<' :: '?' :: _ => some (.upTo "?>")
  | '<' :: '!' :: '[' :: 'C' :: 'D' :: 'A' :: 'T' :: 'A' :: '[' :: _ => some (.upTo "]]>")
  | '<' :: '!' :: c :: _ => if 'A' ≤ c && c ≤ 'Z' then some (.upTo ">") else none
  | '<' :: rest => elementBlock? inParagraph rest
  | _ => none

/-- Whether a line ends a block of tags. -/
def endsTags (block : TagBlock) (cs : List Char) : Bool :=
  match block with
  | .verbatim => verbatimNames.any fun name => Text.occursIn ("</" ++ name ++ ">") (lowered cs)
  | .upTo ending => Text.occursIn ending (String.ofList cs)
  | .upToBlank => isEmptyLine cs

end Line

namespace Passage

/-- The passage that some lines form: without the blanks before them and without those at its end. -/
def ofLines (lines : List Line) : Passage :=
  let begun := lines.map Line.begun
  { content := trimRight (begun.map Line.content).flatten
    margins := (begun.drop 1).map fun line => line.margin.reverse }

end Passage
end Markdown
end BigScript
