import BigScript.Markdown.Character

/-!
# Passages and what they hold

A passage is the text of a paragraph, a heading or a cell.  Its lines are joined without what stands
before them, the marks of the blocks around it for one; but a label that runs over several lines is
compared as it is written in the file, and so is a character with its neighbour, so what stands before
the lines is kept beside the text.

A line of text is taken apart into parts, which know how they are written in the page.
-/

namespace BigScript
namespace Markdown

/-- The text of a block, and what stands in the file before each line of it but the first. -/
structure Passage where
  content : List Char
  margins : List (List Char) := []

namespace Passage

/-- How many lines end within characters. -/
def lineEnds (cs : List Char) : Nat := cs.count '\n'

/-- What stands before the lines that begin within `cs`, the end of the passage. -/
def marginsWithin (margins : List (List Char)) (cs : List Char) : List (List Char) :=
  margins.drop (margins.length - lineEnds cs)

/-- Characters with what stands before their lines, given from the second line on. -/
def spelled : (margins : List (List Char)) → List Char → List Char
  | margin :: margins, '\n' :: cs => '\n' :: margin ++ spelled margins cs
  | margins, c :: cs => c :: spelled margins cs
  | _, [] => []

/-- What the file holds from one place to another, where `cs` follows the first place and `rest` the
second one. -/
def between (margins : List (List Char)) (cs rest : List Char) : List Char :=
  spelled (marginsWithin margins cs) (cs.take (cs.length - rest.length))

/-- The character in the file before `cs`, which begins a line. -/
def characterBefore (margins : List (List Char)) (cs : List Char) : Char :=
  match margins.drop (margins.length - lineEnds cs - 1) with
  | margin :: _ => margin.getLastD '\n'
  | [] => '\n'

/-- The number of bytes that characters take. -/
def size (cs : List Char) : Nat := (String.ofList cs).utf8ByteSize

end Passage

/-- A part of a text. -/
inductive Inline where
  | text (content : List Char)
  | softBreak
  | hardBreak
  /-- Code, in which the end of a line is shown as a space. -/
  | code (content : List Char)
  | emphasis (children : List Inline)
  | strong (children : List Inline)
  | struck (children : List Inline)
  | link (destination : List Char) (title : Option (List Char)) (children : List Inline)
  | image (destination : List Char) (title : Option (List Char)) (children : List Inline)
  /-- An address that stands for itself. -/
  | address (mail : Bool) (content : List Char)
  /-- A tag, which is left out. -/
  | tag

namespace Inline

/-- What stands in place of tags. -/
def omitted : String := "<!-- raw HTML omitted -->"

/-- The value of an attribute that holds an address. -/
def safeAddress (destination : List Char) : String :=
  if isDangerous destination then "" else Markdown.address destination

/-- The attribute for a title. -/
def titleText (title : Option (List Char)) : String :=
  match title with
  | some content => " title=\"" ++ written (resolve content) ++ "\""
  | none => ""

mutual

/-- The text of parts without their marks. -/
def plain : Inline → String
  | .text content => written content
  | .softBreak => "\n"
  | .hardBreak => "<br>\n"
  | .code content => written content
  | .emphasis children => plainAll children
  | .strong children => plainAll children
  | .struck children => plainAll children
  | .link _ _ children => plainAll children
  | .image _ _ children => plainAll children
  | .address _ _ => ""
  | .tag => ""

/-- The text of several parts without their marks. -/
def plainAll : List Inline → String
  | [] => ""
  | part :: rest => plain part ++ plainAll rest

end

mutual

/-- A part as it is written in the page. -/
def html : Inline → String
  | .text content => written content
  | .softBreak => "\n"
  | .hardBreak => "<br>\n"
  | .code content =>
    "<code>" ++ written (content.map fun c => if c == '\n' then ' ' else c) ++ "</code>"
  | .emphasis children => "<em>" ++ htmlAll children ++ "</em>"
  | .strong children => "<strong>" ++ htmlAll children ++ "</strong>"
  | .struck children => "<del>" ++ htmlAll children ++ "</del>"
  | .link destination title children =>
    "<a href=\"" ++ safeAddress destination ++ "\"" ++ titleText title ++ ">" ++ htmlAll children ++
      "</a>"
  | .image destination title children =>
    "<img src=\"" ++ safeAddress destination ++ "\" alt=\"" ++ plainAll children ++ "\"" ++
      titleText title ++ ">"
  | .address mail content =>
    let scheme :=
      if mail && (Text.dropStart? "mailto:".toList (content.map Char.toLower)).isNone
      then "mailto:" else ""
    "<a href=\"" ++ scheme ++ plainAddress content ++ "\">" ++ written content ++ "</a>"
  | .tag => omitted

/-- Several parts as they are written in the page. -/
def htmlAll : List Inline → String
  | [] => ""
  | part :: rest => html part ++ htmlAll rest

end

mutual

/-- Whether a part is a link or holds one. -/
def holdsLink : Inline → Bool
  | .link _ _ _ => true
  | .emphasis children => anyLink children
  | .strong children => anyLink children
  | .struck children => anyLink children
  | .image _ _ children => anyLink children
  | _ => false

/-- Whether one of several parts is a link or holds one. -/
def anyLink : List Inline → Bool
  | [] => false
  | part :: rest => holdsLink part || anyLink rest

end

end Inline
end Markdown
end BigScript
