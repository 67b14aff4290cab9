import BigScript.Markdown.Span

/-!
# Blocks

The blocks of a text, and how they are written in the page.
-/

namespace BigScript
namespace Markdown

/-- How the cells of a column are aligned. -/
inductive Align where
  | left
  | center
  | right
deriving DecidableEq, Repr

/-- A cell of a table. -/
structure Cell where
  content : List Char
  align : Option Align := none

/-- A block.  The text of paragraphs, headings and cells is kept as it is written, because links may
lead to targets that are defined later. -/
inductive Block where
  | paragraph (passage : Passage)
  /-- A paragraph in a list without gaps. -/
  | bare (passage : Passage)
  | heading (level : Nat) (passage : Passage)
  | rule
  | code (language : Option (List Char)) (content : List Char)
  /-- Tags, and whether a line of its own closes them. -/
  | tags (closed : Bool)
  | quote (children : List Block)
  | list (start : Option Nat) (items : List Block)
  | item (children : List Block)
  | table (header : List Cell) (rows : List (List Cell))

namespace Align

/-- The name of an alignment. -/
def name : Align → String
  | .left => "left"
  | .center => "center"
  | .right => "right"

end Align

namespace Cell

/-- Drops the backslashes before bars. -/
def plainBars : List Char → List Char
  | '\\' :: '|' :: cs => '|' :: plainBars cs
  | c :: cs => c :: plainBars cs
  | [] => []

mutual

/-- A part of a cell: within code a bar that does not end the cell has no backslash. -/
def withPlainBars : Inline → Inline
  | .code content => .code (plainBars content)
  | .emphasis children => .emphasis (allWithPlainBars children)
  | .strong children => .strong (allWithPlainBars children)
  | .struck children => .struck (allWithPlainBars children)
  | .link destination title children => .link destination title (allWithPlainBars children)
  | .image destination title children => .image destination title (allWithPlainBars children)
  | part => part

/-- The parts of a cell. -/
def allWithPlainBars : List Inline → List Inline
  | [] => []
  | part :: rest => withPlainBars part :: allWithPlainBars rest

end

/-- A cell as it is written in the page. -/
def html (targets : Targets) (tag : String) (cell : Cell) : String :=
  let style := match cell.align with
    | some align => " style=\"text-align:" ++ align.name ++ "\""
    | none => ""
  "<" ++ tag ++ style ++ ">" ++ Inline.htmlAll (allWithPlainBars (inlines targets ⟨cell.content, []⟩)) ++
    "</" ++ tag ++ ">\n"

/-- A row as it is written in the page. -/
def rowHtml (targets : Targets) (tag : String) (cells : List Cell) : String :=
  "<tr>\n" ++ String.join (cells.map (html targets tag)) ++ "</tr>\n"

end Cell

namespace Block

/-- Whether the first of some blocks begins on the line of the tag before it. -/
def beginsBare : List Block → Bool
  | [] => true
  | .bare _ :: _ => true
  | _ => false

mutual

/-- A block as it is written in the page.  `last` tells that no block follows. -/
def html (targets : Targets) (last : Bool) : Block → String
  | .paragraph passage => "<p>" ++ Inline.htmlAll (inlines targets passage) ++ "</p>\n"
  | .bare passage =>
    Inline.htmlAll (inlines targets passage) ++
      (if last || passage.content.isEmpty then "" else "\n")
  | .heading level passage =>
    let tag := "h" ++ toString level
    "<" ++ tag ++ ">" ++ Inline.htmlAll (inlines targets passage) ++ "</" ++ tag ++ ">\n"
  | .rule => "<hr>\n"
  | .code language content =>
    let kind := match language with
      | some name => " class=\"language-" ++ written (resolve name) ++ "\""
      | none => ""
    "<pre><code" ++ kind ++ ">" ++ written content ++ "</code></pre>\n"
  | .tags closed => Inline.omitted ++ "\n" ++ (if closed then Inline.omitted ++ "\n" else "")
  | .quote children => "<blockquote>\n" ++ htmlAll targets children ++ "</blockquote>\n"
  | .list start items =>
    match start with
    | none => "<ul>\n" ++ htmlAll targets items ++ "</ul>\n"
    | some number =>
      let first := if number == 1 then "" else " start=\"" ++ toString number ++ "\""
      "<ol" ++ first ++ ">\n" ++ htmlAll targets items ++ "</ol>\n"
  | .item children =>
    "<li>" ++ (if beginsBare children then "" else "\n") ++ htmlAll targets children ++ "</li>\n"
  | .table header rows =>
    let body :=
      if rows.isEmpty then ""
      else "<tbody>\n" ++ String.join (rows.map (Cell.rowHtml targets "td")) ++ "</tbody>\n"
    "<table>\n<thead>\n" ++ Cell.rowHtml targets "th" header ++ "</thead>\n" ++ body ++ "</table>\n"

/-- Several blocks as they are written in the page. -/
def htmlAll (targets : Targets) : List Block → String
  | [] => ""
  | block :: rest => html targets rest.isEmpty block ++ htmlAll targets rest

end

end Block
end Markdown
end BigScript
