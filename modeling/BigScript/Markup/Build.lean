import BigScript.Markup.Draft

/-!
# Reading a page

A page is read piece by piece.  What a piece does depends on where it stands: elements that are
missing are added, and elements that cannot stand inside each other are closed.
-/

/-!
## Closing formatting elements out of order

A formatting element may be closed while elements that were opened inside it are still open.  Those
that structure the page then adopt a copy of it, so that its effect ends where it was closed.
-/

namespace BigScript
namespace Markup
namespace Draft

/-- The state of moving elements out of a formatting element.  Both lists have the outermost first,
and `bookmark` is the place of the copy among the formatting elements. -/
structure Move where
  draft : Draft
  opened : List Nat
  formatting : List (Option Nat)
  bookmark : Nat
  last : Nat

/-- Moves elements from the furthest block outwards to the formatting element: those that are to be
continued are copied around what was moved before, and the others are closed.  `index` is the place
of the element before which the move stands. -/
def moveOut (index : Nat) (count : Nat) (formattingElement furthest : Nat) (move : Move) : Move :=
  match index with
  | 0 => move
  | index + 1 =>
    let count := count + 1
    let node := move.opened.getD index 0
    if node == formattingElement then move
    else
      match move.formatting.findIdx? (· == some node) with
      | none =>
        moveOut index count formattingElement furthest
          { move with opened := move.opened.filter (· != node) }
      | some place =>
        if 3 < count then
          moveOut index count formattingElement furthest
            { move with
              formatting := move.formatting.filter (· != some node)
              bookmark := if place ≤ move.bookmark then move.bookmark - 1 else move.bookmark }
        else
          let (clone, draft) := move.draft.copy node
          let formatting := move.formatting.map fun entry =>
            if entry == some node then some clone else entry
          let bookmark := if move.last == furthest then place + 1 else move.bookmark
          let draft := (draft.detach move.last).append clone move.last
          moveOut index count formattingElement furthest
            { draft
              opened := move.opened.map fun other => if other == node then clone else other
              formatting
              bookmark
              last := clone }

/-- Lets the furthest block inside a formatting element adopt a copy of it. -/
def adoptInto (draft : Draft) (formattingElement furthest ancestor : Nat) : Draft :=
  let opened := draft.openNodes.reverse
  let formatting := draft.formatting.reverse
  let move := moveOut ((opened.findIdx? (· == furthest)).getD 0) 0 formattingElement furthest
    { draft, opened, formatting
      bookmark := (formatting.findIdx? (· == some formattingElement)).getD 0
      last := furthest }
  let draft := move.draft.detach move.last
  let draft :=
    if tableParts.contains (draft.nameOf ancestor) then draft.foster move.last
    else draft.append ancestor move.last
  let (clone, draft) := draft.copy formattingElement
  let children := draft.childrenOf furthest
  let draft := children.foldl (fun draft child => (draft.detach child).append clone child) draft
  let draft := draft.append furthest clone
  let bookmark := match move.formatting.findIdx? (· == some formattingElement) with
    | some place => if place < move.bookmark then move.bookmark - 1 else move.bookmark
    | none => move.bookmark
  let formatting := move.formatting.filter (· != some formattingElement)
  let formatting := formatting.take bookmark ++ some clone :: formatting.drop bookmark
  let opened := move.opened.filter (· != formattingElement)
  let place := (opened.findIdx? (· == furthest)).getD 0 + 1
  { draft with
    openNodes := (opened.take place ++ clone :: opened.drop place).reverse
    formatting := formatting.reverse }

/-- Closes a formatting element of a name.  The first argument bounds how often a block adopts a copy
of it. -/
def closeFormattingSteps (steps : Nat) (name : String) (draft : Draft) : Draft :=
  match steps with
  | 0 => draft
  | steps + 1 =>
    let candidates := (draft.formatting.takeWhile Option.isSome).filterMap id
    match candidates.find? (fun node => draft.nameOf node == name) with
    | none => draft.closeOther name
    | some formattingElement =>
      if !draft.openNodes.contains formattingElement then draft.forget formattingElement
      else if !draft.hasInScope .usual [name] then draft
      else
        let inside := draft.openNodes.takeWhile (· != formattingElement)
        match inside.reverse.find? draft.isStructural with
        | none =>
          { draft.forget formattingElement with openNodes := draft.openNodes.drop (inside.length + 1) }
        | some furthest =>
          let ancestor := (draft.openNodes.drop (inside.length + 1)).headD 0
          closeFormattingSteps steps name (draft.adoptInto formattingElement furthest ancestor)

/-- Closes a formatting element of a name. -/
def closeFormatting (draft : Draft) (name : String) : Draft :=
  match draft.openNodes with
  | top :: outer =>
    if draft.nameOf top == name && !draft.formatting.contains (some top) then
      { draft with openNodes := outer }
    else closeFormattingSteps 8 name draft
  | [] => draft

end Draft
end Markup
end BigScript

/-! ## Reading piece by piece -/

namespace BigScript
namespace Markup
namespace Draft

/-- What a piece leads to: the draft after it, and whether the piece is used up. -/
abbrev Taken := Bool × Draft

/-- The piece is used up. -/
def used (draft : Draft) : Taken := (true, draft)

/-- The piece is to be taken again in another mode. -/
def again (draft : Draft) (mode : Mode) : Taken := (false, { draft with mode })

/-- Splits off the blanks at the start of a text. -/
def splitBlanks (content : List Char) : List Char × List Char :=
  (content.takeWhile Piece.isBlank, content.dropWhile Piece.isBlank)

/-- Whether a text is blank. -/
def isAllBlank (content : List Char) : Bool := content.all Piece.isBlank

/-- Adds an element that has no content. -/
def addEmpty (draft : Draft) (name : String) (attributes : Attributes) : Draft :=
  (draft.addElement name attributes "").pop

/-- Adds an element whose content is read without tags. -/
def addRaw (draft : Draft) (name : String) (attributes : Attributes) : Draft :=
  let draft := draft.addElement name attributes ""
  { draft with resume := draft.mode, mode := .inRaw }

/-- Adds attributes to a node that it does not have. -/
def addAttributes (draft : Draft) (node : Nat) (attributes : Attributes) : Draft :=
  draft.update node fun slot => match slot.made with
    | .element name known language =>
      let new := attributes.filter fun entry => (known.lookup entry.1).isNone
      { slot with made := .element name (known ++ new) language }
    | _ => slot

/-- Opens the element around the whole page. -/
def openHtml (draft : Draft) (attributes : Attributes) : Draft :=
  { draft.addElement "html" attributes "" with mode := .beforeHead }

/-- Opens the head. -/
def openHead (draft : Draft) (attributes : Attributes) : Draft :=
  let draft := draft.addElement "head" attributes ""
  { draft with head := draft.openNodes.head?, mode := .inHead }

/-- Closes the head. -/
def closeHead (draft : Draft) : Draft := { draft.pop with mode := .afterHead }

/-- Opens the body. -/
def openBody (draft : Draft) (attributes : Attributes) : Draft :=
  { draft.addElement "body" attributes "" with mode := .inBody }

/-- Closing tags that stand for the end of what comes before the body. -/
def endsHead : List String := ["head", "body", "html", "br"]

/-- Before anything is known of a page. -/
def initial (piece : Piece) (draft : Draft) : Taken :=
  match piece with
  | .text content =>
    if isAllBlank content then draft.used
    else { draft with quirks := true }.again .beforeHtml
  | .comment _ => draft.used
  | .doctype content =>
    used { draft with quirks := Text.lower (Text.trim content) != "html", mode := .beforeHtml }
  | _ => { draft with quirks := true }.again .beforeHtml

/-- Before the element around the whole page. -/
def beforeHtml (piece : Piece) (draft : Draft) : Taken :=
  match piece with
  | .text content => if isAllBlank content then draft.used else (false, draft.openHtml [])
  | .comment _ => draft.used
  | .doctype _ => draft.used
  | .opening "html" attributes _ => (draft.openHtml attributes).used
  | .closing name => if endsHead.contains name then (false, draft.openHtml []) else draft.used
  | _ => (false, draft.openHtml [])

/-- Takes an opening tag for the element around the whole page. -/
def mergeHtml (draft : Draft) (attributes : Attributes) : Draft :=
  draft.addAttributes (draft.openNodes.getLastD 0) attributes

/-- Before the head. -/
def beforeHead (piece : Piece) (draft : Draft) : Taken :=
  match piece with
  | .text content => if isAllBlank content then draft.used else (false, draft.openHead [])
  | .comment content => (draft.addComment content).used
  | .doctype _ => draft.used
  | .opening "html" attributes _ => (draft.mergeHtml attributes).used
  | .opening "head" attributes _ => (draft.openHead attributes).used
  | .closing name => if endsHead.contains name then (false, draft.openHead []) else draft.used
  | _ => (false, draft.openHead [])

/-- Elements of the head without content. -/
def headEmpty : List String := ["base", "basefont", "bgsound", "link", "meta"]

/-- Elements of the head whose content is read without tags. -/
def headRaw : List String := ["noframes", "style", "noscript", "script", "title"]

/-- Adds an element that belongs into the head, if it is one. -/
def headElement? (draft : Draft) (name : String) (attributes : Attributes) : Option Draft :=
  if headEmpty.contains name then some (draft.addEmpty name attributes)
  else if headRaw.contains name then some (draft.addRaw name attributes)
  else none

/-- Adds the blanks at the start of a text, and takes what remains in another way. -/
def afterBlanks (content : List Char) (draft : Draft) (otherwise : Draft → Draft) : Taken :=
  let (blanks, rest) := splitBlanks content
  let draft := draft.addText blanks
  if rest.isEmpty then draft.used else (false, otherwise draft)

/-- In the head. -/
def inHead (piece : Piece) (draft : Draft) : Taken :=
  match piece with
  | .text content => draft.afterBlanks content closeHead
  | .comment content => (draft.addComment content).used
  | .doctype _ => draft.used
  | .opening "html" attributes _ => (draft.mergeHtml attributes).used
  | .opening "head" _ _ => draft.used
  | .opening name attributes _ =>
    match draft.headElement? name attributes with
    | some draft => draft.used
    | none => (false, draft.closeHead)
  | .closing "head" => draft.closeHead.used
  | .closing name => if endsHead.contains name then (false, draft.closeHead) else draft.used
  | .finish => (false, draft.closeHead)

/-- After the head: elements that belong into it are still put there. -/
def afterHead (piece : Piece) (draft : Draft) : Taken :=
  match piece with
  | .text content => draft.afterBlanks content (·.openBody [])
  | .comment content => (draft.addComment content).used
  | .doctype _ => draft.used
  | .opening "html" attributes _ => (draft.mergeHtml attributes).used
  | .opening "head" _ _ => draft.used
  | .opening "body" attributes _ => (draft.openBody attributes).used
  | .opening name attributes _ =>
    let head := draft.head.toList
    match { draft with openNodes := head ++ draft.openNodes }.headElement? name attributes with
    | some draft =>
      used { draft with openNodes := draft.openNodes.filter fun node => !head.contains node }
    | none => (false, draft.openBody [])
  | .closing name =>
    if endsHead.contains name && name != "head" then (false, draft.openBody []) else draft.used
  | .finish => (draft.openBody []).used

/-- Elements that end a paragraph. -/
def blocks : List String :=
  ["address", "article", "aside", "blockquote", "center", "details", "dialog", "dir", "div", "dl",
   "fieldset", "figcaption", "figure", "footer", "header", "hgroup", "main", "menu", "nav", "ol", "p",
   "section", "summary", "ul"]

/-- Headings. -/
def headings : List String := ["h1", "h2", "h3", "h4", "h5", "h6"]

/-- Formatting elements other than links. -/
def formats : List String :=
  ["b", "big", "code", "em", "font", "i", "s", "small", "strike", "strong", "tt", "u"]

/-- Elements without content that are part of a line. -/
def inlineEmpty : List String := ["area", "br", "embed", "img", "input", "keygen", "wbr"]

/-- Elements that can stand only in tables, frames or heads. -/
def misplaced : List String :=
  ["caption", "col", "colgroup", "frame", "frameset", "head", "tbody", "td", "tfoot", "th", "thead",
   "tr"]

/-- Closes the innermost item of some names, unless an element is inside it that structures the page
and is neither a plain division nor a paragraph. -/
def closeItem (names : List String) (draft : Draft) : Draft :=
  go draft.openNodes
where
  go : List Nat → Draft
    | [] => draft
    | node :: outer =>
      if draft.isOne names node then { draft with openNodes := outer }
      else if draft.isStructural node && !draft.isOne ["address", "div", "p"] node then draft
      else go outer

/-- Drops a newline at the start of a text. -/
def dropNewline : List Char → List Char
  | '\n' :: cs => cs
  | cs => cs

/-- A link inside which another one is opened is closed. -/
def closeLink (draft : Draft) : Draft :=
  let candidates := (draft.formatting.takeWhile Option.isSome).filterMap id
  match candidates.find? (draft.isOne ["a"]) with
  | none => draft
  | some link => ((draft.closeFormatting "a").close link).forget link

/-- An opening tag in the body. -/
def openInBody (name : String) (attributes : Attributes) (closed : Bool) (draft : Draft) : Draft :=
  let add (draft : Draft) : Draft := draft.addElement name attributes ""
  let endParagraph (draft : Draft) : Draft := draft.popUntil .button ["p"]
  if name == "html" then draft.mergeHtml attributes
  else if name == "body" then
    match draft.openNodes.reverse.drop 1 with
    | body :: _ => if draft.isOne ["body"] body then draft.addAttributes body attributes else draft
    | [] => draft
  else if blocks.contains name then add (endParagraph draft)
  else if headings.contains name then
    let draft := endParagraph draft
    add (if headings.contains draft.topName then draft.pop else draft)
  else if name == "pre" || name == "listing" || name == "plaintext" then add (endParagraph draft)
  else if name == "form" then
    if draft.form.isSome then draft
    else
      let draft := add (endParagraph draft)
      { draft with form := draft.openNodes.head? }
  else if name == "li" then add (endParagraph (draft.closeItem ["li"]))
  else if name == "dd" || name == "dt" then add (endParagraph (draft.closeItem ["dd", "dt"]))
  else if name == "button" then add (draft.popUntil .usual ["button"]).continueFormatting
  else if name == "a" then (closeLink draft).continueFormatting.addFormatting name attributes
  else if formats.contains name then draft.continueFormatting.addFormatting name attributes
  else if name == "nobr" then
    let draft := draft.continueFormatting
    let draft :=
      if draft.hasInScope .usual ["nobr"] then (draft.closeFormatting "nobr").continueFormatting
      else draft
    draft.addFormatting name attributes
  else if ["applet", "marquee", "object"].contains name then
    let draft := add draft.continueFormatting
    { draft with formatting := none :: draft.formatting }
  else if name == "table" then
    { add (if draft.quirks then draft else endParagraph draft) with mode := .inTable }
  else if inlineEmpty.contains name then (add draft.continueFormatting).pop
  else if ["param", "source", "track"].contains name then (add draft).pop
  else if name == "hr" then (add (endParagraph draft)).pop
  else if name == "textarea" then draft.addRaw name attributes
  else if name == "xmp" then (endParagraph draft).continueFormatting.addRaw name attributes
  else if name == "iframe" || name == "noembed" then draft.addRaw name attributes
  else if name == "select" then { add draft.continueFormatting with mode := .inSelect }
  else if name == "optgroup" || name == "option" then
    add (if draft.topName == "option" then draft.pop else draft).continueFormatting
  else if name == "rb" || name == "rtc" then
    add (if draft.hasInScope .usual ["ruby"] then draft.closeImplied [] else draft)
  else if name == "rp" || name == "rt" then
    add (if draft.hasInScope .usual ["ruby"] then draft.closeImplied ["rtc"] else draft)
  else if name == "math" || name == "svg" then
    let draft := draft.continueFormatting.addElement name attributes name
    if closed then draft.pop else draft
  else if misplaced.contains name then draft
  else
    match draft.headElement? name attributes with
    | some draft => draft
    | none => add draft.continueFormatting

/-- Elements that are closed together with everything in them. -/
def closedWhole : List String :=
  blocks.filter (· != "p") ++ ["button", "listing", "pre"]

/-- A closing tag in the body. -/
def closeInBody (name : String) (draft : Draft) : Draft :=
  if name == "body" || name == "html" then
    if draft.hasInScope .usual ["body"] then { draft with mode := .afterBody } else draft
  else if closedWhole.contains name then draft.popUntil .usual [name]
  else if name == "form" then
    let closedForm := { draft with form := none }
    match draft.form, draft.inScope? .usual ["form"] draft.openNodes with
    | some form, some (found :: _) =>
      if form == found then (closedForm.closeImplied []).close form else closedForm
    | _, _ => closedForm
  else if name == "p" then
    let draft :=
      if draft.hasInScope .button ["p"] then draft else draft.addElement "p" [] ""
    draft.popUntil .button ["p"]
  else if name == "li" then draft.popUntil .listItem ["li"]
  else if name == "dd" || name == "dt" then draft.popUntil .usual [name]
  else if headings.contains name then draft.popUntil .usual headings
  else if name == "a" || name == "nobr" || formats.contains name then draft.closeFormatting name
  else if ["applet", "marquee", "object"].contains name then
    match draft.popUntil? .usual [name] with
    | some draft => draft.clearFormatting
    | none => draft
  else if name == "br" then (draft.continueFormatting.addElement "br" [] "").pop
  else draft.closeOther name

/-- In the body. -/
def inBody (piece : Piece) (draft : Draft) : Taken :=
  match piece with
  | .text content =>
    let top := draft.openNodes.headD 0
    let content :=
      if draft.isOne ["pre", "listing"] top && (draft.childrenOf top).isEmpty
      then dropNewline content else content
    let content := content.filter (· != '\x00')
    if content.isEmpty then draft.used else (draft.continueFormatting.addText content).used
  | .comment content => (draft.addComment content).used
  | .opening "image" attributes closed => (draft.openInBody "img" attributes closed).used
  | .opening name attributes closed => (draft.openInBody name attributes closed).used
  | .closing "html" =>
    if draft.hasInScope .usual ["body"] then draft.again .afterBody else draft.used
  | .closing name => (draft.closeInBody name).used
  | _ => draft.used

/-- In an element whose content is read without tags. -/
def inRaw (piece : Piece) (draft : Draft) : Taken :=
  match piece with
  | .text content =>
    let top := draft.openNodes.headD 0
    let content :=
      if draft.isOne ["textarea"] top && (draft.childrenOf top).isEmpty
      then dropNewline content else content
    (draft.addText content).used
  | .closing _ => used { draft.pop with mode := draft.resume }
  | .finish => draft.pop.again draft.resume
  | _ => draft.again draft.resume

/-- The mode that fits the elements that are open. -/
def fittingMode (draft : Draft) : List Nat → Mode
  | [] => .inBody
  | node :: outer =>
    match draft.nameOf node with
    | "select" =>
      if outer.dropLast.any (fun n => draft.nameOf n == "table") then .inSelectInTable else .inSelect
    | "td" => .inCell
    | "th" => .inCell
    | "tr" => .inRow
    | "tbody" => .inTableBody
    | "thead" => .inTableBody
    | "tfoot" => .inTableBody
    | "caption" => .inCaption
    | "colgroup" => .inColumns
    | "table" => .inTable
    | "head" => .inHead
    | "body" => .inBody
    | "html" => if draft.head.isNone then .beforeHead else .afterHead
    | _ => fittingMode draft outer

/-- Returns to the mode that fits the elements that are open. -/
def resetMode (draft : Draft) : Draft := { draft with mode := draft.fittingMode draft.openNodes }

/-- The bodies of a table. -/
def tableBodies : List String := ["tbody", "tfoot", "thead"]

/-- Opens a selection. -/
def openSelect (draft : Draft) (attributes : Attributes) : Draft :=
  { draft.continueFormatting.addElement "select" attributes "" with mode := .inSelectInTable }

/-- Takes a piece in a table as in the body, but puts its content before the table. -/
def beforeTable (piece : Piece) (draft : Draft) : Taken :=
  let (done, draft) := inBody piece { draft with fostering := true }
  (done, { draft with fostering := false })

/-- In a table. -/
def inTable (piece : Piece) (draft : Draft) : Taken :=
  let clear := draft.clearTo ["html", "table", "template"]
  match piece with
  | .text content =>
    if tableParts.contains draft.topName && isAllBlank content then (draft.addText content).used
    else draft.beforeTable piece
  | .opening "caption" attributes _ =>
    let marked := { clear with formatting := none :: clear.formatting }
    used { marked.addElement "caption" attributes "" with mode := .inCaption }
  | .opening "colgroup" attributes _ =>
    used { clear.addElement "colgroup" attributes "" with mode := .inColumns }
  | .opening "col" _ _ => (clear.addElement "colgroup" [] "").again .inColumns
  | .opening "table" _ _ =>
    match draft.popUntil? .table ["table"] with
    | some draft => (false, draft.resetMode)
    | none => draft.used
  | .opening "form" attributes _ =>
    if draft.form.isSome then draft.used
    else
      let added := draft.addElement "form" attributes ""
      used { added.pop with form := added.openNodes.head? }
  | .opening "select" attributes _ =>
    let fostering := tableParts.contains draft.topName
    used { { draft with fostering }.openSelect attributes with fostering := false }
  | .opening name attributes _ =>
    if tableBodies.contains name then
      used { clear.addElement name attributes "" with mode := .inTableBody }
    else if ["td", "th", "tr"].contains name then
      (clear.addElement "tbody" [] "").again .inTableBody
    else if name == "style" || name == "script" then (draft.addRaw name attributes).used
    else if name == "input" &&
        attributes.any (fun entry => entry.1 == "type" && Text.lower entry.2 == "hidden") then
      (draft.addEmpty name attributes).used
    else draft.beforeTable piece
  | .closing "table" =>
    match draft.popUntil? .table ["table"] with
    | some draft => draft.resetMode.used
    | none => draft.used
  | .closing name =>
    if ["body", "caption", "col", "colgroup", "html", "tbody", "td", "tfoot", "th", "thead",
        "tr"].contains name then draft.used
    else draft.beforeTable piece
  | .comment content => (draft.addComment content).used
  | .doctype _ => draft.used
  | .finish => inBody piece draft

/-- In the caption of a table. -/
def inCaption (piece : Piece) (draft : Draft) : Taken :=
  let leave (done : Bool) : Taken :=
    match draft.popUntil? .table ["caption"] with
    | some draft => (done, { draft.clearFormatting with mode := .inTable })
    | none => draft.used
  match piece with
  | .opening "select" attributes _ => (draft.openSelect attributes).used
  | .opening name _ _ =>
    if ["caption", "col", "colgroup", "tbody", "td", "tfoot", "thead", "tr"].contains name
    then leave false else inBody piece draft
  | .closing "caption" => leave true
  | .closing "table" => leave false
  | .closing name =>
    if ["body", "col", "colgroup", "html", "tbody", "td", "tfoot", "th", "thead", "tr"].contains name
    then draft.used else inBody piece draft
  | _ => inBody piece draft

/-- In a group of columns. -/
def inColumns (piece : Piece) (draft : Draft) : Taken :=
  let leave (draft : Draft) : Taken :=
    if draft.topName == "colgroup" then draft.pop.again .inTable else draft.used
  match piece with
  | .text content =>
    let (blanks, rest) := splitBlanks content
    let draft := draft.addText blanks
    if rest.isEmpty then draft.used else leave draft
  | .comment content => (draft.addComment content).used
  | .doctype _ => draft.used
  | .opening "html" attributes _ => (draft.mergeHtml attributes).used
  | .opening "col" attributes _ => (draft.addEmpty "col" attributes).used
  | .closing "colgroup" =>
    if draft.topName == "colgroup" then used { draft.pop with mode := .inTable } else draft.used
  | .closing "col" => draft.used
  | .finish => inBody piece draft
  | _ => leave draft

/-- In the body of a table. -/
def inTableBody (piece : Piece) (draft : Draft) : Taken :=
  let clear := draft.clearTo ["html", "tbody", "tfoot", "thead", "template"]
  let leave : Taken :=
    match draft.popUntil? .table tableBodies with
    | some draft => draft.again .inTable
    | none => draft.used
  match piece with
  | .opening "tr" attributes _ => used { clear.addElement "tr" attributes "" with mode := .inRow }
  | .opening name _ _ =>
    if name == "td" || name == "th" then (clear.addElement "tr" [] "").again .inRow
    else if ["caption", "col", "colgroup", "tbody", "tfoot", "thead"].contains name then leave
    else inTable piece draft
  | .closing "table" => leave
  | .closing name =>
    if tableBodies.contains name then
      if draft.hasInScope .table [name] then used { clear.pop with mode := .inTable } else draft.used
    else if ["body", "caption", "col", "colgroup", "html", "td", "th", "tr"].contains name then
      draft.used
    else inTable piece draft
  | .comment content => (draft.addComment content).used
  | _ => inTable piece draft

/-- In a row of a table. -/
def inRow (piece : Piece) (draft : Draft) : Taken :=
  let leave (done : Bool) : Taken :=
    match draft.popUntil? .table ["tr"] with
    | some draft => (done, { draft with mode := .inTableBody })
    | none => draft.used
  match piece with
  | .opening name attributes _ =>
    if name == "td" || name == "th" then
      let opened := (draft.clearTo ["html", "tr", "template"]).addElement name attributes ""
      used { opened with formatting := none :: opened.formatting, mode := .inCell }
    else if ["caption", "col", "colgroup", "tbody", "tfoot", "thead", "tr"].contains name then
      leave false
    else inTable piece draft
  | .closing "tr" => leave true
  | .closing "table" => leave false
  | .closing name =>
    if tableBodies.contains name then
      if draft.hasInScope .table [name] then leave false else draft.used
    else if ["body", "caption", "col", "colgroup", "html", "td", "th"].contains name then draft.used
    else inTable piece draft
  | _ => inTable piece draft

/-- In a cell of a table. -/
def inCell (piece : Piece) (draft : Draft) : Taken :=
  match piece with
  | .opening "select" attributes _ => (draft.openSelect attributes).used
  | .opening name _ _ =>
    if ["caption", "col", "colgroup", "tbody", "td", "tfoot", "th", "thead", "tr"].contains name then
      match draft.popUntil? .table ["td", "th"] with
      | some draft => draft.clearFormatting.again .inRow
      | none => draft.used
    else inBody piece draft
  | .closing name =>
    if name == "td" || name == "th" then
      match draft.popUntil? .table [name] with
      | some draft => used { draft.clearFormatting with mode := .inRow }
      | none => draft.used
    else if ["body", "caption", "col", "colgroup", "html"].contains name then draft.used
    else if ["table", "tbody", "tfoot", "thead", "tr"].contains name then
      if !draft.hasInScope .table [name] then draft.used
      else
        match draft.popUntil? .table ["td", "th"] with
        | some draft => draft.clearFormatting.again .inRow
        | none => draft.again .inRow
    else inBody piece draft
  | _ => inBody piece draft

/-- Closes an element if it is the innermost open one. -/
def popIf (name : String) (draft : Draft) : Draft :=
  if draft.topName == name then draft.pop else draft

/-- Closes the selection. -/
def closeSelect (done : Bool) (draft : Draft) : Taken :=
  match draft.popUntil? .select ["select"] with
  | some draft => (done, draft.resetMode)
  | none => draft.used

/-- In a selection. -/
def inSelect (piece : Piece) (draft : Draft) : Taken :=
  match piece with
  | .text content => (draft.addText (content.filter (· != '\x00'))).used
  | .comment content => (draft.addComment content).used
  | .opening "html" attributes _ => (draft.mergeHtml attributes).used
  | .opening "option" attributes _ =>
    ((draft.popIf "option").addElement "option" attributes "").used
  | .opening "optgroup" attributes _ =>
    (((draft.popIf "option").popIf "optgroup").addElement "optgroup" attributes "").used
  | .opening "select" _ _ => draft.closeSelect true
  | .opening "script" attributes _ => (draft.addRaw "script" attributes).used
  | .opening name _ _ =>
    let plain := { draft with raw := none }
    if ["input", "keygen", "textarea"].contains name then
      if draft.hasInScope .select ["select"] then draft.closeSelect false else plain.used
    else plain.used
  | .closing "optgroup" =>
    let inner := draft.popIf "option"
    (if inner.topName == "optgroup" then inner.pop else draft).used
  | .closing "option" => (draft.popIf "option").used
  | .closing "select" => draft.closeSelect true
  | .finish => inBody piece draft
  | _ => draft.used

/-- In a selection in a table, which ends with the part of the table that it is in. -/
def inSelectInTable (piece : Piece) (draft : Draft) : Taken :=
  let parts := ["caption", "table", "tbody", "tfoot", "thead", "tr", "td", "th"]
  let leave : Taken :=
    let outer := (draft.openNodes.dropWhile fun node => draft.nameOf node != "select").drop 1
    (false, { draft with openNodes := outer }.resetMode)
  match piece with
  | .opening name _ _ => if parts.contains name then leave else inSelect piece draft
  | .closing name =>
    if !parts.contains name then inSelect piece draft
    else if draft.hasInScope .table [name] then leave
    else draft.used
  | _ => inSelect piece draft

/-- After the body. -/
def afterBody (piece : Piece) (draft : Draft) : Taken :=
  match piece with
  | .text content => if isAllBlank content then inBody piece draft else draft.again .inBody
  | .comment _ => draft.used
  | .opening "html" _ _ => inBody piece draft
  | .closing "html" => used { draft with mode := .afterAfterBody }
  | .finish => draft.used
  | _ => draft.again .inBody

/-- After the page. -/
def afterAfterBody (piece : Piece) (draft : Draft) : Taken :=
  match piece with
  | .text content => if isAllBlank content then inBody piece draft else draft.again .inBody
  | .comment _ => draft.used
  | .doctype _ => draft.used
  | .opening "html" _ _ => inBody piece draft
  | .finish => draft.used
  | _ => draft.again .inBody

/-- Elements that end drawings and formulas. -/
def breakouts : List String :=
  ["b", "big", "blockquote", "body", "br", "center", "code", "dd", "div", "dl", "dt", "em", "embed",
   "h1", "h2", "h3", "h4", "h5", "h6", "head", "hr", "i", "img", "li", "listing", "menu", "meta",
   "nobr", "ol", "p", "pre", "ruby", "s", "small", "span", "strong", "strike", "sub", "sup", "table",
   "tt", "u", "ul", "var"]

/-- Elements of drawings and formulas that hold markup proper. -/
def holdsMarkup (draft : Draft) (node : Nat) : Bool :=
  match draft.languageOf node with
  | "svg" => ["desc", "foreignObject", "title"].contains (draft.nameOf node)
  | "math" => ["mi", "mo", "mn", "ms", "mtext"].contains (draft.nameOf node)
  | _ => false

/-- Whether a piece stands in a drawing or a formula. -/
def isForeign (draft : Draft) (piece : Piece) : Bool :=
  match draft.openNodes with
  | [] => false
  | top :: _ =>
    if draft.languageOf top == "" then false
    else
      match piece with
      | .finish => false
      | .text _ => !draft.holdsMarkup top
      | .opening _ _ _ => !draft.holdsMarkup top
      | _ => true

/-- Names of parts of drawings that are not written in lower case. -/
def mixedNames : List String :=
  ["altGlyph", "altGlyphDef", "altGlyphItem", "animateColor", "animateMotion", "animateTransform",
   "clipPath", "feBlend", "feColorMatrix", "feComponentTransfer", "feComposite", "feConvolveMatrix",
   "feDiffuseLighting", "feDisplacementMap", "feDistantLight", "feFlood", "feFuncA", "feFuncB",
   "feFuncG", "feFuncR", "feGaussianBlur", "feImage", "feMerge", "feMergeNode", "feMorphology",
   "feOffset", "fePointLight", "feSpecularLighting", "feSpotLight", "feTile", "feTurbulence",
   "foreignObject", "glyphRef", "linearGradient", "radialGradient", "textPath"]

/-- The name of a part of a drawing as it is spelled. -/
def spelledName (language name : String) : String :=
  if language == "svg" then (mixedNames.find? fun known => Text.lower known == name).getD name
  else name

/-- Closes the innermost element of a name within a drawing or a formula; outside of it the tag is
taken as usual. -/
def closeForeign (name : String) (draft : Draft) : List Nat → Option Draft
  | [] => some draft
  | node :: outer =>
    if draft.languageOf node == "" then none
    else if Text.lower (draft.nameOf node) == name then some { draft with openNodes := outer }
    else closeForeign name draft outer

/-- Takes a piece by the mode that a page is in. -/
def takeInMode (piece : Piece) (draft : Draft) : Taken :=
  match draft.mode with
  | .initial => initial piece draft
  | .beforeHtml => beforeHtml piece draft
  | .beforeHead => beforeHead piece draft
  | .inHead => inHead piece draft
  | .afterHead => afterHead piece draft
  | .inBody => inBody piece draft
  | .inRaw => inRaw piece draft
  | .inTable => inTable piece draft
  | .inCaption => inCaption piece draft
  | .inColumns => inColumns piece draft
  | .inTableBody => inTableBody piece draft
  | .inRow => inRow piece draft
  | .inCell => inCell piece draft
  | .inSelect => inSelect piece draft
  | .inSelectInTable => inSelectInTable piece draft
  | .afterBody => afterBody piece draft
  | .afterAfterBody => afterAfterBody piece draft

/-- Takes a piece in a drawing or a formula. -/
def takeForeign (piece : Piece) (draft : Draft) : Taken :=
  match piece with
  | .text content =>
    (draft.addText (content.map fun c => if c == '\x00' then '\ufffd' else c)).used
  | .comment content => (draft.addComment content).used
  | .opening name attributes closed =>
    if breakouts.contains name then
      let inner := draft.openNodes.takeWhile fun node =>
        draft.languageOf node != "" && !draft.holdsMarkup node
      (false, { draft with openNodes := draft.openNodes.drop inner.length, raw := none })
    else
      let language := (draft.openNodes.head?.map draft.languageOf).getD ""
      let draft := { draft.addElement (spelledName language name) attributes language with raw := none }
      (if closed then draft.pop else draft).used
  | .closing name =>
    match closeForeign name draft draft.openNodes with
    | some draft => draft.used
    | none => takeInMode piece draft
  | _ => draft.used

/-- Whether the blanks at the start of a text are dealt with apart from the rest of it. -/
def partsBlanks : Mode → Bool
  | .initial | .beforeHtml | .beforeHead | .inHead | .afterHead | .inColumns => true
  | _ => false

/-- What is left of a piece that is to be taken again. -/
def leftOf (mode : Mode) (piece : Piece) : Piece :=
  match piece with
  | .text content => if partsBlanks mode then .text (splitBlanks content).2 else piece
  | _ => piece

/-- Takes a piece until it is used up.  The first argument bounds the changes of mode that it
causes. -/
def take (steps : Nat) (piece : Piece) (draft : Draft) : Draft :=
  match steps with
  | 0 => draft
  | steps + 1 =>
    if draft.isForeign piece then
      let (done, after) := takeForeign piece draft
      if done then after else take steps piece after
    else
      let (done, after) := takeInMode piece draft
      if done then after else take steps (leftOf draft.mode piece) after

/-- The element whose content follows without tags, after a piece. -/
def rawAfter : Piece → Option String
  | .opening name _ _ => if (Piece.rawElements.lookup name).isSome then some name else none
  | _ => none

/-- Reads a page to its end. -/
def readAll (steps : Nat) (cs : List Char) (draft : Draft) : Draft :=
  match steps with
  | 0 => draft
  | steps + 1 =>
    match draft.raw with
    | some name =>
      let (content, rest) := Piece.rawContent name cs
      let draft := { draft with raw := none }
      readAll steps rest (if content.isEmpty then draft else draft.take 40 (.text content))
    | none =>
      let (piece, rest) := Piece.next cs
      let draft := { draft with raw := rawAfter piece }.take 40 piece
      match piece with
      | .finish => draft
      | _ => readAll steps rest draft

mutual

/-- The tree below a numbered node.  The first argument bounds its depth. -/
def nodeOf (steps : Nat) (draft : Draft) (node : Nat) : Option Node :=
  match steps with
  | 0 => none
  | steps + 1 =>
    match draft.made? node with
    | some (.text content) => some (.text (String.ofList content))
    | some (.comment content) => some (.comment content)
    | some (.element name attributes _) =>
      some (.element name attributes (nodesOf steps draft (draft.childrenOf node)))
    | _ => none

/-- The trees below numbered nodes. -/
def nodesOf (steps : Nat) (draft : Draft) : List Nat → List Node
  | [] => []
  | node :: rest => (nodeOf steps draft node).toList ++ nodesOf steps draft rest

end

end Draft

/-- The nodes of a page. -/
def readPage (page : String) : List Node :=
  let cs := page.toList
  let draft := Draft.readAll (2 * cs.length + 3) cs {}
  Draft.nodesOf (draft.nodes.size + 1) draft (draft.childrenOf 0)

end Markup
end BigScript
