import BigScript.Markup.Tag

/-!
# A page while it is being read

The nodes made so far are numbered, because elements move while a page is read: an element that was
closed out of order is taken apart and put together again elsewhere.  Beside the nodes there are the
elements that are still open and the formatting elements that are to be continued.
-/

namespace BigScript
namespace Markup

/-- What a numbered node is. -/
inductive Made where
  | page
  | text (content : List Char)
  | comment (content : String)
  /-- The language is empty for markup proper. -/
  | element (name : String) (attributes : Attributes) (language : String)

/-- A numbered node with its place in the tree. -/
structure DraftNode where
  made : Made
  parent : Option Nat := none
  children : List Nat := []

/-- How the next piece is to be taken. -/
inductive Mode where
  | initial
  | beforeHtml
  | beforeHead
  | inHead
  | afterHead
  | inBody
  | inRaw
  | inTable
  | inCaption
  | inColumns
  | inTableBody
  | inRow
  | inCell
  | inSelect
  | inSelectInTable
  | afterBody
  | afterAfterBody
deriving DecidableEq, Repr

/-- The state of reading a page.  Open elements and formatting elements have the innermost first; a
gap among the latter bounds what is continued. -/
structure Draft where
  nodes : Array DraftNode := #[{ made := .page }]
  openNodes : List Nat := []
  formatting : List (Option Nat) := []
  mode : Mode := .initial
  resume : Mode := .inBody
  head : Option Nat := none
  form : Option Nat := none
  /-- Content that does not belong into a table is put before it. -/
  fostering : Bool := false
  /-- The page declares no kind, or an old one. -/
  quirks : Bool := false
  /-- The element whose content is read without tags. -/
  raw : Option String := none

namespace Draft

/-- What a node is. -/
def made? (draft : Draft) (node : Nat) : Option Made := draft.nodes[node]?.map DraftNode.made

/-- The name of a node. -/
def nameOf (draft : Draft) (node : Nat) : String :=
  match draft.made? node with
  | some (.element name _ _) => name
  | _ => ""

/-- The language of a node. -/
def languageOf (draft : Draft) (node : Nat) : String :=
  match draft.made? node with
  | some (.element _ _ language) => language
  | _ => ""

/-- Whether a node is an element of markup proper with one of some names. -/
def isOne (draft : Draft) (names : List String) (node : Nat) : Bool :=
  draft.languageOf node == "" && names.contains (draft.nameOf node)

/-- The name of the innermost open element. -/
def topName (draft : Draft) : String := (draft.openNodes.head?.map draft.nameOf).getD ""

/-- Changes a node. -/
def update (draft : Draft) (node : Nat) (change : DraftNode → DraftNode) : Draft :=
  { draft with nodes := draft.nodes.modify node change }

/-- Makes a node without a place. -/
def make (draft : Draft) (made : Made) : Nat × Draft :=
  (draft.nodes.size, { draft with nodes := draft.nodes.push { made } })

/-- Takes a node out of its place. -/
def detach (draft : Draft) (node : Nat) : Draft :=
  match (draft.nodes[node]?).bind (·.parent) with
  | none => draft
  | some parent =>
    (draft.update parent fun slot =>
      { slot with children := slot.children.filter (· != node) }).update node fun slot =>
        { slot with parent := none }

/-- Puts a node last in another. -/
def append (draft : Draft) (parent node : Nat) : Draft :=
  (draft.update parent fun slot => { slot with children := slot.children ++ [node] }).update
    node fun slot => { slot with parent := some parent }

/-- Puts a node before another one in a parent. -/
def insertBefore (draft : Draft) (parent node next : Nat) : Draft :=
  (draft.update parent fun slot =>
    { slot with
      children := slot.children.takeWhile (· != next) ++ node ::
        slot.children.dropWhile (· != next) }).update node fun slot =>
          { slot with parent := some parent }

/-- The children of a node. -/
def childrenOf (draft : Draft) (node : Nat) : List Nat :=
  ((draft.nodes[node]?).map (·.children)).getD []

/-- The text of a node that is a text. -/
def textOf? (draft : Draft) (node : Nat) : Option (List Char) :=
  match draft.made? node with
  | some (.text content) => some content
  | _ => none

/-- Adds to the text of a node. -/
def extend (draft : Draft) (node : Nat) (more : List Char) : Draft :=
  draft.update node fun slot => match slot.made with
    | .text content => { slot with made := .text (content ++ more) }
    | _ => slot

/-- The parts of tables that hold no content of their own. -/
def tableParts : List String := ["table", "tbody", "tfoot", "thead", "tr"]

/-- Whether content is to be put before the table. -/
def mustFoster (draft : Draft) : Bool :=
  draft.fostering && tableParts.contains draft.topName

/-- Puts a node before the innermost table. -/
def foster (draft : Draft) (node : Nat) : Draft :=
  match draft.openNodes.find? (fun n => draft.nameOf n == "table") with
  | none => draft.append (draft.openNodes.getLastD 0) node
  | some table =>
    match (draft.nodes[table]?).bind (·.parent) with
    | none =>
      let outer := (draft.openNodes.dropWhile (· != table)).drop 1
      draft.append (outer.headD 0) node
    | some parent =>
      let before := (draft.childrenOf parent).takeWhile (· != table)
      match before.getLast?, draft.textOf? node with
      | some previous, some content =>
        if (draft.textOf? previous).isSome then draft.extend previous content
        else draft.insertBefore parent node table
      | _, _ => draft.insertBefore parent node table

/-- Puts a node where content goes now. -/
def place (draft : Draft) (node : Nat) : Draft :=
  if draft.mustFoster then draft.foster node
  else draft.append (draft.openNodes.headD 0) node

/-- Adds text where content goes now. -/
def addText (draft : Draft) (content : List Char) : Draft :=
  if content.isEmpty then draft
  else if draft.mustFoster then
    let (node, draft) := draft.make (.text content)
    draft.foster node
  else
    let top := draft.openNodes.headD 0
    match (draft.childrenOf top).getLast? with
    | some last =>
      if (draft.textOf? last).isSome then draft.extend last content
      else
        let (node, draft) := draft.make (.text content)
        draft.append top node
    | none =>
      let (node, draft) := draft.make (.text content)
      draft.append top node

/-- Adds a comment where content goes now. -/
def addComment (draft : Draft) (content : String) : Draft :=
  let (node, draft) := draft.make (.comment content)
  draft.place node

/-- Adds an element where content goes now and opens it. -/
def addElement (draft : Draft) (name : String) (attributes : Attributes) (language : String) :
    Draft :=
  let (node, draft) := draft.make (.element name attributes language)
  let draft := draft.place node
  { draft with openNodes := node :: draft.openNodes }

/-- Closes the innermost open element. -/
def pop (draft : Draft) : Draft := { draft with openNodes := draft.openNodes.drop 1 }

/-- Where a search among the open elements ends. -/
inductive Scope where
  | usual
  | listItem
  | button
  | table
  | select
deriving DecidableEq

/-- Elements of markup proper that bound most searches. -/
def boundaries : List String :=
  ["applet", "caption", "html", "table", "td", "th", "marquee", "object", "template"]

/-- Whether a search for an element ends at a node that is not the one looked for. -/
def bounds (draft : Draft) (scope : Scope) (node : Nat) : Bool :=
  let name := draft.nameOf node
  let proper := draft.languageOf node == ""
  let general :=
    if proper then boundaries.contains name
    else ["annotation-xml", "mi", "mn", "mo", "ms", "mtext", "desc", "foreignObject",
      "title"].contains name
  match scope with
  | .usual => general
  | .listItem => general || (proper && (name == "ol" || name == "ul"))
  | .button => general || (proper && name == "button")
  | .table => proper && ["html", "table", "template"].contains name
  | .select => proper && name != "optgroup" && name != "option"

/-- The open elements from the innermost one of some names on, if it is in a scope. -/
def inScope? (draft : Draft) (scope : Scope) (names : List String) :
    List Nat → Option (List Nat)
  | [] => none
  | node :: outer =>
    if draft.isOne names node then some (node :: outer)
    else if draft.bounds scope node then none
    else inScope? draft scope names outer

/-- Whether an element of some names is open in a scope. -/
def hasInScope (draft : Draft) (scope : Scope) (names : List String) : Bool :=
  (draft.inScope? scope names draft.openNodes).isSome

/-- Closes open elements up to one of some names, if it is in a scope. -/
def popUntil? (draft : Draft) (scope : Scope) (names : List String) : Option Draft :=
  (draft.inScope? scope names draft.openNodes).map fun found =>
    { draft with openNodes := found.drop 1 }

/-- Closes open elements up to one of some names, if it is in a scope. -/
def popUntil (draft : Draft) (scope : Scope) (names : List String) : Draft :=
  (draft.popUntil? scope names).getD draft

/-- Closes open elements down to one of some names, which stays open. -/
def clearTo (draft : Draft) (names : List String) : Draft :=
  let kept := draft.openNodes.dropWhile fun node => !names.contains (draft.nameOf node)
  if kept.isEmpty then draft else { draft with openNodes := kept }

/-- Elements that are closed without a tag of their own. -/
def impliedEnds : List String :=
  ["dd", "dt", "li", "optgroup", "option", "p", "rb", "rp", "rt", "rtc"]

/-- Closes elements that need no closing tag, except for some. -/
def closeImplied (draft : Draft) (kept : List String) : Draft :=
  { draft with
    openNodes := draft.openNodes.dropWhile fun node =>
      draft.isOne impliedEnds node && !kept.contains (draft.nameOf node) }

/-- Elements that structure a page. -/
def structural : List String :=
  ["address", "applet", "area", "article", "aside", "base", "basefont", "bgsound", "blockquote",
   "body", "br", "button", "caption", "center", "col", "colgroup", "dd", "details", "dir", "div",
   "dl", "dt", "embed", "fieldset", "figcaption", "figure", "footer", "form", "frame", "frameset",
   "h1", "h2", "h3", "h4", "h5", "h6", "head", "header", "hgroup", "hr", "html", "iframe", "img",
   "input", "keygen", "li", "link", "listing", "main", "marquee", "menu", "meta", "nav", "noembed",
   "noframes", "noscript", "object", "ol", "p", "param", "plaintext", "pre", "script", "section",
   "select", "source", "style", "summary", "table", "tbody", "td", "template", "textarea", "tfoot",
   "th", "thead", "title", "tr", "track", "ul", "wbr", "xmp"]

/-- Whether a node structures a page. -/
def isStructural (draft : Draft) (node : Nat) : Bool :=
  let name := draft.nameOf node
  match draft.languageOf node with
  | "" => structural.contains name
  | "svg" => ["foreignObject", "desc", "title"].contains name
  | _ => ["mi", "mo", "mn", "ms", "mtext", "annotation-xml"].contains name

/-- Makes a node like another one, without its content. -/
def copy (draft : Draft) (node : Nat) : Nat × Draft :=
  draft.make ((draft.made? node).getD .page)

/-- The formatting elements that are to be continued, the outermost first: those inside the innermost
one that is open or bounds the others. -/
def toContinue (draft : Draft) : List Nat :=
  (draft.formatting.takeWhile fun entry => entry.any (!draft.openNodes.contains ·)).reverse.filterMap
    id

/-- Opens formatting elements again that were closed out of order. -/
def continueFormatting (draft : Draft) : Draft :=
  draft.toContinue.foldl (fun draft old =>
    let (node, draft) := draft.copy old
    let draft := draft.place node
    { draft with
      openNodes := node :: draft.openNodes
      formatting := draft.formatting.map fun entry =>
        if entry == some old then some node else entry }) draft

/-- The attributes of a node. -/
def attributesOf (draft : Draft) (node : Nat) : Attributes :=
  match draft.made? node with
  | some (.element _ attributes _) => attributes
  | _ => []

/-- The formatting elements like a new one, the innermost first. -/
def alike (draft : Draft) (name : String) (attributes : Attributes) : List Nat :=
  ((draft.formatting.takeWhile Option.isSome).filterMap id).filter fun node =>
    draft.isOne [name] node && draft.attributesOf node == attributes

/-- Adds a formatting element.  Of those that are alike only three are continued. -/
def addFormatting (draft : Draft) (name : String) (attributes : Attributes) : Draft :=
  let spent := (draft.alike name attributes).drop 2
  let draft := draft.addElement name attributes ""
  { draft with
    formatting := draft.openNodes.head? ::
      draft.formatting.filter fun entry => !entry.any spent.contains }

/-- Forgets the formatting elements up to the last gap. -/
def clearFormatting (draft : Draft) : Draft :=
  { draft with formatting := (draft.formatting.dropWhile Option.isSome).drop 1 }

/-- Forgets a formatting element. -/
def forget (draft : Draft) (node : Nat) : Draft :=
  { draft with formatting := draft.formatting.filter (· != some node) }

/-- Closes an element wherever it is among the open ones. -/
def close (draft : Draft) (node : Nat) : Draft :=
  { draft with openNodes := draft.openNodes.filter (· != node) }

/-- Closes the innermost element of a name, unless an element that structures the page is inside
it. -/
def closeOther (draft : Draft) (name : String) : Draft :=
  go draft.openNodes
where
  go : List Nat → Draft
    | [] => draft
    | node :: outer =>
      if draft.nameOf node == name then { draft with openNodes := outer }
      else if draft.isStructural node then draft
      else go outer

end Draft
end Markup
end BigScript
