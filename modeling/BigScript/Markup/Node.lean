import BigScript.Text.Basic

/-!
# Trees of markup

A page as a tree: elements with attributes around texts and comments.
-/

namespace BigScript
namespace Markup

/-- The attributes of an element in the order they are written; the first of a name counts. -/
abbrev Attributes := List (String × String)

/-- A node of a page. -/
inductive Node where
  | text (content : String)
  | comment (content : String)
  | element (name : String) (attributes : Attributes) (children : List Node)

namespace Node

mutual

/-- The texts in a node, in the order of the page. -/
def texts : Node → String
  | .text content => content
  | .comment _ => ""
  | .element _ _ children => textsIn children

/-- The texts in some nodes. -/
def textsIn : List Node → String
  | [] => ""
  | node :: rest => node.texts ++ textsIn rest

end

end Node
end Markup
end BigScript

/-!
## Escaping texts in markup

The characters that have a meaning of their own in markup are written as references.
-/

namespace BigScript
namespace Markup

/-- A character of a text in a page.  A plus sign is written as a reference too. -/
def pageChar (c : Char) : String :=
  match c with
  | '"' => "&#34;"
  | '&' => "&amp;"
  | '\'' => "&#39;"
  | '+' => "&#43;"
  | '<' => "&lt;"
  | '>' => "&gt;"
  | '\x00' => "\ufffd"
  | c => String.singleton c

/-- A text in a page. -/
def pageText (text : String) : String := String.join (text.toList.map pageChar)

/-- A character of a text between tags. -/
def char (c : Char) : String :=
  match c with
  | '"' => "&#34;"
  | '&' => "&amp;"
  | '\'' => "&#39;"
  | '<' => "&lt;"
  | '>' => "&gt;"
  | c => String.singleton c

/-- A text between tags. -/
def text (text : String) : String := String.join (text.toList.map char)

end Markup
end BigScript
