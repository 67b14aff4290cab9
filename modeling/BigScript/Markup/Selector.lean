import BigScript.Markup.Build
import BigScript.Markup.Node

/-!
# Selectors

A selector names elements of a page: a chain of steps, each of which asks for a tag, an id, classes and
attributes.  The last step names the element, and the steps before it name elements around it, from
the outside in.
-/

namespace BigScript

namespace Markup

/-- A condition on an attribute: that it is there, or that it has a value. -/
structure AttributeTest where
  name : String
  value : Option String
deriving DecidableEq, Repr

/-- What one step of a selector asks of an element.  An empty tag or id asks for nothing. -/
structure Step where
  tag : String := ""
  id : String := ""
  classes : List String := []
  attributes : List AttributeTest := []
deriving DecidableEq, Repr

namespace Step

/-- Characters that begin a part of a step. -/
def beginsPart (c : Char) : Bool := c == '#' || c == '.' || c == '['

/-- Reads the condition between brackets. -/
def attributeTest (body : String) : AttributeTest :=
  match Text.cut "=" body with
  | some (name, value) =>
    ⟨Text.trim name, some (Text.trimWhere (fun c => c == '"' || c == '\'') (Text.trim value))⟩
  | none => ⟨Text.trim body, none⟩

/-- Reads the parts of a step. -/
def readParts (steps : Nat) (step : Step) (cs : List Char) : Step :=
  match steps, cs with
  | _, [] => step
  | 0, _ => step
  | steps + 1, '#' :: cs =>
    let name := cs.takeWhile (!beginsPart ·)
    readParts steps { step with id := String.ofList name } (cs.drop name.length)
  | steps + 1, '.' :: cs =>
    let name := cs.takeWhile (!beginsPart ·)
    readParts steps { step with classes := step.classes ++ [String.ofList name] }
      (cs.drop name.length)
  | steps + 1, '[' :: cs =>
    let body := cs.takeWhile (· != ']')
    readParts steps
      { step with attributes := step.attributes ++ [attributeTest (String.ofList body)] }
      (cs.drop (body.length + 1))
  | steps + 1, cs =>
    let name := cs.takeWhile (!beginsPart ·)
    readParts steps { step with tag := Text.lower (String.ofList name) } (cs.drop name.length)

/-- Reads a step. -/
def read (text : String) : Step := readParts text.length {} text.toList

/-- Whether an element is what a step asks for. -/
def holds (step : Step) (name : String) (attributes : Attributes) : Bool :=
  (step.tag.isEmpty || step.tag == "*" || step.tag == name) &&
  (step.id.isEmpty || (attributes.lookup "id").getD "" == step.id) &&
  (step.classes.all fun asked =>
    (Text.fields ((attributes.lookup "class").getD "")).contains asked) &&
  (step.attributes.all fun test =>
    match attributes.lookup test.name with
    | none => false
    | some found => test.value.all (· == found))

end Step

/-- An element without what it contains. -/
structure Frame where
  name : String
  attributes : Attributes
deriving DecidableEq, Repr

/-- A chain of steps, the last one first. -/
abbrev Selector := List Step

namespace Selector

/-- Reads a selector: steps with blanks between them; a sign for direct children is ignored. -/
def read (text : String) : Selector :=
  (((Text.fields text).filter (· != ">")).map Step.read).reverse

/-- Whether elements around a place, the innermost first, contain those that the steps ask for. -/
def holdsAround : Selector → List Frame → Bool
  | [], _ => true
  | _ :: _, [] => false
  | step :: steps, frame :: outer =>
    (step.holds frame.name frame.attributes && holdsAround steps outer) ||
      holdsAround (step :: steps) outer

mutual

/-- The first element of a node, in the order of the page, that a selector names.  `around` holds
the elements around the node, the innermost first. -/
def find? (selector : Selector) (around : List Frame) : Node → Option Node
  | .text _ => none
  | .comment _ => none
  | .element name attributes children =>
    match selector with
    | [] => none
    | last :: others =>
      if last.holds name attributes && holdsAround others around then
        some (.element name attributes children)
      else findIn? (last :: others) (⟨name, attributes⟩ :: around) children

/-- The first element of some nodes that a selector names. -/
def findIn? (selector : Selector) (around : List Frame) : List Node → Option Node
  | [] => none
  | node :: rest =>
    match find? selector around node with
    | some found => some found
    | none => findIn? selector around rest

end

end Selector

/-- What is read off an element: its value if it has one, or else the text in it. -/
def Node.reading : Node → String
  | .element name attributes children =>
    match attributes.lookup "value" with
    | some value => value
    | none => Text.trim (Node.element name attributes children).texts
  | node => Text.trim node.texts

end Markup

/-!
## Picking a text out of a page

A page is read, the first element that a selector names is looked up in the order of the page, and
its value or its text is the answer.
-/

namespace Markup

/-- What the first element that a selector names holds, or nothing. -/
def pick (page selector : String) : String :=
  ((Selector.findIn? (Selector.read selector) [] (readPage page)).map Node.reading).getD ""

end Markup

end BigScript
