import BigScript.Markup.Node
import BigScript.Markup.Reference

/-!
# Tags

A page as it is written is a sequence of texts, tags, comments and declarations.  Nothing is ever
refused: what is not a tag is text.
-/

namespace BigScript
namespace Markup

/-- A piece of a page. -/
inductive Piece where
  | text (content : List Char)
  | opening (name : String) (attributes : Attributes) (closed : Bool)
  | closing (name : String)
  | comment (content : String)
  /-- A declaration of the kind of page. -/
  | doctype (content : String)
  | finish

namespace Piece

/-- Blanks within tags. -/
def isBlank (c : Char) : Bool := c == ' ' || c == '\n' || c == '\r' || c == '\t' || c == '\x0c'

/-- ASCII letters. -/
def isLetter (c : Char) : Bool := ('a' ≤ c && c ≤ 'z') || ('A' ≤ c && c ≤ 'Z')

/-- Line breaks of every kind as newlines. -/
def plainBreaks : List Char → List Char
  | '\r' :: '\n' :: cs => '\n' :: plainBreaks cs
  | '\r' :: cs => '\n' :: plainBreaks cs
  | c :: cs => c :: plainBreaks cs
  | [] => []

/-- The value of an attribute as it is meant. -/
def attributeValue (cs : List Char) : String :=
  String.ofList (Reference.decode true (plainBreaks cs))

/-- A name in lower case. -/
def lowerName (cs : List Char) : String := String.ofList (cs.map Char.toLower)

/-- Reads the name of an attribute.  An equals sign at its start belongs to it. -/
def attributeName (cs : List Char) : List Char × List Char :=
  let ends (c : Char) : Bool := isBlank c || c == '/' || c == '>' || c == '='
  match cs with
  | '=' :: rest =>
    let name := rest.takeWhile (!ends ·)
    ('=' :: name, rest.drop name.length)
  | cs =>
    let name := cs.takeWhile (!ends ·)
    (name, cs.drop name.length)

/-- Reads what follows the name of an attribute: its value if there is one.  The result is missing
if the page ends within it. -/
def attributeRest? (cs : List Char) : Option (List Char × List Char) :=
  match cs.dropWhile isBlank with
  | [] => none
  | '/' :: rest => some ([], rest)
  | '=' :: rest =>
    match rest.dropWhile isBlank with
    | [] => none
    | '>' :: rest => some ([], '>' :: rest)
    | c :: rest =>
      if c == '"' || c == '\'' then
        let value := rest.takeWhile (· != c)
        match rest.drop value.length with
        | [] => none
        | _ :: rest => some (value, rest)
      else
        let value := (c :: rest).takeWhile fun c => !isBlank c && c != '>'
        match (c :: rest).drop value.length with
        | [] => none
        | after => some (value, after)
  | rest => some ([], rest)

/-- Reads the attributes of a tag up to its end.  `last` is the character read last, from which it is
told whether the tag is closed at once. -/
def readAttributes (steps : Nat) (found : Attributes) (cs : List Char) :
    Option (Attributes × List Char) :=
  match steps, cs.dropWhile isBlank with
  | 0, _ => none
  | _, [] => none
  | _, '>' :: rest => some (found.reverse, rest)
  | steps + 1, cs =>
    let (name, after) := attributeName cs
    match attributeRest? after with
    | none => none
    | some (value, rest) =>
      let found := if name.isEmpty then found else (lowerName name, attributeValue value) :: found
      readAttributes steps found rest

/-- Reads a tag from its name on.  The result is missing if the page ends within it; the flag tells
whether a slash stands before its end. -/
def readTag (cs : List Char) : Option (String × Attributes × Bool × List Char) :=
  let name := cs.takeWhile fun c => !isBlank c && c != '/' && c != '>'
  match readAttributes (cs.length + 1) [] (cs.drop name.length) with
  | none => none
  | some (attributes, rest) =>
    let written := cs.take (cs.length - rest.length - 1)
    some (lowerName name, attributes, written.getLast? == some '/', rest)

/-- What follows the next closing bracket, with what stands before it. -/
def untilBracket (cs : List Char) : List Char × List Char :=
  (cs.takeWhile (· != '>'), (cs.dropWhile (· != '>')).drop 1)

/-- What follows a comment.  `dashes` counts the dashes read last, and `beginning` tells that nothing
else has been read. -/
def afterComment (dashes : Nat) (beginning : Bool) : List Char → List Char
  | [] => []
  | '-' :: cs => afterComment (dashes + 1) beginning cs
  | '>' :: cs => if 2 ≤ dashes || beginning then cs else afterComment 0 false cs
  | '!' :: '>' :: cs => if 2 ≤ dashes then cs else afterComment 0 false cs
  | _ :: cs => afterComment 0 false cs

/-- The text of a comment, given what follows it. -/
def commentText (cs rest : List Char) : String :=
  String.ofList (Text.dropRightWhile (fun c => c == '-' || c == '>' || c == '!')
    (cs.take (cs.length - rest.length)))

/-- Reads a declaration or a comment after its exclamation mark. -/
def readDeclaration (cs : List Char) : Piece × List Char :=
  match cs with
  | '-' :: '-' :: body =>
    let rest := afterComment 0 true body
    (.comment (commentText body rest), rest)
  | cs =>
    if lowerName (cs.take 7) == "doctype" then
      let (content, rest) := untilBracket ((cs.drop 7).dropWhile isBlank)
      (.doctype (String.ofList content), rest)
    else
      let (content, rest) := untilBracket cs
      (.comment (String.ofList content), rest)

/-- Whether a tag or the like begins after an opening bracket. -/
def beginsTag : List Char → Bool
  | '<' :: c :: _ => isLetter c || c == '/' || c == '!' || c == '?'
  | _ => false

/-- Takes characters up to the next tag. -/
def takeText (text : List Char) : List Char → List Char × List Char
  | [] => (text.reverse, [])
  | c :: cs => if beginsTag (c :: cs) then (text.reverse, c :: cs) else takeText (c :: text) cs

/-- Reads the piece that begins with a bracket.  A tag in which the page ends is no piece. -/
def readTagPiece (cs : List Char) : Option (Piece × List Char) :=
  match cs with
  | '<' :: '/' :: [] => some (.text cs, [])
  | '<' :: '/' :: '>' :: rest => some (.comment "", rest)
  | '<' :: '/' :: c :: rest =>
    if isLetter c then
      match readTag (c :: rest) with
      | some (name, _, _, rest) => some (.closing name, rest)
      | none => none
    else
      let (content, rest) := untilBracket (c :: rest)
      some (.comment (String.ofList content), rest)
  | '<' :: '!' :: rest => some (readDeclaration rest)
  | '<' :: '?' :: rest =>
    let (content, rest) := untilBracket ('?' :: rest)
    some (.comment (String.ofList content), rest)
  | '<' :: rest =>
    match readTag rest with
    | some (name, attributes, closed, rest) => some (.opening name attributes closed, rest)
    | none => none
  | _ => none

/-- The next piece of a page. -/
def next (cs : List Char) : Piece × List Char :=
  if cs.isEmpty then (.finish, [])
  else if beginsTag cs then (readTagPiece cs).getD (.finish, [])
  else
    let (content, rest) := takeText [] cs
    (.text (Reference.decode false (plainBreaks content)), rest)

/-- The elements whose content holds no tags, with whether references in it count. -/
def rawElements : List (String × Bool) :=
  [("iframe", false), ("noembed", false), ("noframes", false), ("noscript", false),
   ("plaintext", false), ("script", false), ("style", false), ("textarea", true), ("title", true),
   ("xmp", false)]

/-- Whether the closing tag of an element begins here. -/
def beginsClosing (name : String) : List Char → Bool
  | '<' :: '/' :: cs =>
    lowerName (cs.take name.length) == name &&
      ((cs.drop name.length).head?.any fun c => isBlank c || c == '/' || c == '>')
  | _ => false

/-- Takes the content of an element that holds no tags. -/
def takeRaw (name : String) (text : List Char) : List Char → List Char × List Char
  | [] => (text.reverse, [])
  | c :: cs =>
    if beginsClosing name (c :: cs) then (text.reverse, c :: cs) else takeRaw name (c :: text) cs

/-- The content of an element that holds no tags, and what follows. -/
def rawContent (name : String) (cs : List Char) : List Char × List Char :=
  let (content, rest) := if name == "plaintext" then (cs, []) else takeRaw name [] cs
  let content := (plainBreaks content).map fun c => if c == '\x00' then '\ufffd' else c
  (if (rawElements.lookup name).getD false then Reference.decode false content else content, rest)

end Piece
end Markup
end BigScript
