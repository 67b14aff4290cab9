import BigScript.Markdown.Character

/-!
# Tags and addresses in angle brackets

Each function takes what follows the start of a construct and gives what follows its end.
-/

namespace BigScript
namespace Markdown
namespace Tag

/-- Blanks before and within attributes. -/
def isGap (c : Char) : Bool := c == ' ' || c == '\t' || c == '\n' || c == '\r'

/-- Characters in the name of a tag. -/
def isNameChar (c : Char) : Bool := isAlphanumeric c || c == '-'

/-- What follows the name of a tag. -/
def afterName? (cs : List Char) : Option (List Char × List Char) :=
  match cs with
  | c :: rest =>
    if isLetter c then
      let name := c :: rest.takeWhile isNameChar
      some (name, cs.drop name.length)
    else none
  | [] => none

/-- What follows the value of an attribute. -/
def afterValue? (cs : List Char) : Option (List Char) :=
  match cs with
  | '"' :: rest => match rest.dropWhile (· != '"') with
    | _ :: rest => some rest
    | [] => none
  | '\'' :: rest => match rest.dropWhile (· != '\'') with
    | _ :: rest => some rest
    | [] => none
  | cs =>
    let stays (c : Char) : Bool := ' ' < c && !"\"'=<>\x60".toList.contains c
    match cs.takeWhile stays with
    | [] => none
    | value => some (cs.drop value.length)

/-- What follows an attribute with the blanks before it. -/
def afterAttribute? (cs : List Char) : Option (List Char) :=
  match cs with
  | gap :: _ =>
    if !isGap gap then none
    else
      match cs.dropWhile isGap with
      | c :: rest =>
        if isLetter c || c == '_' || c == ':' then
          let after := rest.dropWhile fun c =>
            isAlphanumeric c || c == ':' || c == '.' || c == '_' || c == '-'
          match after.dropWhile isGap with
          | '=' :: value => some ((afterValue? (value.dropWhile isGap)).getD after)
          | _ => some after
        else none
      | [] => none
  | [] => none

/-- What follows the attributes of a tag.  The first argument bounds their number. -/
def afterAttributes (steps : Nat) (cs : List Char) : List Char :=
  match steps with
  | 0 => cs
  | steps + 1 =>
    match afterAttribute? cs with
    | some rest => afterAttributes steps rest
    | none => cs

/-- What follows spaces, tabs and ends of lines. -/
def afterGap : List Char → List Char
  | '\r' :: '\n' :: cs => afterGap cs
  | c :: cs => if c == ' ' || c == '\t' || c == '\n' then afterGap cs else c :: cs
  | [] => []

/-- What follows a text. -/
def afterText? (text cs : List Char) : Option (List Char) := (Text.cutChars text cs).map (·.2)

/-- What follows an opening tag, after its bracket. -/
def afterOpening? (cs : List Char) : Option (List Char) := do
  let (_, rest) ← afterName? cs
  match afterGap (afterAttributes rest.length rest) with
  | '>' :: rest => some rest
  | '/' :: '>' :: rest => some rest
  | _ => none

/-- What follows a closing tag, after its bracket and slash. -/
def afterClosing? (cs : List Char) : Option (List Char) := do
  let (_, rest) ← afterName? cs
  match afterGap rest with
  | '>' :: rest => some rest
  | _ => none

/-- What follows a tag, a comment, an instruction or a declaration, after its bracket.  One question mark
is enough for an instruction. -/
def after? (cs : List Char) : Option (List Char) :=
  match cs with
  | '/' :: rest => afterClosing? rest
  | '!' :: '-' :: '-' :: '>' :: rest => some rest
  | '!' :: '-' :: '-' :: '-' :: '>' :: rest => some rest
  | '!' :: '-' :: '-' :: rest => afterText? "-->".toList rest
  | '?' :: rest => afterText? "?>".toList ('?' :: rest)
  | '!' :: '[' :: 'C' :: 'D' :: 'A' :: 'T' :: 'A' :: '[' :: rest => afterText? "]]>".toList rest
  | '!' :: c :: rest => if 'A' ≤ c && c ≤ 'Z' then afterText? ['>'] rest else none
  | cs => afterOpening? cs

/-- Reads an address after its bracket. -/
def address? (cs : List Char) : Option (List Char × List Char) :=
  match cs with
  | c :: rest =>
    let scheme := rest.takeWhile fun c => isAlphanumeric c || c == '+' || c == '.' || c == '-'
    if !isLetter c || scheme.isEmpty || 32 < scheme.length then none
    else
      match rest.drop scheme.length with
      | ':' :: body =>
        let path := body.takeWhile fun c => ' ' < c && c != '<' && c != '>' && c != '\x7f'
        match body.drop path.length with
        | '>' :: after => some (c :: scheme ++ ':' :: path, after)
        | _ => none
      | _ => none
  | [] => none

/-- Characters in a mail address before its at sign. -/
def isMailChar (c : Char) : Bool :=
  isAlphanumeric c || ".!#$%&'*+/=?^_\x60\x7b|\x7d~-".toList.contains c

/-- Whether a part of a domain is well formed. -/
def isDomainPart (part : List Char) : Bool :=
  !part.isEmpty && part.length ≤ 63 && part.all isNameChar &&
    part.head? != some '-' && part.getLast? != some '-'

/-- Reads a mail address after its bracket. -/
def mail? (cs : List Char) : Option (List Char × List Char) :=
  let name := cs.takeWhile isMailChar
  match cs.drop name.length with
  | '@' :: rest =>
    let domain := rest.takeWhile fun c => isNameChar c || c == '.'
    match rest.drop domain.length with
    | '>' :: after =>
      if !name.isEmpty && (Text.splitChars ['.'] domain).all isDomainPart
      then some (name ++ '@' :: domain, after) else none
    | _ => none
  | _ => none

end Tag
end Markdown
end BigScript
