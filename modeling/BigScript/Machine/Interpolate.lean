import BigScript.Machine.Scope

/-!
# References in texts

A text may refer to variables by `$name` and `${name}`.  References are replaced in one pass from
left to right: what is put in their place is not looked at again, a reference to a name without a
value stays as it is written, and `\$` stands for a plain dollar.
-/

namespace BigScript

/-- A part of a text with references. -/
inductive Segment where
  /-- A dollar written with a backslash. -/
  | escaped
  /-- A reference in braces. -/
  | braced (name : List Char)
  /-- A reference without braces. -/
  | bare (name : List Char)
  /-- Any other character. -/
  | plain (char : Char)
deriving DecidableEq, Repr

namespace Segment

/-- Characters of names in references. -/
def isNameChar (c : Char) : Bool := Text.isLetter c || Text.isDigit c || c == '_'

/-- The longest name at the front of a text.  A dot belongs to it where a letter or digit
follows. -/
def nameOf : List Char → List Char
  | [] => []
  | c :: cs =>
    if isNameChar c then c :: nameOf cs
    else
      match cs with
      | next :: _ =>
        if c == '.' && (Text.isLetter next || Text.isDigit next) then c :: nameOf cs else []
      | [] => []

/-- The characters a segment was written with. -/
def written : Segment → List Char
  | .escaped => ['\\', '$']
  | .braced name => '$' :: '{' :: name ++ ['}']
  | .bare name => '$' :: name
  | .plain c => [c]

/-- The segment at the front of a non-empty text. -/
def first (c : Char) (cs : List Char) : Segment :=
  if c == '\\' && cs.head? == some '$' then .escaped
  else if c == '$' then
    match cs with
    | '{' :: rest =>
      let name := rest.takeWhile (· != '}')
      if name.length < rest.length then .braced name else .plain c
    | rest =>
      let name := nameOf rest
      if name.isEmpty then .plain c else .bare name
  else .plain c

/-- The segments of a text from left to right. -/
def split : List Char → List Segment
  | [] => []
  | c :: cs =>
    let segment := first c cs
    segment :: split (cs.drop (segment.written.length - 1))
termination_by cs => cs.length
decreasing_by simp only [List.length_drop, List.length_cons]; omega

/-- What a segment becomes, given the values of names. -/
def resolve (value? : String → Option String) : Segment → String
  | .escaped => "$"
  | .braced name => (value? (String.ofList name)).getD (String.ofList ('$' :: '{' :: name ++ ['}']))
  | .bare name => (value? (String.ofList name)).getD (String.ofList ('$' :: name))
  | .plain c => String.singleton c

end Segment

/-- A text with its references replaced by values. -/
def interpolate (value? : String → Option String) (text : String) : String :=
  if text.contains '$' then
    (Segment.split text.toList).foldl (fun result part => result ++ part.resolve value?) ""
  else text

namespace Machine

/-- A text with its references replaced by the values of variables. -/
def interpolate (m : Machine) (text : String) : String := BigScript.interpolate m.get? text

end Machine
end BigScript

/-!
## Single words

What one token stands for in a running script, and how a variable is named: bare, or in braces.
-/

namespace BigScript

namespace TokenStream

/-- A variable's name, bare or in braces, at an index, with the index of its last token.  Braces
that are not closed end with the name. -/
def bracedName (toks : TokenStream) (i : Nat) : String × Nat :=
  if (toks.peek i).isSymbol .leftBrace then
    let name := (toks.peek (i + 1)).rawName
    if (toks.peek (i + 2)).isSymbol .rightBrace then (name, i + 2) else (name, i + 1)
  else ((toks.peek i).rawName, i)

/-- A name ends at or after the index at which it begins. -/
theorem le_bracedName (toks : TokenStream) (i : Nat) : i ≤ (toks.bracedName i).2 := by
  unfold bracedName
  split
  · dsimp only
    split <;> simp
  · simp

end TokenStream

namespace Machine

/-- The value of a single token.  Names and reserved words stand for a variable of that name, and
for themselves where there is none. -/
def tokenValue (m : Machine) (t : Token) : String :=
  match t.lexeme with
  | .number x => Number.format x
  | .rate x => Number.format x ++ "x"
  | .name s => m.getD s s
  | .text s => s
  | .foreign s => s
  | .mark c => String.singleton c
  | .symbol .notEqual => "!= "
  | .symbol .at => "at"
  | .symbol s => s.spelling
  | .word .atWord => "at"
  | .word k => m.getD k.spelling k.spelling
  | .finish => ""

/-- The number a token stands for in a formula; what is no number counts as zero. -/
def tokenNumber (m : Machine) (t : Token) : Float :=
  match t.lexeme with
  | .number x => x
  | .rate x => x
  | .name _ => Number.parseOrZero (m.tokenValue t)
  | .text _ => Number.parseOrZero (m.tokenValue t)
  | .word _ => Number.parseOrZero (m.tokenValue t)
  | _ => 0

/-- The number of characters of a variable's value with its references replaced; a name without a
value counts itself. -/
def valueLength (m : Machine) (name : String) : Nat := (m.interpolate (m.getD name name)).length

end Machine
end BigScript
