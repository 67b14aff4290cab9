import BigScript.Text.Basic

/-!
# Tokens of configuration documents

The lexical units of a YAML document.  Blocks are opened and closed by tokens that stand for changes
of indentation.
-/

namespace BigScript

namespace Yaml

/-- A place in a document, counted from zero. -/
structure Mark where
  line : Nat := 0
  column : Nat := 0
  index : Nat := 0
deriving DecidableEq, Repr

/-- A problem with the form of a document.  The line is the one that is reported, if any. -/
structure Problem where
  message : String
  line : Nat := 0
deriving DecidableEq, Repr

namespace Problem

/-- A problem met while reading characters: the line of the construct it belongs to, or else of the
place that was reached. -/
def inText (message : String) (context here : Mark) : Problem :=
  if context.line != 0 then ⟨message, context.line + 1⟩
  else if here.line != 0 then ⟨message, here.line + 1⟩
  else ⟨message, 0⟩

/-- A problem met while reading tokens: the number of the line before the construct or the token. -/
def inTokens (message : String) (context token : Mark) : Problem :=
  if context.line != 0 then ⟨message, context.line⟩ else ⟨message, token.line⟩

/-- The words for a problem. -/
def text (problem : Problem) : String :=
  "yaml: " ++ (if problem.line = 0 then ""
    else "line " ++ String.ofList (Nat.toDigits 10 problem.line) ++ ": ") ++ problem.message

end Problem

/-- The classes of tokens. -/
inductive TokenKind where
  | streamEnd
  | documentStart
  | documentEnd
  | directive
  | version (text : String)
  | blockSequence
  | blockMapping
  | blockEnd
  | flowSequence
  | flowSequenceEnd
  | flowMapping
  | flowMappingEnd
  | entry
  | flowEntry
  | key
  | value
  | alias (name : String)
  | anchor (name : String)
  | tag (text : String)
  | scalar (text : String) (plain : Bool)
  /-- The document cannot be read further. -/
  | broken (problem : Problem)
deriving DecidableEq, Repr

/-- A token with the place at which it begins. -/
structure Token where
  kind : TokenKind
  mark : Mark
deriving DecidableEq, Repr

end Yaml

/-!
## Reading a document character by character

A cursor is a place in a document with the characters that follow.  Line breaks of every kind move it
to the start of the next line.
-/

namespace Yaml

/-- A place in a document and what follows it. -/
structure Cursor where
  rest : List Char
  mark : Mark := {}

/-- Characters that end a line. -/
def isBreak (c : Char) : Bool :=
  c == '\n' || c == '\r' || c == '\u0085' || c == '\u2028' || c == '\u2029'

/-- Blanks within a line. -/
def isBlank (c : Char) : Bool := c == ' ' || c == '\t'

/-- Characters of names. -/
def isNameChar (c : Char) : Bool := c.isAlphanum || c == '_' || c == '-'

namespace Cursor

/-- The next character satisfies `p`. -/
def next (cursor : Cursor) (p : Char → Bool) : Bool :=
  match cursor.rest with
  | [] => false
  | c :: _ => p c

/-- The next character is `c`. -/
def isAt (cursor : Cursor) (c : Char) : Bool := cursor.next (· == c)

/-- Nothing but a blank, a line break or the end follows. -/
def atGap (cursor : Cursor) : Bool :=
  match cursor.rest with
  | [] => true
  | c :: _ => isBlank c || isBreak c

/-- A line break or the end follows. -/
def atLineEnd (cursor : Cursor) : Bool :=
  match cursor.rest with
  | [] => true
  | c :: _ => isBreak c

/-- The cursor after one character of the line. -/
def skip (cursor : Cursor) : Cursor :=
  { rest := cursor.rest.drop 1
    mark := { cursor.mark with
      column := cursor.mark.column + 1
      index := cursor.mark.index + 1 } }

/-- The cursor after several characters of the line. -/
def skipMany (n : Nat) (cursor : Cursor) : Cursor :=
  { rest := cursor.rest.drop n
    mark := { cursor.mark with
      column := cursor.mark.column + n
      index := cursor.mark.index + n } }

/-- The start of the next line, reached by a break of some characters. -/
def nextLine (cursor : Cursor) (size : Nat) : Cursor :=
  { rest := cursor.rest.drop size
    mark := ⟨cursor.mark.line + 1, 0, cursor.mark.index + size⟩ }

/-- Takes a line break as it is kept in a text: the usual breaks become a newline. -/
def takeBreak (cursor : Cursor) : List Char × Cursor :=
  match cursor.rest with
  | '\r' :: '\n' :: _ => (['\n'], cursor.nextLine 2)
  | c :: _ =>
    if c == '\u2028' || c == '\u2029' then ([c], cursor.nextLine 1)
    else if isBreak c then (['\n'], cursor.nextLine 1)
    else ([], cursor)
  | [] => ([], cursor)

/-- The cursor after the characters that satisfy `p`. -/
def skipWhile (cursor : Cursor) (p : Char → Bool) : Cursor :=
  cursor.skipMany (cursor.rest.takeWhile p).length

/-- A line of three equal characters that separates documents starts here. -/
def atMarker (cursor : Cursor) (c : Char) : Bool :=
  cursor.mark.column == 0 && cursor.rest.take 3 == [c, c, c] && (cursor.skipMany 3).atGap

/-- A separator of documents starts here. -/
def atSeparator (cursor : Cursor) : Bool := cursor.atMarker '-' || cursor.atMarker '.'

end Cursor
end Yaml

end BigScript
