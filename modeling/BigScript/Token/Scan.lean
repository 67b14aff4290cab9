import BigScript.Number.Read
import BigScript.Token.Basic

/-!
# Scanning

Scanning turns the text of a script into its tokens.  It never fails: a character that begins
nothing else is a token of its own.  Every token is placed at the line and column reached by
walking over all characters before it; only an embedded program is placed after the words that
open it.
-/

namespace BigScript

/-- A line and a column, both counted from one. -/
structure Place where
  line : Nat := 1
  column : Nat := 1
deriving DecidableEq, Repr

namespace Place

/-- The number of columns a tab takes up. -/
def tabWidth : Nat := 4

/-- The place after one character. -/
def after (place : Place) (c : Char) : Place :=
  if c == '\n' then ⟨place.line + 1, 1⟩
  else if c == '\t' then ⟨place.line, place.column + tabWidth⟩
  else ⟨place.line, place.column + 1⟩

/-- The place after a run of characters. -/
def afterAll (place : Place) (cs : List Char) : Place := cs.foldl after place

end Place

namespace Scan

/-- What a step of the scan reads: a lexeme, how many characters it takes after the first one, and
how many characters before its own place belong to it. -/
structure Piece where
  lexeme : Lexeme
  more : Nat
  lead : Nat := 0

/-- Characters between tokens. -/
def isGap (c : Char) : Bool := c == ' ' || c == '\t' || c == '\r' || c == '\n'

/-- Characters of words besides underscores and hyphens. -/
def isWordChar (c : Char) : Bool := Text.isLetter c || Text.isDigit c

/-- The words that hold a dot. -/
def compounds : List String := ["s.loop", "loop.s", "k.loop"]

/-- What an escape in a string stands for.  An unknown escape keeps its backslash. -/
def unescape : Char → List Char
  | 'n' => ['\n']
  | 't' => ['\t']
  | 'r' => ['\r']
  | '\\' => ['\\']
  | '"' => ['"']
  | c => ['\\', c]

/-- Reads a string after its opening quote: its content and how many characters it takes, the
closing quote included.  A string that is not closed ends with the script. -/
def readText : List Char → List Char × Nat
  | [] => ([], 0)
  | '"' :: _ => ([], 1)
  | ['\\'] => ([], 1)
  | '\\' :: e :: cs =>
    let (content, n) := readText cs
    (unescape e ++ content, n + 2)
  | c :: cs =>
    let (content, n) := readText cs
    (c :: content, n + 1)

/-- Characters of a written number. -/
def isNumberChar (c : Char) : Bool := ('0' ≤ c && c ≤ '9') || c == '.'

/-- Reads a number whose first digit is given.  A number that is not written well counts as zero,
and a directly following `x` makes it a rate. -/
def readNumber (first : Char) (cs : List Char) : Piece :=
  let digits := cs.takeWhile isNumberChar
  let value := (Number.read (String.ofList (first :: digits))).value?.getD 0
  match cs.drop digits.length with
  | c :: _ =>
    if c == 'x' || c == 'X' then ⟨.rate value, digits.length + 1, 0⟩
    else ⟨.number value, digits.length, 0⟩
  | [] => ⟨.number value, digits.length, 0⟩

/-- Reads the rest of a word of which `word` has been read.  A dot belongs to it where it makes one
of the compound words. -/
def readWord (word : List Char) : List Char → List Char
  | [] => word
  | c :: cs =>
    if isWordChar c || c == '_' || c == '-' then readWord (word ++ [c]) cs
    else if c == '.' &&
        compounds.contains (String.ofList (word ++ ['.'] ++ cs.takeWhile isWordChar)) then
      readWord (word ++ [c]) cs
    else word

/-- The word that announces an embedded program. -/
def foreignWord : String := "python3"

/-- The words that close an embedded program. -/
def foreignClose : String := "python3 end"

/-- Reads an embedded program after its announcing word: the characters up to and including the
opening word, the program, and the number of characters after the opening word. -/
def readForeign? (cs : List Char) : Option (Nat × List Char × Nat) :=
  let blanks := cs.takeWhile Text.isSpace
  let rest := cs.drop blanks.length
  let opening := rest.takeWhile isWordChar
  if opening == "start".toList then
    let body := rest.drop opening.length
    match Text.cutChars foreignClose.toList body with
    | some (code, _) =>
      some (blanks.length + opening.length, code, code.length + foreignClose.length)
    | none => some (blanks.length + opening.length, body, body.length)
  else none

/-- Reads a word: an embedded program, a reserved word, or a name. -/
def readName (first : Char) (cs : List Char) : Piece :=
  let word := readWord [first] cs
  let length := word.length - 1
  let plain : Piece :=
    match Keyword.ofText? (String.ofList word) with
    | some k => ⟨.word k, length, 0⟩
    | none => ⟨.name (String.ofList word), length, 0⟩
  if String.ofList word == foreignWord then
    match readForeign? (cs.drop length) with
    | some (lead, code, size) =>
      ⟨.foreign (Text.trim (String.ofList code)), length + lead + size, length + lead + 1⟩
    | none => plain
  else plain

/-- Reads a symbol, or a single character that is none. -/
def readSymbol (first : Char) (cs : List Char) : Piece :=
  let one (s : Symbol) : Piece := ⟨.symbol s, 0, 0⟩
  let two (s : Symbol) : Piece := ⟨.symbol s, 1, 0⟩
  let next := cs.head?
  match first with
  | '!' => if next == some '=' then two .notEqual else ⟨.mark '!', 0, 0⟩
  | '=' => if next == some 'x' then two .notEqual else one .assign
  | '>' => if next == some '=' then two .greaterEqual else one .greater
  | '<' => if next == some '=' then two .lessEqual else one .less
  | '&' => one .ampersand
  | '+' => one .plus
  | '-' => one .minus
  | '*' => one .star
  | '/' => one .slash
  | '^' => one .caret
  | '{' => one .leftBrace
  | '}' => one .rightBrace
  | '(' => one .leftParen
  | ')' => one .rightParen
  | '[' => one .leftBracket
  | ']' => one .rightBracket
  | '.' => one .dot
  | ':' => one .colon
  | '$' => one .dollar
  | '@' => one .at
  | c => ⟨.mark c, 0, 0⟩

/-- Reads the lexeme that begins with the given character, which is neither a gap nor the start of
a comment. -/
def readPiece (first : Char) (cs : List Char) : Piece :=
  if first == '"' then
    let (content, n) := readText cs
    ⟨.text (String.ofList content), n, 0⟩
  else if '0' ≤ first && first ≤ '9' then readNumber first cs
  else if Text.isLetter first || first == '_' then readName first cs
  else readSymbol first cs

/-- The token made of a piece read at a place. -/
def token (place : Place) (cs : List Char) (piece : Piece) : Token :=
  let start := place.afterAll (cs.take piece.lead)
  let stop := place.afterAll (cs.take (piece.more + 1))
  let span := if stop.line == start.line then stop.column - start.column else 0
  ⟨piece.lexeme, start.line, start.column, span⟩

/-- The tokens of the text that begins at a place. -/
def tokens (place : Place) : List Char → List Token
  | [] => [⟨.finish, place.line, place.column, 0⟩]
  | c :: cs =>
    if isGap c then tokens (place.after c) cs
    else if c == '#' then
      let comment := cs.takeWhile (· != '\n')
      tokens (place.afterAll (c :: comment)) (cs.drop comment.length)
    else
      let piece := readPiece c cs
      token place (c :: cs) piece ::
        tokens (place.afterAll ((c :: cs).take (piece.more + 1))) (cs.drop piece.more)
termination_by cs => cs.length
decreasing_by all_goals simp only [List.length_cons, List.length_drop]; omega

end Scan

/-- The tokens of a script.  The last one marks the end. -/
def scan (source : String) : TokenStream := (Scan.tokens {} source.toList).toArray

end BigScript
