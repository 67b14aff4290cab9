import BigScript.Number.Decimal
import BigScript.Text.Quoted
import BigScript.Token.Keyword

/-!
# Tokens

A token is one lexical unit of a script together with the line and column at which it was written.
Blocks have no brackets of their own: they are recognised from the columns of tokens, so positions
are part of a token's meaning.
-/

namespace BigScript

/-- The punctuation that has a meaning of its own. -/
inductive Symbol where
  | assign | notEqual | greater | less | greaterEqual | lessEqual
  | ampersand | plus | minus | star | slash | caret
  | leftBrace | rightBrace | leftParen | rightParen | leftBracket | rightBracket
  | dot | colon | dollar | at
deriving DecidableEq, Repr

/-- The canonical spelling of a symbol. -/
def Symbol.spelling : Symbol → String
  | .assign => "="
  | .notEqual => "!="
  | .greater => ">"
  | .less => "<"
  | .greaterEqual => ">="
  | .lessEqual => "<="
  | .ampersand => "&"
  | .plus => "+"
  | .minus => "-"
  | .star => "*"
  | .slash => "/"
  | .caret => "^"
  | .leftBrace => "\x7b"
  | .rightBrace => "\x7d"
  | .leftParen => "("
  | .rightParen => ")"
  | .leftBracket => "["
  | .rightBracket => "]"
  | .dot => "."
  | .colon => ":"
  | .dollar => "$"
  | .at => "@"

/-- What a token says. -/
inductive Lexeme where
  | number (value : Float)
  | text (content : String)
  | name (content : String)
  /-- A number directly followed by `x`, as in `0.5x`. -/
  | rate (value : Float)
  /-- The raw text of an embedded program. -/
  | foreign (content : String)
  /-- Any other single character. -/
  | mark (char : Char)
  | symbol (symbol : Symbol)
  | word (keyword : Keyword)
  /-- The end of a script. -/
  | finish

/-- The class of a token, without what a literal holds. -/
inductive Kind where
  | number
  | text
  | name
  | rate
  | foreign
  | mark
  | symbol (symbol : Symbol)
  | word (keyword : Keyword)
  | finish
deriving DecidableEq, Repr

namespace Lexeme

/-- The class of what a token says. -/
def kind : Lexeme → Kind
  | .number _ => .number
  | .text _ => .text
  | .name _ => .name
  | .rate _ => .rate
  | .foreign _ => .foreign
  | .mark _ => .mark
  | .symbol s => .symbol s
  | .word k => .word k
  | .finish => .finish

end Lexeme

namespace Kind

/-- The spelling of words and symbols, and a class name for literals. -/
def label : Kind → String
  | .number => "number"
  | .text => "string"
  | .name => "identifier"
  | .rate => "rate"
  | .foreign => "foreigncode"
  | .mark => "char"
  | .symbol s => s.spelling
  | .word k => k.spelling
  | .finish => "eof"

/-- Whether the class is a reserved word. -/
def isWord : Kind → Bool
  | .word _ => true
  | _ => false

end Kind

/-- A lexical unit with the place at which it was written.  `span` is the number of columns it
covers, or zero where that is not known or where it ends on a later line. -/
structure Token where
  lexeme : Lexeme
  line : Nat
  column : Nat
  span : Nat := 0

namespace Token

/-- The class of a token. -/
def kind (t : Token) : Kind := t.lexeme.kind

/-- Whether a token is the given reserved word. -/
def isWord (t : Token) (k : Keyword) : Bool := t.kind == .word k

/-- Whether a token is the given symbol. -/
def isSymbol (t : Token) (s : Symbol) : Bool := t.kind == .symbol s

/-- Whether a token is the end of its script. -/
def isFinish (t : Token) : Bool := t.kind == .finish

/-- Whether a token is a given single character. -/
def isMark (t : Token) (c : Char) : Bool :=
  match t.lexeme with
  | .mark d => d == c
  | _ => false

/-- The text that a string, a name or an embedded program holds; empty for every other token. -/
def content (t : Token) : String :=
  match t.lexeme with
  | .text s => s
  | .name s => s
  | .foreign s => s
  | _ => ""

/-- Whether a token is the given name up to letter case. -/
def isName (t : Token) (word : String) : Bool :=
  t.kind == .name && Text.sameWord t.content word

/-- The number of columns a token takes up on its line.  A token that was not written in a script
has the width of its canonical spelling. -/
def width (t : Token) : Nat :=
  if t.span > 0 then t.span
  else
    match t.lexeme with
    | .text s => s.length + 2
    | .number x => (Number.format x).length
    | .rate x => (Number.format x).length + 1
    | .name s => s.length
    | .foreign s => s.length
    | .symbol s => s.spelling.length
    | .word k => k.spelling.length
    | .mark _ => 1
    | .finish => 1

/-- A token as a listing shows it. -/
def describe (t : Token) : String :=
  match t.lexeme with
  | .number x => "Number(" ++ Number.format x ++ ")"
  | .rate x => "Rate(" ++ Number.format x ++ ")"
  | .text s => "String(" ++ Text.quoted s ++ ")"
  | .name s => "Identifier(" ++ s ++ ")"
  | .foreign s => "ForeignCode(" ++ Number.digitText s.utf8ByteSize ++ " bytes)"
  | .mark c => "Char(" ++ String.singleton c ++ ")"
  | .symbol s => s.spelling
  | .word k => k.spelling
  | .finish => "eof"

/-- A token as it is written, without looking anything up. -/
def rawName (t : Token) : String :=
  match t.lexeme with
  | .text s => s
  | .name s => s
  | .foreign s => s
  | .number x => Number.format x
  | .rate x => Number.format x ++ "x"
  | .mark c => String.singleton c
  | .symbol s => s.spelling
  | .word k => k.spelling
  | .finish => ""

/-- The token found outside every script: an end without a place. -/
def absent : Token where
  lexeme := .finish
  line := 0
  column := 0

end Token

/-- The tokens of a script in order. -/
abbrev TokenStream := Array Token

namespace TokenStream

/-- The token at an index, or the token outside every script. -/
def peek (toks : TokenStream) (i : Nat) : Token := toks.getD i Token.absent

/-- The class of the token at an index. -/
def kindAt (toks : TokenStream) (i : Nat) : Kind := (toks.peek i).kind

/-- The tokens from index `first` up to but not including index `stop`. -/
def slice (toks : TokenStream) (first stop : Nat) : List Token := (toks.extract first stop).toList

/-- The number of tokens from index `i` on that stay on the given line, the end of the script not
counted. -/
def lineRun (toks : TokenStream) (line : Nat) (i : Nat) : Nat :=
  if h : i < toks.size then
    if toks[i].isFinish || toks[i].line != line then 0 else lineRun toks line (i + 1) + 1
  else 0
termination_by toks.size - i

/-- The index of the last token on the line of the token at index `i`. -/
def lineEnd (toks : TokenStream) (i : Nat) : Nat :=
  i + toks.lineRun (toks.peek i).line (i + 1)

/-- The first index from `j` on at which a line begins that is neither right of column `base` nor,
where `joins` allows it, begun by an ampersand. -/
def blockEnd (toks : TokenStream) (base : Nat) (joins : Bool) (j : Nat) : Nat :=
  if h : j < toks.size then
    if toks[j].isFinish then j
    else if toks[j].column ≤ base && !(joins && toks[j].isSymbol .ampersand) then j
    else blockEnd toks base joins (toks.lineEnd j + 1)
  else j
termination_by toks.size - j
decreasing_by
  have : j ≤ toks.lineEnd j := Nat.le_add_right _ _
  omega

/-- The index of the last token of the block headed by the token at index `i`: the rest of its
line and every following line that begins right of column `base` or with an ampersand. -/
def skipBlock (toks : TokenStream) (i base : Nat) : Nat :=
  toks.blockEnd base true (toks.lineEnd i + 1) - 1

/-- Whether the token at index `j` continues the line of the token at index `i`. -/
def onLine (toks : TokenStream) (i j : Nat) : Bool :=
  !(toks.peek j).isFinish && (toks.peek j).line == (toks.peek i).line

/-- Whether a loop opens at index `i`: a start word followed by the loop word, or the short form. -/
def opensLoop (toks : TokenStream) (i : Nat) : Bool :=
  (toks.kindAt i == .word .start && toks.kindAt (i + 1) == .word .loop) ||
    toks.kindAt i == .word .startLoop

/-- Whether the test for a pending bug begins at index `i`. -/
def asksForBug (toks : TokenStream) (i : Nat) : Bool :=
  toks.kindAt i == .word .ifWord && toks.kindAt (i + 1) == .word .any &&
    toks.kindAt (i + 2) == .word .bug && toks.kindAt (i + 3) == .word .found

end TokenStream
end BigScript
