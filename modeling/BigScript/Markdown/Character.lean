import BigScript.Markup.Reference
import BigScript.Text.Casing

/-!
# Characters of marked-up text

The classes of characters that the rules of Markdown speak of, what escaped characters and references
stand for, and how characters are written in the page.
-/

namespace BigScript
namespace Markdown

/-- Blanks. -/
def isBlank (c : Char) : Bool := c == ' ' || c == '\t' || c == '\n' || c == '\r'

/-- Whether a line holds nothing. -/
def isEmptyLine (cs : List Char) : Bool := cs.all isBlank

/-- Blanks among all characters. -/
def isAnyBlank (c : Char) : Bool := Text.isSpace c

/-- ASCII punctuation: the characters that can be escaped. -/
def isPunctuation (c : Char) : Bool :=
  ('!' ≤ c && c ≤ '/') || (':' ≤ c && c ≤ '@') || ('[' ≤ c && c ≤ '\x60') || ('\x7b' ≤ c && c ≤ '~')

/-- Punctuation and symbols among all characters. -/
def isAnyPunctuation (c : Char) : Bool :=
  Text.punctuation.contains c || Text.symbols.contains c

/-- ASCII letters. -/
def isLetter (c : Char) : Bool := ('a' ≤ c && c ≤ 'z') || ('A' ≤ c && c ≤ 'Z')

/-- ASCII digits. -/
def isDigit (c : Char) : Bool := '0' ≤ c && c ≤ '9'

/-- ASCII letters and digits. -/
def isAlphanumeric (c : Char) : Bool := isLetter c || isDigit c

/-- Drops blanks at the start. -/
def trimLeft (cs : List Char) : List Char := cs.dropWhile isBlank

/-- Drops blanks at the end. -/
def trimRight (cs : List Char) : List Char := Text.dropRightWhile isBlank cs

/-- The character of a code; codes that stand for none give the replacement character. -/
def ofCode (code : Nat) : Char :=
  if code == 0 || !(code < 0xD800 || (0xDFFF < code && code < 0x110000)) then '\ufffd'
  else Char.ofNat code

/-- Reads a reference to a code after its ampersand: what it stands for and the rest.  A hexadecimal
code has fewer digits than `limit`, if there is one, and a decimal code fewer than eight. -/
def coded? (limit : Option Nat) (cs : List Char) : Option (List Char × List Char) :=
  match cs with
  | '#' :: mark :: body =>
    if mark == 'x' || mark == 'X' then
      character 16 limit (body.takeWhile fun c => (Bytes.hexDigit? c).isSome) body
    else character 10 (some 8) ((mark :: body).takeWhile isDigit) (mark :: body)
  | _ => none
where
  character (base : Nat) (limit : Option Nat) (digits body : List Char) :
      Option (List Char × List Char) :=
    match body.drop digits.length with
    | ';' :: rest =>
      if digits.isEmpty || limit.any (· ≤ digits.length) then none
      else
        let code := digits.foldl (fun n c => base * n + (Bytes.hexDigit? c).getD 0) 0
        some ([ofCode code], rest)
    | _ => none

/-- Reads a reference by name after its ampersand: what it stands for and the rest. -/
def named? (cs : List Char) : Option (List Char × List Char) :=
  let name := cs.takeWhile isAlphanumeric
  match cs.drop name.length with
  | ';' :: rest => (Markup.Reference.full? name).map fun meaning => (meaning, rest)
  | _ => none

/-- Reads a reference after its ampersand: what it stands for and the rest. -/
def reference? (cs : List Char) : Option (List Char × List Char) := coded? (some 7) cs <|> named? cs

/-- What a text stands for: escaped characters without their backslash, references replaced, and the
replacement character for the character that no page may hold. -/
def resolveChars (steps : Nat) (cs : List Char) : List Char :=
  match steps, cs with
  | _, [] => []
  | 0, cs => cs
  | steps + 1, '\\' :: c :: cs =>
    if isPunctuation c then c :: resolveChars steps cs else '\\' :: resolveChars steps (c :: cs)
  | steps + 1, '&' :: cs =>
    match reference? cs with
    | some (meaning, rest) => meaning ++ resolveChars steps rest
    | none => '&' :: resolveChars steps cs
  | steps + 1, '\x00' :: cs => '\ufffd' :: resolveChars steps cs
  | steps + 1, c :: cs => c :: resolveChars steps cs

/-- What a text stands for. -/
def resolve (cs : List Char) : List Char := resolveChars cs.length cs

/-- Escaped characters without their backslash. -/
def unescape : List Char → List Char
  | '\\' :: c :: cs => if isPunctuation c then c :: unescape cs else '\\' :: unescape (c :: cs)
  | c :: cs => c :: unescape cs
  | [] => []
termination_by cs => cs.length

/-- References of one kind replaced.  The first argument reads one after its ampersand, the second
bounds the number of steps. -/
def dereference (read? : List Char → Option (List Char × List Char)) (steps : Nat)
    (cs : List Char) : List Char :=
  match steps, cs with
  | _, [] => []
  | 0, cs => cs
  | steps + 1, '&' :: cs =>
    match read? cs with
    | some (meaning, rest) => meaning ++ dereference read? steps rest
    | none => '&' :: dereference read? steps cs
  | steps + 1, c :: cs => c :: dereference read? steps cs

/-- A character as it is written in the page. -/
def writtenChar (c : Char) : String :=
  match c with
  | '"' => "&quot;"
  | '&' => "&amp;"
  | '<' => "&lt;"
  | '>' => "&gt;"
  | c => String.singleton c

/-- Characters as they are written in the page. -/
def written (cs : List Char) : String := String.join (cs.map writtenChar)

/-- Whether a character stands for itself in an address. -/
def staysInAddress (c : Char) : Bool :=
  isAlphanumeric c || "!#$&'()*+,-./:;=?@_~".toList.contains c

/-- Characters as they are written in an address.  A percent sign before a hexadecimal digit and
another character begins a code that is kept. -/
def addressChars : List Char → List Char
  | [] => []
  | '%' :: a :: b :: cs =>
    if (Bytes.hexDigit? a).isSome then '%' :: a :: b :: addressChars cs
    else "%25".toList ++ addressChars (a :: b :: cs)
  | c :: cs =>
    (if staysInAddress c then [c]
      else (c.toString.toUTF8.toList.map fun byte => '%' :: percentDigits byte.toNat).flatten) ++
      addressChars cs
termination_by cs => cs.length
where
  percentDigits (byte : Nat) : List Char :=
    (if byte < 16 then ['0'] else []) ++ (Nat.toDigits 16 byte).map Char.toUpper

/-- An address as it stands in a text. -/
def plainAddress (cs : List Char) : String := written (addressChars cs)

/-- An address in which characters may be escaped and references stand.  Backslashes are dropped first,
then codes are replaced, and then names, so that the code of an ampersand may begin a name. -/
def address (cs : List Char) : String :=
  let plain := unescape cs
  let decoded := dereference (coded? none) plain.length plain
  plainAddress (dereference named? decoded.length decoded)

/-- Whether an address may run a program or read a file. -/
def isDangerous (cs : List Char) : Bool :=
  let lowered := cs.map Char.toLower
  let begins (start : String) (cs : List Char) : Bool := (Text.dropStart? start.toList cs).isSome
  match Text.dropStart? "data:image/".toList lowered with
  | some kind => ["png;", "gif;", "jpeg;", "webp;", "svg+xml;"].all fun start => !begins start kind
  | none => ["javascript:", "vbscript:", "file:", "data:"].any (begins · lowered)

end Markdown
end BigScript
