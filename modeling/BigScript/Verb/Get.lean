import BigScript.Markdown.Outline
import BigScript.Net.Client
import BigScript.Pattern.Read
import BigScript.Verb.Collection
import BigScript.Verb.Persona
import BigScript.Verb.Table

/-!
# Reading values

`get` reads a value from one of many sources, or puts values through a check or a conversion, and
hands the result to its tail.
-/

namespace BigScript
namespace Convert

/-- The form of mail addresses. -/
def mailPattern : String := "^[a-zA-Z0-9._%+-]+@[a-zA-Z0-9.-]+\\.[a-zA-Z]\x7b2,\x7d$"

/-- The number an input stands for. -/
def number (inputs : List String) (k : Nat) : Float := (Number.read (inputs.getD k "")).lenient

/-- The number of items of a list text, or of characters of any other text. -/
def size (value : String) : Nat :=
  if Text.startsWith value "[" && Text.endsWith value "]" then (Value.looseItems value).length
  else value.length

/-- The first input without its sign; a sign may be an input of its own. -/
def magnitude (inputs : List String) : Float :=
  if inputs.headD "" == "-" && inputs.length > 1 then (number inputs 1).abs
  else (number inputs 0).abs

/-- The result of a check or conversion of inputs. -/
def apply (kind : String) (inputs : List String) : String :=
  let value := inputs.headD ""
  match kind with
  | "email" => Value.ofBool (Pattern.matchesText mailPattern value)
  | "number" => Value.ofBool (Number.read value).value?.isSome
  | "url" => Value.ofBool (Text.startsWith value "http://" || Text.startsWith value "https://")
  | "alphanumeric" => Value.ofBool (value.all fun c => Text.isLetter c || Text.isDigit c)
  | "clean" => Text.trim value
  | "bigcap" => Text.upper value
  | "lower" => Text.lower value
  | "floor" => Number.format (number inputs 0).floor
  | "ceil" => Number.format (number inputs 0).ceil
  | "round" => Number.format (number inputs 0).round
  | "abs" | "positive" => Number.format (magnitude inputs)
  | "smaller" => Number.format (Number.smaller (number inputs 0) (number inputs 1))
  | "bigger" => Number.format (Number.larger (number inputs 0) (number inputs 1))
  | "between" =>
    Number.format (Number.larger (number inputs 1)
      (Number.smaller (number inputs 2) (number inputs 0)))
  | "len" | "length" | "count" => Number.digitText (size value)
  | _ => "false"

end Convert

namespace Verb

/-- The index of the word `as` from index `k` on, on the line of index `j` and before an
ampersand. -/
def asIndex? (toks : TokenStream) (j k : Nat) : Option Nat :=
  if h : k < toks.size then
    if toks.onLine j k then
      if toks[k].isSymbol .ampersand then none
      else if toks[k].isWord .asWord then some k
      else asIndex? toks j (k + 1)
    else none
  else none
termination_by toks.size - k

/-- Puts the tokens before `as` through the check or conversion named behind it. -/
def getAs (toks : TokenStream) (j k : Nat) : Act Nat := do
  let m ← get
  let inputs := (toks.slice j k).map fun t => m.interpolate (m.tokenValue t)
  let kind := Text.lower (toks.peek (k + 1)).rawName
  Statement.finish toks (k + 1) [Convert.apply kind inputs]

/-- Reads one value that may be followed by a replacement in it. -/
def replacedValue (toks : TokenStream) (i : Nat) : Act (String × Nat) := do
  let (value, last) ← Operand.text toks i
  if (toks.peek (last + 1)).isWord .replace then
    let (old, last) ← Operand.text toks (last + 2)
    if (toks.peek (last + 1)).isWord .withWord then
      let (new, last) ← Operand.text toks (last + 2)
      return (Text.replaceAll old new value, last)
    else return (value, last)
  else return (value, last)

/-- Reads values one after another from behind index `last`, on the line of index `i`. -/
def valuesFrom (toks : TokenStream) (i : Nat) (steps last : Nat) (values : List String) :
    Act (List String × Nat) := do
  match steps with
  | 0 => return (values.reverse, last)
  | steps + 1 =>
    if toks.onLine i (last + 1) then
      let (value, last) ← replacedValue toks (last + 1)
      let next := toks.kindAt (last + 1)
      if next == .text || next == .symbol .dollar || next == .name then
        valuesFrom toks i steps last (value :: values)
      else return ((value :: values).reverse, last)
    else return (values.reverse, last)

/-- Binds one or more values. -/
def getValues (toks : TokenStream) (i j : Nat) : Act Nat := do
  let (values, last) ← valuesFrom toks i (toks.size + 1) (j - 1) []
  Statement.finish toks last values

/-- Binds an element of a list: `get from {L} @N & set as {Item}`. -/
def getFrom (toks : TokenStream) (i j : Nat) : Act Nat := do
  let (name, last) := toks.bracedName (j + 1)
  match ← Results.targetValue? toks (last + 1) with
  | none => Statement.abandon toks i
  | some (position, last) =>
    match Value.listItem? ((← get).getD name "[]") position with
    | some item => Statement.finish toks last [item]
    | none => return last

/-- Binds the number of elements of a list. -/
def getCount (toks : TokenStream) (i j : Nat) : Act Nat := do
  if (toks.peek (j + 1)).isWord .of then
    let (name, last) := toks.bracedName (j + 2)
    let count := Value.listLength ((← get).getD name "[]")
    Statement.finish toks last [Number.digitText count]
  else Statement.abandon toks i

/-- Binds a reading of a clock. -/
def getTime (toks : TokenStream) (i j : Nat) : Act Nat := do
  let m ← get
  match Text.lower (toks.peek (j + 1)).rawName with
  | "unix" =>
    Statement.finish toks (j + 1) [Number.digitText (m.calendar + m.elapsed / 1000000000)]
  | "tick" => Statement.finish toks (j + 1) [Number.digitText m.tick]
  | "delta" =>
    modify fun m => { m with lastReading := m.elapsed }
    Statement.finish toks (j + 1) [Number.digitText ((m.elapsed - m.lastReading) / 1000000)]
  | _ => Statement.abandon toks i

/-- Hands on what a request brought; a failure text also raises a bug. -/
def exchanged (text : String) : Act String := do
  if Text.startsWith text Client.failureStart then Statement.raise text
  return text

/-- Binds a page. -/
def getWeb (toks : TokenStream) (j : Nat) : Act Nat := do
  let (url, last) ← Operand.text toks (j + 1)
  let m ← get
  Statement.finish toks last [← exchanged (Client.fetch m.network m.client url)]

/-- Sends data to a page and binds the answer. -/
def getPost (toks : TokenStream) (j : Nat) : Act Nat := do
  let (url, last) ← Operand.text toks (j + 1)
  let next := if (toks.peek (last + 1)).isWord .withWord then last + 2 else last + 1
  let (data, last) ← Operand.text toks next
  let m ← get
  Statement.finish toks last [← exchanged (Client.post m.network m.client url data)]

/-- Binds the value that the word at index `j` asks for. -/
def getWord (toks : TokenStream) (i j : Nat) : Act Nat := do
  match (toks.peek j).lexeme with
  | .word .len =>
    let (value, last) ← Operand.value toks j
    Statement.finish toks last [value]
  | .word .fromWord => getFrom toks i j
  | .word .warp =>
    let (value, last) ← Operand.text toks (j + 1)
    Statement.finish toks last [value]
  | .word .luck => getLuck toks i j
  | .word .markdown =>
    let (source, last) ← Operand.value toks (j + 1)
    Statement.finish toks last [Markdown.page source]
  | .word .setting =>
    let m ← get
    let key := m.tokenValue (toks.peek (j + 1))
    Statement.finish toks (j + 1) [(m.environment.lookup key).getD ""]
  | .word .map => Statement.finish toks j [emptyMap]
  | .word .sql => getSql toks j
  | .word .post => getPost toks j
  | .symbol .leftBrace =>
    let (name, last) := toks.bracedName j
    Statement.finish toks last [(← get).getD name emptyMap]
  | .text _ | .symbol .dollar | .name _ | .word .value | .word .text | .word .image
  | .word .button | .word .font => getValues toks i j
  | _ => Statement.abandon toks i

/-- Reads a value from the source that the next word names. -/
def getValue : Statement := fun toks i => do
  let j := i + 1
  let t := toks.peek j
  if !toks.onLine i j then return i
  else if t.isName "web" then getWeb toks j
  else if t.isName "time" then getTime toks i j
  else if t.isName "count" then getCount toks i j
  else
    match if t.isWord .len then none else asIndex? toks j j with
    | some k => getAs toks j k
    | none => getWord toks i j

end Verb
end BigScript
