import BigScript.Markup.Selector
import BigScript.Verb.Get

/-!
# Pages

Statements that set up later requests, and `look`, which picks values out of pages and JSON texts.
-/

namespace BigScript
namespace Verb

/-- Sets the agent name of later requests. -/
def userAgent : Statement := fun toks i => do
  let (agent, last) ← Operand.text toks (i + 1)
  modify fun m => { m with client := { m.client with agent } }
  return last

/-- Sets the proxy of later requests. -/
def proxy : Statement := fun toks i => do
  let (proxy, last) ← Operand.text toks (i + 1)
  modify fun m => { m with client := { m.client with proxy } }
  return last

/-- Adds a header to later requests. -/
def header : Statement := fun toks i => do
  let (key, last) ← Operand.text toks (i + 1)
  let (value, last) ← Operand.text toks (last + 1)
  modify fun m =>
    let others := m.client.headers.filter (·.1 != key)
    { m with client := { m.client with headers := others ++ [(key, value)] } }
  return last

/-- Skips the words that may stand before selectors, and tells whether JSON is meant. -/
def lookWords (toks : TokenStream) (json : Bool) (i : Nat) : Bool × Nat :=
  if h : i < toks.size then
    if toks[i].isWord .json then lookWords toks true (i + 1)
    else if toks[i].isWord .inWord then lookWords toks json (i + 1)
    else (json, i)
  else (json, i)
termination_by toks.size - i

/-- The number of tokens from index `j` on that are selectors. -/
def selectorRun (toks : TokenStream) (i j : Nat) : Nat :=
  if h : j < toks.size then
    if toks.onLine i j && !toks[j].isSymbol .at then selectorRun toks i (j + 1) + 1 else 0
  else 0
termination_by toks.size - j

/-- The field of a JSON object, or nothing; a text that is none is reported. -/
def lookJson (source key : String) : Act String := do
  match Json.readObjectText? (Text.trim source) with
  | some fields => return ((Json.field? key fields).map Json.render).getD ""
  | none =>
    Statement.printLine (Client.failureStart ++ ": JSON Parse Failed.")
    return ""

/-- What a selector picks out of a source. -/
def pickOut (json : Bool) (source selector : String) : Act String := do
  if selector == "all" then return source
  else if json then lookJson source selector
  else return Markup.pick source selector

/-- Picks values out of a source: `look for "sel" @{Source} & set as {A}`. -/
def look : Statement := fun toks i => do
  let first := if (toks.peek (i + 1)).isWord .forWord then i + 2 else i + 1
  let (json, j) := lookWords toks false first
  let stop := j + selectorRun toks i j
  let m ← get
  let selectors := (toks.slice j stop).map fun t => m.interpolate (m.tokenValue t)
  match ← Results.targetValue? toks stop with
  | none => Statement.abandon toks i
  | some (source, last) =>
    let results ← selectors.mapM (pickOut json source)
    Statement.finish toks last results

end Verb
end BigScript
