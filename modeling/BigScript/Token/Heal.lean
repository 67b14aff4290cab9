import BigScript.Token.Basic

/-!
# Closing forgotten loops

A loop is closed by a `keep` line.  Healing closes the loops of a script that lacks one: before a
line that begins at or left of an open loop, and before the end, a `keep 1` is inserted at the
position of the loop's own opener.
-/

namespace BigScript
namespace Heal

/-- The two tokens that close a loop opened at `opener`. -/
def closing (opener : Token) : List Token :=
  [⟨.word .keep, opener.line, opener.column, 0⟩,
   ⟨.number 1, opener.line, opener.column + "keep ".length, 0⟩]

/-- The open loops that a token at a column closes, innermost first. -/
def closedBy (column : Nat) (loops : List Token) : List Token :=
  loops.takeWhile fun opener => column ≤ opener.column

/-- The open loops after a token, given whether it opens one. -/
def openAfter (t : Token) (opens : Bool) (loops : List Token) : List Token :=
  if opens then t :: loops
  else if t.isWord .keep then loops.drop 1
  else loops

/-- Heals the tokens that follow a token on `line`, with the openers of the open loops given
innermost first. -/
def healFrom (line : Nat) (loops : List Token) : List Token → List Token
  | [] => []
  | t :: rest =>
    if t.isFinish then
      loops.flatMap closing ++ t :: healFrom line [] rest
    else
      let opens := (t.isWord .start && (rest.head?.any (·.isWord .loop))) || t.isWord .startLoop
      let closed := if t.line != line && !t.isWord .keep then closedBy t.column loops else []
      closed.flatMap closing ++
        t :: healFrom t.line (openAfter t opens (loops.drop closed.length)) rest

end Heal

/-- The tokens of a script with a `keep 1` inserted for every loop it leaves open. -/
def heal (toks : TokenStream) : TokenStream := (Heal.healFrom 0 [] toks.toList).toArray

end BigScript
