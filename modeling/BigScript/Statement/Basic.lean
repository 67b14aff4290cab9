import BigScript.Machine.Condition
import BigScript.Machine.Results

/-!
# Statements

A statement is carried out at the index of its first token and answers with the index of the last
token it used; the run goes on behind that index.  Statements that run other tokens are given the
way to do so.
-/

namespace BigScript

/-- How a statement is carried out: from the index of its first token to that of its last one. -/
abbrev Statement := TokenStream → Nat → Act Nat

/-- How a whole stream of tokens is run in the current scope. -/
abbrev Runner := TokenStream → Act Unit

namespace Statement

/-- Gives up the rest of the line. -/
def abandon : Statement := fun toks i => return toks.lineEnd i

/-- Leaves out the rest of the line and the block under it. -/
def skipBlock : Statement := fun toks i => return toks.skipBlock i (toks.peek i).column

/-- Hands results to the tail behind the last token of a statement. -/
def finish (toks : TokenStream) (last : Nat) (results : List String) : Act Nat :=
  Results.setAs toks last results

/-- Prints a line. -/
def printLine (line : String) : Act Unit := modify (Machine.print (line ++ "\n"))

/-- Raises a bug. -/
def raise (message : String) : Act Unit := modify (Machine.raiseBug message)

end Statement
end BigScript
