import BigScript.Token.Basic

/-!
# Formulas

A formula is a row of values and operators.  Groups in parentheses, functions and their arguments
are recognised when the row is read from its tokens; which operator binds which values is left to
the evaluation.
-/

namespace BigScript

/-- The operators between values. -/
inductive Operator where
  | plus
  | minus
  | times
  | divide
  | power
  | remainder
deriving DecidableEq, Repr

namespace Operator

/-- The operator a token stands for. -/
def ofKind? : Kind → Option Operator
  | .symbol .plus => some .plus
  | .symbol .minus => some .minus
  | .symbol .star => some .times
  | .symbol .slash => some .divide
  | .symbol .caret => some .power
  | .word .remainder => some .remainder
  | _ => none

/-- Whether the operator is also a sign. -/
def isSign : Operator → Bool
  | .plus => true
  | .minus => true
  | _ => false

end Operator

/-- The functions of one argument. -/
inductive Function where
  | squareRoot
  | sine
  | cosine
  | tangent
  | absolute
  | logarithm
  | floor
  | ceiling
  | round
deriving DecidableEq, Repr

/-- The function a token stands for. -/
def Function.ofKind? : Kind → Option Function
  | .word .sqrt => some .squareRoot
  | .word .sin => some .sine
  | .word .cos => some .cosine
  | .word .tan => some .tangent
  | .word .abs => some .absolute
  | .word .log => some .logarithm
  | .word .floor => some .floor
  | .word .ceil => some .ceiling
  | .word .round => some .round
  | _ => none

mutual
/-- A value of a formula. -/
inductive Term where
  /-- Nothing, where a function lacks its argument. -/
  | absent
  | constant (value : Float)
  /-- Milliseconds since the run started. -/
  | tick
  /-- The time of a frame in seconds. -/
  | frame
  /-- The number of characters of a variable's value. -/
  | length (name : String)
  /-- A number, or the number that a name or text stands for. -/
  | token (token : Token)
  | group (row : List Cell)
  | apply (function : Function) (argument : Term)
  | least (first second : Term)
  | greatest (first second : Term)

/-- A value or an operator in the row of a formula. -/
inductive Cell where
  | operator (operator : Operator)
  | term (term : Term)
end

namespace Formula

/-- The tokens up to the parenthesis that closes a group opened before them, and the tokens after
it.  A group that is not closed takes everything. -/
def splitGroup (depth : Nat) : List Token → List Token × List Token
  | [] => ([], [])
  | t :: rest =>
    if t.isSymbol .leftParen then
      let (inside, after) := splitGroup (depth + 1) rest
      (t :: inside, after)
    else if t.isSymbol .rightParen then
      if depth = 0 then ([], rest)
      else
        let (inside, after) := splitGroup (depth - 1) rest
        (t :: inside, after)
    else
      let (inside, after) := splitGroup depth rest
      (t :: inside, after)

theorem splitGroup_length (depth : Nat) (toks : List Token) :
    (splitGroup depth toks).1.length ≤ toks.length ∧
      (splitGroup depth toks).2.length ≤ toks.length := by
  induction toks generalizing depth with
  | nil => simp [splitGroup]
  | cons t rest ih =>
      simp only [splitGroup]
      split
      · have := ih (depth + 1)
        simp only [List.length_cons]
        omega
      · split
        · split
          · simp
          · have := ih (depth - 1)
            simp only [List.length_cons]
            omega
        · have := ih depth
          simp only [List.length_cons]
          omega

/-- Drops dollar signs from the front. -/
def dropDollars (toks : List Token) : List Token := toks.dropWhile (·.isSymbol .dollar)

/-- Drops the word that may stand between two arguments. -/
def dropAnd : List Token → List Token
  | [] => []
  | t :: rest => if t.isName "and" then rest else t :: rest

/-- A variable's name, bare or in braces, at the front of the tokens, and what follows it. -/
def readName : List Token → String × List Token
  | [] => ("", [])
  | [t] => if t.isSymbol .leftBrace then ("", []) else (t.rawName, [])
  | t :: name :: rest =>
    if t.isSymbol .leftBrace then
      match rest with
      | close :: after => if close.isSymbol .rightBrace then (name.rawName, after) else (name.rawName, rest)
      | [] => (name.rawName, [])
    else (t.rawName, name :: rest)

mutual
/-- Reads the argument of a function: a group, or a single token.  The first argument bounds the
depth of reading and is the number of tokens at the start. -/
def readOperand (steps : Nat) (toks : List Token) : Term × List Token :=
  match steps with
  | 0 => (.absent, [])
  | steps + 1 =>
    match dropDollars toks with
    | [] => (.absent, [])
    | t :: rest =>
      if t.isSymbol .leftParen then
        let (inside, after) := splitGroup 0 rest
        (.group (readRow steps inside), after)
      else (.token t, rest)

/-- Reads a row of values and operators. -/
def readRow (steps : Nat) (toks : List Token) : List Cell :=
  match steps, toks with
  | 0, _ => []
  | _, [] => []
  | steps + 1, t :: rest =>
    match Operator.ofKind? t.kind with
    | some operator => .operator operator :: readRow steps rest
    | none =>
      match Function.ofKind? t.kind with
      | some function =>
        let (argument, after) := readOperand steps rest
        .term (.apply function argument) :: readRow steps after
      | none =>
        match t.kind with
        | .symbol .leftParen =>
          let (inside, after) := splitGroup 0 rest
          .term (.group (readRow steps inside)) :: readRow steps after
        | .word .minimum =>
          let (first, after) := readOperand steps rest
          let (second, after) := readOperand steps (dropAnd after)
          .term (.least first second) :: readRow steps after
        | .word .maximum =>
          let (first, after) := readOperand steps rest
          let (second, after) := readOperand steps (dropAnd after)
          .term (.greatest first second) :: readRow steps after
        | .word .pi => .term (.constant 3.141592653589793) :: readRow steps rest
        | .word .euler => .term (.constant 2.718281828459045) :: readRow steps rest
        | .word .bigTick => .term .tick :: readRow steps rest
        | .word .bigDelta => .term .frame :: readRow steps rest
        | .symbol .dollar => readRow steps rest
        | .word .len =>
          let (name, after) := readName rest
          .term (.length name) :: readRow steps after
        | _ => .term (.token t) :: readRow steps rest
end

/-- The row of a formula. -/
def read (toks : List Token) : List Cell := readRow (2 * toks.length + 1) toks

/-- Words and symbols that make a value a formula. -/
def isMathKind (kind : Kind) : Bool :=
  (Operator.ofKind? kind).isSome ||
    [Kind.word .sqrt, .word .sin, .word .cos, .word .tan, .word .abs, .word .log, .word .minimum,
      .word .maximum, .word .pi, .word .euler].contains kind

/-- Whether tokens are to be computed rather than read as one value. -/
def isMath (toks : List Token) : Bool := toks.any fun t => isMathKind t.kind

end Formula
end BigScript
