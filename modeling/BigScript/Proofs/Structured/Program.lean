import BigScript.Proofs.Structured.Simple

/-!
# Structured programs

A structured program is a tree: simple lines, branches without alternatives, loops that are closed by
a `keep` line, and lines that leave the loop around them.  Its meaning is given along the tree, by
what happens between the beginning and the end of each part, and knows neither of columns nor of
indices nor of a stack of open loops.

In front of every statement the run may end: because it has been stopped, because it was cancelled,
or because a bug is pending that the statement does not ask for.  `Line.arrive` asks this of the line
alone.
-/

namespace BigScript

/-- A sequence of statements. -/
inductive Program where
  | done
  | simple (words : Line) (rest : Program)
  | branch (head : Line) (body rest : Program)
  | loop (head : Line) (body : Program) (last : Line) (rest : Program)
  | leave (words : Line) (rest : Program)

/-! ## How programs are written -/

/-- Whether a loop is opened or closed at an index, as far as looking for the end of a loop goes. -/
def TokenStream.turns (toks : TokenStream) (i : Nat) : Bool :=
  toks.opensLoop i || (toks.peek i).isWord .keep

/-- Classes of token in the options of a loop behind which something is missing if nothing follows
them. -/
def Kind.optionOpeners : List Kind :=
  [.symbol .dot, .word .on, .word .atWord, .word .asWord, .symbol .leftBrace]

namespace Line

/-- The column in which a line begins. -/
def column (words : Line) : Nat := words.first.column

/-- The row on which a line is written. -/
def row (words : Line) : Nat := words.first.line

/-- Behind its first word a line neither opens nor closes a loop. -/
def Level (words : Line) : Prop := ∀ k < words.length, 0 < k → words.stream.turns k = false

instance (words : Line) : Decidable words.Level :=
  inferInstanceAs (Decidable (∀ k < words.length, 0 < k → words.stream.turns k = false))

/-- The head of a branch: a condition behind `if`, and no statement on the same line. -/
structure Branch (head : Line) : Prop extends Whole head where
  word : head.first.kind = .word .ifWord
  single : ∀ t ∈ head.tail, t.isSymbol .ampersand = false
  level : head.Level

instance (head : Line) : Decidable head.Branch :=
  decidable_of_iff
    (head.Whole ∧ head.first.kind = .word .ifWord ∧
      (∀ t ∈ head.tail, t.isSymbol .ampersand = false) ∧ head.Level)
    ⟨fun ⟨whole, word, single, level⟩ => ⟨whole, word, single, level⟩,
      fun ⟨whole, word, single, level⟩ => ⟨whole, word, single, level⟩⟩

/-- The number of words that open a loop. -/
def openers (head : Line) : Nat := if head.first.kind = .word .startLoop then 1 else 2

/-- The head of a loop: `start loop` or the short form, and its options in full. -/
structure Opens (head : Line) : Prop extends Whole head where
  word : head.first.kind = .word .startLoop ∨
    (head.first.kind = .word .start ∧ (head.stream.peek 1).kind = .word .loop)
  level : head.Level
  complete : head.Complete Kind.optionOpeners

instance (head : Line) : Decidable head.Opens :=
  decidable_of_iff
    (head.Whole ∧ (head.first.kind = .word .startLoop ∨
        (head.first.kind = .word .start ∧ (head.stream.peek 1).kind = .word .loop)) ∧
      head.Level ∧ head.Complete Kind.optionOpeners)
    ⟨fun ⟨whole, word, level, complete⟩ => ⟨whole, word, level, complete⟩,
      fun ⟨whole, word, level, complete⟩ => ⟨whole, word, level, complete⟩⟩

/-- The line that closes a loop: a condition behind `keep`. -/
structure Keeps (last : Line) : Prop extends Whole last where
  word : last.first.kind = .word .keep
  level : last.Level

instance (last : Line) : Decidable last.Keeps :=
  decidable_of_iff (last.Whole ∧ last.first.kind = .word .keep ∧ last.Level)
    ⟨fun ⟨whole, word, level⟩ => ⟨whole, word, level⟩,
      fun ⟨whole, word, level⟩ => ⟨whole, word, level⟩⟩

/-- A line that leaves a loop. -/
structure Leaves (words : Line) : Prop extends Whole words where
  word : words.map Token.kind = [.word .stop, .word .loop]

instance (words : Line) : Decidable words.Leaves :=
  decidable_of_iff (words.Whole ∧ words.map Token.kind = [.word .stop, .word .loop])
    ⟨fun ⟨whole, word⟩ => ⟨whole, word⟩, fun ⟨whole, word⟩ => ⟨whole, word⟩⟩

end Line

namespace Program

/-- The lines of a program from top to bottom. -/
def lines : Program → List Line
  | done => []
  | simple words rest => words :: rest.lines
  | branch head body rest => head :: (body.lines ++ rest.lines)
  | loop head body last rest => head :: (body.lines ++ last :: rest.lines)
  | leave words rest => words :: rest.lines

/-- A block is not empty and stands right of its head. -/
structure Under (head : Line) (body : Program) : Prop where
  some : body ≠ .done
  deeper : ∀ words ∈ body.lines, head.column < words.column

instance decidableEmpty : (program : Program) → Decidable (program = done)
  | done => isTrue rfl
  | simple .. => isFalse nofun
  | branch .. => isFalse nofun
  | loop .. => isFalse nofun
  | leave .. => isFalse nofun

instance (head : Line) (body : Program) : Decidable (Under head body) :=
  decidable_of_iff (body ≠ .done ∧ ∀ words ∈ body.lines, head.column < words.column)
    ⟨fun ⟨nonempty, deeper⟩ => ⟨nonempty, deeper⟩, fun ⟨nonempty, deeper⟩ => ⟨nonempty, deeper⟩⟩

/-- The lines of a program are of the kinds the tree says, and stand in the columns it asks for.  A
line behind a branch does not stand right of its head, or else it would belong to its block; a loop
is left only from within one. -/
def Formed (inLoop : Bool) : Program → Prop
  | done => True
  | simple words rest => words.Simple ∧ rest.Formed inLoop
  | branch head body rest =>
    head.Branch ∧ Under head body ∧ (∀ words ∈ rest.lines.head?, words.column ≤ head.column) ∧
      body.Formed inLoop ∧ rest.Formed inLoop
  | loop head body last rest =>
    head.Opens ∧ Under head body ∧ last.Keeps ∧ last.column = head.column ∧ body.Formed true ∧
      rest.Formed inLoop
  | leave words rest => words.Leaves ∧ inLoop = true ∧ rest.Formed inLoop

instance decidableFormed : (inLoop : Bool) → (program : Program) → Decidable (program.Formed inLoop)
  | _, done => isTrue trivial
  | inLoop, simple _ rest =>
    have := decidableFormed inLoop rest
    inferInstanceAs (Decidable (_ ∧ _))
  | inLoop, branch _ body rest =>
    have := decidableFormed inLoop body
    have := decidableFormed inLoop rest
    inferInstanceAs (Decidable (_ ∧ _ ∧ _ ∧ _ ∧ _))
  | inLoop, loop _ body _ rest =>
    have := decidableFormed true body
    have := decidableFormed inLoop rest
    inferInstanceAs (Decidable (_ ∧ _ ∧ _ ∧ _ ∧ _ ∧ _))
  | inLoop, leave _ rest =>
    have := decidableFormed inLoop rest
    inferInstanceAs (Decidable (_ ∧ _ ∧ _))

/-- A program whose lines are written one below the other. -/
structure LaidOut (program : Program) : Prop where
  formed : program.Formed false
  rows : program.lines.Pairwise fun upper lower => upper.row < lower.row

instance (program : Program) : Decidable program.LaidOut :=
  decidable_of_iff
    (program.Formed false ∧ program.lines.Pairwise fun upper lower => upper.row < lower.row)
    ⟨fun ⟨formed, rows⟩ => ⟨formed, rows⟩, fun ⟨formed, rows⟩ => ⟨formed, rows⟩⟩

/-- Tokens that spell a program out, up to the end of the script. -/
def Spells (program : Program) (toks : TokenStream) : Prop :=
  ∃ finish : Token, finish.isFinish = true ∧ toks.toList = program.lines.flatten ++ [finish]

end Program

/-! ## What programs mean -/

/-- How a part of a program ends: behind its last line, by leaving the loop around it, or with the
whole run. -/
inductive Exit where
  | through
  | left
  | stopped
deriving DecidableEq, Repr

/-- What a part of a program does to a machine: how it ends, and with which machine. -/
abbrev Effect := Machine → Exit → Machine → Prop

namespace Effect

/-- One part behind another.  The second one begins only where the first one ends behind its last
line. -/
def andThen (first second : Effect) : Effect := fun m exit out =>
  (∃ between, first m .through between ∧ second between exit out) ∨
    (first m exit out ∧ exit ≠ .through)

end Effect

namespace Line

/-- What happens in front of a line. -/
def arrive (words : Line) (m : Machine) : Arrival := m.arrive words.stream 0

/-- A statement that begins with a line, unless the run ends in front of it. -/
def entering (words : Line) (statement : Effect) : Effect := fun m exit out =>
  match words.arrive m with
  | .ends halted => exit = .stopped ∧ out = halted
  | .ready ready => statement ready exit out

/-- A simple line does what it does alone. -/
def effect (words : Line) : Effect := fun m exit out =>
  out = words.alone m ∧ exit = if (words.alone m).isStopped then .stopped else .through

/-- Answers the condition of a branch.  The question for a pending bug drops the bug. -/
def holds (head : Line) : Act Bool := do
  let taken ← Condition.holds head.tail
  if head.stream.asksForBug 0 then modify Machine.clearBug
  modify fun m => { m with taken }
  return taken

end Line

/-- What a loop keeps from one turn to the next: how many turns there have been, how many there may
be, and what it walks over. -/
structure Round where
  count : Nat := 0
  limit : Int := 0
  walk : Option Walk := none

namespace Line

/-- Reads the options of a loop and prepares its first turn, if there is one. -/
def opened (head : Line) : Act (Option Round) := do
  let (limit, j) ← Statement.loopLimit head.stream head.row head.openers
  match ← Statement.loopWalk? head.stream head.row j with
  | some walk =>
    if walk.items.isEmpty then return none
    else
      modify walk.bindItem
      return some { limit, walk := some walk }
  | none => return some { limit }

/-- Ends a turn of a loop and prepares the next one, if there is one. -/
def turned (last : Line) (round : Round) : Act (Option Round) := do
  match round.walk with
  | some walk =>
    let next : Walk := { walk with cursor := walk.cursor + 1 }
    if next.cursor < next.items.length then
      modify next.bindItem
      return some { round with walk := some next }
    else return none
  | none =>
    let count := round.count + 1
    if round.limit > 0 && (count : Int) + 1 ≥ round.limit then return none
    else if last.tail.map Token.kind == [.word .loop] then return some { round with count := 0 }
    else if ← Condition.holds last.tail then return some { round with count }
    else return none

end Line

/-- The turns of a loop, given what its body does and the line that closes it. -/
inductive Rounds (body : Effect) (last : Line) : Round → Effect where
  /-- The run stops in the body. -/
  | stopped {round : Round} {m out : Machine} (turn : body m .stopped out) :
      Rounds body last round m .stopped out
  /-- The body leaves the loop. -/
  | left {round : Round} {m out : Machine} (turn : body m .left out) :
      Rounds body last round m .through out
  /-- The run ends in front of the closing line. -/
  | barred {round : Round} {m between out : Machine} (turn : body m .through between)
      (arrived : last.arrive between = .ends out) : Rounds body last round m .stopped out
  /-- There is no other turn. -/
  | ended {round : Round} {m between ready out : Machine} (turn : body m .through between)
      (arrived : last.arrive between = .ready ready)
      (decided : (last.turned round).run ready = (none, out)) :
      Rounds body last round m .through out
  /-- There is another turn. -/
  | again {round next : Round} {m between ready after out : Machine} {exit : Exit}
      (turn : body m .through between) (arrived : last.arrive between = .ready ready)
      (decided : (last.turned round).run ready = (some next, after))
      (further : Rounds body last next after exit out) : Rounds body last round m exit out

namespace Program

/-- What a program does from its first line to its last. -/
def runs : Program → Effect
  | done => fun m exit out => exit = .through ∧ out = m
  | simple words rest => words.effect.andThen rest.runs
  | branch head body rest =>
    (head.entering fun m exit out =>
      match head.holds.run m with
      | (true, inside) => body.runs inside exit out
      | (false, past) => exit = .through ∧ out = past).andThen rest.runs
  | loop head body last rest =>
    (head.entering fun m exit out =>
      match head.opened.run m with
      | (some round, inside) => Rounds body.runs last round inside exit out
      | (none, past) => exit = .through ∧ out = past).andThen rest.runs
  | leave words rest =>
    (words.entering fun m exit out => exit = .left ∧ out = m).andThen rest.runs

/-- What a whole program does.  At its end, as on an empty line, the run may still be found
cancelled. -/
def means (program : Program) : Effect := program.runs.andThen (Line.effect [])

end Program
end BigScript
