import BigScript.Proofs.Arguments
import BigScript.Proofs.Assignment
import BigScript.Proofs.Expression.Spelling
import BigScript.Proofs.Structured.Refinement

/-!
# Formulas without brackets

An expression can be written in brackets, `S[...]`, or bare: as the rest of an assignment, or as a side
of a comparison.  In brackets it ends with the bracket and is always computed.  Bare, it is not marked at
all: it ends where a statement word or another line begins, and it is computed if one of its tokens is
known to make a value a formula.

The words `floor`, `ceil` and `round` are not among these, although they are computed in brackets.  An
expression that has one of them and no operator or other function is not computed when it is bare: the
first word is bound as it is written (`rounding_misread`).  For every other expression the two ways of
writing it agree.
-/

namespace BigScript

/-! ## Expressions -/

/-- Whether a lexeme can be a part of an expression: a number, a variable and the dollar in front of it,
an operator, a function or a parenthesis.  Words that begin statements cannot. -/
def Lexeme.isPart : Lexeme → Bool
  | .number _ => true
  | .name _ => true
  | .symbol s =>
    [Symbol.plus, .minus, .star, .slash, .caret, .leftParen, .rightParen, .dollar].contains s
  | .word k => !TokenStream.endsFormula (.word k)
  | _ => false

namespace Formula

/-- Whether a row begins like a built text, `w(...)`. -/
def opensText : List Lexeme → Bool
  | .word .warp :: .symbol .leftParen :: _ => true
  | .name s :: .symbol .leftParen :: _ => s == "w" || s == "warp"
  | _ => false

/-- A row of lexemes that is an expression and no built text. -/
structure Row (row : List Lexeme) : Prop where
  parts : ∀ lexeme ∈ row, lexeme.isPart = true
  unbuilt : opensText row = false

/-- An expression that is known to be one by an operator or a function in it. -/
structure Marked (row : List Lexeme) : Prop extends Row row where
  marked : row.any (fun lexeme => isMathKind lexeme.kind) = true

end Formula

namespace Lexeme

variable {lexeme : Lexeme}

theorem unfinished_of_isPart (part : lexeme.isPart = true) : lexeme ≠ .finish := by
  rintro rfl
  cases part

/-- A part of an expression does not end it. -/
theorem endsFormula_of_isPart (part : lexeme.isPart = true) :
    TokenStream.endsFormula lexeme.kind = false := by
  cases lexeme with
  | number | name => rfl
  | symbol s => cases s <;> first | rfl | cases part
  | word k => exact Bool.not_eq_true' _ ▸ part
  | _ => cases part

/-- A part of an expression is no bracket and no comparison sign. -/
theorem kind_of_isPart (part : lexeme.isPart = true) :
    lexeme.kind ≠ .symbol .leftBracket ∧ lexeme.kind ≠ .symbol .rightBracket ∧
      Comparison.ofKind? lexeme.kind = none ∧ lexeme.kind ≠ .symbol .ampersand := by
  cases lexeme with
  | symbol s => cases s <;> first | decide | cases part
  | number | name | word => simp [kind, Comparison.ofKind?]
  | _ => cases part

end Lexeme

theorem Token.unfinished_of_lexeme {t : Token} (other : t.lexeme ≠ .finish) : t.isFinish = false := by
  rw [Token.isFinish, Token.kind]
  cases is : t.lexeme with
  | finish => exact absurd is other
  | _ => rfl

namespace TokenStream

/-! ## Rows in a stream -/

/-- Lexemes that stand in a stream from an index on, all on one line. -/
def Spells (toks : TokenStream) (line : Nat) : Nat → List Lexeme → Prop
  | _, [] => True
  | i, lexeme :: row =>
    ((toks.peek i).lexeme = lexeme ∧ (toks.peek i).line = line) ∧ Spells toks line (i + 1) row

/-- Whether a line of a stream ends in front of an index, or one of the given kinds stands there. -/
def Ends (toks : TokenStream) (line i : Nat) (kind : Kind → Bool) : Prop :=
  (toks.peek i).isFinish = true ∨ (toks.peek i).line ≠ line ∨ kind (toks.peek i).kind = true

instance (toks : TokenStream) (line i : Nat) (kind : Kind → Bool) :
    Decidable (toks.Ends line i kind) := inferInstanceAs (Decidable (_ ∨ _ ∨ _))

theorem Ends.stops {toks : TokenStream} {line i : Nat} {kind : Kind → Bool}
    (ends : toks.Ends line i kind) :
    ((toks.peek i).isFinish || (toks.peek i).line != line || kind (toks.peek i).kind) = true := by
  rw [Bool.or_eq_true, Bool.or_eq_true, bne_iff_ne, or_assoc]
  exact ends

instance (toks : TokenStream) (line : Nat) :
    (i : Nat) → (row : List Lexeme) → Decidable (toks.Spells line i row)
  | _, [] => .isTrue trivial
  | i, _ :: row =>
    haveI := instDecidableSpells toks line (i + 1) row
    inferInstanceAs (Decidable (_ ∧ _))

namespace Spells

variable {toks : TokenStream} {line i : Nat} {row : List Lexeme}

theorem slice (spells : toks.Spells line i row) (unfinished : ∀ lexeme ∈ row, lexeme ≠ .finish) :
    (toks.slice i (i + row.length)).map Token.lexeme = row := by
  rw [slice_eq, Nat.add_sub_cancel_left]
  induction row generalizing i with
  | nil => rw [List.length_nil, List.take_zero, List.map_nil]
  | cons lexeme row ih =>
      have here : (toks.peek i).isFinish = false :=
        Token.unfinished_of_lexeme (spells.1.1 ▸ unfinished lexeme List.mem_cons_self)
      rw [drop_of_lt (lt_of_not_finish here), List.length_cons, List.take_succ_cons, List.map_cons,
        spells.1.1, ih spells.2 fun other member => unfinished other (List.mem_cons_of_mem _ member)]

/-- A count that goes on at every lexeme of a row and stops behind it is the length of the row. -/
theorem run_eq {run : Nat → Nat} {inside : Lexeme → Prop} (spells : toks.Spells line i row)
    (all : ∀ lexeme ∈ row, inside lexeme)
    (goesOn : ∀ k, inside (toks.peek k).lexeme → (toks.peek k).line = line → run k = run (k + 1) + 1)
    (stops : run (i + row.length) = 0) : run i = row.length := by
  induction row generalizing i with
  | nil => exact stops
  | cons lexeme row ih =>
      have here : inside (toks.peek i).lexeme := spells.1.1 ▸ all lexeme List.mem_cons_self
      rw [List.length_cons, Nat.add_comm row.length, ← Nat.add_assoc] at stops
      rw [goesOn i here spells.1.2, List.length_cons,
        ih spells.2 (fun other member => all other (List.mem_cons_of_mem _ member)) stops]

theorem formulaRun (spells : toks.Spells line i row) (parts : ∀ lexeme ∈ row, lexeme.isPart = true)
    (ends : toks.Ends line (i + row.length) endsFormula) :
    toks.formulaRun line i = row.length := by
  refine spells.run_eq parts (fun k part same => ?_) ?_
  · have here := Token.unfinished_of_lexeme (Lexeme.unfinished_of_isPart part)
    rw [TokenStream.formulaRun, dif_pos (lt_of_not_finish here), ← peek_of_lt, here, same,
      bne_self_eq_false, Token.kind, Lexeme.endsFormula_of_isPart part]
    rfl
  · generalize i + row.length = k at ends
    unfold TokenStream.formulaRun
    split
    · rename_i inside
      rw [← peek_of_lt inside]
      exact if_pos ends.stops
    · rfl

theorem enclosed (spells : toks.Spells line i row) (parts : ∀ lexeme ∈ row, lexeme.isPart = true)
    (closes : (toks.peek (i + row.length)).isSymbol .rightBracket = true) :
    toks.Enclosed .leftBracket .rightBracket i (i + row.length) := by
  induction row generalizing i with
  | nil => exact .close closes
  | cons lexeme row ih =>
      have part : (toks.peek i).lexeme.isPart = true := spells.1.1 ▸ parts lexeme List.mem_cons_self
      have here := Token.unfinished_of_lexeme (Lexeme.unfinished_of_isPart part)
      have apart := Lexeme.kind_of_isPart part
      rw [List.length_cons, Nat.add_comm row.length, ← Nat.add_assoc] at closes ⊢
      refine .other here (beq_eq_false_iff_ne.mpr apart.1) (beq_eq_false_iff_ne.mpr apart.2.1) ?_
      exact ih spells.2 (fun other member => parts other (List.mem_cons_of_mem _ member)) closes

theorem conditionRun (spells : toks.Spells line i row)
    (inside : ∀ lexeme ∈ row, lexeme ≠ .finish ∧ lexeme.kind ≠ .symbol .ampersand)
    (ends : toks.Ends line (i + row.length) (· == .symbol .ampersand)) :
    toks.conditionRun line i = row.length := by
  refine spells.run_eq inside (fun k inside same => ?_) ?_
  · have here := Token.unfinished_of_lexeme inside.1
    have joined : (toks.peek k).isSymbol .ampersand = false := beq_eq_false_iff_ne.mpr inside.2
    rw [TokenStream.conditionRun, dif_pos (lt_of_not_finish here), ← peek_of_lt, here, same,
      bne_self_eq_false, joined]
    rfl
  · generalize i + row.length = k at ends
    unfold TokenStream.conditionRun
    split
    · rename_i inside
      rw [← peek_of_lt inside]
      exact if_pos ends.stops
    · rfl

end Spells
end TokenStream

namespace Formula

/-! ## The value of an expression -/

/-- Computes an expression, wherever it stands. -/
def compute (row : List Lexeme) : Act Float := evaluate (row.map Lexeme.alone)

/-- An expression that stands bare from an index on: behind it the line or the statement ends. -/
structure Bare (toks : TokenStream) (line i : Nat) (row : List Lexeme) : Prop where
  spells : toks.Spells line i row
  ends : toks.Ends line (i + row.length) TokenStream.endsFormula

/-- An expression that stands in brackets from an index on. -/
structure Bracketed (toks : TokenStream) (line i : Nat) (row : List Lexeme) : Prop where
  word : (toks.peek i).isWord .solve = true
  opens : (toks.peek (i + 1)).isSymbol .leftBracket = true
  spells : toks.Spells line (i + 2) row
  closes : (toks.peek (i + 2 + row.length)).isSymbol .rightBracket = true

instance (toks : TokenStream) (line i : Nat) (row : List Lexeme) :
    Decidable (Bare toks line i row) :=
  decidable_of_iff
    (toks.Spells line i row ∧ toks.Ends line (i + row.length) TokenStream.endsFormula)
    ⟨fun ⟨spells, ends⟩ => ⟨spells, ends⟩, fun ⟨spells, ends⟩ => ⟨spells, ends⟩⟩

instance (toks : TokenStream) (line i : Nat) (row : List Lexeme) :
    Decidable (Bracketed toks line i row) :=
  decidable_of_iff
    ((toks.peek i).isWord .solve = true ∧ (toks.peek (i + 1)).isSymbol .leftBracket = true ∧
      toks.Spells line (i + 2) row ∧
      (toks.peek (i + 2 + row.length)).isSymbol .rightBracket = true)
    ⟨fun ⟨word, opens, spells, closes⟩ => ⟨word, opens, spells, closes⟩,
      fun ⟨word, opens, spells, closes⟩ => ⟨word, opens, spells, closes⟩⟩

variable {toks : TokenStream} {line i : Nat} {row : List Lexeme}

theorem Row.slice (parts : Row row) (spells : toks.Spells line i row) :
    (toks.slice i (i + row.length)).map Token.lexeme = row :=
  spells.slice fun lexeme member => Lexeme.unfinished_of_isPart (parts.parts lexeme member)

/-- An expression in brackets ends with its bracket. -/
theorem Bracketed.assigned (bracketed : Bracketed toks line i row) (expression : Row row)
    (m : Machine) : (Operand.assigned toks i).run m =
      ((Number.format ((compute row).run m).1, i + 2 + row.length), ((compute row).run m).2) := by
  have solved : toks.opensSolve i = true := by
    rw [TokenStream.opensSolve, bracketed.word, bracketed.opens]
    rfl
  have unbuilt : toks.opensWarp i = false := by
    have other : (toks.peek (i + 1)).kind = .symbol .leftBracket := eq_of_beq bracketed.opens
    rw [TokenStream.opensWarp, Token.isSymbol, other]
    rfl
  have enclosed := bracketed.spells.enclosed expression.parts bracketed.closes
  have closing : toks.closing .leftBracket .rightBracket 0 (i + 2) = i + 2 + row.length :=
    enclosed.closing (by decide) 0
  have spelled := evaluate_spelled (expression.slice bracketed.spells)
  have last := Argument.lastOf_enclosed enclosed (by decide)
  rw [closing] at last
  unfold Operand.assigned Operand.solve
  rw [unbuilt, solved, closing]
  dsimp only
  rw [spelled, last]
  rfl

theorem opensText_word {k : Keyword} (other : k ≠ .warp) (rest : List Lexeme) :
    opensText (.word k :: rest) = false := by
  unfold opensText
  split
  · rename_i same
    cases same
    exact absurd rfl other
  · rename_i same
    cases same
  · rfl

theorem opensWarp_eq (toks : TokenStream) (i : Nat) (rest : List Lexeme) :
    toks.opensWarp i = opensText ((toks.peek i).lexeme :: (toks.peek (i + 1)).lexeme :: rest) := by
  rw [TokenStream.opensWarp, Token.isSymbol, Token.kind]
  generalize (toks.peek i).lexeme = first
  generalize (toks.peek (i + 1)).lexeme = second
  by_cases paren : second.kind = .symbol .leftParen
  · cases second with
    | symbol s =>
        cases Kind.symbol.inj paren
        cases first with
        | word k =>
            by_cases warp : k = .warp
            · rw [warp]
              rfl
            · rw [opensText_word warp]
              simp [warp]
        | _ => rfl
    | _ => cases paren
  · rw [beq_eq_false_iff_ne.mpr paren, Bool.false_and]
    unfold opensText
    split
    · rename_i same
      cases same
      exact absurd rfl paren
    · rename_i same
      cases same
      exact absurd rfl paren
    · rfl

/-- What is no formula by its first lexeme alone opens neither a text nor a formula in brackets. -/
theorem apart_of_isMathKind {lexeme : Lexeme} (marked : isMathKind lexeme.kind = true)
    (second : Lexeme) : opensText [lexeme, second] = false ∧ lexeme.kind ≠ .word .solve := by
  cases lexeme with
  | word k =>
      have unbuilt : k ≠ .warp := by
        rintro rfl
        cases marked
      have unsolved : k ≠ .solve := by
        rintro rfl
        cases marked
      exact ⟨opensText_word unbuilt _, fun same => unsolved (Kind.word.inj same)⟩
  | symbol s => exact ⟨rfl, by simp [Lexeme.kind]⟩
  | _ => cases marked

/-- An expression that is known to be one opens neither a built text nor a formula in brackets. -/
theorem Bare.begins (bare : Bare toks line i row) (expression : Marked row) :
    toks.opensWarp i = false ∧ toks.opensSolve i = false ∧ (toks.peek i).line = line := by
  have marked := expression.marked
  have spells := bare.spells
  match row with
  | [] => cases marked
  | [first] =>
      -- The lexeme behind it may be anything.
      rw [List.any_cons, List.any_nil, Bool.or_false, ← spells.1.1] at marked
      have apart := apart_of_isMathKind marked (toks.peek (i + 1)).lexeme
      refine ⟨(opensWarp_eq toks i []).trans apart.1, ?_, spells.1.2⟩
      rw [TokenStream.opensSolve, Token.isWord, Token.kind, beq_eq_false_iff_ne.mpr apart.2]
      rfl
  | first :: second :: rest =>
      have unbuilt := expression.unbuilt
      have part : (toks.peek (i + 1)).lexeme.isPart = true :=
        spells.2.1.1 ▸ expression.parts second (by simp)
      refine ⟨?_, ?_, spells.1.2⟩
      · rw [opensWarp_eq toks i rest, spells.1.1, spells.2.1.1, unbuilt]
      · rw [TokenStream.opensSolve, Token.isSymbol, Token.kind,
          beq_eq_false_iff_ne.mpr (Lexeme.kind_of_isPart part).1, Bool.and_false]

/-- A bare expression that is known to be one ends where the statement does. -/
theorem Bare.assigned (bare : Bare toks line i row) (expression : Marked row) (m : Machine) :
    (Operand.assigned toks i).run m =
      ((Number.format ((compute row).run m).1, i + row.length - 1), ((compute row).run m).2) := by
  rcases bare.begins expression with ⟨unbuilt, unsolved, same⟩
  have stop : toks.formulaEnd i = i + row.length := by
    rw [TokenStream.formulaEnd, same, bare.spells.formulaRun expression.parts bare.ends]
  have spelled := expression.slice bare.spells
  have marked : isMath (toks.slice i (i + row.length)) = true := by
    rw [isMath_spelled spelled, isMath, List.any_map]
    exact expression.marked
  unfold Operand.assigned
  rw [unbuilt, unsolved, stop]
  dsimp only
  rw [marked, evaluate_spelled spelled]
  rfl

/-! ## Assignments -/

open Statement Machine

/-- A variable is assigned to at an index. -/
structure Targets (toks : TokenStream) (i : Nat) (name : String) : Prop where
  target : (toks.peek i).lexeme = .name name
  sign : (toks.peek (i + 1)).isSymbol .assign = true
  line : (toks.peek (i + 1)).line = (toks.peek i).line

instance (toks : TokenStream) (i : Nat) (name : String) : Decidable (Targets toks i name) :=
  decidable_of_iff
    ((toks.peek i).lexeme = .name name ∧ (toks.peek (i + 1)).isSymbol .assign = true ∧
      (toks.peek (i + 1)).line = (toks.peek i).line)
    ⟨fun ⟨target, sign, line⟩ => ⟨target, sign, line⟩,
      fun ⟨target, sign, line⟩ => ⟨target, sign, line⟩⟩

/-- The statement `name = row`. -/
structure AssignsBare (toks : TokenStream) (i : Nat) (name : String) (row : List Lexeme) : Prop
    extends Targets toks i name where
  bare : Bare toks (toks.peek i).line (i + 2) row

/-- The statement `name = S[row]`. -/
structure AssignsBracketed (toks : TokenStream) (i : Nat) (name : String) (row : List Lexeme) : Prop
    extends Targets toks i name where
  bracketed : Bracketed toks (toks.peek i).line (i + 2) row

instance (toks : TokenStream) (i : Nat) (name : String) (row : List Lexeme) :
    Decidable (AssignsBare toks i name row) :=
  decidable_of_iff (Targets toks i name ∧ Bare toks (toks.peek i).line (i + 2) row)
    ⟨fun ⟨targets, bare⟩ => ⟨targets, bare⟩, fun ⟨targets, bare⟩ => ⟨targets, bare⟩⟩

instance (toks : TokenStream) (i : Nat) (name : String) (row : List Lexeme) :
    Decidable (AssignsBracketed toks i name row) :=
  decidable_of_iff (Targets toks i name ∧ Bracketed toks (toks.peek i).line (i + 2) row)
    ⟨fun ⟨targets, bracketed⟩ => ⟨targets, bracketed⟩,
      fun ⟨targets, bracketed⟩ => ⟨targets, bracketed⟩⟩

/-- What an assignment leaves behind whose value has been computed: the value is bound, unless computing
it has raised a bug. -/
def settled (name value : String) (m computed : Machine) : Machine :=
  if computed.bug.isSome && !m.bug.isSome then computed else computed.assign name value

/-- What the assignment of an expression leaves behind. -/
def outcome (name : String) (row : List Lexeme) (m : Machine) : Machine :=
  settled name (Number.format ((compute row).run m).1) m ((compute row).run m).2

theorem compute_computes (row : List Lexeme) : Computes (compute row) := evaluate_computes _

variable {name : String}

/-- An assignment goes on behind its value and settles with it. -/
theorem Targets.dispatch_run (targets : Targets toks i name) {m computed : Machine} {value : String}
    {last : Nat} (read : (Operand.assigned toks (i + 2)).run m = ((value, last), computed))
    (run : Runner) : (dispatch run toks i).run m = (last, settled name value m computed) := by
  have kind : (toks.peek i).kind = .name := congrArg Lexeme.kind targets.target
  have named : (toks.peek i).rawName = name := by rw [Token.rawName, targets.target]
  have assigns : toks.assignsName i = true := by
    rw [TokenStream.assignsName, TokenStream.isAssignment, kind, targets.sign, targets.line]
    simp
  rw [dispatch_assigns run (kind ▸ rfl) (TokenStream.isAssignment_of_assignsName assigns)]
  unfold Statement.assign assignAt settled
  rw [TokenStream.isSymbol_dot_of_assignsName assigns, if_neg Bool.false_ne_true, named, Act.run_bind, Act.run_bind, Act.run_get]
  dsimp only
  rw [Act.run_bind, read]
  dsimp only
  rw [Act.run_bind, Act.run_get]
  dsimp only
  split <;> rfl

theorem AssignsBare.dispatch_run (assigns : AssignsBare toks i name row) (expression : Marked row)
    (run : Runner) (m : Machine) :
    (dispatch run toks i).run m = (i + 1 + row.length, outcome name row m) := by
  have last : i + 2 + row.length - 1 = i + 1 + row.length := by omega
  exact assigns.toTargets.dispatch_run (last ▸ assigns.bare.assigned expression m) run

theorem AssignsBracketed.dispatch_run (assigns : AssignsBracketed toks i name row)
    (expression : Row row) (run : Runner) (m : Machine) :
    (dispatch run toks i).run m = (i + 4 + row.length, outcome name row m) :=
  assigns.toTargets.dispatch_run (assigns.bracketed.assigned expression m) run

/-- Unless a bug was raised, the value is bound. -/
theorem outcome_binds {m : Machine} (fine : ((compute row).run m).2 = m) :
    outcome name row m = m.assign name (Number.format ((compute row).run m).1) := by
  rw [outcome, settled, fine, Bool.and_not_self]
  rfl

/-- A bug is pending behind an assignment just where it is behind the computation. -/
theorem outcome_bug (name : String) (row : List Lexeme) (m : Machine) :
    (outcome name row m).bug = ((compute row).run m).2.bug := by
  unfold outcome settled
  split
  · rfl
  · rw [(assign_binds name _ _).rest]

/-! ## Questions -/

/-- The question of an `if` at an index: all that stands on its line, or up to an ampersand. -/
structure Asks (toks : TokenStream) (i : Nat) (row : List Lexeme) : Prop where
  head : (toks.peek i).kind = .word .ifWord
  spells : toks.Spells (toks.peek i).line (i + 1) row
  inside : ∀ lexeme ∈ row, lexeme ≠ .finish ∧ lexeme.kind ≠ .symbol .ampersand
  ends : toks.Ends (toks.peek i).line (i + 1 + row.length) (· == .symbol .ampersand)

instance (toks : TokenStream) (i : Nat) (row : List Lexeme) : Decidable (Asks toks i row) :=
  decidable_of_iff
    ((toks.peek i).kind = .word .ifWord ∧ toks.Spells (toks.peek i).line (i + 1) row ∧
      (∀ lexeme ∈ row, lexeme ≠ .finish ∧ lexeme.kind ≠ .symbol .ampersand) ∧
      toks.Ends (toks.peek i).line (i + 1 + row.length) (· == .symbol .ampersand))
    ⟨fun ⟨head, spells, inside, ends⟩ => ⟨head, spells, inside, ends⟩,
      fun ⟨head, spells, inside, ends⟩ => ⟨head, spells, inside, ends⟩⟩

theorem Asks.slice (asks : Asks toks i row) :
    (toks.slice (i + 1) (conditionEnd toks i)).map Token.lexeme = row := by
  rw [conditionEnd, asks.spells.conditionRun asks.inside asks.ends]
  exact asks.spells.slice fun lexeme member => (asks.inside lexeme member).1

section Sides

variable {left right : List Lexeme} {sign : Symbol} {c : Comparison}

/-- A question is cut at its first comparison sign. -/
theorem splitAtComparison_spelled {front back : List Token} {t : Token}
    (plain : ∀ u ∈ front, Comparison.ofKind? u.kind = none)
    (compares : Comparison.ofKind? t.kind = some c) :
    Condition.splitAtComparison (front ++ t :: back) = some (front, c, back) := by
  induction front with
  | nil => rw [List.nil_append, Condition.splitAtComparison, compares]
  | cons u front ih =>
      rw [List.cons_append, Condition.splitAtComparison, plain u List.mem_cons_self,
        ih fun other member => plain other (List.mem_cons_of_mem _ member)]
      rfl

theorem holds_spelled {toks : List Token} (spelled : toks.map Token.lexeme = left ++ .symbol sign :: right)
    (plain : ∀ lexeme ∈ left, Comparison.ofKind? lexeme.kind = none)
    (compares : Comparison.ofKind? (.symbol sign) = some c) (m : Machine) :
    (Condition.holds toks).run m =
      let x := (Condition.side (left.map Lexeme.alone)).run m
      let y := (Condition.side (right.map Lexeme.alone)).run x.2
      (c.holds x.1 y.1, y.2) := by
  rcases List.map_eq_append_iff.mp spelled with ⟨front, others, rfl, frontSpelled, othersSpelled⟩
  rcases List.map_eq_cons_iff.mp othersSpelled with ⟨t, back, rfl, signSpelled, backSpelled⟩
  have sign_kind : t.kind = .symbol sign := congrArg Lexeme.kind signSpelled
  have unasked : Condition.asksForBug (front ++ t :: back) = false := by
    refine beq_eq_false_iff_ne.mpr fun same => ?_
    have member : t.kind ∈ (front ++ t :: back).map Token.kind :=
      List.mem_map_of_mem (List.mem_append_right _ List.mem_cons_self)
    rw [same, sign_kind] at member
    simp at member
  have cut : Condition.splitAtComparison (front ++ t :: back) = some (front, c, back) :=
    splitAtComparison_spelled (fun u member =>
      plain u.lexeme (frontSpelled ▸ List.mem_map_of_mem member)) (sign_kind ▸ compares)
  have filled : (front ++ t :: back).isEmpty = false := by simp
  unfold Condition.holds
  rw [filled, unasked, cut]
  dsimp only
  rw [side_spelled frontSpelled, side_spelled backSpelled]
  rfl

/-- The side of a question that is an expression known to be one is computed. -/
theorem side_marked (expression : Marked row) (m : Machine) :
    (Condition.side (row.map Lexeme.alone)).run m =
      (Number.format ((compute row).run m).1, ((compute row).run m).2) := by
  have marked : isMath (row.map Lexeme.alone) = true := by
    rw [isMath, List.any_map]
    exact expression.marked
  unfold Condition.side
  rw [if_pos marked]
  rfl

/-- The side of a question that is a variable is its value. -/
theorem side_name {value : String} {m : Machine} (found : m.get? name = some value) :
    (Condition.side ([.name name].map Lexeme.alone)).run m = (value, m) := by
  have answer : Condition.joined m ([.name name].map Lexeme.alone) = value := by
    show m.getD name name = value
    rw [getD, found]
    rfl
  show (Condition.joined m ([.name name].map Lexeme.alone), m) = _
  rw [answer]

end Sides

/-- A question that begins with an expression, and the same question about a variable that the
expression is assigned to on the line in front of it. -/
structure Compared (row right : List Lexeme) (sign : Symbol) (name : String) (toks : TokenStream)
    (i : Nat) (other : TokenStream) (j : Nat) : Prop where
  compares : (Comparison.ofKind? (.symbol sign)).isSome = true
  bare : Asks toks i (row ++ .symbol sign :: right)
  assigns : AssignsBracketed other j name row
  named : Asks other (j + 5 + row.length) (.name name :: .symbol sign :: right)
  plain : Plain name

/-- Two questions are answered alike: both go on in their blocks, or both leave them out. -/
def SameBranch (run : Runner) (toks : TokenStream) (i : Nat) (m : Machine) (other : TokenStream)
    (j : Nat) (ready : Machine) : Prop :=
  ∃ answer, ((dispatch run toks i).run m).1 = branchLast toks i answer ∧
    ((dispatch run toks i).run m).2.taken = answer ∧
    ((dispatch run other j).run ready).1 = branchLast other j answer ∧
    ((dispatch run other j).run ready).2.taken = answer

theorem Asks.dispatch_run (asks : Asks toks i row) (run : Runner) (m : Machine) :
    ((dispatch run toks i).run m).1 = branchLast toks i (condition toks i m).1 ∧
      ((dispatch run toks i).run m).2.taken = (condition toks i m).1 := by
  rw [dispatch_branch toks i run asks.head, branch_run]
  exact ⟨rfl, rfl⟩

namespace Compared

variable {right : List Lexeme} {sign : Symbol} {other : TokenStream} {j : Nat} {m ready : Machine}

/-- Both questions compare the value of the expression with the other side. -/
theorem sameBranch (compared : Compared row right sign name toks i other j)
    (expression : Marked row) (fine : ((compute row).run m).2 = m)
    (kept : ready.get? name = some (Number.format ((compute row).run m).1))
    (same : ((Condition.side (right.map Lexeme.alone)).run m).1 =
      ((Condition.side (right.map Lexeme.alone)).run ready).1) (run : Runner) :
    SameBranch run toks i m other (j + 5 + row.length) ready := by
  rcases Option.isSome_iff_exists.mp compared.compares with ⟨c, compares⟩
  have parts : ∀ lexeme ∈ row, Comparison.ofKind? lexeme.kind = none := fun lexeme member =>
    (Lexeme.kind_of_isPart (expression.parts lexeme member)).2.2.1
  have bare : (condition toks i m).1 = c.holds (Number.format ((compute row).run m).1)
      ((Condition.side (right.map Lexeme.alone)).run m).1 := by
    rw [condition, holds_spelled compared.bare.slice parts compares]
    dsimp only
    rw [side_marked expression, fine]
  have named : (condition other (j + 5 + row.length) ready).1 =
      c.holds (Number.format ((compute row).run m).1)
        ((Condition.side (right.map Lexeme.alone)).run ready).1 := by
    have single : ∀ lexeme ∈ [Lexeme.name name], Comparison.ofKind? lexeme.kind = none := by
      simp [Lexeme.kind, Comparison.ofKind?]
    rw [condition, holds_spelled (.trans compared.named.slice rfl) single compares]
    dsimp only
    rw [side_name kept]
  have first := compared.bare.dispatch_run run m
  have second := compared.named.dispatch_run run ready
  rw [bare, same] at first
  rw [named] at second
  exact ⟨_, first.1, first.2, second.1, second.2⟩

/-- Where the second question is asked, computing the expression has raised no bug, and the variable
has the value that was bound to it. -/
theorem carried (compared : Compared row right sign name toks i other j)
    (arrived : (outcome name row m).arrive other (j + 5 + row.length) = .ready ready) :
    ((compute row).run m).2 = m ∧ ready.get? name = (outcome name row m).get? name := by
  have arrives := arrives other (j + 5 + row.length) (outcome name row m)
  rw [arrived] at arrives
  cases arrives with
  | begins _ _ _ _ asks =>
      have unasking : other.asksForBug (j + 5 + row.length) = false := by
        have next : other.kindAt (j + 5 + row.length + 1) = .name :=
          congrArg Lexeme.kind compared.named.spells.1.1
        rw [TokenStream.asksForBug, next]
        simp
      have fine : (outcome name row m).bug = none := by
        rw [← Option.not_isSome_iff_eq_none]
        exact fun pending => Bool.false_ne_true (unasking.symm.trans (asks pending))
      rw [outcome_bug] at fine
      refine ⟨(compute_computes row).unchanged fine, ?_⟩
      rw [compared.plain.get?, compared.plain.get?, begun_eq]
      rfl

end Compared

/-! ## The law -/

/-- How an expression that is written bare compares with the same expression in brackets. -/
structure FormulaLaw (row : List Lexeme) : Prop where
  /-- Assigned to a variable, both have the same outcome, and the run goes on behind both. -/
  assigned : ∀ (run : Runner) (toks other : TokenStream) (i j : Nat) (name : String) (m : Machine),
    AssignsBare toks i name row → AssignsBracketed other j name row →
      (dispatch run toks i).run m = (i + 1 + row.length, outcome name row m) ∧
        (dispatch run other j).run m = (j + 4 + row.length, outcome name row m)
  /-- Without a bug in it, the outcome is that the value is bound. -/
  bound : ∀ (name : String) (m : Machine), ((compute row).run m).2 = m →
    Binds (storedName name) (Number.format ((compute row).run m).1) m (outcome name row m)
  /-- Compared with anything, the bare expression decides like a variable that it was assigned to in
  brackets, if it raises no bug, the variable still has its value and the other side is the same. -/
  compared : ∀ (run : Runner) (toks other : TokenStream) (i j : Nat) (name : String) (sign : Symbol)
    (right : List Lexeme) (m ready : Machine), Compared row right sign name toks i other j →
      m.isHidden name = false → ((compute row).run m).2 = m →
      ready.get? name = (outcome name row m).get? name →
      ((Condition.side (right.map Lexeme.alone)).run m).1 =
        ((Condition.side (right.map Lexeme.alone)).run ready).1 →
      SameBranch run toks i m other (j + 5 + row.length) ready
  /-- That is so where the question behind the assignment is asked at all. -/
  asked : ∀ (toks other : TokenStream) (i j : Nat) (name : String) (sign : Symbol)
    (right : List Lexeme) (m ready : Machine), Compared row right sign name toks i other j →
      (outcome name row m).arrive other (j + 5 + row.length) = .ready ready →
      ((compute row).run m).2 = m ∧ ready.get? name = (outcome name row m).get? name

/-- An expression that is known to be one means the same bare and in brackets. -/
theorem formula_law {row : List Lexeme} (expression : Marked row) : FormulaLaw row where
  assigned run _ _ _ _ _ m bare bracketed :=
    ⟨bare.dispatch_run expression run m, bracketed.dispatch_run expression.toRow run m⟩
  bound name m fine := by
    rw [outcome_binds fine]
    exact assign_binds name _ m
  compared run _ _ _ _ name _ _ m _ compared shown fine kept same := by
    refine compared.sameBranch expression fine (kept.trans ?_) same run
    rw [outcome_binds fine]
    exact compared.plain.get?_of_binds (compared.plain.binds _ m) shown
  asked _ _ _ _ _ _ _ _ _ compared arrived := compared.carried arrived

/-- The sum that the following theorem is about. -/
def sumRow : List Lexeme :=
  [.name "X", .symbol .plus, .number 2, .symbol .star, .symbol .leftParen, .name "Y", .symbol .minus,
    .number 1, .symbol .rightParen]

theorem formula_law_sum :
    let m := Machine.start {}
    let question := scan "if X + 2 * (Y - 1) = 5\n    print X"
    let assignment := scan "R = S[X + 2 * (Y - 1)]\nif R = 5\n    print X"
    Marked sumRow ∧ FormulaLaw sumRow ∧ AssignsBare (scan "R = X + 2 * (Y - 1)") 0 "R" sumRow ∧
      Compared sumRow [.number 5] .assign "R" question 0 assignment 0 ∧
      SameBranch idle question 0 m assignment 14 (outcome "R" sumRow m) := by
  intro m question assignment
  have expression : Marked sumRow := ⟨⟨by decide, by decide⟩, by decide⟩
  have law := formula_law expression
  have ⟨bare, asks, assigns, named, plain⟩ : AssignsBare (scan "R = X + 2 * (Y - 1)") 0 "R" sumRow ∧
      Asks question 0 (sumRow ++ [.symbol .assign, .number 5]) ∧
        AssignsBracketed assignment 0 "R" sumRow ∧
          Asks assignment 14 [.name "R", .symbol .assign, .number 5] ∧ Plain "R" := by
    decide +kernel
  have compared : Compared sumRow [.number 5] .assign "R" question 0 assignment 0 :=
    ⟨rfl, asks, assigns, named, plain⟩
  have fine : ((compute sumRow).run m).2 = m :=
    (compute_computes sumRow).unchanged (by decide +kernel)
  have same := law.compared idle _ _ _ _ _ _ _ m (outcome "R" sumRow m) compared rfl fine rfl rfl
  exact ⟨expression, law, bare, compared, same⟩

end Formula

/-! ## Written numbers -/

namespace Number

/-- Whether a character is one that numbers are written with. -/
def writes (c : Char) : Bool := c.isDigit || ".+-NaInf".toList.contains c

/-- Whether all characters of a text are such. -/
def isWritten (text : String) : Bool := text.toList.all writes

theorem isWritten_append (first second : String) :
    isWritten (first ++ second) = (isWritten first && isWritten second) := by
  rw [isWritten, String.toList_append, List.all_append]
  rfl

theorem isWritten_of_subset {text : String} (written : isWritten text = true) {cs : List Char}
    (inside : cs ⊆ text.toList) : isWritten (String.ofList cs) = true := by
  rw [isWritten, String.toList_ofList, List.all_eq_true]
  exact fun c member => List.all_eq_true.mp written c (inside member)

theorem digitText_isWritten (n : Nat) : isWritten (digitText n) = true := by
  rw [isWritten, digitText, String.toList_ofList, List.all_eq_true]
  intro c member
  rw [writes, Nat.isDigit_of_mem_toDigits (by decide) (by decide) member, Bool.true_or]

theorem padLeft_isWritten (width n : Nat) :
    isWritten (Text.padLeft width '0' (digitText n)) = true := by
  have zeros (count : Nat) : (List.replicate count '0').all writes = true :=
    List.all_eq_true.mpr fun c member => (List.mem_replicate.mp member).2 ▸ rfl
  rw [Text.padLeft, isWritten_append, digitText_isWritten, Bool.and_true, isWritten,
    String.toList_ofList, zeros]

theorem positional_isWritten (decimal : Decimal) : isWritten decimal.positional = true := by
  unfold Decimal.positional
  split
  · exact digitText_isWritten _
  · have padded := padLeft_isWritten ((-decimal.exponent).toNat + 1) decimal.digits
    have whole (count : Nat) := isWritten_of_subset padded (List.take_subset count _)
    have behind (count : Nat) := isWritten_of_subset padded (List.drop_subset count _)
    rw [isWritten_append, isWritten_append, whole, behind]
    rfl

theorem signed_isWritten (negative : Bool) {size : String} (written : isWritten size = true) :
    isWritten (signed negative size) = true := by
  unfold signed
  split
  · rw [isWritten_append, written]
    rfl
  · exact written

/-- A number is written with digits and a few marks. -/
theorem format_isWritten (x : Float) : isWritten (format x) = true := by
  unfold format
  split
  · rfl
  · split <;> rfl
  · split
    · exact signed_isWritten _ rfl
    · split
      · exact signed_isWritten _ (digitText_isWritten _)
      · exact signed_isWritten _ (positional_isWritten _)

end Number

namespace Formula

open Statement Machine

variable {toks : TokenStream} {i : Nat} {name : String}

/-! ## What is not known to be an expression -/

/-- The words for functions that are computed in brackets and do not make a value a formula. -/
def rounding : List Keyword := [.floor, .ceil, .round]

/-- No number is written like one of these words. -/
theorem spelling_ne_format {k : Keyword} (rounds : k ∈ rounding) (x : Float) :
    k.spelling ≠ Number.format x := by
  intro same
  have strange : ∀ k ∈ rounding, Number.isWritten k.spelling = false := by decide
  exact Bool.false_ne_true ((strange k rounds).symm.trans (same ▸ Number.format_isWritten x))

/-- Nothing is read in a special way that begins with such a word. -/
theorem apart_of_rounding : ∀ k ∈ rounding, k ≠ .warp ∧ k ≠ .solve ∧ k ≠ .atWord ∧
    Kind.word k ∉ Argument.longForms ∧ isMathKind (.word k) = false := by
  decide

/-- Such a word is a value by itself wherever a value is read. -/
theorem value_rounding {k : Keyword} (rounds : k ∈ rounding)
    (head : (toks.peek i).lexeme = .word k) (m : Machine) :
    toks.opensWarp i = false ∧ toks.opensSolve i = false ∧
      (Operand.value toks i).run m = ((m.getD k.spelling k.spelling, i), m) := by
  rcases apart_of_rounding k rounds with ⟨notWarp, notSolve, notAt, short, -⟩
  have kind : (toks.peek i).kind = .word k := congrArg Lexeme.kind head
  have unbuilt : toks.opensWarp i = false := by
    rw [opensWarp_eq toks i [], head, opensText_word notWarp]
  have unsolved : toks.opensSolve i = false := by
    rw [TokenStream.opensSolve, Token.isWord, kind,
      beq_eq_false_iff_ne.mpr fun same => notSolve (Kind.word.inj same), Bool.false_and]
  have skipped : toks.skipAts i = i := by
    apply TokenStream.skipAts_of_apart
    rw [Token.isSymbol, Token.isWord, kind,
      beq_eq_false_iff_ne.mpr fun same => notAt (Kind.word.inj same)]
    rfl
  have value : m.tokenValue (toks.peek i) = m.getD k.spelling k.spelling := by
    rw [tokenValue, head]
    simp
  refine ⟨unbuilt, unsolved, ?_⟩
  have word : (toks.peek i).kind ≠ .text := by
    rw [kind]
    exact Kind.noConfusion
  rw [Operand.value, skipped, Argument.valueAt_single (kind ▸ short) word unbuilt, value]

/-- An assignment of a bare expression that is headed by such a word, and in which nothing else makes a
value a formula, binds the value of the word, and the run goes on behind the word. -/
theorem rounding_misread {row : List Lexeme} {k : Keyword} (rounds : k ∈ rounding)
    (parts : Row (.word k :: row)) (unmarked : row.any (fun lexeme => isMathKind lexeme.kind) = false)
    (assigns : AssignsBare toks i name (.word k :: row)) (run : Runner) (m : Machine) :
    (dispatch run toks i).run m = (i + 2, m.assign name (m.getD k.spelling k.spelling)) := by
  have spells := assigns.bare.spells
  rcases value_rounding rounds spells.1.1 m with ⟨unbuilt, unsolved, value⟩
  have unfinished : (toks.peek (i + 2)).isFinish = false :=
    Token.unfinished_of_lexeme (Lexeme.unfinished_of_isPart
      (spells.1.1 ▸ parts.parts _ List.mem_cons_self))
  have stop : toks.formulaEnd (i + 2) = i + 2 + (Lexeme.word k :: row).length := by
    rw [TokenStream.formulaEnd, spells.1.2, spells.formulaRun parts.parts assigns.bare.ends]
  have bare : isMath (toks.slice (i + 2) (i + 2 + (Lexeme.word k :: row).length)) = false := by
    rw [isMath_spelled (parts.slice spells), isMath, List.any_map, List.any_cons]
    exact Bool.or_eq_false_iff.mpr ⟨(apart_of_rounding k rounds).2.2.2.2, unmarked⟩
  have read : (Operand.assigned toks (i + 2)).run m =
      ((m.getD k.spelling k.spelling, i + 2), m) := by
    unfold Operand.assigned
    rw [unbuilt, unsolved, stop]
    dsimp only
    rw [bare, unfinished]
    exact value
  rw [assigns.toTargets.dispatch_run read run, settled, Bool.and_not_self]
  rfl

/-- Without brackets the word is bound, and in brackets the number is. -/
theorem bareFloor_bindsWord :
    let m := Machine.start {}
    let bare := (dispatch idle (scan "R = floor 2.7") 0).run m
    let bracketed := (dispatch idle (scan "R = S[floor 2.7]") 0).run m
    bare.2.globals.valueOf? "R" = some "floor" ∧ bracketed.2.globals.valueOf? "R" ≠ some "floor" := by
  intro m bare bracketed
  let row : List Lexeme := [.word .floor, .number 2.7]
  have parts : Row row := ⟨by decide, by decide⟩
  have ⟨assigns, own, written⟩ : AssignsBracketed (scan "R = S[floor 2.7]") 0 "R" row ∧
      storedName "R" = "R" ∧ bare.2.globals.valueOf? "R" = some "floor" := by
    decide +kernel
  have fine : ((compute row).run m).2 = m :=
    (compute_computes row).unchanged (by decide +kernel)
  have bound : bracketed.2 = m.assign "R" (Number.format ((compute row).run m).1) := by
    rw [← outcome_binds fine]
    exact congrArg Prod.snd (assigns.dispatch_run parts idle m)
  refine ⟨written, ?_⟩
  rw [bound, ((assign_binds "R" _ m).top rfl).2, own, Bindings.valueOf?_set_self]
  exact fun same => spelling_ne_format (List.mem_cons_self : Keyword.floor ∈ rounding) _
    (Option.some.inj same).symm

end Formula
end BigScript
