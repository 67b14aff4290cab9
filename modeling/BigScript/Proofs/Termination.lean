import BigScript.Proofs.CallDepth
import BigScript.Proofs.Definitions
import BigScript.Proofs.Forward.Statement
import BigScript.Proofs.Invocation
import BigScript.Proofs.Structured.Walk

/-!
# Scripts that come to their end

Only `keep` moves a walk back.  A script without it can still run for ever, by including a source
again and again, or on threads that start further threads; a script without the words for those
cannot.  It walks through its own tokens and through the bodies of its functions, which are parts of
it, always forward, and the nesting of calls is limited.

Two arguments are put together.  The bounds that statements and formulas put on their own loops are
never what ends these loops: every turn uses up a token.  And the bound on the statements of a run is
never what ends the run: `remaining` is a bound that every statement and every call lowers.
-/

namespace BigScript

/-! ## Loops inside statements and formulas -/

namespace Formula

theorem readName_length : (toks : List Token) → (readName toks).2.length ≤ toks.length
  | [] => Nat.le_refl _
  | [t] => by
    simp only [readName]
    split <;> exact Nat.zero_le _
  | [t, name] => by
    simp only [readName]
    split
    · exact Nat.zero_le _
    · exact Nat.le_succ _
  | t :: name :: close :: after => by
    simp only [readName]
    split
    · split <;> simp only [List.length_cons] <;> omega
    · exact Nat.le_succ _

theorem dropAnd_length : (toks : List Token) → (dropAnd toks).length ≤ toks.length
  | [] => Nat.le_refl _
  | t :: rest => by
    simp only [dropAnd]
    split
    · exact Nat.le_succ _
    · exact Nat.le_refl _

theorem dropDollars_length (toks : List Token) : (dropDollars toks).length ≤ toks.length :=
  (List.dropWhile_suffix _).length_le

theorem readOperand_length (steps : Nat) (toks : List Token) :
    (readOperand steps toks).2.length ≤ toks.length := by
  have dropped := dropDollars_length toks
  unfold readOperand
  split
  · exact Nat.zero_le _
  · split
    · exact Nat.zero_le _
    · rename_i t rest same
      rw [same, List.length_cons] at dropped
      split
      · have after := (splitGroup_length 0 rest).2
        exact Nat.le_trans after (Nat.le_of_succ_le dropped)
      · exact Nat.le_of_succ_le dropped

/-- Whether `more` turns beyond `steps` make no difference to what is read off so few tokens. -/
def Settles (steps more : Nat) : Prop :=
  ∀ toks : List Token, toks.length ≤ steps →
    readOperand (steps + more) toks = readOperand steps toks ∧
      readRow (steps + more) toks = readRow steps toks

section Settles

variable {steps more : Nat} {toks : List Token}

theorem readOperand_more (settles : Settles steps more) (short : toks.length ≤ steps + 1) :
    readOperand (steps + more + 1) toks = readOperand (steps + 1) toks := by
  have dropped := dropDollars_length toks
  unfold readOperand
  cases same : dropDollars toks with
  | nil => rfl
  | cons t rest =>
    rw [same, List.length_cons] at dropped
    have inside := (splitGroup_length 0 rest).1
    dsimp only
    rw [(settles (splitGroup 0 rest).1 (by omega)).2]

/-- The two arguments of a minimum or maximum, and what follows them. -/
theorem readPair_more (settles : Settles steps more) (short : toks.length ≤ steps)
    (build : Term → Term → Term) :
    (let first := readOperand (steps + more) toks
      let second := readOperand (steps + more) (dropAnd first.2)
      Cell.term (build first.1 second.1) :: readRow (steps + more) second.2) =
    let first := readOperand steps toks
    let second := readOperand steps (dropAnd first.2)
    Cell.term (build first.1 second.1) :: readRow steps second.2 := by
  have one := readOperand_length steps toks
  have between := dropAnd_length (readOperand steps toks).2
  have two := readOperand_length steps (dropAnd (readOperand steps toks).2)
  dsimp only
  rw [(settles toks short).1, (settles (dropAnd _) (by omega)).1, (settles _ (by omega)).2]

theorem readRow_more (settles : Settles steps more) (short : toks.length ≤ steps + 1) :
    readRow (steps + more + 1) toks = readRow (steps + 1) toks := by
  cases toks with
  | nil => simp [readRow]
  | cons t rest =>
    have room : rest.length ≤ steps := Nat.le_of_succ_le_succ short
    have row (other : List Token) (shorter : other.length ≤ rest.length) :
        readRow (steps + more) other = readRow steps other :=
      (settles other (Nat.le_trans shorter room)).2
    have behind (cell : Cell) : cell :: readRow (steps + more) rest = cell :: readRow steps rest :=
      congrArg (List.cons cell) (row rest (Nat.le_refl _))
    unfold readRow
    cases Operator.ofKind? t.kind with
    | some operator => exact behind _
    | none =>
      cases Function.ofKind? t.kind with
      | some function =>
        dsimp only
        rw [(settles rest room).1]
        exact congrArg (List.cons _) (row _ (readOperand_length steps rest))
      | none =>
        have group := splitGroup_length 0 rest
        dsimp only
        split
        · rw [row _ group.1]
          exact congrArg (List.cons _) (row _ group.2)
        · exact readPair_more settles room Term.least
        · exact readPair_more settles room Term.greatest
        · exact behind _
        · exact behind _
        · exact behind _
        · exact behind _
        · exact row rest (Nat.le_refl _)
        · exact congrArg (List.cons _) (row _ (readName_length rest))
        · exact behind _

end Settles

/-- Every turn of reading a row uses up a token, so a larger bound makes no difference. -/
theorem read_settles (steps more : Nat) : Settles steps more := by
  induction steps with
  | zero =>
    intro toks short
    obtain rfl : toks = [] := List.length_eq_zero_iff.mp (Nat.le_zero.mp short)
    cases more with
    | zero => exact ⟨rfl, rfl⟩
    | succ more =>
      rw [Nat.zero_add]
      exact ⟨by simp [readOperand, dropDollars], by simp [readRow]⟩
  | succ steps ih =>
    intro toks short
    rw [Nat.add_right_comm]
    exact ⟨readOperand_more ih short, readRow_more ih short⟩

end Formula

section Loops

variable (toks : TokenStream)

theorem Statement.arguments_more (steps more j : Nat) (read : List String) (m : Machine)
    (enough : toks.size < steps + j) :
    (arguments toks (steps + more) j read).run m = (arguments toks steps j read).run m := by
  induction steps generalizing j read m with
  | zero =>
    have absent : toks.peek j = Token.absent := TokenStream.peek_of_le (by omega)
    cases more with
    | zero => rfl
    | succ more =>
      rw [Nat.zero_add]
      unfold arguments
      rw [absent]
      rfl
  | succ steps ih =>
    rw [Nat.add_right_comm]
    unfold arguments
    dsimp only
    split
    · rfl
    · split
      · exact ih (j + 1) read m (by omega)
      · rw [Act.run_bind, Act.run_bind]
        have further := Operand.value_forward toks j m
        exact ih _ _ _ (by omega)

theorem Verb.joinedValues_more (i steps more j last : Nat) (text : String) (m : Machine)
    (enough : toks.size < steps + j) :
    (joinedValues toks i (steps + more) j last text).run m =
      (joinedValues toks i steps j last text).run m := by
  induction steps generalizing j last text m with
  | zero =>
    have absent : toks.peek j = Token.absent := TokenStream.peek_of_le (by omega)
    cases more with
    | zero => rfl
    | succ more =>
      rw [Nat.zero_add]
      unfold joinedValues TokenStream.onLine
      rw [absent]
      rfl
  | succ steps ih =>
    rw [Nat.add_right_comm]
    unfold joinedValues
    dsimp only
    split
    · rw [Act.run_bind, Act.run_bind]
      have further := Operand.value_forward toks j m
      split
      · exact ih _ _ _ _ (by omega)
      · rfl
    · rfl

theorem Verb.valuesFrom_more (i steps more last : Nat) (values : List String) (m : Machine)
    (enough : toks.size < steps + (last + 1)) :
    (valuesFrom toks i (steps + more) last values).run m =
      (valuesFrom toks i steps last values).run m := by
  induction steps generalizing last values m with
  | zero =>
    have absent : toks.peek (last + 1) = Token.absent := TokenStream.peek_of_le (by omega)
    cases more with
    | zero => rfl
    | succ more =>
      rw [Nat.zero_add]
      unfold valuesFrom TokenStream.onLine
      rw [absent]
      rfl
  | succ steps ih =>
    rw [Nat.add_right_comm]
    unfold valuesFrom
    dsimp only
    split
    · rw [Act.run_bind, Act.run_bind]
      have further := Verb.replacedValue_forward toks (last + 1) m
      split
      · exact ih _ _ _ (by omega)
      · rfl
    · rfl

end Loops

/-! ## Scripts that repeat nothing -/

/-- Whether a token is one of the words by which a script can go on for ever. -/
def Token.repeats (t : Token) : Bool :=
  [Kind.word .keep, .word .use, .word .attach, .word .background].contains t.kind

theorem Token.kind_of_repeats {t : Token} (once : t.repeats = false) :
    t.kind ≠ .word .keep ∧ t.kind ≠ .word .use ∧ t.kind ≠ .word .attach ∧
      t.kind ≠ .word .background := by
  simpa [repeats] using once

/-- Tokens without such words, and not more than a number of them. -/
structure Straight (limit : Nat) (toks : TokenStream) : Prop where
  size : toks.size ≤ limit
  once : ∀ t ∈ toks, t.repeats = false

namespace Straight

open Statement

variable {limit : Nat} {toks : TokenStream} {i : Nat} {m : Machine} {nested : Nested}

theorem peek (straight : Straight limit toks) (i : Nat) : (toks.peek i).repeats = false := by
  rcases Nat.lt_or_ge i toks.size with inside | outside
  · rw [TokenStream.peek_of_lt inside]
    exact straight.once _ (Array.getElem_mem inside)
  · rw [TokenStream.peek_of_le outside]
    rfl

/-- A straight script has no other streams to run than the bodies of its functions, here and now. -/
theorem purpose (straight : Straight limit toks) (runs : nested? toks i m = some nested) :
    nested.purpose = .call ∨ nested.purpose = .inline := by
  have here := Token.kind_of_repeats (straight.peek i)
  unfold nested? at runs
  split at runs
  · have next := Token.kind_of_repeats (straight.peek (i + 1))
    dsimp only at runs
    split at runs
    · cases runs
    · split at runs
      · rename_i background
        exact absurd (eq_of_beq background) next.2.2.2
      · unfold callNested? at runs
        generalize (callArguments toks (i + 1)).run m = read at runs
        rcases read with ⟨⟨args, last⟩, ready⟩
        dsimp only at runs
        split at runs
        · cases runs
        · split at runs
          · cases runs
          · cases runs
            exact .inl rfl
  · exact .inr (inlineNested?_purpose runs)
  · rename_i use
    exact absurd use here.2.1
  · rename_i attach
    exact absurd attach here.2.2.1
  · cases runs

theorem definition (straight : Straight limit toks) (inside : i < toks.size) :
    Straight limit (definition toks i).body := by
  have first : 0 < (parameters toks (i + 2)).2 := by
    unfold parameters
    split <;> exact Nat.succ_pos _
  have size := straight.size
  constructor
  · simp only [Statement.definition, Array.size_push, Array.size_extract]
    omega
  · intro t member
    simp only [Statement.definition, Array.mem_push] at member
    rcases member with inBody | rfl
    · rw [Array.mem_def, Array.toList_extract, List.extract_eq_take_drop] at inBody
      exact straight.once t (Array.mem_def.mpr (List.mem_of_mem_drop (List.mem_of_mem_take inBody)))
    · rfl

theorem passes (limit : Nat) : Passes (Straight limit) where
  definition := fun straight inside => straight.definition inside
  source := fun straight runs included => by
    rcases straight.purpose runs with call | inline
    · rw [included] at call
      cases call
    · rw [included] at inline
      cases inline

end Straight

/-- A call goes one level deeper, and never below the deepest one. -/
theorem Nests.entry_depth {toks : TokenStream} {m : Machine} {nested : Nested}
    (nests : Nests toks m nested) (here : nested.purpose = .call ∨ nested.purpose = .inline) :
    nested.entry.depth = m.depth + 1 ∧ m.depth + 1 ≤ deepestCall := by
  cases nests with
  | call last head args read found shallow =>
    have same : (_ : Machine).depth = m.depth := read.depth
    exact ⟨congrArg (· + 1) same, same ▸ shallow⟩
  | background => rcases here with call | inline <;> contradiction
  | inline last found shallow => exact ⟨rfl, shallow⟩
  | source => rcases here with call | inline <;> contradiction

theorem Nests.entry_exhausted {toks : TokenStream} {m : Machine} {nested : Nested}
    (nests : Nests toks m nested) : nested.entry.exhausted = m.exhausted := by
  cases nests with
  | call last head args read found shallow => exact read.exhausted
  | background last found => rfl
  | inline last found shallow => rfl
  | source last found => rfl

namespace Machine

/-- A bound on the statements that a walk has left on each path of nested calls. -/
def remaining (limit : Nat) (toks : TokenStream) (i : Nat) (m : Machine) : Nat :=
  (deepestCall - m.depth) * (limit + 1) + (toks.size - i)

/-- A straight script is over before the bound on its statements is used up. -/
theorem exec_straight {limit : Nat} (steps : Nat) (toks : TokenStream) (i : Nat) (m : Machine)
    (straight : Straight limit toks) (knows : m.Knows (Straight limit))
    (enough : m.remaining limit toks i < steps) :
    (exec steps toks i m).exhausted = m.exhausted := by
  induction steps generalizing toks i m with
  | zero => exact absurd enough (Nat.not_lt_zero _)
  | succ steps ih =>
    rw [exec_succ]
    have arrival := arrives toks i m
    cases arrived : m.arrive toks i with
    | ends out =>
      rw [arrived] at arrival
      exact arrival.ends_contained.exhausted
    | ready ready =>
      rw [arrived] at arrival
      have inside := arrival.inside
      have begun := arrival.ready_contained
      have known := knows.of_eq arrival.ready_procedures
      have other := (Token.kind_of_repeats (straight.peek i)).1
      dsimp only
      cases runs : Statement.nested? toks i ready with
      | none =>
        have ahead : i ≤ _ := Statement.dispatch_forward toks i Statement.idle other ready
        have done := Statement.dispatch_contained toks i runs
        have after := (Straight.passes limit).dispatch_knows straight inside known runs
        rw [ih toks _ _ straight after ?_, done.exhausted, begun.exhausted]
        unfold remaining at enough ⊢
        rw [done.depth, begun.depth]
        omega
      | some nested =>
        have nests := Statement.nested?_nests runs
        have deeper := nests.entry_depth (straight.purpose runs)
        have inner := (Straight.passes limit).inner straight known runs
        have entry := known.of_eq nests.entry_procedures
        have walked := exec_knows (Straight.passes limit) steps nested.inner 0 nested.entry inner entry
        have after := walked.of_eq nests.complete_procedures
        have balanced := nests.balanced (exec_balanced steps nested.inner 0 nested.entry)
        have ahead := Statement.complete_forward toks i runs (exec steps nested.inner 0 nested.entry)
        have size := inner.size
        -- The call goes one level deeper, and one level is more than any body is long.
        have room : (deepestCall - m.depth) * (limit + 1) =
            (deepestCall - nested.entry.depth) * (limit + 1) + (limit + 1) := by
          rw [deeper.1, begun.depth, ← Nat.succ_mul]
          have shallow := deeper.2
          rw [begun.depth] at shallow
          congr 1
          omega
        rw [ih toks _ _ straight after ?_, nests.complete_exhausted,
          ih nested.inner 0 nested.entry inner entry ?_, nests.entry_exhausted, begun.exhausted]
        · unfold remaining at enough ⊢
          omega
        · unfold remaining at enough ⊢
          rw [balanced.depth, begun.depth]
          omega

/-- A machine that is about to run its first source. -/
structure Fresh (shared : Shared) : Prop where
  procedures : shared.procedures = []
  going : shared.exhausted = false

theorem prepare_fresh {shared : Shared} (fresh : Fresh shared) (source : String) :
    ((start shared).prepare source).2.procedures = [] ∧
      ((start shared).prepare source).2.exhausted = false ∧
      ((start shared).prepare source).2.depth = 1 := by
  have begun : (start shared).procedures = [] ∧ (start shared).exhausted = false ∧
      (start shared).depth = 1 := by
    unfold start
    dsimp only
    split
    · exact ⟨fresh.procedures, fresh.going, rfl⟩
    · exact ⟨fresh.procedures, fresh.going, rfl⟩
  exact begun

/-- A fresh machine comes to the end of a straight script, and a bound on the statements that is
proportional to the length of the script is enough for that. -/
theorem prepare_ends {shared : Shared} (fresh : Fresh shared) (source : String)
    (straight : ∀ t ∈ ((start shared).prepare source).1, t.repeats = false) (steps : Nat)
    (enough : deepestCall * (((start shared).prepare source).1.size + 1) ≤ steps) :
    (exec steps ((start shared).prepare source).1 0 ((start shared).prepare source).2).exhausted
      = false := by
  rcases prepare_fresh fresh source with ⟨procedures, going, depth⟩
  generalize (start shared).prepare source = prepared at *
  rcases prepared with ⟨toks, m⟩
  dsimp only at procedures going depth straight enough ⊢
  have knows : m.Knows (Straight toks.size) := by
    intro entry known
    rw [procedures] at known
    cases known
  rw [exec_straight steps toks 0 m ⟨Nat.le_refl _, straight⟩ knows ?_, going]
  have levels : deepestCall = deepestCall - 1 + 1 := rfl
  rw [levels, Nat.succ_mul] at enough
  unfold remaining
  rw [depth]
  omega

end Machine

/-! ## The law -/

/-- Walks go forward, and so they end where nothing makes them go back. -/
structure ForwardLaw : Prop where
  /-- No statement but `keep` moves a walk back, in whatever state it finds the machine and whatever
  runs the streams it runs. -/
  forward : ∀ (run : Runner) (toks : TokenStream) (i : Nat) (m : Machine),
    (toks.peek i).kind ≠ .word .keep → i ≤ ((Statement.dispatch run toks i).run m).1
  /-- The arguments of a call, the values of `print` and of `get`, and the rows of formulas are read
  to their ends: a larger bound on the turns of these loops makes no difference. -/
  arguments : ∀ (toks : TokenStream) (more j : Nat) (read : List String) (m : Machine),
    (Statement.arguments toks (toks.size + 1 + more) j read).run m =
      (Statement.arguments toks (toks.size + 1) j read).run m
  joined : ∀ (toks : TokenStream) (i more j last : Nat) (text : String) (m : Machine),
    (Verb.joinedValues toks i (toks.size + 1 + more) j last text).run m =
      (Verb.joinedValues toks i (toks.size + 1) j last text).run m
  values : ∀ (toks : TokenStream) (i more last : Nat) (values : List String) (m : Machine),
    (Verb.valuesFrom toks i (toks.size + 1 + more) last values).run m =
      (Verb.valuesFrom toks i (toks.size + 1) last values).run m
  rows : ∀ (toks : List Token) (more : Nat),
    Formula.readRow (2 * toks.length + 1 + more) toks = Formula.read toks
  /-- A straight script that a fresh machine runs comes to its end, with every input and every set of
  files: its transitions lead to a final configuration.  From a number of statements on that is
  proportional to the length of the script, the bound on statements makes no difference. -/
  ends : ∀ (shared : Shared) (source : String), Machine.Fresh shared →
    let toks := ((Machine.start shared).prepare source).1
    let m := ((Machine.start shared).prepare source).2
    (∀ t ∈ toks, t.repeats = false) →
      ∃ out, (∀ steps, deepestCall * (toks.size + 1) ≤ steps → Machine.exec steps toks 0 m = out) ∧
        out.exhausted = false ∧
        Config.Reaches (.start toks m) ⟨out.endInvocation, .ended, []⟩

theorem forward_law : ForwardLaw where
  forward := fun run toks i m other => Statement.dispatch_forward toks i run other m
  arguments := fun toks more j read m =>
    Statement.arguments_more toks (toks.size + 1) more j read m (by omega)
  joined := fun toks i more j last text m =>
    Verb.joinedValues_more toks i (toks.size + 1) more j last text m (by omega)
  values := fun toks i more last values m =>
    Verb.valuesFrom_more toks i (toks.size + 1) more last values m (by omega)
  rows := fun toks more => (Formula.read_settles _ more toks (by omega)).2
  ends := by
    intro shared source fresh toks m straight
    have bounded := Machine.prepare_ends fresh source straight
    refine ⟨Machine.exec (deepestCall * (toks.size + 1)) toks 0 m, ?_, ?_, ?_⟩
    · intro steps enough
      obtain ⟨more, rfl⟩ := Nat.exists_eq_add_of_le enough
      exact Machine.exec_more _ more toks 0 m (bounded _ (Nat.le_refl _))
    · exact bounded _ (Nat.le_refl _)
    · exact Machine.run_reaches _ toks m (bounded _ (Nat.le_refl _))

theorem forward_law_dive :
    Machine.Fresh {} ∧ (∀ t ∈ scan dive, t.repeats = false) ∧
      ∃ out : Machine, Config.Reaches (.start (scan dive) ((Machine.start {}).prepare dive).2)
        ⟨out.endInvocation, .ended, []⟩ := by
  have straight : ∀ t ∈ scan dive, t.repeats = false := by decide +kernel
  rcases forward_law.ends {} dive ⟨rfl, rfl⟩ straight with ⟨out, -, -, reached⟩
  exact ⟨⟨rfl, rfl⟩, straight, out, reached⟩

end BigScript
