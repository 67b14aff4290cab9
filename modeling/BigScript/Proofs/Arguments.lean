import BigScript.Proofs.Activation
import BigScript.Proofs.Checked.Access
import BigScript.Proofs.Expression.Effect
import BigScript.Proofs.Naming
import BigScript.Proofs.Substitution

/-!
# Arguments and parameters

A call reads its arguments one value after another and leaves out the commas, so that a comma does
not say where an argument begins: what it is read as does.  Each form of an argument is one value,
except for a number with a sign in front of it.  The reader of values takes the sign for a value of
its own, so that such a number fills two parameters and moves the arguments behind it by one
(`signedArgument_shifts`).

`positional_law` therefore speaks of the values that are read.  The parameters are bound to them by
position, and where no argument has a sign they are the values of the arguments.
-/

namespace BigScript

open Checked (lt_of_symbol unfinished_of_kind)

namespace Bindings

variable {name value : String}

/-- Pairs without a name leave its value alone. -/
theorem valueOf?_foldl_absent (pairs : List (String × String)) (vars : Bindings)
    (absent : name ∉ pairs.map Prod.fst) :
    (pairs.foldl (fun vars (name, value) => vars.set name value) vars).valueOf? name =
      vars.valueOf? name := by
  induction pairs generalizing vars with
  | nil => rfl
  | cons pair rest ih =>
      rw [List.map_cons, List.mem_cons, not_or] at absent
      rw [List.foldl_cons, ih _ absent.2]
      exact vars.valueOf?_set_of_ne absent.1 _

theorem valueOf?_ofList_absent {pairs : List (String × String)}
    (absent : name ∉ pairs.map Prod.fst) : (ofList pairs).valueOf? name = none :=
  valueOf?_foldl_absent pairs {} absent

/-- The last pair with a name decides. -/
theorem valueOf?_ofList_last (front : List (String × String)) {behind : List (String × String)}
    (last : name ∉ behind.map Prod.fst) :
    (ofList (front ++ (name, value) :: behind)).valueOf? name = some value := by
  rw [ofList, List.foldl_append, List.foldl_cons, valueOf?_foldl_absent behind _ last]
  exact valueOf?_set_self _ name value

end Bindings

theorem Token.unfinished_of_symbol {t : Token} {symbol : Symbol}
    (stands : t.isSymbol symbol = true) : t.isFinish = false :=
  unfinished_of_kind stands fun same => Kind.noConfusion same

namespace TokenStream

variable {toks : TokenStream} {opener closer : Symbol} {j stop : Nat}

/-- What stands behind an opened bracket, up to the symbol that closes it: brackets inside are closed
in turn. -/
inductive Enclosed (toks : TokenStream) (opener closer : Symbol) : Nat → Nat → Prop where
  | close {j : Nat} (closes : (toks.peek j).isSymbol closer = true) :
      Enclosed toks opener closer j j
  | other {j stop : Nat} (inside : (toks.peek j).isFinish = false)
      (opens : (toks.peek j).isSymbol opener = false)
      (closes : (toks.peek j).isSymbol closer = false)
      (rest : Enclosed toks opener closer (j + 1) stop) : Enclosed toks opener closer j stop
  | nest {j mid stop : Nat} (opens : (toks.peek j).isSymbol opener = true)
      (inner : Enclosed toks opener closer (j + 1) mid)
      (rest : Enclosed toks opener closer (mid + 1) stop) : Enclosed toks opener closer j stop

namespace Enclosed

/-- What has neither of the two symbols in it is balanced. -/
theorem of_plain {j stop : Nat} (ahead : j ≤ stop)
    (plain : ∀ k, j ≤ k → k < stop → (toks.peek k).isFinish = false ∧
      (toks.peek k).isSymbol opener = false ∧ (toks.peek k).isSymbol closer = false)
    (closes : (toks.peek stop).isSymbol closer = true) : Enclosed toks opener closer j stop := by
  rcases Nat.eq_or_lt_of_le ahead with rfl | further
  · exact .close closes
  · rcases plain j (Nat.le_refl j) further with ⟨unfinished, apart, goesOn⟩
    refine .other unfinished apart goesOn (of_plain further (fun k behind => ?_) closes)
    exact plain k (Nat.le_of_succ_le behind)
termination_by stop - j

theorem closed (enclosed : Enclosed toks opener closer j stop) :
    (toks.peek stop).isSymbol closer = true := by
  induction enclosed with
  | close closes => exact closes
  | other _ _ _ _ ih => exact ih
  | nest _ _ _ _ ih => exact ih

theorem le (enclosed : Enclosed toks opener closer j stop) : j ≤ stop := by
  induction enclosed with
  | close => exact Nat.le_refl _
  | other _ _ _ _ ih => omega
  | nest _ _ _ inner rest => omega

/-- The search for the closing symbol goes past what is balanced. -/
theorem closing (enclosed : Enclosed toks opener closer j stop) (apart : opener ≠ closer)
    (depth : Nat) :
    toks.closing opener closer depth j =
      if depth = 0 then stop else toks.closing opener closer (depth - 1) (stop + 1) := by
  have unopened {j : Nat} (closes : (toks.peek j).isSymbol closer = true) :
      (toks.peek j).isSymbol opener = false := by
    rw [Token.isSymbol, beq_iff_eq] at closes
    rw [Token.isSymbol, closes, beq_eq_false_iff_ne]
    exact fun same => apart (Kind.symbol.inj same).symm
  induction enclosed generalizing depth with
  | close closes =>
      have inside := lt_of_symbol closes
      rw [TokenStream.closing, dif_pos inside, ← peek_of_lt inside,
        if_neg (Bool.eq_false_iff.mp (Token.unfinished_of_symbol closes)),
        if_neg (Bool.eq_false_iff.mp (unopened closes)), if_pos closes]
  | other unfinished opens closes _ ih =>
      have inside := lt_of_not_finish unfinished
      rw [TokenStream.closing, dif_pos inside, ← peek_of_lt inside,
        if_neg (Bool.eq_false_iff.mp unfinished), if_neg (Bool.eq_false_iff.mp opens),
        if_neg (Bool.eq_false_iff.mp closes), ih]
  | nest opens _ _ inner rest =>
      have inside := lt_of_symbol opens
      rw [TokenStream.closing, dif_pos inside, ← peek_of_lt inside,
        if_neg (Bool.eq_false_iff.mp (Token.unfinished_of_symbol opens)), if_pos opens, inner,
        if_neg (Nat.succ_ne_zero depth), Nat.add_sub_cancel, rest]

end Enclosed

end TokenStream

/-- An argument of a call. -/
inductive Argument where
  | number (x : Float)
  | negative (x : Float)
  | text (literal : String)
  | name (spelled : String)
  | braced (spelled : String)
  | dollar (spelled : String)
  | solve (row : List Token)
  | warp (parts : List Token)

namespace Argument

/-- Whether a sign stands in front of the argument. -/
def isSigned : Argument → Bool
  | .negative _ => true
  | _ => false

/-- The value that an argument stands for. -/
def value : Argument → Act String
  | .number x => return Number.format x
  | .negative x => return Number.format (-x)
  | .text literal => return (← get).interpolate literal
  | .name spelled => return (← get).getD spelled spelled
  | .braced spelled => return (← get).getD spelled spelled
  | .dollar spelled => return (← get).getD spelled ("$" ++ spelled)
  | .solve row => return Number.format (← Formula.evaluate row)
  | .warp parts => return (← get).interpolate (Text.trim (TokenStream.written parts))

/-- The values that are read for an argument: a sign is one of its own. -/
def read : Argument → Act (List String)
  | .negative x => return ["-", Number.format x]
  | argument => return [← argument.value]

/-- The values that are read for the arguments of a call, in order. -/
def readAll : List Argument → Act (List String)
  | [] => return []
  | argument :: rest => return (← argument.read) ++ (← readAll rest)

/-- An argument is written from one index up to another. -/
inductive Written (toks : TokenStream) : Argument → Nat → Nat → Prop where
  | number {j : Nat} {x : Float} (is : (toks.peek j).lexeme = .number x) :
      Written toks (.number x) j j
  | negative {j : Nat} {x : Float} (sign : (toks.peek j).lexeme = .symbol .minus)
      (is : (toks.peek (j + 1)).lexeme = .number x) : Written toks (.negative x) j (j + 1)
  | text {j : Nat} {literal : String} (is : (toks.peek j).lexeme = .text literal) :
      Written toks (.text literal) j j
  | name {j : Nat} {spelled : String} (is : (toks.peek j).lexeme = .name spelled) :
      Written toks (.name spelled) j j
  | braced {j : Nat} {spelled : String} (braced : toks.Braced j spelled) :
      Written toks (.braced spelled) j (j + 2)
  | dollar {j : Nat} {spelled : String} (sign : (toks.peek j).kind = .symbol .dollar)
      (is : (toks.peek (j + 1)).lexeme = .name spelled) : Written toks (.dollar spelled) j (j + 1)
  | solve {j stop : Nat} (word : (toks.peek j).kind = .word .solve)
      (opens : (toks.peek (j + 1)).isSymbol .leftBracket = true)
      (closes : toks.Enclosed .leftBracket .rightBracket (j + 2) stop) :
      Written toks (.solve (toks.slice (j + 2) stop)) j stop
  | warp {j stop : Nat} (opens : toks.opensWarp j = true)
      (closes : toks.Enclosed .leftParen .rightParen (j + 2) stop) :
      Written toks (.warp (toks.slice (j + 2) stop)) j stop

/-- Arguments stand from an index up to the parenthesis that closes their list, with commas between
them. -/
inductive Listed (toks : TokenStream) : List Argument → Nat → Nat → Prop where
  | none {j : Nat} (closes : (toks.peek j).isSymbol .rightParen = true) : Listed toks [] j j
  | last {argument : Argument} {j last : Nat} (written : argument.Written toks j last)
      (closes : (toks.peek (last + 1)).isSymbol .rightParen = true) :
      Listed toks [argument] j (last + 1)
  | more {first second : Argument} {rest : List Argument} {j last stop : Nat}
      (written : first.Written toks j last) (comma : (toks.peek (last + 1)).isMark ',' = true)
      (listed : Listed toks (second :: rest) (last + 2) stop) :
      Listed toks (first :: second :: rest) j stop

variable {toks : TokenStream} {argument : Argument} {j last stop : Nat} {m : Machine}

/-- What an argument can begin with. -/
def opens : List Kind :=
  [.number, .text, .name, .symbol .minus, .symbol .leftBrace, .symbol .dollar, .word .solve,
    .word .warp]

theorem opens_of_warp (opensWarp : toks.opensWarp j = true) :
    (toks.peek j).kind = .name ∨ (toks.peek j).kind = .word .warp := by
  rw [TokenStream.opensWarp, Bool.and_eq_true] at opensWarp
  rw [Token.kind]
  cases is : (toks.peek j).lexeme with
  | name => exact .inl rfl
  | word keyword =>
      rw [is] at opensWarp
      cases keyword <;> first | exact .inr rfl | cases opensWarp.2
  | _ => rw [is] at opensWarp; cases opensWarp.2

theorem Written.begins (written : argument.Written toks j last) : (toks.peek j).kind ∈ opens := by
  have among {kind : Kind} (stands : (toks.peek j).kind = kind) (known : kind ∈ opens) :
      (toks.peek j).kind ∈ opens := stands ▸ known
  cases written with
  | number is => exact among (show _ = Kind.number from congrArg Lexeme.kind is) (by decide)
  | negative sign =>
      exact among (show _ = Kind.symbol .minus from congrArg Lexeme.kind sign) (by decide)
  | text is => exact among (show _ = Kind.text from congrArg Lexeme.kind is) (by decide)
  | name is => exact among (show _ = Kind.name from congrArg Lexeme.kind is) (by decide)
  | braced braced => exact among (eq_of_beq braced.opens) (by decide)
  | dollar sign => exact among sign (by decide)
  | solve word => exact among word (by decide)
  | warp opensWarp =>
      rcases opens_of_warp opensWarp with name | word
      · exact among name (by decide)
      · exact among word (by decide)

theorem Written.le (written : argument.Written toks j last) : j ≤ last := by
  cases written with
  | solve _ _ closes => exact Nat.le_of_add_right_le closes.le
  | warp _ closes => exact Nat.le_of_add_right_le closes.le
  | _ => omega

/-- Nothing that an argument begins with ends the list, separates arguments or is skipped. -/
theorem apart_of_opens {t : Token} (begins : t.kind ∈ opens) :
    (t.isFinish || t.isSymbol .rightParen) = false ∧ t.isMark ',' = false ∧
      (t.isSymbol .at || t.isWord .atWord) = false := by
  have marked : t.kind ≠ .mark → t.isMark ',' = false := by
    intro other
    rw [Token.isMark]
    split
    · next is => exact absurd (congrArg Lexeme.kind is) other
    · rfl
  simp only [opens, List.mem_cons, List.not_mem_nil, or_false] at begins
  rcases begins with is | is | is | is | is | is | is | is <;>
    exact ⟨by rw [Token.isFinish, Token.isSymbol, is]; rfl, marked (by rw [is]; decide),
      by rw [Token.isSymbol, Token.isWord, is]; rfl⟩

/-! ## Reading one argument -/

theorem skipAts_of_opens (begins : (toks.peek j).kind ∈ opens) : toks.skipAts j = j :=
  TokenStream.skipAts_of_apart (apart_of_opens begins).2.2

/-- The symbols and words with which a value of several tokens begins. -/
def longForms : List Kind :=
  [.word .len, .symbol .dollar, .symbol .leftBrace, .word .solve]

/-- A token by itself, but for a text, is read as what it stands for. -/
theorem valueAt_single (short : (toks.peek j).kind ∉ longForms) (other : (toks.peek j).kind ≠ .text)
    (built : toks.opensWarp j = false) (m : Machine) :
    (Operand.valueAt toks j).run m = ((m.tokenValue (toks.peek j), j), m) := by
  simp only [longForms, List.mem_cons, List.not_mem_nil, or_false, not_or] at short
  rcases short with ⟨length, dollar, brace, solve⟩
  unfold Operand.valueAt
  rw [Act.run_bind, Act.run_get]
  dsimp only
  rw [Token.isWord, beq_eq_false_iff_ne.mpr length, Token.isSymbol, beq_eq_false_iff_ne.mpr dollar,
    Token.isSymbol, beq_eq_false_iff_ne.mpr brace, built, TokenStream.opensSolve, Token.isWord,
    beq_eq_false_iff_ne.mpr solve]
  cases is : (toks.peek j).lexeme with
  | text => exact absurd (congrArg Lexeme.kind is) other
  | _ => rfl

/-- Behind what is balanced stands the index that a value in brackets ends with. -/
theorem lastOf_enclosed {opener closer : Symbol} (closes : toks.Enclosed opener closer j stop)
    (apart : opener ≠ closer) : toks.lastOf (toks.closing opener closer 0 j) = stop := by
  rw [closes.closing apart 0, if_pos rfl, TokenStream.lastOf,
    if_neg (Bool.eq_false_iff.mp (Token.unfinished_of_symbol closes.closed))]

/-- A built text is what its tokens are written as, with the references replaced. -/
theorem warp_run (closes : toks.Enclosed .leftParen .rightParen (j + 2) stop) (m : Machine) :
    (Operand.warp toks j).run m =
      ((m.interpolate (Text.trim (TokenStream.written (toks.slice (j + 2) stop))), stop), m) := by
  have ends := closes.closing (by decide) 0
  have last := lastOf_enclosed closes (by decide)
  unfold Operand.warp
  dsimp only
  rw [last, ends]
  rfl

theorem valueAt_of_opensWarp (opensWarp : toks.opensWarp j = true) (m : Machine) :
    (Operand.valueAt toks j).run m = (Operand.warp toks j).run m := by
  have short : (toks.peek j).kind ∉ longForms := by
    rcases opens_of_warp opensWarp with is | is <;> exact is ▸ by decide
  simp only [longForms, List.mem_cons, List.not_mem_nil, or_false, not_or] at short
  rcases short with ⟨length, dollar, brace, -⟩
  unfold Operand.valueAt
  rw [Act.run_bind, Act.run_get]
  dsimp only
  rw [Token.isWord, beq_eq_false_iff_ne.mpr length, Token.isSymbol,
    beq_eq_false_iff_ne.mpr dollar, Token.isSymbol, beq_eq_false_iff_ne.mpr brace, opensWarp]
  rfl

theorem Written.valueAt_run (written : argument.Written toks j last)
    (unsigned : argument.isSigned = false)
    (follows : (toks.peek (last + 1)).isSymbol .leftParen = false) (m : Machine) :
    (Operand.valueAt toks j).run m =
      (((argument.value.run m).1, last), (argument.value.run m).2) := by
  cases written with
  | number is =>
      have kind : (toks.peek j).kind = .number := congrArg Lexeme.kind is
      have unbuilt : toks.opensWarp j = false := by
        rw [TokenStream.opensWarp, follows]
        rfl
      rw [valueAt_single (kind ▸ by decide) (kind ▸ by decide) unbuilt, Machine.tokenValue, is]
      rfl
  | negative => cases unsigned
  | text is => exact Operand.valueAt_literal is m
  | name is =>
      have kind : (toks.peek j).kind = .name := congrArg Lexeme.kind is
      have unbuilt : toks.opensWarp j = false := by
        rw [TokenStream.opensWarp, follows]
        rfl
      rw [valueAt_single (kind ▸ by decide) (kind ▸ by decide) unbuilt, Machine.tokenValue, is]
      rfl
  | braced braced =>
      have opens : (toks.peek j).kind = .symbol .leftBrace := eq_of_beq braced.opens
      unfold Operand.valueAt
      rw [Act.run_bind, Act.run_get]
      dsimp only
      rw [Token.isWord, opens, Token.isSymbol, opens, Token.isSymbol, opens, braced.closes,
        braced.bracedName]
      rfl
  | dollar sign is =>
      have named : (toks.peek (j + 1)).kind = .name := congrArg Lexeme.kind is
      unfold Operand.valueAt
      rw [Act.run_bind, Act.run_get]
      dsimp only
      rw [Token.isWord, sign, Token.isSymbol, sign, named, Token.content, is]
      rfl
  | solve word opens closes =>
      have unbuilt : toks.opensWarp j = false := by
        rw [Token.isSymbol, beq_iff_eq] at opens
        rw [TokenStream.opensWarp, Token.isSymbol, opens]
        rfl
      have solved : toks.opensSolve j = true := by
        rw [TokenStream.opensSolve, Token.isWord, word, opens]
        rfl
      have stop := closes.closing (by decide) 0
      have ends := lastOf_enclosed closes (by decide)
      unfold Operand.valueAt
      rw [Act.run_bind, Act.run_get]
      dsimp only
      rw [Token.isWord, word, Token.isSymbol, word, Token.isSymbol, word, unbuilt, solved]
      unfold Operand.solve
      dsimp only
      rw [ends, stop]
      rfl
  | warp opensWarp closes =>
      rw [valueAt_of_opensWarp opensWarp, warp_run closes]
      rfl

theorem Written.value_run (written : argument.Written toks j last)
    (unsigned : argument.isSigned = false)
    (follows : (toks.peek (last + 1)).isSymbol .leftParen = false) (m : Machine) :
    (Operand.value toks j).run m =
      (((argument.value.run m).1, last), (argument.value.run m).2) := by
  rw [Operand.value, skipAts_of_opens written.begins]
  exact written.valueAt_run unsigned follows m

/-! ## Reading a list of arguments -/

section Lists

open Statement (arguments)

variable {steps : Nat} {before : List String}

/-- One value of a list is read. -/
theorem arguments_value (begins : (toks.peek j).kind ∈ opens) (m : Machine) :
    (arguments toks (steps + 1) j before).run m =
      let read := (Operand.value toks j).run m
      (arguments toks steps (read.1.2 + 1) (read.1.1 :: before)).run read.2 := by
  rcases apart_of_opens begins with ⟨inside, separate, -⟩
  rw [arguments]
  dsimp only
  rw [if_neg (Bool.eq_false_iff.mp inside), if_neg (Bool.eq_false_iff.mp separate), Act.run_bind]

theorem arguments_comma (comma : (toks.peek j).isMark ',' = true) (m : Machine) :
    (arguments toks (steps + 1) j before).run m = (arguments toks steps (j + 1) before).run m := by
  have kind : (toks.peek j).kind = .mark := by
    rw [Token.isMark] at comma
    split at comma
    · next is => exact congrArg Lexeme.kind is
    · cases comma
  have inside : ((toks.peek j).isFinish || (toks.peek j).isSymbol .rightParen) = false := by
    rw [Token.isFinish, Token.isSymbol, kind]
    rfl
  rw [arguments]
  dsimp only
  rw [if_neg (Bool.eq_false_iff.mp inside), if_pos comma]

theorem arguments_end (closes : (toks.peek j).isSymbol .rightParen = true) (m : Machine) :
    (arguments toks (steps + 1) j before).run m = ((before.reverse, j), m) := by
  rw [arguments]
  dsimp only
  rw [closes, Bool.or_true, if_pos rfl]
  rfl

theorem read_of_unsigned (unsigned : argument.isSigned = false) (m : Machine) :
    argument.read.run m = ([(argument.value.run m).1], (argument.value.run m).2) := by
  cases argument with
  | negative => cases unsigned
  | _ => rfl

/-- What is written for an argument is read as its values; every step goes on by a token or more. -/
theorem Written.arguments_run (written : argument.Written toks j last)
    (follows : (toks.peek (last + 1)).isSymbol .leftParen = false) (enough : last < steps + j)
    (before : List String) (m : Machine) :
    ∃ fewer, steps + j ≤ fewer + (last + 1) ∧
      (arguments toks steps j before).run m =
        (arguments toks fewer (last + 1) ((argument.read.run m).1.reverse ++ before)).run
          (argument.read.run m).2 := by
  have order := written.le
  obtain ⟨steps, rfl⟩ : ∃ fewer, steps = fewer + 1 := ⟨steps - 1, by omega⟩
  by_cases unsigned : argument.isSigned = false
  · refine ⟨steps, by omega, ?_⟩
    rw [arguments_value written.begins, written.value_run unsigned follows,
      read_of_unsigned unsigned]
    rfl
  · cases written with
    | negative sign is =>
        obtain ⟨steps, rfl⟩ : ∃ fewer, steps = fewer + 1 := ⟨steps - 1, by omega⟩
        have number : Written toks (.number _) (j + 1) (j + 1) := .number is
        have kind : (toks.peek j).kind = .symbol .minus := congrArg Lexeme.kind sign
        have begins : (toks.peek j).kind ∈ opens := kind ▸ by decide
        have unbuilt : toks.opensWarp j = false := by
          have named : (toks.peek (j + 1)).kind = .number := congrArg Lexeme.kind is
          rw [TokenStream.opensWarp, Token.isSymbol, named]
          rfl
        have signRead : (Operand.value toks j).run m = (("-", j), m) := by
          rw [Operand.value, skipAts_of_opens begins,
            valueAt_single (kind ▸ by decide) (kind ▸ by decide) unbuilt, Machine.tokenValue, sign]
          rfl
        refine ⟨steps, by omega, ?_⟩
        rw [arguments_value begins, signRead]
        dsimp only
        rw [arguments_value number.begins, number.value_run rfl follows]
        rfl
    | _ => exact absurd rfl unsigned

theorem unopened_of_closes (closes : (toks.peek j).isSymbol .rightParen = true) :
    (toks.peek j).isSymbol .leftParen = false := by
  rw [Token.isSymbol, beq_iff_eq] at closes
  rw [Token.isSymbol, closes]
  rfl

theorem unopened_of_comma (comma : (toks.peek j).isMark ',' = true) :
    (toks.peek j).isSymbol .leftParen = false := by
  rw [Token.isMark] at comma
  split at comma
  · next is =>
      rw [Token.isSymbol, Token.kind, is]
      rfl
  · cases comma

theorem Listed.le {all : List Argument} (listed : Listed toks all j stop) : j ≤ stop := by
  induction listed with
  | none => exact Nat.le_refl _
  | last written => exact Nat.le_succ_of_le written.le
  | more written _ _ ih =>
      have order := written.le
      omega

theorem Listed.closed {all : List Argument} (listed : Listed toks all j stop) :
    (toks.peek stop).isSymbol .rightParen = true := by
  induction listed with
  | none closes => exact closes
  | last _ closes => exact closes
  | more _ _ _ ih => exact ih

theorem Listed.arguments_run {all : List Argument} (listed : Listed toks all j stop)
    (enough : stop < steps + j) (before : List String) (m : Machine) :
    (arguments toks steps j before).run m =
      ((before.reverse ++ ((readAll all).run m).1, stop), ((readAll all).run m).2) := by
  induction listed generalizing steps before m with
  | none closes =>
      obtain ⟨steps, rfl⟩ : ∃ fewer, steps = fewer + 1 := ⟨steps - 1, by omega⟩
      rw [arguments_end closes, readAll]
      exact congrArg (fun read => ((read, _), m)) (List.append_nil _).symm
  | @last argument j last written closes =>
      have inside := written.le
      obtain ⟨fewer, left, read⟩ :=
        written.arguments_run (unopened_of_closes closes)
          (show last < steps + j by omega) before m
      obtain ⟨fewer, rfl⟩ : ∃ less, fewer = less + 1 := ⟨fewer - 1, by omega⟩
      rw [read, arguments_end closes, List.reverse_append, List.reverse_reverse]
      simp only [readAll, Act.run_bind, Act.run_pure, List.append_nil]
  | @more first second rest j last stop written comma listed ih =>
      have inside := written.le
      have further := listed.le
      obtain ⟨fewer, left, read⟩ :=
        written.arguments_run (unopened_of_comma comma)
          (show last < steps + j by omega) before m
      obtain ⟨fewer, rfl⟩ : ∃ less, fewer = less + 1 := ⟨fewer - 1, by omega⟩
      rw [read, arguments_comma comma, ih (by omega), List.reverse_append, List.reverse_reverse,
        List.append_assoc]
      simp only [readAll, Act.run_bind, Act.run_pure]

end Lists

/-! ## Computing arguments -/

theorem value_computes (argument : Argument) : Computes argument.value := by
  cases argument with
  | number => exact .pure _
  | negative => exact .pure _
  | text => exact .look fun _ => .pure _
  | name => exact .look fun _ => .pure _
  | braced => exact .look fun _ => .pure _
  | dollar => exact .look fun _ => .pure _
  | solve row => exact (Formula.evaluate_computes row).bind fun _ => .pure _
  | warp => exact .look fun _ => .pure _

theorem read_computes (argument : Argument) : Computes argument.read := by
  unfold read
  split
  · exact .pure _
  · exact (value_computes argument).bind fun _ => .pure _

theorem readAll_computes : (all : List Argument) → Computes (readAll all)
  | [] => .pure _
  | argument :: rest =>
      (read_computes argument).bind fun _ => (readAll_computes rest).bind fun _ => .pure _

/-- Without signs there is one value for each argument, its own. -/
theorem readAll_of_unsigned {all : List Argument}
    (unsigned : ∀ argument ∈ all, argument.isSigned = false) : readAll all = all.mapM value := by
  induction all with
  | nil => rfl
  | cons argument rest ih =>
      have single : argument.read = argument.value >>= fun value => pure [value] := by
        have plain := unsigned argument (List.mem_cons_self ..)
        cases argument with
        | negative => cases plain
        | _ => rfl
      rw [readAll, ih fun other member => unsigned other (List.mem_cons_of_mem _ member),
        List.mapM_cons, single]
      simp only [bind_assoc, pure_bind, List.singleton_append]

end Argument

/-! ## The frame of a call -/

/-- What the body of a function finds: a frame of its own in front of the local variables of the
caller, in which the parameters are bound by position, and to nothing where there are fewer values.
A parameter that is repeated has the value of its last place. -/
structure Receives (procedure : Procedure) (values : List String) (before entry : Machine) :
    Prop where
  frame : entry.locals = Statement.callFrame procedure.params values :: before.locals
  bound : ∀ k param, procedure.params[k]? = some param → param ∉ procedure.params.drop (k + 1) →
    (Statement.callFrame procedure.params values).valueOf? param =
      some (values.getD k Value.nothing)
  others : ∀ name, name ∉ procedure.params →
    (Statement.callFrame procedure.params values).valueOf? name = none

namespace Statement

theorem mapIdx_fst (params : List String) (args : Nat → String) :
    (params.mapIdx fun k param => (param, args k)).map Prod.fst = params := by
  refine List.ext_getElem (by rw [List.length_map, List.length_mapIdx]) fun k _ _ => ?_
  rw [List.getElem_map, List.getElem_mapIdx]

theorem callFrame_bound {params args : List String} {k : Nat} {param : String}
    (stands : params[k]? = some param) (last : param ∉ params.drop (k + 1)) :
    (callFrame params args).valueOf? param = some (args.getD k Value.nothing) := by
  obtain ⟨inside, here⟩ := List.getElem?_eq_some_iff.mp stands
  have split : params = params.take k ++ param :: params.drop (k + 1) := by
    rw [← here, ← List.drop_eq_getElem_cons inside, List.take_append_drop]
  have place : (params.take k).length = k := List.length_take_of_le (Nat.le_of_lt inside)
  unfold callFrame
  generalize params.take k = front at split place
  generalize params.drop (k + 1) = behind at split last
  subst split
  rw [List.mapIdx_append, List.mapIdx_cons, Nat.zero_add, place]
  refine Bindings.valueOf?_ofList_last _ ?_
  rwa [mapIdx_fst]

theorem callFrame_others {params args : List String} {name : String} (absent : name ∉ params) :
    (callFrame params args).valueOf? name = none := by
  refine Bindings.valueOf?_ofList_absent ?_
  rwa [mapIdx_fst]

theorem entered_receives (procedure : Procedure) (values : List String) (line column : Nat)
    {before m : Machine} (frames : m.locals = before.locals) :
    Receives procedure values before (m.entered procedure values line column) where
  frame := frames ▸ rfl
  bound := fun _ _ => callFrame_bound
  others := fun _ => callFrame_others

end Statement

/-- A call of a function that is there is written at an index, where calls are not too deep. -/
structure Calls (toks : TokenStream) (i : Nat) (all : List Argument) (procedure : Procedure)
    (m : Machine) : Prop where
  head : (toks.peek i).kind = .word .run
  here : (toks.peek (i + 1)).isWord .sql = false ∧ (toks.peek (i + 1)).isWord .background = false
  opens : (toks.peek (i + 2)).isSymbol .leftParen = true
  listed : ∃ stop, Argument.Listed toks all (i + 3) stop
  found : m.procedure? (toks.peek (i + 1)).rawName = some procedure
  shallow : m.depth + 1 ≤ deepestCall

namespace Statement

variable {toks : TokenStream} {i : Nat} {all : List Argument} {procedure : Procedure} {m : Machine}

theorem callArguments_run {stop : Nat} (opens : (toks.peek (i + 1)).isSymbol .leftParen = true)
    (listed : Argument.Listed toks all (i + 2) stop) :
    (callArguments toks i).run m =
      ((((Argument.readAll all).run m).1, toks.lastOf stop), ((Argument.readAll all).run m).2) := by
  have inside := lt_of_symbol listed.closed
  have read := listed.arguments_run (show stop < toks.size + 1 + (i + 2) by omega) [] m
  unfold callArguments
  rw [if_pos opens, Act.run_bind, read]
  rfl

/-- The body of a function begins with its parameters bound to the values that are read for the
arguments, and these are the values of the arguments where none of them has a sign. -/
theorem positional_law (calls : Calls toks i all procedure m) :
    ∃ nested, nested? toks i m = some nested ∧ nested.inner = procedure.body ∧
      Receives procedure ((Argument.readAll all).run m).1 m nested.entry ∧
        ((∀ argument ∈ all, argument.isSigned = false) →
          ((Argument.readAll all).run m).1 = ((all.mapM Argument.value).run m).1) := by
  rcases calls.listed with ⟨stop, listed⟩
  have read := callArguments_run (m := m) calls.opens listed
  have unbound := (Argument.readAll_computes all).unbound m
  have found : ((Argument.readAll all).run m).2.procedure? (toks.peek (i + 1)).rawName =
      some procedure := by
    rw [Machine.procedure?, unbound.procedures]
    exact calls.found
  have shallow : ¬ ((Argument.readAll all).run m).2.depth + 1 > deepestCall := by
    rw [unbound.rest]
    exact Nat.not_lt.mpr calls.shallow
  have nested : nested? toks i m = some (.ofCall toks (toks.lastOf stop) (toks.peek i) procedure
      ((Argument.readAll all).run m).1 ((Argument.readAll all).run m).2) := by
    unfold nested?
    rw [calls.head]
    dsimp only
    rw [calls.here.1, calls.here.2]
    unfold callNested?
    rw [read]
    dsimp only
    rw [found]
    exact if_neg shallow
  refine ⟨_, nested, rfl, entered_receives procedure _ _ _ unbound.locals, fun unsigned => ?_⟩
  rw [Argument.readAll_of_unsigned unsigned]

end Statement

/-- Two arguments for three parameters: the third one is bound to nothing. -/
theorem positional_law_missingArgument :
    let toks := scan "run f(\x7bX\x7d, S[4 / 2])"
    let procedure : Procedure := { name := "f", params := ["A", "B", "C"], body := #[] }
    let m := ((Machine.start {}).setGlobal "X" "7").define procedure
    let all : List Argument := [.braced "X", .solve (toks.slice 9 12)]
    Calls toks 0 all procedure m ∧
      ∃ nested frame, Statement.nested? toks 0 m = some nested ∧ nested.entry.locals = [frame] ∧
        frame.valueOf? "A" = some "7" ∧ frame.valueOf? "B" = some "2" ∧
          frame.valueOf? "C" = some "nothing" := by
  intro toks procedure m all
  have ⟨⟨head, here, named, opens⟩, braced, comma, ⟨word, bracket⟩, inside, close, stop⟩ :
      ((toks.peek 0).kind = .word .run ∧
        ((toks.peek 1).isWord .sql = false ∧ (toks.peek 1).isWord .background = false) ∧
          (toks.peek 1).rawName = "f" ∧ (toks.peek 2).isSymbol .leftParen = true) ∧
        toks.Braced 3 "X" ∧ (toks.peek 6).isMark ',' = true ∧
        ((toks.peek 7).kind = .word .solve ∧ (toks.peek 8).isSymbol .leftBracket = true) ∧
        (∀ j < 12, 9 ≤ j → (toks.peek j).isFinish = false ∧
          (toks.peek j).isSymbol .leftBracket = false ∧
            (toks.peek j).isSymbol .rightBracket = false) ∧
        (toks.peek 12).isSymbol .rightBracket = true ∧
          (toks.peek 13).isSymbol .rightParen = true := by
    decide +kernel
  have enclosed : toks.Enclosed .leftBracket .rightBracket 9 12 := by
    have other (j : Nat) (low : 9 ≤ j) (high : j < 12)
        (rest : toks.Enclosed .leftBracket .rightBracket (j + 1) 12) :
        toks.Enclosed .leftBracket .rightBracket j 12 := by
      rcases inside j high low with ⟨unfinished, unopened, unclosed⟩
      exact .other unfinished unopened unclosed rest
    exact other 9 (by decide) (by decide) <| other 10 (by decide) (by decide) <|
      other 11 (by decide) (by decide) <| .close close
  have listed : Argument.Listed toks all 3 13 :=
    .more (.braced braced) comma (.last (.solve word bracket enclosed) stop)
  have found : m.procedure? (toks.peek 1).rawName = some procedure := by
    rw [named]
    rfl
  have calls : Calls toks 0 all procedure m :=
    ⟨head, here, opens, ⟨13, listed⟩, found, by decide⟩
  have values : ((Argument.readAll all).run m).1 = ["7", "2"] := by decide +kernel
  obtain ⟨nested, runs, -, receives, -⟩ := Statement.positional_law calls
  rw [values] at receives
  exact ⟨calls, nested, _, runs, receives.frame, receives.bound 0 "A" rfl (by decide),
    receives.bound 1 "B" rfl (by decide), receives.bound 2 "C" rfl (by decide)⟩

/-- A call with a negative number in front of another one. -/
def signedArgument : String :=
  "start doing f(a, b)\n    print a\n    print b\nend doing\nrun f(-5, 2)"

/-- The sign is the first value and the number the second; the last argument is not passed. -/
theorem signedArgument_shifts :
    let ran := Machine.runSource signedArgument (.start {})
    ran.1.isNone = true ∧ ran.2.output = "-\n5\n" := by
  decide +kernel

end BigScript
