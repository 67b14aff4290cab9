import BigScript.Proofs.Move
import BigScript.Proofs.WholeNumber
import BigScript.Token.Scan

/-!
# Loops with a limit

A loop `start loop .r.N` with a bare `keep` counts its turns.  The count is raised at the `keep` and
compared with one added again, so the loop ends one turn before its limit, but not before its first.

`capped_loop` says so of every body whose turns come to the `keep` with the loops open that were open
at their beginning.  `Turns` counts the turns of a walk, by the times it comes to the `keep`.
-/

namespace BigScript

open Statement

/-- A token that was read from the decimal digits of a whole number. -/
def Token.Numeral (t : Token) (n : Nat) : Prop :=
  ∃ digits : List Char, digits ≠ [] ∧ (∀ c ∈ digits, c.isDigit = true) ∧
    Nat.ofDigitChars 10 digits 0 = n ∧
      t.lexeme = .number ((Number.read (String.ofList digits)).value?.getD 0)

/-- Whether a token bears the number that was read, bit for bit. -/
def Token.bears (t : Token) (read : Number.Reading) : Bool :=
  match t.lexeme with
  | .number x => x.toBits == (read.value?.getD 0).toBits
  | _ => false

theorem Token.lexeme_of_bears {t : Token} {read : Number.Reading} (bears : t.bears read = true) :
    t.lexeme = .number (read.value?.getD 0) := by
  unfold Token.bears at bears
  split at bears
  · rename_i x lexeme
    rw [lexeme, Float.toBits_inj.mp (eq_of_beq bears)]
  · cases bears

/-- A number that is written with digits alone is scanned as such a token. -/
theorem Scan.readNumber_digits {c : Char} {cs rest : List Char}
    (digits : ∀ d ∈ c :: cs, d.isDigit = true)
    (apart : ∀ d ∈ rest.head?, isNumberChar d = false ∧ d ≠ 'x' ∧ d ≠ 'X') :
    readNumber c (cs ++ rest) =
      ⟨.number ((Number.read (String.ofList (c :: cs))).value?.getD 0), cs.length, 0⟩ := by
  have inner : ∀ d ∈ cs, isNumberChar d = true := by
    intro d member
    unfold isNumberChar
    rw [Number.between_of_digit (digits d (List.mem_cons_of_mem c member)), Bool.true_or]
  have run : (cs ++ rest).takeWhile isNumberChar = cs := by
    rw [List.takeWhile_append_of_pos inner]
    cases rest with
    | nil => exact List.append_nil cs
    | cons d rest =>
        rw [List.takeWhile_cons_of_neg (Bool.eq_false_iff.mp (apart d rfl).1), List.append_nil]
  unfold readNumber
  dsimp only
  rw [run, List.drop_left]
  cases rest with
  | nil => rfl
  | cons d rest =>
      dsimp only
      rw [if_neg]
      rw [Bool.or_eq_true, beq_iff_eq, beq_iff_eq]
      exact not_or.mpr (apart d rfl).2

/-- A loop with an indented body can be repeated. -/
theorem openedLoop_valid {toks : TokenStream} {head : Nat}
    (unfinished : (toks.peek (toks.lineEnd head + 1)).isFinish = false)
    (indented : (toks.peek head).column < (toks.peek (toks.lineEnd head + 1)).column) (limit : Int)
    (walk : Option Walk) : (openedLoop toks head limit walk).valid = true := by
  change (!(toks.peek (toks.lineEnd head + 1)).isFinish && decide _) = true
  rw [unfinished, Bool.not_false, Bool.true_and, decide_eq_true_eq]
  exact indented

/-- A `keep` is carried out, and the walk goes on where it leaves off. -/
theorem Stride.keeps {toks : TokenStream} {i : Nat} {m ready : Machine}
    (keeps : (toks.peek i).isWord .keep = true) (arrived : m.arrive toks i = .ready ready) :
    Stride toks (i, m) (((keep toks i).run ready).1 + 1, ((keep toks i).run ready).2) := by
  have kind : (toks.peek i).kind = .word .keep := eq_of_beq keeps
  have jumps : (toks.kindAt i).jumps = true := by
    rw [TokenStream.kindAt, kind]
    rfl
  have stride := Stride.alone arrived (nested?_jumps jumps)
  rw [dispatch_jumps jumps, direct, kind] at stride
  exact stride

/-- A bare `keep` raises the count of its loop, and goes back while that is below the limit. -/
theorem Statement.keep_counted {toks : TokenStream} {i : Nat} {m : Machine} {frame : LoopFrame}
    {rest : List LoopFrame} (open_ : m.loops = frame :: rest) (valid : frame.valid = true)
    (counted : frame.walk = none) (bare : toks.slice (i + 1) (toks.lineEnd i + 1) = []) :
    (keep toks i).run m =
      if frame.limit > 0 ∧ frame.limit ≤ ((frame.count + 2 : Nat) : Int) then
        (toks.lineEnd i, { m with loops := rest })
      else
        (frame.resume - 1, { m with loops := { frame with count := frame.count + 1 } :: rest }) := by
  unfold keep
  rw [Act.run_bind, Act.run_get]
  dsimp only
  rw [open_]
  dsimp only
  rw [Act.run_bind, Act.run_modify, valid, counted, bare]
  dsimp only
  by_cases last : frame.limit > 0 ∧ frame.limit ≤ ((frame.count + 2 : Nat) : Int)
  · rw [if_pos last, if_neg (by decide), if_pos]
    · rfl
    · rw [Bool.and_eq_true, decide_eq_true_eq, decide_eq_true_eq]
      exact ⟨last.1, by have := last.2; omega⟩
  · rw [if_neg last, if_neg (by decide), if_neg]
    · rfl
    · rw [Bool.and_eq_true, decide_eq_true_eq, decide_eq_true_eq]
      exact fun both => last ⟨both.1, by have := both.2; omega⟩

namespace TokenStream

variable {toks : TokenStream} {head close n : Nat} {m ready after : Machine}

/-- A loop with a limit written in digits, an indented body and a bare `keep`. -/
structure Capped (toks : TokenStream) (head close n : Nat) : Prop where
  opened : toks.opensLoop head = true
  line : (toks.peek (optionsAt toks head)).line = (toks.peek head).line
  first : (toks.peek (optionsAt toks head)).isSymbol .dot = true
  mark : (toks.peek (optionsAt toks head + 1)).isName "r" = true
  second : (toks.peek (optionsAt toks head + 2)).isSymbol .dot = true
  numeral : (toks.peek (optionsAt toks head + 3)).Numeral n
  alone : (toks.peek (optionsAt toks head + 4)).line ≠ (toks.peek head).line
  unfinished : (toks.peek (toks.lineEnd head + 1)).isFinish = false
  indented : (toks.peek head).column < (toks.peek (toks.lineEnd head + 1)).column
  below : toks.lineEnd head < close
  keeps : (toks.peek close).isWord .keep = true
  bare : toks.lineEnd close = close

/-- The loop of a header with a limit, after some turns. -/
def countedLoop (toks : TokenStream) (head n count : Nat) : LoopFrame :=
  { openedLoop toks head n none with count }

/-- What a header with a limit does. -/
def countedEntry (toks : TokenStream) (head n : Nat) (m : Machine) : Spot :=
  (toks.lineEnd head + 1, { m with loops := countedLoop toks head n 0 :: m.loops })

namespace Capped

variable (capped : toks.Capped head close n)
include capped

theorem options (small : n ≤ Number.twoTo 53) (m : Machine) :
    (loopOptions toks head (optionsAt toks head)).run m = (((n : Int), (none : Option Walk)), m) := by
  rcases capped.numeral with ⟨digits, nonempty, all, value, lexeme⟩
  have read : Number.toInt64 (m.tokenNumber (toks.peek (optionsAt toks head + 3))) = n := by
    unfold Machine.tokenNumber
    rw [lexeme]
    exact value ▸ Number.read_digits all nonempty (value ▸ small)
  have limit : (loopLimit toks (toks.peek head).line (optionsAt toks head)).run m =
      (((n : Int), optionsAt toks head + 4), m) := by
    unfold loopLimit
    dsimp only
    rw [capped.line, beq_self_eq_true, capped.first, capped.mark, capped.second, Bool.and_self,
      Bool.and_self, Bool.and_self, if_pos rfl, Act.run_bind, Act.run_get]
    change ((Number.toInt64 (m.tokenNumber _), optionsAt toks head + 4), m) = _
    rw [read]
  have other : ((toks.peek (optionsAt toks head + 4)).line == (toks.peek head).line) = false :=
    beq_eq_false_iff_ne.mpr capped.alone
  unfold loopOptions
  rw [Act.run_bind, limit]
  dsimp only
  unfold loopWalk?
  dsimp only
  rw [other, Bool.false_and, if_neg Bool.false_ne_true]
  rfl

theorem header (small : n ≤ Number.twoTo 53) (arrived : m.arrive toks head = .ready ready) :
    Stride toks (head, m) (toks.countedEntry head n ready) := by
  have stride := Stride.alone arrived (nested?_jumps (jumps_of_opensLoop capped.opened))
  rw [dispatch_header capped.opened, openLoop_run, capped.options small] at stride
  exact stride

/-- What the `keep` of a loop with a limit does: it goes back, or leaves the loop. -/
theorem keep {count : Nat} {outer : List LoopFrame} (positive : 0 < n)
    (arrived : m.arrive toks close = .ready ready)
    (open_ : m.loops = toks.countedLoop head n count :: outer) :
    Stride toks (close, m)
      (if n ≤ count + 2 then (close + 1, { ready with loops := outer })
      else
        (toks.lineEnd head + 1,
          { ready with loops := toks.countedLoop head n (count + 1) :: outer })) := by
  have open_ : ready.loops = toks.countedLoop head n count :: outer :=
    (Config.ready_loops arrived).trans open_
  have valid : (toks.countedLoop head n count).valid = true :=
    openedLoop_valid capped.unfinished capped.indented n none
  have condition : toks.slice (close + 1) (toks.lineEnd close + 1) = [] := by
    rw [capped.bare, TokenStream.slice_self]
  have stride := Stride.keeps capped.keeps arrived
  rw [keep_counted open_ valid rfl condition, capped.bare] at stride
  split
  · rename_i last
    rwa [if_pos] at stride
    exact ⟨Int.natCast_pos.mpr positive, Int.ofNat_le.mpr last⟩
  · rename_i more
    rwa [if_neg] at stride
    exact fun last => more (Int.ofNat_le.mp last.2)

end Capped

/-! ## Turns -/

/-- A walk through the body of a loop: it stays there until it comes to the `keep`. -/
abbrev Inside (toks : TokenStream) (first close : Nat) : Spot → Spot → Prop :=
  Relation.ReflTransGen fun from_ to_ => Stride toks from_ to_ ∧ first ≤ from_.1 ∧ from_.1 < close

/-- A number of turns of a loop, each up to the `keep` and what that does. -/
inductive Turns (toks : TokenStream) (first close : Nat) : Nat → Spot → Spot → Prop where
  | none {spot : Spot} : Turns toks first close 0 spot spot
  | turn {count : Nat} {m after : Machine} {next last : Spot}
      (body : Inside toks first close (first, m) (close, after)) (keep : Stride toks (close, after) next)
      (further : Turns toks first close count next last) :
      Turns toks first close (count + 1) (first, m) last

/-- Every turn that begins comes to the `keep` of the loop, which is carried out, with the loops open
that were open at its beginning. -/
def Completes (toks : TokenStream) (first close : Nat) (start : Spot) : Prop :=
  ∀ m, Strides toks start (first, m) → ∃ after ready,
    Inside toks first close (first, m) (close, after) ∧ after.loops = m.loops ∧
      after.arrive toks close = .ready ready

namespace Inside

variable {first : Nat} {spot : Spot} {one other : Machine}

theorem strides {last : Spot} (inside : Inside toks first close spot last) : Strides toks spot last :=
  Relation.ReflTransGen.mono (fun _ _ step => step.1) _ _ inside

/-- A walk comes to the `keep` of a loop at one place only. -/
theorem unique (inside : Inside toks first close spot (close, one))
    (again : Inside toks first close spot (close, other)) : one = other := by
  induction inside using Relation.ReflTransGen.head_induction_on with
  | refl =>
      rcases again.cases_head with same | ⟨next, ⟨-, -, below⟩, -⟩
      · cases same
        rfl
      · exact absurd below (Nat.lt_irrefl _)
  | head step _ ih =>
      rcases again.cases_head with rfl | ⟨next, ⟨stride, -, -⟩, rest⟩
      · exact absurd step.2.2 (Nat.lt_irrefl _)
      · cases stride.unique step.1
        exact ih rest

end Inside

namespace Turns

variable {first count others : Nat} {spot last : Spot}

theorem strides (turns : Turns toks first close count spot last) : Strides toks spot last := by
  induction turns with
  | none => exact .refl
  | turn body keep _ ih => exact (body.strides.tail keep).trans ih

/-- A walk that leaves a loop does so after one number of turns. -/
theorem unique {stop : Spot} (ahead : first ≤ close)
    (turns : Turns toks first close count spot last) (left : last.1 = close + 1)
    (again : Turns toks first close others spot stop) (leaves : stop.1 = close + 1) :
    count = others := by
  induction turns generalizing others with
  | none =>
      cases again with
      | none => rfl
      | turn =>
          dsimp only at left
          omega
  | turn body keep _ ih =>
      cases again with
      | none =>
          dsimp only at leaves
          omega
      | turn goes keeps further =>
          cases body.unique goes
          cases keep.unique keeps
          exact congrArg (· + 1) (ih left further)

end Turns

/-- From a turn on, the walk takes what turns remain and leaves the loop. -/
theorem Capped.turns (capped : toks.Capped head close n) (positive : 0 < n) {start : Spot}
    {outer : List LoopFrame} (completes : Completes toks (toks.lineEnd head + 1) close start)
    {remaining count : Nat} (total : count + remaining + 1 = max 1 (n - 1))
    (reached : Strides toks start (toks.lineEnd head + 1, m))
    (open_ : m.loops = toks.countedLoop head n count :: outer) :
    ∃ out, Turns toks (toks.lineEnd head + 1) close (remaining + 1) (toks.lineEnd head + 1, m)
      (close + 1, out) ∧ out.loops = outer := by
  induction remaining generalizing count m with
  | zero =>
      rcases completes m reached with ⟨after, ready, body, same, arrived⟩
      have keep := capped.keep positive arrived (same.trans open_)
      rw [if_pos (by omega)] at keep
      exact ⟨_, .turn body keep .none, rfl⟩
  | succ remaining ih =>
      rcases completes m reached with ⟨after, ready, body, same, arrived⟩
      have keep := capped.keep positive arrived (same.trans open_)
      rw [if_neg (by omega)] at keep
      have reached := (reached.trans body.strides).tail keep
      have next : count + 1 + remaining + 1 = max 1 (n - 1) := by omega
      rcases ih next reached rfl with ⟨out, turns, left⟩
      exact ⟨out, .turn body keep turns, left⟩

end TokenStream

open TokenStream

/-- What a run makes of a loop with a limit whose turns all come to the `keep`. -/
structure CappedRun (toks : TokenStream) (head close n : Nat) (m entered : Machine) : Prop where
  /-- The header opens the loop and goes on with the first turn. -/
  opens : Stride toks (head, m) (toks.countedEntry head n entered)
  /-- The body is run one time less than the limit says, but once at least.  Then the walk goes on
  behind the `keep` line, and the loops are open that were open at the header. -/
  runs : ∃ out, toks.Turns (toks.lineEnd head + 1) close (max 1 (n - 1))
      (toks.countedEntry head n entered) (close + 1, out) ∧ out.loops = m.loops ∧
    ∃ used bound, ∀ more, bound ≤ more →
      m.exec (used + more) toks head = out.exec more toks (close + 1)
  /-- It is run no other number of times. -/
  only : ∀ {count : Nat} {out : Machine}, toks.Turns (toks.lineEnd head + 1) close count
    (toks.countedEntry head n entered) (close + 1, out) → count = max 1 (n - 1)

theorem capped_loop {toks : TokenStream} {head close n : Nat} {m entered : Machine}
    (capped : toks.Capped head close n) (positive : 1 ≤ n) (small : n ≤ 2 ^ 53)
    (arrived : m.arrive toks head = .ready entered)
    (completes : Completes toks (toks.lineEnd head + 1) close (toks.countedEntry head n entered)) :
    CappedRun toks head close n m entered := by
  have total : 0 + (max 1 (n - 1) - 1) + 1 = max 1 (n - 1) := by omega
  rcases capped.turns positive completes total .refl rfl with ⟨out, turns, left⟩
  rw [Nat.sub_add_cancel (Nat.le_max_left 1 (n - 1))] at turns
  have header := capped.header small arrived
  refine ⟨header, ⟨out, turns, left.trans (Config.ready_loops arrived), ?_⟩, ?_⟩
  · exact Strides.exec (.head header turns.strides)
  · exact fun again => Turns.unique capped.below again rfl turns rfl

/-! ## Bodies that are checked by running them -/

namespace TokenStream

variable {toks : TokenStream} {first close strides i : Nat} {m : Machine} {start last : Spot}

/-- Whether a walk ends within some strides, and not in a body, whose statements stay there, run no
other tokens and do not jump. -/
def staysFor (toks : TokenStream) (first close : Nat) : Nat → Spot → Bool
  | 0, _ => false
  | strides + 1, (i, m) =>
    match m.arrive toks i with
    | .ends _ => i < first || close < i
    | .ready ready =>
      let (last, after) := (dispatch idle toks i).run ready
      (nested? toks i ready).isNone &&
        (i < first || close ≤ i ||
          (!(toks.kindAt i).jumps && (decide (first ≤ last + 1) && decide (last < close)))) &&
          staysFor toks first close strides (last + 1, after)

/-- One stride of such a walk. -/
theorem staysFor_ready {ready : Machine}
    (checked : staysFor toks first close (strides + 1) (i, m) = true)
    (arrived : m.arrive toks i = .ready ready) :
    ∃ next, Stride toks (i, m) next ∧ staysFor toks first close strides next = true ∧
      (first ≤ i → i < close → next.2.loops = m.loops ∧ first ≤ next.1 ∧ next.1 ≤ close) := by
  unfold staysFor at checked
  rw [arrived] at checked
  dsimp only at checked
  rcases run : (dispatch idle toks i).run ready with ⟨last, after⟩
  rw [run] at checked
  dsimp only at checked
  rw [Bool.and_eq_true, Bool.and_eq_true, Option.isNone_iff_eq_none] at checked
  rcases checked with ⟨⟨alone, stays⟩, further⟩
  have stride := Stride.alone arrived alone
  rw [run] at stride
  refine ⟨_, stride, further, fun behind inside => ?_⟩
  simp only [Bool.or_eq_true, Bool.and_eq_true, Bool.not_eq_true', decide_eq_true_eq] at stays
  rcases stays with (above | outside) | ⟨other, low, high⟩
  · exact absurd behind (Nat.not_le.mpr above)
  · exact absurd inside (Nat.not_lt.mpr outside)
  · have loops := dispatch_keepsLoops other alone
    rw [run] at loops
    exact ⟨loops.trans (Config.ready_loops arrived), low, high⟩

theorem staysFor_onward (checked : staysFor toks first close strides start = true)
    (reached : Strides toks start last) :
    ∃ rest, staysFor toks first close rest last = true := by
  induction reached with
  | refl => exact ⟨strides, checked⟩
  | tail _ stride ih =>
      rcases ih with ⟨_ | rest, checked⟩
      · cases checked
      · rcases stride.ready with ⟨ready, arrived⟩
        rcases staysFor_ready checked arrived with ⟨next, other, further, -⟩
        exact ⟨rest, stride.unique other ▸ further⟩

/-- The turns of a loop come to its `keep` if a walk that stays in its body is run to an end. -/
theorem completes_of_staysFor (ahead : first ≤ close)
    (checked : staysFor toks first close strides start = true) : Completes toks first close start := by
  intro m reached
  rcases staysFor_onward checked reached with ⟨strides, checked⟩
  have onward (strides i : Nat) (m : Machine)
      (checked : staysFor toks first close strides (i, m) = true) (behind : first ≤ i)
      (within : i ≤ close) : ∃ after ready, Inside toks first close (i, m) (close, after) ∧
        after.loops = m.loops ∧ after.arrive toks close = .ready ready := by
    induction strides generalizing i m with
    | zero => cases checked
    | succ strides ih =>
        cases arrived : m.arrive toks i with
        | ends out =>
            unfold staysFor at checked
            rw [arrived] at checked
            simp only [Bool.or_eq_true, decide_eq_true_eq] at checked
            omega
        | ready ready =>
            rcases staysFor_ready checked arrived with ⟨⟨j, next⟩, stride, further, stays⟩
            rcases Nat.eq_or_lt_of_le within with rfl | inside
            · exact ⟨m, ready, .refl, rfl, arrived⟩
            · rcases stays behind inside with ⟨loops, low, high⟩
              rcases ih j next further low high with ⟨after, ready, path, kept, arrived⟩
              exact ⟨after, ready, .head ⟨stride, behind, inside⟩ path, kept.trans loops, arrived⟩
  exact onward strides first m checked (Nat.le_refl _) ahead

end TokenStream

/-- A loop with a limit of four, and a statement that counts its turns. -/
def threeTurns : String := "start loop .r.4\n    N = N + 1\nkeep\nprint N"

/-- The loop takes three turns. -/
theorem threeTurns_counted :
    ∃ entered, (Machine.start {}).arrive (scan threeTurns) 0 = .ready entered ∧
      CappedRun (scan threeTurns) 0 11 4 (.start {}) entered := by
  let toks := scan threeTurns
  let options := optionsAt toks 0
  have ⟨⟨opened, line, first, mark, second, alone⟩, ⟨unfinished, indented, below⟩, keeps, bare⟩ :
      (toks.opensLoop 0 = true ∧ (toks.peek options).line = (toks.peek 0).line ∧
        (toks.peek options).isSymbol .dot = true ∧ (toks.peek (options + 1)).isName "r" = true ∧
          (toks.peek (options + 2)).isSymbol .dot = true ∧
            (toks.peek (options + 4)).line ≠ (toks.peek 0).line) ∧
        ((toks.peek (toks.lineEnd 0 + 1)).isFinish = false ∧
          (toks.peek 0).column < (toks.peek (toks.lineEnd 0 + 1)).column ∧ toks.lineEnd 0 < 11) ∧
        (toks.peek 11).isWord .keep = true ∧ toks.lineEnd 11 = 11 := by
    decide +kernel
  have ⟨bits, passes⟩ :
      (toks.peek (options + 3)).bears (Number.read (String.ofList ['4'])) = true ∧
        ((Machine.start {}).arrive toks 0).readyFor (fun entered =>
          staysFor toks (toks.lineEnd 0 + 1) 11 20 (toks.countedEntry 0 4 entered)) = true := by
    decide +kernel
  have capped : toks.Capped 0 11 4 := {
    opened, line, first, mark, second, alone, unfinished, indented, below, keeps, bare
    numeral := ⟨['4'], by decide, by simp, rfl, Token.lexeme_of_bears bits⟩ }
  rcases Arrival.exists_of_readyFor passes with ⟨entered, arrived, stays⟩
  have completes := completes_of_staysFor below stays
  exact ⟨entered, arrived, capped_loop capped (by decide) (by decide) arrived completes⟩

end BigScript
