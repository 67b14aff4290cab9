import BigScript.Proofs.Healing.Replay
import BigScript.Proofs.Lexemes

/-!
# Healing as a closure

The pass that heals a script keeps its own stack of open loops, and its result is judged by replaying
it.  `along_healed` goes through both at once: what the pass and the replay keep between them from one
token to the next holds along the whole result.

The replay never has a loop open that the pass has not, so at the end everything is closed.  It may
miss one: where the two words of a header stand on two lines, a `keep` can come between them.

In front of a line healing closes loops from the innermost one on, as long as they stand at or right
of the line.  This closes all of them if the loops are stacked in the order of their columns.  They
are, except where a loop opens further down a line that begins with `keep`: such a line closes nothing
by where it begins, so the new loop may come to lie on one that stands further right.

A list is left alone by healing as soon as the innermost loop stands left of each line.  For this it
is enough that no header is split over two lines, so healing twice is the same as healing once unless
both happen.
-/

namespace BigScript
namespace Heal

open Scan

/-! ## The pass -/

/-- The `keep` that closes a loop. -/
def keepFor (opener : Token) : Token := ⟨.word .keep, opener.line, opener.column, 0⟩

/-- The number of turns behind the `keep` that closes a loop. -/
def turnsFor (opener : Token) : Token :=
  ⟨.number 1, opener.line, opener.column + "keep ".length, 0⟩

theorem closing_eq (opener : Token) : closing opener = [keepFor opener, turnsFor opener] := rfl

/-- The open loops that a token closes by where it stands. -/
def closedAt (line : Nat) (t : Token) (loops : List Token) : List Token :=
  if t.line != line && !t.isWord .keep then closedBy t.column loops else []

variable {line : Nat} {t : Token} {loops replayed rest : List Token}

theorem healFrom_finish (finished : t.isFinish = true) :
    healFrom line loops (t :: rest) = loops.flatMap closing ++ t :: healFrom line [] rest := by
  rw [healFrom, if_pos finished]

theorem healFrom_token (unfinished : t.isFinish = false) :
    healFrom line loops (t :: rest) = (closedAt line t loops).flatMap closing ++ t ::
      healFrom t.line (openAfter t (opens t rest) (loops.drop (closedAt line t loops).length))
        rest := by
  rw [healFrom, unfinished, if_neg Bool.false_ne_true]
  rfl

theorem closedAt_initial : closedAt line t loops <+: loops := by
  unfold closedAt
  split
  · exact List.takeWhile_prefix _
  · exact List.nil_prefix

/-- What a token closes lies above what remains open. -/
theorem closedAt_append :
    closedAt line t loops ++ loops.drop (closedAt line t loops).length = loops :=
  List.prefix_iff_eq_append.mp closedAt_initial

/-- What remains open where a line begins. -/
theorem drop_closedAt (begins : t.line ≠ line) (other : t.isWord .keep = false) :
    loops.drop (closedAt line t loops).length = loops.dropWhile fun o => t.column ≤ o.column := by
  have closes : closedAt line t loops = loops.takeWhile fun o => t.column ≤ o.column := by
    unfold closedAt
    rw [if_pos (by simp [begins, other])]
    rfl
  refine List.append_cancel_left (?_ : closedAt line t loops ++ _ = closedAt line t loops ++ _)
  rw [closedAt_append, closes, List.takeWhile_append_dropWhile]

theorem closedAt_of_same (same : t.line = line) : closedAt line t loops = [] := by
  unfold closedAt
  rw [same, bne_self_eq_false, Bool.false_and, if_neg Bool.false_ne_true]

theorem closedAt_of_keep (keeps : t.isWord .keep = true) : closedAt line t loops = [] := by
  unfold closedAt
  rw [keeps, Bool.not_true, Bool.and_false, if_neg Bool.false_ne_true]

/-- A token that closes something begins a line. -/
theorem begins_of_closedAt (some : closedAt line t loops ≠ []) :
    t.line ≠ line ∧ t.isWord .keep = false := by
  refine ⟨fun same => some (closedAt_of_same same), ?_⟩
  cases keeps : t.isWord .keep with
  | false => rfl
  | true => exact absurd (closedAt_of_keep keeps) some

/-! ## What is inserted -/

/-- The second list is the first one with pairs `keep 1` inserted. -/
inductive Woven : List Token → List Token → Prop where
  | nil : Woven [] []
  | token (t : Token) {toks healed : List Token} (rest : Woven toks healed) :
      Woven (t :: toks) (t :: healed)
  | pair (opener : Token) {toks healed : List Token} (rest : Woven toks healed) :
      Woven toks (keepFor opener :: turnsFor opener :: healed)

theorem Woven.closings {toks healed : List Token} (woven : Woven toks healed) (closed : List Token) :
    Woven toks (closed.flatMap closing ++ healed) := by
  induction closed with
  | nil => exact woven
  | cons opener closed ih => exact .pair opener ih

theorem healFrom_woven (line : Nat) (loops toks : List Token) :
    Woven toks (healFrom line loops toks) := by
  induction toks generalizing line loops with
  | nil => exact .nil
  | cons t rest ih =>
      cases finished : t.isFinish with
      | true =>
          rw [healFrom_finish finished]
          exact (Woven.token t (ih line [])).closings _
      | false =>
          rw [healFrom_token finished]
          exact (Woven.token t (ih _ _)).closings _

/-- A healed list begins as the list itself does, or with a `keep`. -/
theorem head?_healFrom (line : Nat) (loops toks : List Token) :
    (healFrom line loops toks).head? = toks.head? ∨
      ∃ opener, (healFrom line loops toks).head? = some (keepFor opener) := by
  have closings (closed : List Token) (t : Token) (behind : List Token) :
      (closed.flatMap closing ++ t :: behind).head? = some t ∨
        ∃ opener, (closed.flatMap closing ++ t :: behind).head? = some (keepFor opener) := by
    cases closed with
    | nil => exact .inl rfl
    | cons opener closed => exact .inr ⟨opener, rfl⟩
  cases toks with
  | nil => exact .inl rfl
  | cons t rest =>
      cases finished : t.isFinish with
      | true =>
          rw [healFrom_finish finished]
          exact closings _ t _
      | false =>
          rw [healFrom_token finished]
          exact closings _ t _

/-- No loop opens in a healed list that does not open in the list itself. -/
theorem opens_of_healed (opened : opens t (healFrom line loops rest) = true) :
    opens t rest = true := by
  rcases head?_healFrom line loops rest with same | ⟨opener, inserted⟩
  · rwa [opens, same] at opened
  · have apart : (some (keepFor opener)).any (·.isWord .loop) = false := rfl
    rw [opens, inserted, apart, Bool.and_false, Bool.false_or] at opened
    rw [opens, opened, Bool.or_true]

/-- Where nothing comes between the two words of a header, a loop that opens in a list opens in the
healed list. -/
theorem opens_healed (joined : t.isWord .start = true →
      ∀ u ∈ rest.head?, u.isWord .loop = true → closedAt line u loops = []) :
    opens t (healFrom line loops rest) = opens t rest := by
  cases rest with
  | nil => rfl
  | cons u rest =>
      cases starts : t.isWord .start with
      | false => rw [opens, opens, starts, Bool.false_and, Bool.false_and]
      | true =>
          cases loop : u.isWord .loop with
          | true =>
              have unfinished : u.isFinish = false := by
                rw [Token.isFinish, eq_of_beq loop]
                rfl
              rw [healFrom_token unfinished, joined starts u rfl loop]
              rfl
          | false =>
              rw [Bool.eq_iff_iff]
              refine ⟨opens_of_healed, fun opened => ?_⟩
              have short : t.isWord .startLoop = true := by simpa [opens, loop] using opened
              rw [opens, short, Bool.or_true]

/-! ## Replaying the result -/

/-- What holds of inserted tokens wherever they stand needs no argument along the pairs that close
some loops: the replay comes out behind them with as many loops closed. -/
theorem along_closings {holds : Nat → List Token → Token → List Token → Prop}
    (keeps : ∀ line loops opener rest, holds line loops (keepFor opener) rest)
    (numbers : ∀ loops opener rest, holds opener.line loops (turnsFor opener) rest)
    {behind : List Token} (closed : List Token)
    (tail : ∀ after, (closed = [] → after = line) →
      Along holds after (replayed.drop closed.length) behind) :
    Along holds line replayed (closed.flatMap closing ++ behind) := by
  induction closed generalizing line replayed with
  | nil => exact tail line fun _ => rfl
  | cons opener closed ih =>
      refine ⟨keeps _ _ opener _, numbers _ opener _, ih fun after from_ => ?_⟩
      have further := tail after nofun
      rwa [List.length_cons, Nat.add_comm, ← List.drop_drop] at further

/-- What the pass and the replay of its result keep between them, from token to token. -/
theorem along_healed {holds : Nat → List Token → Token → List Token → Prop}
    (between : Nat → List Token → List Token → List Token → Prop)
    (keeps : ∀ line loops opener rest, holds line loops (keepFor opener) rest)
    (numbers : ∀ loops opener rest, holds opener.line loops (turnsFor opener) rest)
    (finish : ∀ line loops replayed t rest, between line loops replayed (t :: rest) →
      t.isFinish = true → rest = [] ∧ ∀ after, holds after (replayed.drop loops.length) t [])
    (token : ∀ line loops replayed t rest, between line loops replayed (t :: rest) →
      t.isFinish = false → ∀ left still, left = loops.drop (closedAt line t loops).length →
        still = replayed.drop (closedAt line t loops).length →
        (∀ after, (closedAt line t loops = [] → after = line) →
          holds after still t (healFrom t.line (openAfter t (opens t rest) left) rest)) ∧
        between t.line (openAfter t (opens t rest) left)
          (openAfter t (opens t (healFrom t.line (openAfter t (opens t rest) left) rest)) still) rest)
    {toks : List Token} (start : between line loops replayed toks) :
    Along holds line replayed (healFrom line loops toks) := by
  induction toks generalizing line loops replayed with
  | nil => trivial
  | cons t rest ih =>
      cases finished : t.isFinish with
      | true =>
          rcases finish line loops replayed t rest start finished with ⟨rfl, last⟩
          rw [healFrom_finish finished]
          exact along_closings keeps numbers loops fun after _ => ⟨last after, trivial⟩
      | false =>
          rcases token line loops replayed t rest start finished _ _ rfl rfl with ⟨here, next⟩
          rw [healFrom_token finished]
          exact along_closings keeps numbers _ fun after same => ⟨here after same, ih next⟩

/-- The replay has open what the pass has open, in the same order, except for loops it has missed. -/
theorem openAfter_sublist {left : List Token} (sub : replayed.Sublist loops) :
    (openAfter t (opens t (healFrom t.line left rest)) replayed).Sublist
      (openAfter t (opens t rest) loops) := by
  unfold openAfter
  cases healed : opens t (healFrom t.line left rest) with
  | true =>
      rw [opens_of_healed healed]
      exact sub.cons_cons t
  | false =>
      cases opened : opens t rest with
      | true =>
          rw [not_keep_of_opens opened]
          exact sub.cons t
      | false =>
          cases t.isWord .keep with
          | true => exact sub.drop 1
          | false => exact sub

/-- What a healed list has open at its end: nothing, and nothing follows. -/
theorem along_ends {toks : List Token} (ordered : InSequence toks) (sub : replayed.Sublist loops) :
    Along (fun _ open_ t behind => t.isFinish = true → open_ = [] ∧ behind = []) line replayed
      (healFrom line loops toks) := by
  refine along_healed (fun _ loops replayed toks => InSequence toks ∧ replayed.Sublist loops)
    (fun _ _ _ _ => nofun) (fun _ _ _ => nofun) ?finish ?token
    ⟨ordered, sub⟩
  case finish =>
    rintro line loops replayed t rest ⟨ordered, sub⟩ finished
    exact ⟨ordered.ends finished, fun _ _ => ⟨List.drop_eq_nil_of_le sub.length_le, rfl⟩⟩
  case token =>
    rintro line loops replayed t rest ⟨ordered, sub⟩ unfinished left still rfl rfl
    refine ⟨fun _ _ finished => ?_, ordered.tail, openAfter_sublist (sub.drop _)⟩
    rw [unfinished] at finished
    cases finished

/-! ## Loops in the order of their columns -/

/-- At the end of a list no loop is open, and in front of a line none that stands at or right of it. -/
def Shut (line : Nat) (loops : List Token) (t : Token) (rest : List Token) : Prop :=
  (t.isFinish = true → loops = [] ∧ rest = []) ∧
    (t.line ≠ line → t.isFinish = false → t.isWord .keep = false → ∀ o ∈ loops, o.column < t.column)

/-- At the end of a list no loop is open, and in front of a line the innermost one stands left of
it. -/
def Quiet (line : Nat) (loops : List Token) (t : Token) (rest : List Token) : Prop :=
  (t.isFinish = true → loops = [] ∧ rest = []) ∧
    (t.line ≠ line → t.isFinish = false → t.isWord .keep = false →
      ∀ o ∈ loops.head?, o.column < t.column)

theorem Shut.quiet (shut : Shut line loops t rest) : Quiet line loops t rest :=
  ⟨shut.1, fun begins unfinished other o first =>
    shut.2 begins unfinished other o (List.mem_of_mem_head? first)⟩

/-- No loop opens further down a line that begins at a token with `keep`. -/
def KeepApart (line : Nat) (_ : List Token) (t : Token) (rest : List Token) : Prop :=
  t.line ≠ line → t.isWord .keep = true →
    ∀ u behind, u :: behind <:+ rest → u.line = t.line → opens u behind = false

/-- Loops that are stacked in the order of their columns, of which none that opens further down the
current line stands left of one that is open. -/
structure Stacked (line : Nat) (loops toks : List Token) : Prop where
  columns : loops.Pairwise fun inner outer => outer.column < inner.column
  further : ∀ u behind, u :: behind <:+ toks → u.line = line → opens u behind = true →
    ∀ o ∈ loops, o.column < u.column

/-- In front of a line the pass closes every loop that stands at or right of it. -/
theorem Stacked.lt (stacked : Stacked line loops (t :: rest)) (begins : t.line ≠ line)
    (other : t.isWord .keep = false) :
    ∀ o ∈ loops.drop (closedAt line t loops).length, o.column < t.column := by
  rw [drop_closedAt begins other]
  have columns := stacked.columns
  clear stacked
  induction loops with
  | nil => exact nofun
  | cons inner loops ih =>
      rw [List.dropWhile_cons]
      split
      · exact ih columns.of_cons
      · rename_i left
        intro o member
        rw [decide_eq_true_eq, Nat.not_le] at left
        rcases List.mem_cons.mp member with rfl | outer
        · exact left
        · exact Nat.lt_trans (List.rel_of_pairwise_cons columns outer) left

/-- The stack stays in order from token to token. -/
theorem Stacked.step (stacked : Stacked line loops (t :: rest)) (ordered : InSequence (t :: rest))
    (apart : KeepApart line replayed t rest) :
    Stacked t.line
      (openAfter t (opens t rest) (loops.drop (closedAt line t loops).length)) rest := by
  generalize remains : loops.drop (closedAt line t loops).length = left
  have within : ∀ o ∈ left, o ∈ loops := fun o member =>
    List.mem_of_mem_drop (remains ▸ member)
  have lower (begins : t.line ≠ line) (other : t.isWord .keep = false) :
      ∀ o ∈ left, o.column < t.column := remains ▸ stacked.lt begins other
  have columns : left.Pairwise fun inner outer => outer.column < inner.column :=
    remains ▸ stacked.columns.drop
  -- What opens further down the line stands right of all that remains open.
  have beyond : ∀ u behind, u :: behind <:+ rest → u.line = t.line → opens u behind = true →
      t.column < u.column ∧ ∀ o ∈ left, o.column < u.column := by
    intro u behind later same opened
    have right : t.column < u.column := by
      refine ordered.right (later.mem List.mem_cons_self) ?_ same
      exact unfinished_of_opens opened
    refine ⟨right, fun o member => ?_⟩
    by_cases begins : t.line = line
    · exact stacked.further u behind (later.trans (List.suffix_cons t rest)) (same.trans begins)
        opened o (within o member)
    · cases keeps : t.isWord .keep with
      | false => exact Nat.lt_trans (lower begins keeps o member) right
      | true =>
          rw [apart begins keeps u behind later same] at opened
          cases opened
  unfold openAfter
  cases opened : opens t rest with
  | true =>
      refine ⟨columns.cons fun o member => ?_, fun u behind later same opened o member => ?_⟩
      · by_cases begins : t.line = line
        · exact stacked.further t rest (List.suffix_refl _) begins opened o (within o member)
        · exact lower begins (not_keep_of_opens opened) o member
      · have ⟨right, others⟩ := beyond u behind later same opened
        rcases List.mem_cons.mp member with rfl | member
        · exact right
        · exact others o member
  | false =>
      cases t.isWord .keep with
      | true =>
          exact ⟨columns.drop, fun u behind later same opened o member =>
            (beyond u behind later same opened).2 o (List.mem_of_mem_drop member)⟩
      | false =>
          exact ⟨columns, fun u behind later same opened => (beyond u behind later same opened).2⟩

/-- Where no line that begins with `keep` opens a loop, healing closes every loop in time. -/
theorem along_shut {toks read : List Token} (ordered : InSequence toks) (sub : replayed.Sublist loops)
    (stacked : Stacked line loops toks) (apart : Along KeepApart line read toks) :
    Along Shut line replayed (healFrom line loops toks) := by
  refine along_healed (fun line loops replayed toks =>
    InSequence toks ∧ replayed.Sublist loops ∧ Stacked line loops toks ∧
      ∃ read, Along KeepApart line read toks)
    (fun _ _ _ _ => ⟨nofun, fun _ _ => nofun⟩)
    (fun _ _ _ => ⟨nofun, fun begins => absurd rfl begins⟩)
    ?finish ?token ⟨ordered, sub, stacked, read, apart⟩
  case finish =>
    rintro line loops replayed t rest ⟨ordered, sub, -⟩ finished
    refine ⟨ordered.ends finished, fun _ => ⟨fun _ => ⟨List.drop_eq_nil_of_le sub.length_le, rfl⟩,
      fun _ going => ?_⟩⟩
    rw [finished] at going
    cases going
  case token =>
    rintro line loops replayed t rest ⟨ordered, sub, stacked, read, apart, aparts⟩ unfinished
      left still rfl rfl
    refine ⟨fun after same => ⟨fun finished => ?_, fun begins _ other o member => ?_⟩, ordered.tail,
      openAfter_sublist (sub.drop _), stacked.step ordered apart, _, aparts⟩
    · rw [unfinished] at finished
      cases finished
    · refine stacked.lt ?_ other o ((sub.drop _).mem member)
      intro continues
      exact begins (continues.trans (same (closedAt_of_same continues)).symm)

/-! ## Healing twice -/

/-- A token that begins a header is not the last one of its line. -/
def Joined (_ : Nat) (_ : List Token) (t : Token) (rest : List Token) : Prop :=
  t.isWord .start = true → ∀ u ∈ rest.head?, u.isWord .loop = true → u.line = t.line

/-- Where no header is split over two lines, the replay has open just what the pass has open. -/
theorem along_quiet {toks read : List Token} (ordered : InSequence toks)
    (joined : Along Joined line read toks) : Along Quiet line loops (healFrom line loops toks) := by
  refine along_healed (fun line loops replayed toks =>
    InSequence toks ∧ replayed = loops ∧ ∃ read, Along Joined line read toks)
    (fun _ _ _ _ => ⟨nofun, fun _ _ => nofun⟩)
    (fun _ _ _ => ⟨nofun, fun begins => absurd rfl begins⟩)
    ?finish ?token ⟨ordered, rfl, read, joined⟩
  case finish =>
    rintro line loops _ t rest ⟨ordered, rfl, -⟩ finished
    refine ⟨ordered.ends finished, fun _ => ⟨fun _ => ⟨List.drop_length, rfl⟩, fun _ going => ?_⟩⟩
    rw [finished] at going
    cases going
  case token =>
    rintro line _ loops t rest ⟨ordered, rfl, read, unsplit, joined⟩ unfinished left still rfl rfl
    refine ⟨fun after same => ⟨fun finished => ?_, fun begins _ other o first => ?_⟩, ordered.tail,
      by rw [opens_healed fun starts u next loop => closedAt_of_same (unsplit starts u next loop)],
      _, joined⟩
    · rw [unfinished] at finished
      cases finished
    · have starts : t.line ≠ line := fun continues =>
        begins (continues.trans (same (closedAt_of_same continues)).symm)
      rw [drop_closedAt starts other] at first
      have stopped := List.head?_dropWhile_not (fun o : Token => decide (t.column ≤ o.column)) loops
      rw [first] at stopped
      simpa using stopped

/-- Healing leaves a list alone in which the innermost loop stands left of each line. -/
theorem healFrom_quiet {toks : List Token} (quiet : Along Quiet line loops toks) :
    healFrom line loops toks = toks := by
  induction toks generalizing line loops with
  | nil => rfl
  | cons t rest ih =>
      cases finished : t.isFinish with
      | true =>
          rcases quiet.1.1 finished with ⟨rfl, rfl⟩
          rw [healFrom_finish finished]
          rfl
      | false =>
          have none : closedAt line t loops = [] := by
            refine Classical.byContradiction fun some => ?_
            have ⟨begins, other⟩ := begins_of_closedAt some
            have left := quiet.1.2 begins finished other
            unfold closedAt closedBy at some
            cases loops with
            | nil => exact some (ite_self _)
            | cons inner loops =>
                have apart : ¬ t.column ≤ inner.column := Nat.not_le.mpr (left inner rfl)
                rw [List.takeWhile_cons_of_neg (by simpa using apart), ite_self] at some
                exact some rfl
          rw [healFrom_token finished, none]
          exact congrArg (t :: ·) (ih quiet.2)

end Heal

/-! ## The laws of healing -/

namespace TokenStream

open Heal Scan

variable {toks : TokenStream}

/-- What follows an index of a stream are the tokens at later indices. -/
theorem of_suffix_drop {i : Nat} {u : Token} {behind : List Token}
    (later : u :: behind <:+ toks.toList.drop i) :
    ∃ j, i ≤ j ∧ u = toks.peek j ∧ opens u behind = toks.opensLoop j := by
  rcases later with ⟨between, split⟩
  have here : toks.toList.drop (i + between.length) = u :: behind := by
    rw [← List.drop_drop, ← split, List.drop_left]
  have inside : i + between.length < toks.size := by
    refine Nat.lt_of_not_le fun outside => ?_
    rw [drop_of_le outside] at here
    cases here
  rw [drop_of_lt inside] at here
  injection here with first others
  refine ⟨i + between.length, Nat.le_add_right _ _, first.symm, ?_⟩
  rw [← toks.opens_eq, first, others]

/-- No loop opens on a line that begins with `keep`. -/
def KeepsApart (toks : TokenStream) : Prop :=
  ∀ i j, i < j → toks.beginsLine i = true → (toks.peek i).isWord .keep = true →
    (toks.peek j).line = (toks.peek i).line → toks.opensLoop j = false

theorem KeepsApart.along (apart : toks.KeepsApart) : Along KeepApart 0 [] toks.toList := by
  refine along_iff.mpr fun i _ begins keeps u behind later same => ?_
  rcases of_suffix_drop later with ⟨j, further, rfl, opened⟩
  rw [opened]
  exact apart i j further (bne_iff_ne.mpr begins) keeps same

/-- The two words of a header stand on one line. -/
def Unsplit (toks : TokenStream) : Prop :=
  ∀ i, (toks.peek i).isWord .start = true → (toks.peek (i + 1)).isWord .loop = true →
    toks.beginsLine (i + 1) = false

theorem Unsplit.along (unsplit : toks.Unsplit) : Along Joined 0 [] toks.toList := by
  refine along_iff.mpr fun i _ starts u next loop => ?_
  have same : u = toks.peek (i + 1) := by
    rcases Nat.lt_or_ge (i + 1) toks.size with inside | outside
    · rw [drop_of_lt inside] at next
      exact (Option.some.inj next).symm
    · rw [drop_of_le outside] at next
      cases next
  have line := unsplit i starts (same ▸ loop)
  rw [beginsLine, bne_eq_false_iff_eq, lineBefore] at line
  rw [same, line]

theorem loopsClosed_of_along (shut : Along Shut 0 [] toks.toList) : toks.LoopsClosed where
  ends i inside finished := by
    have none := ((along_iff.mp shut i inside).1 finished).1
    exact List.map_eq_nil_iff.mp none
  dedents i begins unfinished other head open_ :=
    (along_iff.mp shut i (lt_of_not_finish unfinished)).2 (bne_iff_ne.mp begins) unfinished other _
      (List.mem_map_of_mem open_)

theorem LoopsClosed.quiet (closed : toks.LoopsClosed) (ordered : InSequence toks.toList) :
    Along Quiet 0 [] toks.toList := by
  refine Along.mono (fun _ _ _ _ => Shut.quiet) (along_iff.mpr fun i inside => ⟨fun finished => ?_,
    fun begins unfinished other o open_ => ?_⟩)
  · have behind : InSequence (toks.peek i :: toks.toList.drop (i + 1)) :=
      drop_of_lt inside ▸ ordered.sublist (List.drop_sublist i _)
    exact ⟨List.map_eq_nil_iff.mpr (closed.ends i inside finished), behind.ends finished⟩
  · rcases List.mem_map.mp open_ with ⟨head, member, rfl⟩
    exact closed.dedents i (bne_iff_ne.mpr begins) unfinished other head member

end TokenStream

open Heal Scan

/-- What healing does to a stream: it inserts nothing but pairs `keep 1`, closes every loop, changes
nothing where every loop is closed, and so changes nothing when done again. -/
structure ClosureLaw (toks : TokenStream) : Prop where
  woven : Woven toks.toList (heal toks).toList
  ends : ∀ i < (heal toks).size, ((heal toks).peek i).isFinish = true → (heal toks).unclosed i = []
  closed : toks.KeepsApart → (heal toks).LoopsClosed
  again : toks.KeepsApart ∨ toks.Unsplit → heal (heal toks) = heal toks
  unchanged : toks.LoopsClosed → heal toks = toks

theorem heal_closure (source : String) : ClosureLaw (scan source) := by
  have ordered := scan_inSequence source
  generalize scan source = toks at ordered
  have still {healed : TokenStream} (quiet : Along Quiet 0 [] healed.toList) : heal healed = healed := by
    rw [heal, healFrom_quiet quiet, Array.toArray_toList]
  have shut (apart : toks.KeepsApart) : Along Shut 0 [] (heal toks).toList :=
    along_shut ordered (List.Sublist.refl []) ⟨.nil, fun _ _ _ _ _ => nofun⟩ apart.along
  refine ⟨healFrom_woven 0 [] toks.toList, fun i inside finished => ?ends,
    fun apart => TokenStream.loopsClosed_of_along (shut apart), ?again,
    fun closed => still (closed.quiet ordered)⟩
  case ends =>
    have last : Along _ 0 [] (heal toks).toList := along_ends ordered (List.Sublist.refl [])
    exact List.map_eq_nil_iff.mp (TokenStream.along_iff.mp last i inside finished).1
  case again =>
    rintro (apart | unsplit)
    · exact still ((shut apart).mono fun _ _ _ _ => Shut.quiet)
    · exact still (along_quiet ordered unsplit.along)

/-- A loop that opens on a `keep` line hides one further right from the line that should close it. -/
theorem keep_line_hides_open_loop :
    ¬ (heal (scan ("      start loop\n        start loop\nkeep start loop\n" ++
      "      print 1"))).LoopsClosed := by
  intro closed
  let toks := heal (scan ("      start loop\n        start loop\nkeep start loop\n" ++
    "      print 1"))
  have ⟨begins, unfinished, other, hidden, beyond⟩ : toks.beginsLine 7 = true ∧
      (toks.peek 7).isFinish = false ∧ (toks.peek 7).isWord .keep = false ∧ 0 ∈ toks.unclosed 7 ∧
        ¬ (toks.peek 0).column < (toks.peek 7).column := by
    decide +kernel
  exact beyond (closed.dedents 7 begins unfinished other 0 hidden)

/-- If in addition a header is split over two lines, healing again closes what was hidden. -/
theorem healing_again_differs :
    let toks := heal (scan ("          start loop\n            start loop\n" ++
      "              start loop\nkeep start loop\n        start\n       loop"))
    heal toks ≠ toks := by
  intro toks same
  have sizes : (heal toks).size ≠ toks.size := by decide +kernel
  exact sizes (congrArg Array.size same)

end BigScript
