import BigScript.Proofs.Healing.Replay
import BigScript.Proofs.Move

/-!
# Loops on the page and loops in the run

The loops that a run has open are found out step by step: headers push frames, `keep` takes them off,
jumps drop some and blocks are left out.  The loops that are open at an index can also be read off
from the tokens in front of it.  In a stream whose loops are laid out like brackets the two agree
wherever the walk stands, so a walk that comes to the end of the stream has no loop open.

Three scans have to land in the right place.  Leaving a loop counts the words that open and close
loops, as the replay does.  Leaving out a block looks at columns: the loops around the block stand left
of its header and the loops within it do not, so each scan ends where the loops around it are open.
-/

namespace BigScript
namespace TokenStream

/-- Loops laid out like brackets.  Words that open or close a loop begin a line, each `keep` stands
below the header of the innermost open loop, and no loop is left open. -/
structure Bracketed (toks : TokenStream) : Prop where
  closed : toks.LoopsClosed
  heads : ∀ i, toks.turns i = true → toks.beginsLine i = true
  starts : ∀ i, toks.kindAt i = .word .start → toks.opensLoop i = true
  aligned : ∀ i, (toks.peek i).isWord .keep = true →
    ∃ head rest, toks.unclosed i = head :: rest ∧ (toks.peek head).column = (toks.peek i).column
  columns : ∀ i, (toks.peek (i + 1)).isFinish = false → toks.beginsLine (i + 1) = false →
    (toks.peek i).column < (toks.peek (i + 1)).column
  last : ∃ n, toks.size = n + 1 ∧ (toks.peek n).isFinish = true

/-- Whether the tokens in front of an index, on its line, neither open nor close a loop. -/
def clear (toks : TokenStream) : Nat → Bool
  | 0 => true
  | i + 1 => toks.beginsLine (i + 1) || (!toks.turns i && clear toks i)

variable {toks : TokenStream} {i : Nat}

theorem clear_of_beginsLine (begins : toks.beginsLine i = true) : toks.clear i = true := by
  cases i with
  | zero => rfl
  | succ i => rw [clear, begins, Bool.true_or]

theorem clear_stretch {first last : Nat} (ahead : first ≤ last)
    (plain : ∀ k, first ≤ k → k < last → toks.turns k = false) (clear_ : toks.clear first = true) :
    toks.clear last = true := by
  induction ahead with
  | refl => exact clear_
  | @step last ahead ih =>
      rw [clear, plain last ahead (Nat.lt_succ_self last),
        ih fun k behind below => plain k behind (Nat.lt_succ_of_lt below), Bool.not_false,
        Bool.and_self, Bool.or_true]

/-! ## Lines -/

theorem turns_of_finish (finished : (toks.peek i).isFinish = true) : toks.turns i = false :=
  Inset.turns_of_kind (eq_of_beq finished) rfl

/-- Behind its first token no line begins on a line. -/
theorem beginsLine_within {k : Nat} (behind : i < k) (within : k ≤ toks.lineEnd i) :
    toks.beginsLine k = false := by
  cases k with
  | zero => cases behind
  | succ k =>
      rw [beginsLine, lineBefore, bne_eq_false_iff_eq,
        line_of_le_lineEnd (i := i) (by omega) within,
        line_of_le_lineEnd (i := i) (by omega) (Nat.le_of_succ_le within)]

/-- Behind a line another one begins, unless the script ends. -/
theorem beginsLine_lineEnd (unfinished : (toks.peek (toks.lineEnd i + 1)).isFinish = false) :
    toks.beginsLine (toks.lineEnd i + 1) = true := by
  rcases toks.lineEnd_stop i with finished | other
  · rw [unfinished] at finished
    cases finished
  · rw [beginsLine, lineBefore, line_of_le_lineEnd (toks.le_lineEnd i) (Nat.le_refl _)]
    exact bne_iff_ne.mpr other

namespace Bracketed

variable (bracketed : toks.Bracketed)
include bracketed

theorem turns_within {k : Nat} (behind : i < k) (within : k ≤ toks.lineEnd i) :
    toks.turns k = false := by
  cases turning : toks.turns k with
  | false => rfl
  | true =>
      have begins := bracketed.heads k turning
      rw [beginsLine_within behind within] at begins
      cases begins

/-- A line changes nothing behind its first word. -/
theorem unclosed_lineEnd : toks.unclosed (toks.lineEnd i + 1) = toks.unclosed (i + 1) :=
  unclosed_stretch (Nat.succ_le_succ (le_lineEnd i)) fun _ behind below =>
    bracketed.turns_within behind (Nat.le_of_lt_succ below)

theorem unclosed_outside (outside : toks.size ≤ i) : toks.unclosed i = [] := by
  rcases bracketed.last with ⟨n, size, finished⟩
  rw [← bracketed.closed.ends n (by omega) finished]
  refine unclosed_stretch (by omega) fun k behind _ => ?_
  rcases Nat.eq_or_lt_of_le behind with rfl | further
  · exact turns_of_finish finished
  · refine turns_of_finish ?_
    rw [peek_of_le (by omega)]
    rfl

theorem unclosed_finish (finished : (toks.peek i).isFinish = true) : toks.unclosed i = [] := by
  rcases Nat.lt_or_ge i toks.size with inside | outside
  · exact bracketed.closed.ends i inside finished
  · exact bracketed.unclosed_outside outside

/-- The loops around a token stand left of it. -/
theorem around (clear_ : toks.clear i = true) (unfinished : (toks.peek i).isFinish = false)
    (other : (toks.peek i).isWord .keep = false) :
    ∀ head ∈ toks.unclosed i, (toks.peek head).column < (toks.peek i).column := by
  induction i with
  | zero => exact nofun
  | succ i ih =>
      cases begins : toks.beginsLine (i + 1) with
      | true => exact bracketed.closed.dedents (i + 1) begins unfinished other
      | false =>
          rw [clear, begins, Bool.false_or, Bool.and_eq_true, Bool.not_eq_true'] at clear_
          have further := bracketed.columns i unfinished begins
          rw [unclosed_passes clear_.1]
          intro head open_
          cases finished : (toks.peek i).isFinish with
          | true =>
              rw [bracketed.unclosed_finish finished] at open_
              cases open_
          | false =>
              have keeps := (Bool.or_eq_false_iff.mp clear_.1).2
              exact Nat.lt_trans (ih clear_.2 finished keeps head open_) further

/-! ## Where scans land -/

/-- A scan that has to close some of the open loops ends on the `keep` line that closes the last of
them. -/
theorem afterKeep_lands (inner outer : List Nat) {depth : Nat} (some : 0 < depth)
    (length : inner.length = depth) (open_ : toks.unclosed i = inner ++ outer) :
    toks.unclosed (toks.afterKeep depth i + 1) = outer ∧
      ∃ k, toks.afterKeep depth i = toks.lineEnd k := by
  fun_induction afterKeep toks depth i generalizing inner with
  | case1 depth i inside finished =>
      rw [← peek_of_lt inside] at finished
      rw [bracketed.unclosed_finish finished] at open_
      rw [(List.append_eq_nil_iff.mp open_.symm).1] at length
      cases length
      cases some
  | case2 depth i inside _ opened ih =>
      refine ih (i :: inner) (Nat.succ_pos depth) (congrArg (· + 1) length) ?_
      rw [unclosed_opens opened, open_]
      rfl
  | case3 i inside _ _ keeps =>
      rw [← peek_of_lt inside] at keeps
      refine ⟨?_, i, rfl⟩
      rw [bracketed.unclosed_lineEnd, unclosed_keeps keeps, open_,
        List.drop_append_of_le_length (Nat.le_of_eq length.symm),
        List.drop_eq_nil_of_le (Nat.le_of_eq length), List.nil_append]
  | case4 depth i inside _ _ keeps more ih =>
      rw [← peek_of_lt inside] at keeps
      refine ih (inner.drop 1) (by omega) (by rw [List.length_drop, length]) ?_
      rw [unclosed_keeps keeps, open_, List.drop_append_of_le_length (by omega)]
  | case5 depth i inside _ opened keeps ih =>
      rw [← peek_of_lt inside, Bool.not_eq_true] at keeps
      rw [Bool.not_eq_true] at opened
      refine ih inner some length ?_
      rw [unclosed_passes (Bool.or_eq_false_iff.mpr ⟨opened, keeps⟩), open_]
  | case6 depth i outside =>
      rw [bracketed.unclosed_outside (Nat.le_of_not_lt outside)] at open_
      rw [(List.append_eq_nil_iff.mp open_.symm).1] at length
      cases length
      cases some

/-- A scan over a block ends where just the loops around the block are open. -/
theorem blockEnd_lands (base : Nat) (joins : Bool) (inner outer : List Nat)
    (open_ : toks.unclosed i = inner ++ outer)
    (within : ∀ head ∈ inner, base < (toks.peek head).column)
    (around : ∀ head ∈ outer, (toks.peek head).column < base)
    (begins : (toks.peek i).isFinish = false → toks.beginsLine i = true) :
    toks.unclosed (toks.blockEnd base joins i) = outer ∧
      ((toks.peek (toks.blockEnd base joins i)).isFinish = false →
        toks.beginsLine (toks.blockEnd base joins i) = true) := by
  have none (empty : inner = []) : toks.unclosed i = outer := by rw [open_, empty, List.nil_append]
  fun_induction blockEnd toks base joins i generalizing inner with
  | case1 i inside finished =>
      rw [← peek_of_lt inside] at finished
      refine ⟨none ?_, begins⟩
      rw [bracketed.unclosed_finish finished] at open_
      exact (List.append_eq_nil_iff.mp open_.symm).1
  | case2 i inside going dedents =>
      rw [← peek_of_lt inside, Bool.not_eq_true] at going
      rw [← peek_of_lt inside, Bool.and_eq_true, decide_eq_true_eq] at dedents
      refine ⟨none ?_, begins⟩
      cases inner with
      | nil => rfl
      | cons head rest =>
          have right := within head List.mem_cons_self
          exfalso
          cases keeps : (toks.peek i).isWord .keep with
          | true =>
              rcases bracketed.aligned i keeps with ⟨first, others, first_, column⟩
              cases first_.symm.trans open_
              omega
          | false =>
              have left := bracketed.closed.dedents i (begins going) going keeps head
                (by rw [open_]; exact List.mem_cons_self)
              omega
  | case3 i inside going indented ih =>
      rw [← peek_of_lt inside, Bool.not_eq_true] at going
      rw [← peek_of_lt inside] at indented
      -- A word that opens or closes a loop does not join its line to the block.
      have right (turning : toks.turns i = true) : base < (toks.peek i).column := by
        refine Nat.lt_of_not_le fun left => indented ?_
        have single : (toks.peek i).isSymbol .ampersand = false := by
          cases symbol : (toks.peek i).isSymbol .ampersand with
          | false => rfl
          | true =>
              rw [Inset.turns_of_kind (eq_of_beq symbol) rfl] at turning
              cases turning
        rw [single, Bool.and_false, Bool.not_false, Bool.and_true]
        exact decide_eq_true left
      suffices step : ∃ next, toks.unclosed (i + 1) = next ++ outer ∧
          ∀ head ∈ next, base < (toks.peek head).column by
        rcases step with ⟨next, behind, deeper⟩
        rw [← bracketed.unclosed_lineEnd] at behind
        exact ih next behind deeper beginsLine_lineEnd fun empty => by
          rw [behind, empty, List.nil_append]
      cases opened : toks.opensLoop i with
      | true =>
          refine ⟨i :: inner, by rw [unclosed_opens opened, open_]; rfl, fun head member => ?_⟩
          rcases List.mem_cons.mp member with rfl | member
          · exact right (by rw [turns, opened, Bool.true_or])
          · exact within head member
      | false =>
          cases keeps : (toks.peek i).isWord .keep with
          | true =>
              rcases bracketed.aligned i keeps with ⟨first, others, first_, column⟩
              have deeper := right (by rw [turns, keeps, Bool.or_true])
              cases inner with
              | nil =>
                  have left := around first (by
                    rw [← none rfl, first_]
                    exact List.mem_cons_self)
                  omega
              | cons head rest =>
                  exact ⟨rest, by rw [unclosed_keeps keeps, open_]; rfl, fun head member =>
                    within head (List.mem_cons_of_mem _ member)⟩
          | false =>
              exact ⟨inner, by rw [unclosed_passes (Bool.or_eq_false_iff.mpr ⟨opened, keeps⟩), open_],
                within⟩
  | case4 i outside =>
      refine ⟨none ?_, begins⟩
      rw [bracketed.unclosed_outside (Nat.le_of_not_lt outside)] at open_
      exact (List.append_eq_nil_iff.mp open_.symm).1

end Bracketed

/-! ## Tracking a walk -/

/-- The loops that a walk has open are those that are open on the page. -/
structure Tracks (toks : TokenStream) (spot : Spot) : Prop where
  frames : spot.2.loops.map LoopFrame.resume = (toks.unclosed spot.1).map (toks.lineEnd · + 1)
  clear : (toks.peek spot.1).isFinish = false → toks.clear spot.1 = true

variable {m after : Machine} {j : Nat}

/-- Tokens that neither open nor close a loop are passed without loops to be opened or closed. -/
theorem Tracks.onward (tracks : Tracks toks (i, m))
    (unfinished : (toks.peek i).isFinish = false) (ahead : i ≤ j)
    (plain : ∀ k, i ≤ k → k < j → toks.turns k = false) (loops : after.loops = m.loops) :
    Tracks toks (j, after) where
  frames := by
    dsimp only
    rw [loops, unclosed_stretch ahead plain]
    exact tracks.frames
  clear _ := clear_stretch ahead plain (tracks.clear unfinished)

namespace Bracketed

variable (bracketed : toks.Bracketed)
include bracketed

/-- What a statement does keeps the run and the page together. -/
theorem tracks_move (tracks : Tracks toks (i, m))
    (unfinished : (toks.peek i).isFinish = false) (move : Move toks i m.loops j after.loops) :
    Tracks toks (j, after) := by
  have frames := tracks.frames
  dsimp only at frames
  generalize before : m.loops = loops at frames move
  generalize behind : after.loops = left at move
  have line {k : Nat} (open_ : left.map LoopFrame.resume =
        (toks.unclosed (toks.lineEnd k + 1)).map (toks.lineEnd · + 1)) :
      Tracks toks (toks.lineEnd k + 1, after) :=
    ⟨by rw [behind]; exact open_, fun going => clear_of_beginsLine (beginsLine_lineEnd going)⟩
  cases move with
  | opens header frame resume =>
      refine line ?_
      rw [bracketed.unclosed_lineEnd, unclosed_opens header, List.map_cons, List.map_cons, resume,
        frames]
  | passes header =>
      rcases bracketed.afterKeep_lands (i := toks.lineEnd i + 1) [i]
        (toks.unclosed i) Nat.one_pos rfl
        (by rw [bracketed.unclosed_lineEnd, unclosed_opens header]; rfl) with ⟨open_, k, last⟩
      rw [last] at open_ ⊢
      exact line (by rw [open_, frames])
  | @closes frame rest keeps =>
      refine line ?_
      rw [bracketed.unclosed_lineEnd, unclosed_keeps keeps, List.map_drop, ← frames]
      rfl
  | @returns frame rest keeps again resume =>
      cases open_ : toks.unclosed i with
      | nil => rw [open_] at frames; cases frames
      | cons head others =>
          rw [open_, List.map_cons, List.map_cons, List.cons.injEq] at frames
          rcases unclosed_cons open_ with ⟨-, header, outer⟩
          rw [frames.1, Nat.add_sub_cancel]
          refine line ?_
          rw [bracketed.unclosed_lineEnd, unclosed_opens header, List.map_cons, List.map_cons,
            resume, frames.1, frames.2, outer]
  | @leaves loops depth first some within ahead plain =>
      have stretch := unclosed_stretch (Nat.le_of_lt ahead) plain
      have lengths := congrArg List.length frames
      rw [List.length_map, List.length_map] at lengths
      rcases bracketed.afterKeep_lands (i := first) ((toks.unclosed i).take depth)
        ((toks.unclosed i).drop depth) some (by rw [List.length_take]; omega)
        (by rw [stretch, List.take_append_drop]) with ⟨open_, k, last⟩
      rw [last] at open_ ⊢
      exact line (by rw [open_, List.map_drop, List.map_drop, frames])
  | block joins plain =>
      have keeps : (toks.peek i).isWord .keep = false := (Bool.or_eq_false_iff.mp plain).2
      rcases bracketed.blockEnd_lands (i := toks.lineEnd i + 1) (toks.peek i).column joins
        [] (toks.unclosed i)
        (by rw [bracketed.unclosed_lineEnd, unclosed_passes plain]; rfl) (fun _ none => nomatch none)
        (bracketed.around (tracks.clear unfinished) unfinished keeps) beginsLine_lineEnd
        with ⟨open_, begins⟩
      exact ⟨by dsimp only; rw [behind, open_, frames], fun going => clear_of_beginsLine (begins going)⟩
  | line ahead within plain =>
      refine tracks.onward unfinished (Nat.le_of_lt ahead) (fun k low high => ?_)
        (behind.trans before.symm)
      rcases Nat.eq_or_lt_of_le low with rfl | further
      · exact plain
      · exact bracketed.turns_within further (by omega)
  | onward ahead plain =>
      exact tracks.onward unfinished (Nat.le_of_lt ahead) plain
        (behind.trans before.symm)

/-- In a run whose statements are tidy, the loops that are open in the run are open on the page,
wherever the walk comes to, until it is stopped. -/
theorem tracks_strides {spot : Spot} (empty : m.loops = [])
    (tidy : ∀ from_ to_, Strides toks (0, m) from_ → Stride toks from_ to_ → Tidy toks from_ to_)
    (strides : Strides toks (0, m) spot) : spot.2.isStopped = true ∨ Tracks toks spot := by
  induction strides with
  | refl => exact .inr ⟨by dsimp only; rw [empty]; rfl, fun _ => rfl⟩
  | @tail spot next path stride ih =>
      rcases spot with ⟨i, m⟩
      rcases next with ⟨j, after⟩
      rcases stride.ready with ⟨ready, arrived⟩
      have arrival := arrives toks i m
      rw [arrived] at arrival
      cases arrival with
      | begins inside going calm unfinished asks =>
          rcases ih with stopped | tracks
          · rw [going] at stopped
            cases stopped
          · exact (stride.moves (tidy _ _ path stride) (bracketed.starts i)).imp_right
              (bracketed.tracks_move tracks unfinished)

/-- A walk that comes to the end of its stream without being stopped has no loop open there. -/
theorem exec_closes (steps : Nat) (empty : m.loops = [])
    (tidy : ∀ from_ to_, Strides toks (0, m) from_ → Stride toks from_ to_ → Tidy toks from_ to_)
    (going : (m.exec steps toks 0).isStopped = false) : (m.exec steps toks 0).loops = [] := by
  have enough : (m.exec steps toks 0).exhausted = false := (Bool.or_eq_false_iff.mp going).2
  rcases Machine.exec_strides steps toks 0 m enough with ⟨⟨last, out⟩, path, ends⟩
  dsimp only at ends
  generalize m.exec steps toks 0 = result at going ends
  have arrival := arrives toks last out
  rw [ends] at arrival
  cases arrival with
  | cancelled =>
      rw [Machine.isStopped_stop] at going
      cases going
  | bug =>
      rw [Machine.stopOnBug, Machine.isStopped_stop] at going
      cases going
  | still settled =>
      rcases bracketed.tracks_strides empty tidy path with stopped | tracks
      · rw [going] at stopped
        cases stopped
      · have finished : (toks.peek last).isFinish = true :=
          settled.resolve_left (by rw [going]; exact Bool.false_ne_true)
        have frames := tracks.frames
        rw [bracketed.unclosed_finish finished] at frames
        exact List.map_eq_nil_iff.mp frames

end Bracketed
end TokenStream
end BigScript
