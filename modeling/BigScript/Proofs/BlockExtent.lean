import BigScript.Proofs.Layout
import BigScript.Proofs.Lexemes
import Mathlib.Order.Bounds.Defs

/-!
# How far a block goes

A branch that is not taken leaves its block out, and so does whatever else stands over a block that is
not for the run.  The scan over the block looks at the first token of each line only: the block goes on
while it stands right of the column of the header, or is an ampersand.

`BlockRun` says what such a block may be without a scan, as a range of indices: the rest of a line and
whole lines below it.  A line is all tokens with its number here.  The scan takes a line to be over
where the number changes, so the two agree if no number comes back, as in every script that is read
from a source (`scan_ordered`).  `block_law` says that the scan finds the longest such range.  That
nothing longer will do follows from what stands behind it.
-/

namespace BigScript

/-- A line that begins with the token belongs to a block under a column. -/
def Token.Continues (base : Nat) (t : Token) : Prop :=
  base < t.column ∨ t.isSymbol .ampersand = true

namespace TokenStream

variable {toks : TokenStream} {i j k base last : Nat}

/-! ## Runs of whole lines -/

/-- The numbers of the lines do not decrease. -/
def Ordered (toks : TokenStream) : Prop :=
  toks.toList.Pairwise fun first second => first.line ≤ second.line

/-- There are tokens from one index up to another, and none of them is the end of a script. -/
def GoesOn (toks : TokenStream) (first last : Nat) : Prop :=
  ∀ k, first ≤ k → k ≤ last → (toks.peek k).isFinish = false

/-- The token at an index is the first one of its line. -/
def HeadsLine (toks : TokenStream) (k : Nat) : Prop :=
  ∀ j < k, (toks.peek j).line ≠ (toks.peek k).line

/-- The rest of the line of the token at index `i` and whole lines below it that belong to a block
under a column, up to the token at index `last`. -/
structure BlockRun (toks : TokenStream) (i base last : Nat) : Prop where
  ahead : i ≤ last
  goesOn : toks.GoesOn i last
  /-- If one token of a line is among them, so is every later one. -/
  whole : ∀ j k, i ≤ j → j ≤ last → toks.GoesOn i k →
    (toks.peek k).line = (toks.peek j).line → k ≤ last
  continues : ∀ k, i < k → k ≤ last → toks.HeadsLine k → (toks.peek k).Continues base

theorem Ordered.line_le (ordered : toks.Ordered) (ahead : j ≤ k) (inside : k < toks.size) :
    (toks.peek j).line ≤ (toks.peek k).line := by
  rcases Nat.eq_or_lt_of_le ahead with rfl | before
  · exact Nat.le_refl _
  · rw [peek_of_lt inside, peek_of_lt (Nat.lt_trans before inside)]
    exact List.pairwise_iff_getElem.mp ordered j k _ _ before

/-- The scan along a line comes to the last token with its number. -/
theorem Ordered.le_lineEnd (ordered : toks.Ordered) (goesOn : toks.GoesOn i k)
    (same : (toks.peek k).line = (toks.peek i).line) : k ≤ toks.lineEnd i := by
  refine Nat.le_of_not_lt fun beyond => ?_
  have line : i ≤ toks.lineEnd i := toks.le_lineEnd i
  have inside : k < toks.size := lt_of_not_finish (goesOn k (by omega) (Nat.le_refl k))
  rcases toks.lineEnd_stop i with finished | other
  · rw [goesOn _ (by omega) (by omega)] at finished
    cases finished
  · have above := ordered.line_le (show i ≤ toks.lineEnd i + 1 by omega) (by omega)
    have below := ordered.line_le (show toks.lineEnd i + 1 ≤ k by omega) inside
    omega

namespace BlockRun

/-- The rest of a line. -/
theorem line (ordered : toks.Ordered) (base : Nat) (unfinished : (toks.peek i).isFinish = false) :
    toks.BlockRun i base (toks.lineEnd i) where
  ahead := toks.le_lineEnd i
  goesOn _ behind within := unfinished_of_le_lineEnd behind within unfinished
  whole _ _ behind within goesOn same :=
    ordered.le_lineEnd goesOn (same.trans (line_of_le_lineEnd behind within))
  continues _ behind within heads :=
    absurd (line_of_le_lineEnd (Nat.le_of_lt behind) within).symm (heads i behind)

/-- One more line. -/
theorem next (run : toks.BlockRun i base last) (ordered : toks.Ordered)
    (unfinished : (toks.peek (last + 1)).isFinish = false)
    (continues : (toks.peek (last + 1)).Continues base) :
    toks.BlockRun i base (toks.lineEnd (last + 1)) := by
  have further : last + 1 ≤ toks.lineEnd (last + 1) := toks.le_lineEnd _
  have ahead := run.ahead
  refine ⟨by omega, ?goesOn, ?whole, ?continues⟩
  case goesOn =>
    intro k behind within
    rcases Nat.lt_or_ge last k with later | before
    · exact unfinished_of_le_lineEnd later within unfinished
    · exact run.goesOn k behind before
  case whole =>
    intro j k behind within goesOn same
    rcases Nat.lt_or_ge last j with later | before
    · rw [line_of_le_lineEnd later within] at same
      exact ordered.le_lineEnd (fun l from_ upTo => goesOn l (by omega) upTo) same
    · have inside := run.whole j k behind before goesOn same
      omega
  case continues =>
    intro k behind within heads
    rcases Nat.lt_trichotomy k (last + 1) with before | rfl | later
    · exact run.continues k behind (Nat.le_of_lt_succ before) heads
    · exact continues
    · exact absurd (line_of_le_lineEnd (Nat.le_of_lt later) within).symm (heads _ later)

/-- Behind a run either the script ends or another line begins. -/
theorem headsLine (run : toks.BlockRun i base last) (ordered : toks.Ordered)
    (unfinished : (toks.peek (last + 1)).isFinish = false) : toks.HeadsLine (last + 1) := by
  have goesOn : toks.GoesOn i (last + 1) := by
    intro k behind within
    rcases Nat.eq_or_lt_of_le within with rfl | before
    · exact unfinished
    · exact run.goesOn k behind (Nat.le_of_lt_succ before)
  -- A token in front of the run is on no line behind the first one of the run.
  have apart (j : Nat) (behind : i ≤ j) (within : j ≤ last) :
      (toks.peek j).line ≠ (toks.peek (last + 1)).line := fun same =>
    Nat.not_succ_le_self last (run.whole j (last + 1) behind within goesOn same.symm)
  intro j before same
  rcases Nat.lt_or_ge j i with front | behind
  · have inside := lt_of_not_finish unfinished
    have ahead := run.ahead
    have above := ordered.line_le (Nat.le_of_lt front) (by omega)
    have below := ordered.line_le (show i ≤ last + 1 by omega) inside
    exact apart i (Nat.le_refl i) run.ahead (by omega)
  · exact apart j behind (Nat.le_of_lt_succ before) same

end BlockRun

/-! ## The scan -/

/-- The scan goes over whole lines that belong to the block. -/
theorem BlockRun.scan (ordered : toks.Ordered) (behind : 0 < j) (run : toks.BlockRun i base (j - 1)) :
    toks.BlockRun i base (toks.blockEnd base true j - 1) := by
  fun_induction blockEnd toks base true j with
  | case1 | case2 | case4 => exact run
  | case3 j inside going belongs ih =>
    rw [← peek_of_lt inside] at going belongs
    have continues : (toks.peek j).Continues base := by
      rcases Nat.lt_or_ge base (toks.peek j).column with right | left
      · exact .inl right
      · exact .inr (by simpa [left] using belongs)
    obtain ⟨last, rfl⟩ : ∃ last, j = last + 1 := ⟨j - 1, by omega⟩
    exact ih (Nat.succ_pos _) (run.next ordered (Bool.eq_false_iff.mpr going) continues)

/-- It stops at the end of the script or at a line that does not belong to the block. -/
theorem blockEnd_stops (toks : TokenStream) (base j : Nat) :
    (toks.peek (toks.blockEnd base true j)).isFinish = true ∨
      ¬ (toks.peek (toks.blockEnd base true j)).Continues base := by
  fun_induction blockEnd toks base true j with
  | case1 j inside finished => exact .inl (peek_of_lt inside ▸ finished)
  | case2 j inside _ left =>
    rw [← peek_of_lt inside] at left
    exact .inr (by simpa [Token.Continues] using left)
  | case3 _ _ _ _ ih => exact ih
  | case4 j outside =>
    rw [peek_of_le (Nat.le_of_not_lt outside)]
    exact .inl rfl

end TokenStream

/-! ## Scripts -/

namespace Scan

theorem line_le_of_tokens {place : Place} {cs : List Char} {t : Token} (member : t ∈ tokens place cs) :
    place.line ≤ t.line := by
  fun_induction tokens place cs with
  | case1 place =>
    cases List.mem_singleton.mp member
    exact Nat.le_refl _
  | case2 place c cs _ ih => exact Nat.le_trans (place.line_le_afterAll [c]) (ih member)
  | case3 place c cs _ _ comment ih => exact Nat.le_trans (place.line_le_afterAll _) (ih member)
  | case4 place c cs _ _ piece ih =>
    rcases List.mem_cons.mp member with rfl | behind
    · exact place.line_le_afterAll _
    · exact Nat.le_trans (place.line_le_afterAll _) (ih behind)

theorem scan_ordered (source : String) : (scan source).Ordered := by
  have ordered (place : Place) (cs : List Char) :
      (tokens place cs).Pairwise fun first second => first.line ≤ second.line := by
    fun_induction tokens place cs with
    | case1 => exact List.pairwise_singleton _ _
    | case2 _ _ _ _ ih | case3 _ _ _ _ _ _ ih => exact ih
    | case4 place c cs _ _ piece ih =>
      refine List.pairwise_cons.mpr ⟨fun t member => ?_, ih⟩
      have within : piece.lead ≤ piece.more + 1 := (readPiece_fits c cs).within
      have lexeme := List.take_append_drop piece.lead ((c :: cs).take (piece.more + 1))
      rw [List.take_take, Nat.min_eq_left within] at lexeme
      have behind := line_le_of_tokens member
      rw [← lexeme, Place.afterAll_append] at behind
      exact Nat.le_trans (Place.line_le_afterAll _ _) behind
  exact ordered {} source.toList

end Scan

/-! ## The law -/

namespace TokenStream

variable {toks : TokenStream} {i : Nat}

/-- What leaving out the block of the token at an index goes over. -/
structure BlockLaw (toks : TokenStream) (i base : Nat) : Prop where
  /-- It comes to the last token of the longest run of lines that belong to the block. -/
  longest : IsGreatest {last | toks.BlockRun i base last} (toks.skipBlock i base)
  /-- Behind it the tokens are over, or the script ends, or a line begins that does not belong to the
  block. -/
  behind : toks.skipBlock i base + 1 = toks.size ∨
    toks.skipBlock i base + 1 < toks.size ∧
      ((toks.peek (toks.skipBlock i base + 1)).isFinish = true ∨
        toks.HeadsLine (toks.skipBlock i base + 1) ∧
          (toks.peek (toks.skipBlock i base + 1)).column ≤ base ∧
          (toks.peek (toks.skipBlock i base + 1)).isSymbol .ampersand = false)

/-- Leaving out a block is exact. -/
theorem block_law (ordered : toks.Ordered) (unfinished : (toks.peek i).isFinish = false) (base : Nat) :
    toks.BlockLaw i base := by
  have run : toks.BlockRun i base (toks.skipBlock i base) :=
    .scan ordered (Nat.succ_pos _) (.line ordered base unfinished)
  have stops := toks.blockEnd_stops base (toks.lineEnd i + 1)
  rw [← skipBlock_succ] at stops
  refine ⟨⟨run, fun last longer => ?longest⟩, ?behind⟩
  case longest =>
    refine Nat.le_of_not_lt fun beyond => ?_
    have ahead := run.ahead
    have going := longer.goesOn (toks.skipBlock i base + 1) (by omega) (by omega)
    refine stops.resolve_left (Bool.eq_false_iff.mp going) ?_
    exact longer.continues _ (by omega) (by omega) (run.headsLine ordered going)
  case behind =>
    have inside : toks.skipBlock i base < toks.size :=
      lt_of_not_finish (run.goesOn _ run.ahead (Nat.le_refl _))
    rcases Nat.eq_or_lt_of_le (Nat.succ_le_of_lt inside) with ended | further
    · exact .inl ended
    · refine .inr ⟨further, ?_⟩
      cases finished : (toks.peek (toks.skipBlock i base + 1)).isFinish with
      | true => exact .inl rfl
      | false =>
        have left := stops.resolve_left (Bool.eq_false_iff.mp finished)
        rw [Token.Continues, not_or, Nat.not_lt, Bool.not_eq_true] at left
        exact .inr ⟨run.headsLine ordered finished, left⟩

end TokenStream

/-- A branch with one line below it, a line that is joined to it, and one that is not. -/
def joinedBranch : String := "if 1 = 2\n    print 1\n\n& print 2\nprint 3"

theorem block_law_joinedBranch :
    (scan joinedBranch).Ordered ∧ ((scan joinedBranch).peek 0).isFinish = false ∧
      (scan joinedBranch).skipBlock 0 1 = 8 ∧ (scan joinedBranch).BlockLaw 0 1 := by
  have ⟨unfinished, last⟩ : ((scan joinedBranch).peek 0).isFinish = false ∧
      (scan joinedBranch).skipBlock 0 1 = 8 := by decide +kernel
  have ordered := Scan.scan_ordered joinedBranch
  exact ⟨ordered, unfinished, last, TokenStream.block_law ordered unfinished 1⟩

end BigScript
