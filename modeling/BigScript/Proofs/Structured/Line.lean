import BigScript.Proofs.Nesting
import BigScript.Proofs.Layout

/-!
# Lines in a script

A line can be looked at alone, as a stream of its own, or where it stands among the other lines of a
script.  `Inset` says of a stream that a line stands in it from an index on, and what may come behind
it.  The scans over tokens that statements make come to the same token in both streams, as long as
they do not leave the line.
-/

namespace BigScript

/-- The tokens of one line. -/
abbrev Line := List Token

namespace Line

/-- The stream that holds nothing but a line. -/
def stream (words : Line) : TokenStream := (words ++ [Token.absent]).toArray

/-- The first token of a line. -/
def first (words : Line) : Token := words.headD Token.absent

/-- The tokens of a line stand on one line of the script, and there are some. -/
structure Whole (words : Line) : Prop where
  some : 0 < words.length
  unfinished : ∀ t ∈ words, t.isFinish = false
  row : ∀ t ∈ words, t.line = words.first.line

instance (words : Line) : Decidable words.Whole :=
  decidable_of_iff
    (0 < words.length ∧ (∀ t ∈ words, t.isFinish = false) ∧ ∀ t ∈ words, t.line = words.first.line)
    ⟨fun ⟨size, unfinished, row⟩ => ⟨size, unfinished, row⟩,
      fun ⟨size, unfinished, row⟩ => ⟨size, unfinished, row⟩⟩

end Line

/-- The classes of token with which a line of a structured script can begin.  The end of the script
counts as one. -/
def Kind.opensLine : Kind → Bool
  | .finish => true
  | .name => true
  | .word k => [Keyword.print, .ifWord, .start, .startLoop, .keep, .stop].contains k
  | _ => false

/-- A line stands in a stream from an index on.  What follows is on other lines. -/
structure Inset (toks : TokenStream) (base : Nat) (words : Line) : Prop
    extends Line.Whole words where
  here : ∀ k (inside : k < words.length), toks.peek (base + k) = words[k]
  behind : ∀ j, base + words.length ≤ j →
    (toks.peek j).isFinish = true ∨ (toks.peek j).line ≠ words.first.line
  next : (toks.peek (base + words.length)).kind.opensLine = true
  fits : base + words.length < toks.size

namespace Line

variable {words : Line} {k : Nat}

theorem stream_size (words : Line) : words.stream.size = words.length + 1 := by
  simp [stream]

theorem stream_peek (inside : k < words.length) : words.stream.peek k = words[k] := by
  have within : k < words.stream.size := by
    rw [stream_size]
    exact Nat.lt_succ_of_lt inside
  rw [TokenStream.peek_of_lt within]
  simp [stream, List.getElem_append_left inside]

theorem stream_peek_of_le (outside : words.length ≤ k) : words.stream.peek k = Token.absent := by
  rcases Nat.eq_or_lt_of_le outside with rfl | further
  · have within : words.length < words.stream.size := by
      rw [stream_size]
      exact Nat.lt_succ_self _
    rw [TokenStream.peek_of_lt within]
    simp [stream]
  · refine TokenStream.peek_of_le ?_
    rw [stream_size]
    exact further

theorem first_eq (some : 0 < words.length) : words.first = words.stream.peek 0 := by
  rw [stream_peek some, first, List.headD_eq_head?_getD, List.head?_eq_getElem?,
    List.getElem?_eq_getElem some]
  rfl

theorem stream_peek_tail (later : 0 < k) (inside : k < words.length) :
    words.stream.peek k ∈ words.tail := by
  rw [stream_peek inside]
  cases words with
  | nil => cases inside
  | cons first rest =>
    rw [List.getElem_cons, dif_neg (Nat.pos_iff_ne_zero.mp later)]
    exact List.getElem_mem _

/-- A token of a class other than that of the end of a script is on the line. -/
theorem lt_of_kind {kind : Kind} (is : ((words.stream.peek k).kind == kind) = true)
    (other : kind ≠ .finish) : k < words.length := by
  refine Nat.lt_of_not_le fun outside => other ?_
  rw [stream_peek_of_le outside] at is
  exact (eq_of_beq is).symm

/-- A line alone stands in a stream as well. -/
theorem Whole.inset (whole : words.Whole) : Inset words.stream 0 words where
  toWhole := whole
  here k inside := by rw [Nat.zero_add, stream_peek inside]
  behind j outside := by
    rw [stream_peek_of_le (by omega)]
    exact .inl rfl
  next := by
    rw [stream_peek_of_le (by omega)]
    rfl
  fits := by
    rw [stream_size]
    omega

end Line

namespace Inset

open Line

variable {toks : TokenStream} {base : Nat} {words : Line}

theorem peek_eq (inset : Inset toks base words) {k : Nat} (inside : k < words.length) :
    toks.peek (base + k) = words.stream.peek k := by
  rw [inset.here k inside, stream_peek inside]

theorem head_eq (inset : Inset toks base words) : toks.peek base = words.first := by
  rw [first_eq inset.some, ← inset.peek_eq inset.some, Nat.add_zero]

theorem unfinished_at (inset : Inset toks base words) {k : Nat} (inside : k < words.length) :
    (words.stream.peek k).isFinish = false := by
  rw [stream_peek inside]
  exact inset.unfinished _ (List.getElem_mem inside)

theorem head_unfinished (inset : Inset toks base words) : (toks.peek base).isFinish = false := by
  rw [inset.head_eq, first_eq inset.some]
  exact inset.unfinished_at inset.some

theorem row_at (inset : Inset toks base words) {k : Nat} (inside : k < words.length) :
    (words.stream.peek k).line = words.first.line := by
  rw [stream_peek inside]
  exact inset.row _ (List.getElem_mem inside)

/-- A line and what follows it cannot be told apart by a class of token with which no line begins. -/
theorem kind_eq (inset : Inset toks base words) (kind : Kind) (inner : kind.opensLine = false)
    {k : Nat} (inside : k ≤ words.length) :
    ((toks.peek (base + k)).kind == kind) = ((words.stream.peek k).kind == kind) := by
  rcases Nat.lt_or_eq_of_le inside with inside | rfl
  · rw [inset.peek_eq inside]
  · rw [stream_peek_of_le (Nat.le_refl _)]
    have other : (toks.peek (base + words.length)).kind ≠ kind := by
      intro same
      rw [← same, inset.next] at inner
      cases inner
    have absent : Token.absent.kind ≠ kind := by
      intro same
      rw [← same] at inner
      cases inner
    rw [beq_eq_false_iff_ne.mpr other, beq_eq_false_iff_ne.mpr absent]

theorem isSymbol_eq (inset : Inset toks base words) (symbol : Symbol) {k : Nat}
    (inside : k ≤ words.length) :
    (toks.peek (base + k)).isSymbol symbol = (words.stream.peek k).isSymbol symbol :=
  inset.kind_eq _ rfl inside

/-- Behind a line there is no symbol on it. -/
theorem joins_eq (inset : Inset toks base words) (symbol : Symbol) {i : Nat}
    (inside : i < words.length) (j : Nat) :
    ((toks.peek (base + j)).isSymbol symbol &&
        (toks.peek (base + j)).line == (toks.peek (base + i)).line) =
      ((words.stream.peek j).isSymbol symbol &&
        (words.stream.peek j).line == (words.stream.peek i).line) := by
  rw [inset.peek_eq inside, inset.row_at inside]
  rcases Nat.lt_or_ge j words.length with within | outside
  · rw [inset.peek_eq within]
  · rw [stream_peek_of_le outside]
    rcases inset.behind (base + j) (Nat.add_le_add_left outside base) with finished | other
    · rw [Token.isSymbol_of_finish finished]
      rfl
    · rw [beq_eq_false_iff_ne.mpr other, Bool.and_false]
      rfl

theorem onLine_eq (inset : Inset toks base words) {i : Nat} (inside : i < words.length) (j : Nat) :
    toks.onLine (base + i) (base + j) = words.stream.onLine i j := by
  unfold TokenStream.onLine
  rw [inset.peek_eq inside, inset.row_at inside]
  rcases Nat.lt_or_ge j words.length with within | outside
  · rw [inset.peek_eq within]
  · rw [stream_peek_of_le outside]
    rcases inset.behind (base + j) (Nat.add_le_add_left outside base) with finished | other
    · rw [finished]
      rfl
    · rw [beq_eq_false_iff_ne.mpr other, Bool.and_false]
      rfl

theorem onLine_iff (inset : Inset toks base words) {i : Nat} (inside : i < words.length) (j : Nat) :
    words.stream.onLine i j = true ↔ j < words.length := by
  unfold TokenStream.onLine
  constructor
  · intro on
    rcases Nat.lt_or_ge j words.length with within | outside
    · exact within
    · rw [stream_peek_of_le outside] at on
      cases on
  · intro within
    rw [inset.unfinished_at within, inset.row_at within, inset.row_at inside, BEq.rfl]
    rfl

theorem slice_eq (inset : Inset toks base words) (i : Nat) {j : Nat} (inside : j ≤ words.length) :
    toks.slice (base + i) (base + j) = words.stream.slice i j := by
  have fits := inset.fits
  have size := stream_size words
  unfold TokenStream.slice
  refine List.ext_getElem ?_ ?_
  · simp only [Array.length_toList, Array.size_extract]
    omega
  · intro k left right
    simp only [Array.length_toList, Array.size_extract] at left right
    simp only [Array.getElem_toList, Array.getElem_extract]
    have within : i + k < words.length := by omega
    have same := inset.peek_eq within
    rw [TokenStream.peek_of_lt (by omega), TokenStream.peek_of_lt (by omega)] at same
    simpa only [Nat.add_assoc] using same

/-! ## Scans along a line -/

theorem lineRun_eq (inset : Inset toks base words) {k : Nat} (inside : k ≤ words.length) :
    toks.lineRun words.first.line (base + k) = words.length - k := by
  have fits := inset.fits
  unfold TokenStream.lineRun
  rw [dif_pos (by omega), ← TokenStream.peek_of_lt (by omega)]
  rcases Nat.lt_or_eq_of_le inside with within | rfl
  · have further := inset.lineRun_eq (k := k + 1) within
    rw [← Nat.add_assoc] at further
    rw [inset.peek_eq within, inset.unfinished_at within, inset.row_at within, bne_self_eq_false]
    simp only [Bool.or_self, Bool.false_eq_true, if_false]
    omega
  · have beyond : ((toks.peek (base + words.length)).isFinish ||
        (toks.peek (base + words.length)).line != words.first.line) = true := by
      rw [Bool.or_eq_true, bne_iff_ne]
      exact inset.behind _ (Nat.le_refl _)
    rw [if_pos beyond, Nat.sub_self]
termination_by words.length - k

theorem lineEnd_eq (inset : Inset toks base words) {k : Nat} (inside : k < words.length) :
    toks.lineEnd (base + k) + 1 = base + words.length := by
  have run := inset.lineRun_eq (Nat.succ_le_of_lt inside)
  unfold TokenStream.lineEnd
  rw [inset.peek_eq inside, inset.row_at inside, Nat.add_assoc base k 1, run]
  omega

/-- A bracket that is closed on a line is closed by the same token in the whole script. -/
theorem closing_eq (inset : Inset toks base words) {opener closer : Symbol} {depth k : Nat}
    (closed : words.stream.closing opener closer depth k < words.length) :
    toks.closing opener closer depth (base + k) =
      base + words.stream.closing opener closer depth k := by
  have fits := inset.fits
  have size := stream_size words
  have within : k < words.length := Nat.lt_of_le_of_lt (words.stream.le_closing ..) closed
  have here := inset.peek_eq within
  have unfinished := inset.unfinished_at within
  rw [TokenStream.peek_of_lt (by omega), TokenStream.peek_of_lt (by omega)] at here
  rw [TokenStream.peek_of_lt (by omega)] at unfinished
  rw [TokenStream.closing.eq_def toks _ _ _ (base + k), dif_pos (by omega), here, unfinished]
  rw [TokenStream.closing.eq_def words.stream _ _ _ k, dif_pos (by omega), unfinished] at closed ⊢
  simp only [Bool.false_eq_true, if_false] at closed ⊢
  split at closed
  case isTrue opens =>
    rw [if_pos opens, if_pos opens, Nat.add_assoc]
    exact inset.closing_eq closed
  case isFalse other =>
    rw [if_neg other, if_neg other]
    split at closed
    case isTrue closes =>
      rw [if_pos closes, if_pos closes]
      split at closed
      case isTrue outermost => rw [if_pos outermost, if_pos outermost]
      case isFalse nested =>
        rw [if_neg nested, if_neg nested, Nat.add_assoc]
        exact inset.closing_eq closed
    case isFalse inner =>
      rw [if_neg inner, if_neg inner, Nat.add_assoc]
      exact inset.closing_eq closed
termination_by words.length - k

/-- A formula ends with its line at the latest. -/
theorem formulaRun_eq (inset : Inset toks base words) {k : Nat} (inside : k ≤ words.length) :
    toks.formulaRun words.first.line (base + k) = words.stream.formulaRun words.first.line k ∧
      words.stream.formulaRun words.first.line k ≤ words.length - k := by
  have fits := inset.fits
  have size := stream_size words
  rw [TokenStream.formulaRun.eq_def toks _ (base + k), dif_pos (by omega),
    ← TokenStream.peek_of_lt (by omega)]
  rw [TokenStream.formulaRun.eq_def words.stream _ k, dif_pos (by omega),
    ← TokenStream.peek_of_lt (by omega)]
  rcases Nat.lt_or_eq_of_le inside with within | rfl
  · rcases inset.formulaRun_eq (k := k + 1) within with ⟨same, short⟩
    rw [← Nat.add_assoc] at same
    rw [inset.peek_eq within, same]
    split
    · exact ⟨rfl, Nat.zero_le _⟩
    · exact ⟨rfl, by omega⟩
  · rw [stream_peek_of_le (Nat.le_refl _)]
    have beyond : ((toks.peek (base + words.length)).isFinish ||
        (toks.peek (base + words.length)).line != words.first.line) = true := by
      rw [Bool.or_eq_true, bne_iff_ne]
      exact inset.behind _ (Nat.le_refl _)
    rw [beyond, Bool.true_or, if_pos rfl]
    exact ⟨rfl, Nat.zero_le _⟩
termination_by words.length - k

/-- The end of a formula that begins on a line. -/
theorem formulaEnd_eq (inset : Inset toks base words) {k : Nat} (inside : k < words.length) :
    toks.formulaEnd (base + k) = base + words.stream.formulaEnd k ∧
      words.stream.formulaEnd k ≤ words.length := by
  rcases inset.formulaRun_eq (Nat.le_of_lt inside) with ⟨same, short⟩
  unfold TokenStream.formulaEnd
  rw [inset.peek_eq inside, inset.row_at inside, same]
  omega

end Inset
end BigScript
