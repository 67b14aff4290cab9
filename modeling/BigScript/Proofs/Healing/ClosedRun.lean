import BigScript.Proofs.Healing.Brackets

/-!
# Runs of healed scripts

A script in which headers and `keep` lines begin their lines is healed so that a run closes its loops
too, if every loop has a body.  `healed_run` says what this rests on: the inserted `keep 1` are lines
of their own exactly where no body is missing.

A header without a body takes the inserted `keep` for the end of its own line.  The run then opens the
loop and never closes it, and a `keep` further down may close it in place of another one.
-/

namespace BigScript

open Heal Scan

namespace TokenStream

variable {toks : TokenStream}

/-- A script in which words that open or close a loop begin a line, and each `keep` that is written
stands below the header of the innermost loop that is open once the script has been healed. -/
structure Regular (toks : TokenStream) : Prop where
  heads : ∀ i < toks.size, toks.turns i = true → toks.beginsLine i = true
  starts : ∀ i < toks.size, toks.kindAt i = .word .start → toks.opensLoop i = true
  aligned : ∀ k < (heal toks).size, ((heal toks).peek k).isWord .keep = true →
    ((heal toks).peek k).span ≠ 0 →
      ((heal toks).unclosed k).head?.map (fun head => ((heal toks).peek head).column) =
        some ((heal toks).peek k).column

/-- The line under the header of each loop belongs to the loop: it begins right of the header, or with
`keep`. -/
def Bodied (toks : TokenStream) : Prop :=
  ∀ i < toks.size, toks.opensLoop i = true →
    (toks.peek (toks.lineEnd i + 1)).isWord .keep = true ∨
      (toks.peek (toks.lineEnd i + 1)).isFinish = false ∧
        (toks.peek i).column < (toks.peek (toks.lineEnd i + 1)).column

instance (toks : TokenStream) : Decidable toks.Regular :=
  decidable_of_iff
    ((∀ i < toks.size, toks.turns i = true → toks.beginsLine i = true) ∧
      (∀ i < toks.size, toks.kindAt i = .word .start → toks.opensLoop i = true) ∧
      ∀ k < (heal toks).size, ((heal toks).peek k).isWord .keep = true →
        ((heal toks).peek k).span ≠ 0 →
          ((heal toks).unclosed k).head?.map (fun head => ((heal toks).peek head).column) =
            some ((heal toks).peek k).column)
    ⟨fun ⟨heads, starts, aligned⟩ => ⟨heads, starts, aligned⟩,
      fun ⟨heads, starts, aligned⟩ => ⟨heads, starts, aligned⟩⟩

instance (toks : TokenStream) : Decidable toks.Bodied :=
  inferInstanceAs (Decidable (∀ i < toks.size, toks.opensLoop i = true →
    (toks.peek (toks.lineEnd i + 1)).isWord .keep = true ∨
      (toks.peek (toks.lineEnd i + 1)).isFinish = false ∧
        (toks.peek i).column < (toks.peek (toks.lineEnd i + 1)).column))

/-- Whether a `keep` stands at an index that was not read from a script: it covers no columns. -/
def inserted (toks : TokenStream) (k : Nat) : Bool :=
  (toks.peek k).isWord .keep && (toks.peek k).span == 0

/-- The first token that is not on a line is the one behind it. -/
theorem find?_line (line i : Nat) :
    (toks.toList.drop i).find? (fun u => u.isFinish || u.line != line) =
      (toks.toList.drop (i + toks.lineRun line i)).head? := by
  rcases Nat.lt_or_ge i toks.size with inside | outside
  · rw [drop_of_lt inside, List.find?_cons]
    unfold lineRun
    rw [dif_pos inside, ← peek_of_lt inside]
    cases (toks.peek i).isFinish || (toks.peek i).line != line with
    | true =>
        change some (toks.peek i) = (toks.toList.drop i).head?
        rw [drop_of_lt inside]
        rfl
    | false =>
        have further := find?_line line (i + 1)
        rwa [if_neg Bool.false_ne_true, ← Nat.add_assoc, Nat.add_right_comm]
  · unfold lineRun
    rw [dif_neg (Nat.not_lt.mpr outside), Nat.add_zero, drop_of_le outside]
    rfl
termination_by toks.size - i

/-- The line under a header, in the stream and in the list of its tokens. -/
theorem body_iff {i : Nat} :
    Body (toks.peek i) (toks.peek i).line (toks.toList.drop (i + 1)) ↔
      (toks.peek (toks.lineEnd i + 1)).isWord .keep = true ∨
        (toks.peek (toks.lineEnd i + 1)).isFinish = false ∧
          (toks.peek i).column < (toks.peek (toks.lineEnd i + 1)).column := by
  have next : (toks.toList.drop (i + 1)).find?
      (fun u => u.isFinish || u.line != (toks.peek i).line) =
      (toks.toList.drop (toks.lineEnd i + 1)).head? := by
    rw [find?_line, Nat.add_right_comm]
    rfl
  unfold Body
  rw [next]
  rcases Nat.lt_or_ge (toks.lineEnd i + 1) toks.size with inside | outside
  · rw [drop_of_lt inside]
    exact ⟨fun ⟨u, found, under⟩ => Option.some.inj found ▸ under, fun under => ⟨_, rfl, under⟩⟩
  · rw [drop_of_le outside, peek_of_le outside]
    refine ⟨fun ⟨u, found, _⟩ => (nomatch found), fun under => ?_⟩
    rcases under with keeps | ⟨going, -⟩
    · cases keeps
    · cases going

/-- A stream of tokens as the scan gives it: in order, with an end, and with reserved words that cover
some columns. -/
structure Scanned (toks : TokenStream) : Prop where
  order : InSequence toks.toList
  ends : ∃ before finish, toks.toList = before ++ [finish] ∧ finish.isFinish = true
  spans : ∀ i < toks.size, (toks.peek i).isWord .keep = true → (toks.peek i).span ≠ 0

theorem scan_scanned (source : String) : (scan source).Scanned where
  order := scan_inSequence source
  ends := scan_ends source
  spans i inside keeps := by
    have member : (scan source).peek i ∈ tokens {} source.toList := by
      change _ ∈ (scan source).toList
      rw [peek_of_lt inside]
      exact Array.getElem_mem_toList inside
    exact Nat.ne_of_gt (word_span member (eq_of_beq keeps))

namespace Scanned

variable (scanned : toks.Scanned)
include scanned

theorem nonempty : toks.toList ≠ [] := by
  rcases scanned.ends with ⟨before, finish, split, -⟩
  rw [split]
  exact List.append_ne_nil_of_right_ne_nil _ (List.cons_ne_nil _ _)

theorem last {i : Nat} (outside : toks.size ≤ i + 1) (inside : i < toks.size) :
    (toks.peek i).isFinish = true := by
  rcases scanned.ends with ⟨before, finish, split, finished⟩
  have here := drop_of_lt inside
  have none : toks.toList.drop (i + 1) = [] := drop_of_le outside
  have length : before.length = i := by
    have size := congrArg List.length split
    simp only [Array.length_toList, List.length_append, List.length_singleton] at size
    omega
  rw [none, split, ← length, List.drop_left] at here
  injection here with same
  rwa [← length, ← same]

theorem before {i j : Nat} (further : i < j) (inside : j < toks.size) :
    (toks.peek i).isFinish = false ∧
      ((toks.peek j).isFinish = false → (toks.peek i).place.Before (toks.peek j).place) := by
  have ordered := List.pairwise_iff_getElem.mp scanned.order i j
    (by simpa using Nat.lt_trans further inside) (by simpa using inside) further
  rwa [Array.getElem_toList, Array.getElem_toList, ← peek_of_lt inside,
    ← peek_of_lt (Nat.lt_trans further inside)] at ordered

theorem line_le {i j : Nat} (ahead : i ≤ j) (unfinished : (toks.peek j).isFinish = false) :
    (toks.peek i).line ≤ (toks.peek j).line := by
  rcases Nat.eq_or_lt_of_le ahead with rfl | further
  · exact Nat.le_refl _
  · have before := (scanned.before further (lt_of_not_finish unfinished)).2 unfinished
    unfold Place.Before Token.place at before
    dsimp only at before
    omega

end Scanned

namespace Regular

variable (regular : toks.Regular) (scanned : toks.Scanned)
include regular scanned

theorem fits : Along Fit 0 [] toks.toList := by
  refine along_iff.mpr fun i inside => ⟨fun word => ?_, fun starts => ?_, scanned.spans i inside,
    fun empty => ?_⟩
  · rw [opens_eq] at word
    refine bne_iff_ne.mp (regular.heads i inside ?_)
    rcases word with keeps | opened
    · rw [turns, keeps, Bool.or_true]
    · rw [turns, opened, Bool.true_or]
  · rw [opens_eq]
    exact regular.starts i inside (eq_of_beq starts)
  · refine scanned.last ?_ inside
    simpa using List.drop_eq_nil_iff.mp empty

/-- Two words that open or close loops do not stand on one line. -/
theorem keepsApart : toks.KeepsApart := by
  intro i j further begins keeps same
  cases opened : toks.opensLoop j with
  | false => rfl
  | true =>
      have unfinished : (toks.peek j).isFinish = false :=
        unfinished_of_opens ((toks.opens_eq j).trans opened)
      have own := regular.heads j (lt_of_not_finish unfinished) (by rw [turns, opened, Bool.true_or])
      cases j with
      | zero => cases further
      | succ j =>
          rw [beginsLine, lineBefore, bne_iff_ne] at own
          have between := (scanned.before (Nat.lt_succ_self j) (lt_of_not_finish unfinished)).1
          have first := scanned.line_le (Nat.le_of_lt_succ further) between
          have second := scanned.line_le (Nat.le_add_right j 1) unfinished
          omega

theorem awaits (bodied : toks.Bodied) : Awaits 0 [] toks.toList where
  order := scanned.order
  lower _ _ _ := Nat.zero_le _
  stacked := ⟨.nil, fun _ _ _ _ _ => nofun⟩
  lines := .nil
  within := nofun
  body := nofun
  fits := ⟨[], regular.fits scanned⟩
  bodies := by
    refine ⟨[], along_iff.mpr fun i inside opened => ?_⟩
    rw [opens_eq] at opened
    exact body_iff.mpr (bodied i inside opened)
  apart := ⟨[], (regular.keepsApart scanned).along⟩

theorem laid (bodied : toks.Bodied) : Along Laid 0 [] (heal toks).toList := by
  have aligned : Along Aligned 0 [] (heal toks).toList := by
    refine along_iff.mpr fun k inside keeps span => ?_
    have column := regular.aligned k inside keeps span
    cases open_ : (heal toks).unclosed k with
    | nil => rw [open_] at column; cases column
    | cons head rest =>
        rw [open_] at column
        exact ⟨_, rfl, Option.some.inj column⟩
  exact along_laid (regular.awaits scanned bodied) aligned

end Regular

/-- Loops that are laid out well in a list are laid out like brackets in the stream. -/
theorem bracketed_of_laid (some : 0 < toks.size) (laid : Along Laid 0 [] toks.toList) :
    toks.Bracketed := by
  have at_ {i : Nat} (inside : i < toks.size) := along_iff.mp laid i inside
  have inside_of_turns {i : Nat} (turning : toks.turns i = true) : i < toks.size := by
    refine lt_of_not_finish (Bool.eq_false_iff.mpr fun finished => ?_)
    rw [turns_of_finish finished] at turning
    cases turning
  refine ⟨loopsClosed_of_along (laid.mono fun _ _ _ _ holds => holds.shut), fun i turning => ?heads,
    fun i starts => ?starts, fun i keeps => ?aligned, fun i going same => ?columns, ?last⟩
  case heads =>
    refine bne_iff_ne.mpr ((at_ (inside_of_turns turning)).head ?_)
    rw [opens_eq]
    exact (Bool.or_eq_true _ _ |>.mp turning).symm
  case starts =>
    have inside : i < toks.size := lt_of_not_finish (by
      unfold Token.isFinish
      unfold kindAt at starts
      rw [starts]
      rfl)
    rw [← opens_eq]
    exact (at_ inside).start (beq_iff_eq.mpr starts)
  case aligned =>
    have inside := inside_of_turns (i := i) (by rw [turns, keeps, Bool.or_true])
    rcases (at_ inside).below keeps with ⟨o, top, column⟩
    cases open_ : toks.unclosed i with
    | nil => rw [open_] at top; cases top
    | cons head rest =>
        rw [open_] at top
        cases Option.some.inj top
        exact ⟨head, rest, rfl, column⟩
  case columns =>
    have inside := lt_of_not_finish going
    have next : toks.peek (i + 1) ∈ (toks.toList.drop (i + 1)).head? := by
      rw [drop_of_lt inside]
      rfl
    rw [beginsLine, bne_eq_false_iff_eq, lineBefore] at same
    exact (at_ (Nat.lt_of_succ_lt inside)).right _ next going same
  case last =>
    refine ⟨toks.size - 1, (Nat.sub_add_cancel some).symm, (at_ (Nat.sub_lt some Nat.one_pos)).last ?_⟩
    exact drop_of_le (by omega)

/-- An inserted pair is a line of two tokens. -/
theorem lineEnd_pair {k : Nat} {u v : Token} {others : List Token}
    (behind : toks.toList.drop (k + 1) = u :: v :: others) (going : u.isFinish = false)
    (same : u.line = (toks.peek k).line) (ends : v.isFinish = true ∨ v.line ≠ (toks.peek k).line) :
    toks.lineEnd k = k + 1 := by
  have inside : k + 1 + 1 < toks.size := by
    have length := congrArg List.length behind
    simp only [List.length_drop, Array.length_toList, List.length_cons] at length
    omega
  rw [drop_of_lt (Nat.lt_of_succ_lt inside), drop_of_lt inside] at behind
  injection behind with first behind
  injection behind with second behind
  have further : toks.lineRun (toks.peek k).line (k + 1 + 1) = 0 := by
    rw [lineRun, dif_pos inside, ← peek_of_lt inside, second, if_pos]
    rw [Bool.or_eq_true, bne_iff_ne]
    exact ends
  rw [lineEnd, lineRun, dif_pos (Nat.lt_of_succ_lt inside), ← peek_of_lt (Nat.lt_of_succ_lt inside),
    first, going, same, bne_self_eq_false, Bool.or_self, if_neg Bool.false_ne_true, further]

/-- The `keep` lines that are inserted are lines of their own only if every loop has a body. -/
theorem Regular.bodied (regular : toks.Regular) (scanned : toks.Scanned)
    (own : ∀ k, (heal toks).inserted k = true → (heal toks).beginsLine k = true) : toks.Bodied := by
  have owned : Along Owned 0 [] (heal toks).toList :=
    along_iff.mpr fun k _ keeps span => bne_iff_ne.mp (own k (by simp [inserted, keeps, span]))
  have bodies := (along_bodies scanned.nonempty scanned.order (regular.fits scanned) owned).2 []
  intro i inside opened
  refine body_iff.mp (along_iff.mp bodies i inside ?_)
  rwa [opens_eq]

/-- A statement goes past a `keep` line only where it leaves out a block or leaves a loop. -/
theorem Bracketed.passes_keep (bracketed : toks.Bracketed) {i j k : Nat} {m after : Machine}
    (tracks : Tracks toks (i, m)) (move : Move toks i m.loops j after.loops) (above : i < k)
    (below : k < j) (keeps : (toks.peek k).isWord .keep = true) :
    (∃ base joins, j = toks.blockEnd base joins (toks.lineEnd i + 1)) ∨
      ∃ depth first, j = toks.afterKeep depth first + 1 := by
  have turning : toks.turns k = true := by rw [turns, keeps, Bool.or_true]
  have behind : toks.lineEnd i < k := by
    refine Nat.lt_of_not_le fun within => ?_
    rw [bracketed.turns_within above within] at turning
    cases turning
  have frames := tracks.frames
  dsimp only at frames
  generalize m.loops = loops at frames move
  generalize after.loops = left at move
  cases move with
  | opens | closes => omega
  | line ahead within => omega
  | passes | leaves => exact .inr ⟨_, _, rfl⟩
  | block joins => exact .inl ⟨_, joins, rfl⟩
  | onward ahead plain =>
      rw [plain k (Nat.le_of_lt above) below] at turning
      cases turning
  | @returns frame rest again_ =>
      -- The first line of the loop is further up.
      cases open_ : toks.unclosed i with
      | nil => rw [open_] at frames; cases frames
      | cons head others =>
          rw [open_, List.map_cons, List.map_cons, List.cons.injEq] at frames
          have higher := (unclosed_cons open_).1
          have word : toks.turns i = true := by rw [turns, again_, Bool.or_true]
          rw [bracketed.turns_within higher (by omega)] at word
          cases word

end TokenStream

open TokenStream

/-- What a healed script has to do with its runs. -/
structure HealedRun (toks : TokenStream) : Prop where
  /-- The inserted `keep 1` begin lines just if every loop has a body. -/
  own : toks.Bodied ↔ ∀ k, (heal toks).inserted k = true → (heal toks).beginsLine k = true
  /-- Then nothing else stands on the line of an inserted `keep 1`. -/
  pair : toks.Bodied → ∀ k, (heal toks).inserted k = true → (heal toks).lineEnd k = k + 1
  /-- A run goes past an inserted `keep 1` only where it leaves out a block or leaves a loop. -/
  passed : toks.Bodied → ∀ m : Machine, m.loops = [] →
    (∀ from_ to_, Strides (heal toks) (0, m) from_ → Stride (heal toks) from_ to_ →
      Tidy (heal toks) from_ to_) →
    ∀ i j before after, Strides (heal toks) (0, m) (i, before) →
      Stride (heal toks) (i, before) (j, after) →
        ∀ k, (heal toks).inserted k = true → i < k → k < j → after.isStopped = true ∨
          (∃ base joins, j = (heal toks).blockEnd base joins ((heal toks).lineEnd i + 1)) ∨
            ∃ depth first, j = (heal toks).afterKeep depth first + 1
  /-- A run that begins without open loops and comes to the end has no loop open. -/
  ends : toks.Bodied → ∀ (steps : Nat) (m : Machine), m.loops = [] →
    (∀ from_ to_, Strides (heal toks) (0, m) from_ → Stride (heal toks) from_ to_ →
      Tidy (heal toks) from_ to_) →
    (m.exec steps (heal toks) 0).isStopped = false → (m.exec steps (heal toks) 0).loops = []

theorem healed_run (source : String) (regular : (scan source).Regular) : HealedRun (scan source) := by
  have scanned := scan_scanned source
  generalize scan source = toks at regular scanned
  have laid (bodied : toks.Bodied) := regular.laid scanned bodied
  have bracketed (bodied : toks.Bodied) : (heal toks).Bracketed := by
    refine bracketed_of_laid (Nat.pos_of_ne_zero fun none => ?_) (laid bodied)
    have empty : heal toks = #[] := Array.eq_empty_of_size_eq_zero none
    exact healFrom_ne_nil scanned.nonempty (congrArg Array.toList empty)
  refine ⟨⟨fun bodied k is => ?own, regular.bodied scanned⟩, fun bodied k is => ?pair,
    fun bodied m empty tidy i j before after reached stride k is above below => ?passed,
    fun bodied steps m empty tidy => (bracketed bodied).exec_closes steps empty tidy⟩
  case own =>
    rw [inserted, Bool.and_eq_true] at is
    exact (bracketed bodied).heads k (by rw [turns, is.1, Bool.or_true])
  case pair =>
    rw [inserted, Bool.and_eq_true, beq_iff_eq] at is
    have inside : k < (heal toks).size := lt_of_not_finish (by
      rw [Token.isFinish, eq_of_beq is.1]
      rfl)
    rcases (along_iff.mp (laid bodied) k inside).pair is.1 is.2 with
      ⟨u, v, others, behind, going, same, ends⟩
    exact lineEnd_pair behind going same ends
  case passed =>
    rcases stride.ready with ⟨ready, arrived⟩
    have arrival := arrives (heal toks) i before
    rw [arrived] at arrival
    cases arrival with
    | begins inside going calm unfinished asks =>
        rw [inserted, Bool.and_eq_true] at is
        rcases (bracketed bodied).tracks_strides empty tidy reached with stopped | tracks
        · rw [going] at stopped
          cases stopped
        · refine (stride.moves (tidy _ _ reached stride) ((bracketed bodied).starts i)).imp_right ?_
          exact fun move => (bracketed bodied).passes_keep tracks move above below is.1

/-- Two loops that are closed by healing, with a statement in each. -/
def nestedLoops : String :=
  "start loop .r.3\n    N = 1\n    start loop .r.2\n        print N\nprint 2"

/-- In a script whose loops have bodies a run ends with no loop open. -/
theorem nestedLoops_ends :
    (scan nestedLoops).Regular ∧ (scan nestedLoops).Bodied ∧
      ((Machine.start {}).exec 40 (heal (scan nestedLoops)) 0).loops = [] := by
  have ⟨regular, bodied, checked, going⟩ :
      (scan nestedLoops).Regular ∧ (scan nestedLoops).Bodied ∧
        tidyFor (heal (scan nestedLoops)) 40 (0, .start {}) = true ∧
          ((Machine.start {}).exec 40 (heal (scan nestedLoops)) 0).isStopped = false := by
    decide +kernel
  refine ⟨regular, bodied, (healed_run nestedLoops regular).ends bodied 40 (.start {}) rfl ?_ going⟩
  exact fun from_ to_ reached stride => tidy_of_tidyFor checked reached stride

/-- A loop whose inner loop has no body. -/
def emptyBody : String :=
  "N = 0\nstart loop .r.3\n    N = N + 1\n    start loop .r.2\nprint N"

/-- The `keep` that is inserted for the inner loop, at index 20, continues the line of its header.
The other one closes the inner loop, and the run ends with the outer one open, after one turn. -/
theorem emptyBody_leavesLoop :
    let toks := heal (scan emptyBody)
    (scan emptyBody).Regular ∧ tidyFor toks 40 (0, .start {}) = true ∧
      toks.inserted 20 = true ∧ toks.beginsLine 20 = false ∧
      ((Machine.start {}).exec 40 toks 0).isStopped = false ∧
      ((Machine.start {}).exec 40 toks 0).loops.length = 1 ∧
      ((Machine.start {}).exec 40 toks 0).output = "1\n" := by
  decide +kernel

end BigScript
