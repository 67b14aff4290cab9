import BigScript.Proofs.Healing.Closure
import BigScript.Proofs.Healing.Tracking

/-!
# Healing writes brackets

Healing and running decide separately what belongs to a line.  A loop is healed by a `keep` that bears
the line of its header; the run takes it for a statement of its own only if the token in front of it
bears another line.  So it does where the body of each loop has a line: then healing closes a loop only
behind a line that is not the header's, and two loops that are closed together have headers on two
lines.  With the `keep` lines that are written already, the result is laid out like brackets.
-/

namespace BigScript
namespace Heal

open Scan

/-- Whether the line under the header of a loop belongs to the loop: it begins right of the header, or
with `keep`.  The rest of the current line stands in front of it. -/
def Body (opener : Token) (line : Nat) (rest : List Token) : Prop :=
  ∃ u, rest.find? (fun u => u.isFinish || u.line != line) = some u ∧
    (u.isWord .keep = true ∨ u.isFinish = false ∧ opener.column < u.column)

/-- What is asked of the tokens of a script that is to be healed. -/
structure Fit (line : Nat) (_ : List Token) (t : Token) (rest : List Token) : Prop where
  head : t.isWord .keep = true ∨ opens t rest = true → t.line ≠ line
  start : t.isWord .start = true → opens t rest = true
  written : t.isWord .keep = true → t.span ≠ 0
  last : rest = [] → t.isFinish = true

/-- A loop that opens at a token has a body. -/
def HasBody (_ : Nat) (_ : List Token) (t : Token) (rest : List Token) : Prop :=
  opens t rest = true → Body t t.line rest

/-- A `keep` that was written in the script stands below the header of the innermost open loop. -/
def Aligned (_ : Nat) (loops : List Token) (t : Token) (_ : List Token) : Prop :=
  t.isWord .keep = true → t.span ≠ 0 → ∃ o ∈ loops.head?, o.column = t.column

/-- What healing makes of the tokens. -/
structure Laid (line : Nat) (loops : List Token) (t : Token) (rest : List Token) : Prop where
  shut : Shut line loops t rest
  head : t.isWord .keep = true ∨ opens t rest = true → t.line ≠ line
  start : t.isWord .start = true → opens t rest = true
  below : t.isWord .keep = true → ∃ o ∈ loops.head?, o.column = t.column
  right : ∀ u ∈ rest.head?, u.isFinish = false → u.line = t.line → t.column < u.column
  pair : t.isWord .keep = true → t.span = 0 → ∃ u v others, rest = u :: v :: others ∧
    u.isFinish = false ∧ u.line = t.line ∧ (v.isFinish = true ∨ v.line ≠ t.line)
  last : rest = [] → t.isFinish = true

variable {line : Nat} {t : Token} {loops left rest toks : List Token}

/-! ## The pairs -/

/-- The pairs that close some loops are laid out well if their headers stand on lines of their own. -/
theorem along_laid_closings {closed behind : List Token}
    (lines : closed.Pairwise fun inner outer => outer.line < inner.line)
    (first : ∀ o ∈ closed.head?, o.line ≠ line)
    (apart : ∀ o ∈ closed, t.isFinish = true ∨ t.line ≠ o.line)
    (tail : ∀ after, (closed = [] → after = line) → (after = line ∨ ∃ o ∈ closed, after = o.line) →
      Along Laid after left (t :: behind)) :
    Along Laid line (closed ++ left) (closed.flatMap closing ++ t :: behind) := by
  induction closed generalizing line with
  | nil => exact tail line (fun _ => rfl) (.inl rfl)
  | cons o closed ih =>
      have next : ∃ v others, closed.flatMap closing ++ t :: behind = v :: others ∧
          (v.isFinish = true ∨ v.line ≠ o.line) := by
        cases closed with
        | nil => exact ⟨t, behind, rfl, apart o List.mem_cons_self⟩
        | cons other closed =>
            have lower : other.line < o.line := List.rel_of_pairwise_cons lines List.mem_cons_self
            exact ⟨keepFor other, _, rfl, .inr (Nat.ne_of_lt lower)⟩
      rcases next with ⟨v, others, next, other⟩
      have keeps : Laid line (o :: closed ++ left) (keepFor o)
          (turnsFor o :: (closed.flatMap closing ++ t :: behind)) := {
        shut := ⟨nofun, fun _ _ => nofun⟩
        head := fun _ => first o rfl
        start := nofun
        below := fun _ => ⟨o, rfl, rfl⟩
        right := fun u second _ _ => by
          cases Option.some.inj second
          exact Nat.lt_add_of_pos_right (by decide)
        pair := fun _ _ => ⟨turnsFor o, v, others, by rw [next], rfl, rfl, other⟩
        last := nofun }
      have turns : Laid o.line (closed ++ left) (turnsFor o) (closed.flatMap closing ++ t :: behind) := {
        shut := ⟨nofun, fun begins => absurd rfl begins⟩
        head := fun word => by rcases word with word | word <;> cases word
        start := nofun
        below := nofun
        right := fun u second going same => by
          rw [next] at second
          cases Option.some.inj second
          rcases other with finished | other
          · rw [going] at finished
            cases finished
          · exact absurd same other
        pair := nofun
        last := fun empty => by rw [next] at empty; cases empty }
      refine ⟨keeps, turns, ih lines.of_cons (fun other member => Nat.ne_of_lt ?_)
        (fun o member => apart o (List.mem_cons_of_mem _ member)) fun after same from_ => ?_⟩
      · exact List.rel_of_pairwise_cons lines (List.mem_of_mem_head? member)
      · refine tail after nofun (.inr ?_)
        rcases from_ with rfl | ⟨other, member, rfl⟩
        · exact ⟨o, List.mem_cons_self, rfl⟩
        · exact ⟨other, List.mem_cons_of_mem _ member, rfl⟩

/-! ## The pass -/

/-- What the pass meets with at each token of a script in which every loop has a body. -/
structure Awaits (line : Nat) (loops toks : List Token) : Prop where
  order : InSequence toks
  lower : ∀ t ∈ toks, t.isFinish = false → line ≤ t.line
  stacked : Stacked line loops toks
  lines : loops.Pairwise fun inner outer => outer.line < inner.line
  within : ∀ o ∈ loops, o.line ≤ line
  body : ∀ o ∈ loops.head?, o.line = line → Body o line toks
  fits : ∃ read, Along Fit line read toks
  bodies : ∃ read, Along HasBody line read toks
  apart : ∃ read, Along KeepApart line read toks

namespace Awaits

/-- The first loop that is closed in front of a token was not opened on the current line. -/
theorem first_closed (awaits : Awaits line loops (t :: rest)) {closed : List Token}
    (closes : closed <+: loops) (here : t.isFinish = true ∨ closed = closedAt line t loops) :
    ∀ o ∈ closed.head?, o.line ≠ line := by
  intro o first same
  have top : o ∈ loops.head? := by
    rcases closes with ⟨left, rfl⟩
    cases closed with
    | nil => cases first
    | cons => exact first
  rcases awaits.body o top same with ⟨u, found, under⟩
  rcases here with finished | rfl
  · rw [List.find?_cons, finished, Bool.true_or] at found
    cases Option.some.inj found
    rcases under with keeps | ⟨going, -⟩
    · rw [Token.isWord, eq_of_beq finished] at keeps
      cases keeps
    · rw [finished] at going
      cases going
  · have some : closedAt line t loops ≠ [] := fun empty => by rw [empty] at first; cases first
    rcases begins_of_closedAt some with ⟨begins, other⟩
    rw [List.find?_cons, bne_iff_ne.mpr begins, Bool.or_true] at found
    cases Option.some.inj found
    rcases under with keeps | ⟨-, deeper⟩
    · rw [other] at keeps
      cases keeps
    · refine some ?_
      cases loops with
      | nil => cases top
      | cons inner loops =>
          cases Option.some.inj top
          unfold closedAt closedBy
          rw [List.takeWhile_cons_of_neg (by simpa using deeper), ite_self]

/-- Nothing is inserted on the current line. -/
theorem head_healed (awaits : Awaits line loops toks) :
    ∀ u ∈ (healFrom line loops toks).head?, u.line = line → u ∈ toks.head? := by
  intro u first same
  cases toks with
  | nil => exact first
  | cons t rest =>
      have none {closed behind : List Token} (closes : closed <+: loops)
          (here : t.isFinish = true ∨ closed = closedAt line t loops)
          (first : u ∈ (closed.flatMap closing ++ t :: behind).head?) : u ∈ (t :: rest).head? := by
        cases closed with
        | nil => exact first
        | cons o closed =>
            cases Option.some.inj first
            exact absurd same (awaits.first_closed closes here o rfl)
      cases finished : t.isFinish with
      | true =>
          rw [healFrom_finish finished] at first
          exact none (List.prefix_refl loops) (.inl finished) first
      | false =>
          rw [healFrom_token finished] at first
          exact none closedAt_initial (.inr rfl) first

/-- Between the two words of a header nothing is inserted. -/
theorem header_joined (awaits : Awaits line loops (t :: rest)) (left : List Token) :
    opens t (healFrom t.line (openAfter t (opens t rest) left) rest) = opens t rest := by
  refine opens_healed fun starts u next loop => ?_
  rcases awaits.fits with ⟨_, fit, -⟩
  rcases awaits.bodies with ⟨_, body, -⟩
  have opened := fit.start starts
  rw [opened]
  by_cases same : u.line = t.line
  · exact closedAt_of_same same
  · cases rest with
    | nil => cases next
    | cons v rest =>
        cases Option.some.inj next
        rcases body opened with ⟨w, found, under⟩
        rw [List.find?_cons, bne_iff_ne.mpr same, Bool.or_true] at found
        cases Option.some.inj found
        rcases under with keeps | ⟨-, deeper⟩
        · rw [Token.isWord, eq_of_beq loop] at keeps
          cases keeps
        · unfold closedAt closedBy openAfter
          rw [if_pos rfl, List.takeWhile_cons_of_neg (by simpa using deeper), ite_self]

theorem step (awaits : Awaits line loops (t :: rest)) (unfinished : t.isFinish = false) :
    Awaits t.line (openAfter t (opens t rest) (loops.drop (closedAt line t loops).length)) rest := by
  rcases awaits.fits with ⟨_, fit, fits⟩
  rcases awaits.bodies with ⟨_, body, bodies⟩
  rcases awaits.apart with ⟨_, apart, aparts⟩
  have stacked := awaits.stacked.step awaits.order apart
  have below : line ≤ t.line := awaits.lower t List.mem_cons_self unfinished
  generalize remains : loops.drop (closedAt line t loops).length = left at stacked
  have suffix : left <:+ loops := remains ▸ List.drop_suffix _ _
  have lines : left.Pairwise fun inner outer => outer.line < inner.line :=
    awaits.lines.sublist suffix.sublist
  have within : ∀ o ∈ left, o.line ≤ line := fun o member => awaits.within o (suffix.mem member)
  refine ⟨awaits.order.tail, fun u member going => ?lower, stacked, ?lines, ?within, ?body,
    ⟨_, fits⟩, ⟨_, bodies⟩, ⟨_, aparts⟩⟩
  case lower =>
    have before := (List.rel_of_pairwise_cons awaits.order member).2 going
    unfold Place.Before Token.place at before
    dsimp only at before
    omega
  case lines =>
    unfold openAfter
    split
    · rename_i opened
      have begins := fit.head (.inr opened)
      exact lines.cons fun o member => by
        have higher := within o member
        omega
    · split
      · exact lines.drop
      · exact lines
  case within =>
    intro o member
    unfold openAfter at member
    split at member
    · rcases List.mem_cons.mp member with rfl | member
      · exact Nat.le_refl _
      · exact Nat.le_trans (within o member) below
    · split at member
      · exact Nat.le_trans (within o (List.mem_of_mem_drop member)) below
      · exact Nat.le_trans (within o member) below
  case body =>
    intro o top same
    unfold openAfter at top
    split at top
    · rename_i opened
      cases Option.some.inj top
      exact body opened
    · by_cases begins : t.line = line
      · -- The token continues the line of the header.
        have keeps : t.isWord .keep = false := by
          cases keeps : t.isWord .keep with
          | false => rfl
          | true => exact absurd begins (fit.head (.inl keeps))
        rw [closedAt_of_same begins] at remains
        cases remains
        rw [keeps, if_neg Bool.false_ne_true] at top
        rcases awaits.body o top (same.trans begins) with ⟨u, found, under⟩
        rw [List.find?_cons, unfinished, begins, bne_self_eq_false, Bool.or_self] at found
        exact ⟨u, begins ▸ found, under⟩
      · have higher : o.line ≤ line := by
          split at top
          · exact within o (List.mem_of_mem_drop (List.mem_of_mem_head? top))
          · exact within o (List.mem_of_mem_head? top)
        omega

end Awaits

theorem healFrom_ne_nil (some : toks ≠ []) : healFrom line loops toks ≠ [] := by
  cases toks with
  | nil => exact absurd rfl some
  | cons t rest =>
      cases finished : t.isFinish with
      | true =>
          rw [healFrom_finish finished]
          exact List.append_ne_nil_of_right_ne_nil _ (List.cons_ne_nil _ _)
      | false =>
          rw [healFrom_token finished]
          exact List.append_ne_nil_of_right_ne_nil _ (List.cons_ne_nil _ _)

/-- What holds along a list holds behind the pairs that it begins with. -/
theorem Along.behind_closings {holds : Nat → List Token → Token → List Token → Prop}
    {closed behind : List Token}
    (along : Along holds line (closed ++ left) (closed.flatMap closing ++ behind)) :
    ∃ after, (closed = [] → after = line) ∧ Along holds after left behind := by
  induction closed generalizing line with
  | nil => exact ⟨line, fun _ => rfl, along⟩
  | cons o closed ih =>
      rcases ih along.2.2 with ⟨after, -, further⟩
      exact ⟨after, nofun, further⟩

/-- A token of the script is laid out well behind what it closes. -/
theorem Awaits.laid (awaits : Awaits line loops (t :: rest)) (unfinished : t.isFinish = false)
    {after : Nat} (from_ : after = line ∨ ∃ o ∈ closedAt line t loops, after = o.line)
    (still : closedAt line t loops = [] → after = line)
    (aligned : closedAt line t loops = [] → Aligned line loops t rest) :
    Laid after (loops.drop (closedAt line t loops).length) t
      (healFrom t.line (openAfter t (opens t rest) (loops.drop (closedAt line t loops).length))
        rest) := by
  rcases awaits.fits with ⟨read, fit, -⟩
  have next := awaits.step unfinished
  have joined := awaits.header_joined (loops.drop (closedAt line t loops).length)
  have below : line ≤ t.line := awaits.lower t List.mem_cons_self unfinished
  have reached : after ≤ line := by
    rcases from_ with rfl | ⟨o, member, rfl⟩
    · exact Nat.le_refl _
    · exact awaits.within o (closedAt_initial.mem member)
  have written (keeps : t.isWord .keep = true) : t.span ≠ 0 := fit.written keeps
  refine ⟨⟨fun finished => ?_, fun begins _ other => ?shut⟩, fun word => ?head, fun starts => ?start,
    fun keeps => ?keep, fun u first going same => ?right, fun keeps none => absurd none (written keeps),
    fun empty => ?last⟩
  · rw [unfinished] at finished
    cases finished
  case shut =>
    refine awaits.stacked.lt (fun continues => begins ?_) other
    exact continues.trans (still (closedAt_of_same continues)).symm
  case head =>
    rw [joined] at word
    have begins := fit.head word
    omega
  case start =>
    rw [joined]
    exact fit.start starts
  case keep =>
    have none : closedAt line t loops = [] := closedAt_of_keep keeps
    rw [none]
    exact aligned none keeps (written keeps)
  case right =>
    have member := List.mem_of_mem_head? (next.head_healed u first same)
    exact awaits.order.right member going same
  case last =>
    refine fit.last (Classical.byContradiction fun some => ?_)
    exact healFrom_ne_nil some empty

/-- Healing a script in which every loop has a body lays out all its loops. -/
theorem along_laid (awaits : Awaits line loops toks)
    (aligned : Along Aligned line loops (healFrom line loops toks)) :
    Along Laid line loops (healFrom line loops toks) := by
  induction toks generalizing line loops with
  | nil => trivial
  | cons t rest ih =>
      cases finished : t.isFinish with
      | true =>
          have ends := awaits.order.ends finished
          have first := awaits.first_closed (List.prefix_refl loops) (.inl finished)
          subst ends
          rw [healFrom_finish finished]
          have kind : t.kind = .finish := eq_of_beq finished
          have other (word : Keyword) : t.isWord word = false := by
            rw [Token.isWord, kind]
            rfl
          have laid (after : Nat) : Laid after [] t [] := {
            shut := ⟨fun _ => ⟨rfl, rfl⟩, fun _ going => by rw [finished] at going; cases going⟩
            head := fun word => by simp [opens, other] at word
            start := fun starts => by rw [other] at starts; cases starts
            below := fun keeps => by rw [other] at keeps; cases keeps
            right := fun _ second => by cases second
            pair := fun keeps => by rw [other] at keeps; cases keeps
            last := fun _ => finished }
          have all : Along Laid line (loops ++ []) (loops.flatMap closing ++ [t]) :=
            along_laid_closings awaits.lines first (fun _ _ => .inl finished) fun after _ _ =>
              ⟨laid after, trivial⟩
          rwa [List.append_nil] at all
      | false =>
          have first := awaits.first_closed closedAt_initial (.inr rfl)
          have closes : closedAt line t loops <+: loops := closedAt_initial
          have lines := awaits.lines.sublist closes.sublist
          have apart : ∀ o ∈ closedAt line t loops, t.isFinish = true ∨ t.line ≠ o.line := by
            intro o member
            have higher := awaits.within o (closedAt_initial.mem member)
            have begins := (begins_of_closedAt (List.ne_nil_of_mem member)).1
            have below : line ≤ t.line := awaits.lower t List.mem_cons_self finished
            exact .inr (by omega)
          have joined := awaits.header_joined (loops.drop (closedAt line t loops).length)
          rw [healFrom_token finished] at aligned ⊢
          have whole : closedAt line t loops ++ loops.drop (closedAt line t loops).length = loops :=
            closedAt_append
          have behind : ∃ after, (closedAt line t loops = [] → after = line) ∧
              Along Aligned after (loops.drop (closedAt line t loops).length) (t :: healFrom t.line
                (openAfter t (opens t rest) (loops.drop (closedAt line t loops).length)) rest) :=
            Along.behind_closings (by rw [whole]; exact aligned)
          rcases behind with ⟨_, -, here, further⟩
          rw [joined] at further
          have laid := along_laid_closings lines first apart fun after still from_ => by
            refine ⟨awaits.laid finished from_ still fun none => ?_, ?_⟩
            · rw [none] at here
              exact here
            · rw [joined]
              exact ih (awaits.step finished) further
          rwa [whole] at laid

/-! ## Lines of their own -/

/-- A `keep` that is inserted at a token does not continue the line in front of it. -/
def Owned (line : Nat) (_ : List Token) (t : Token) (_ : List Token) : Prop :=
  t.isWord .keep = true → t.span = 0 → t.line ≠ line

/-- What does not depend on the loops that are open holds with any loops. -/
theorem Along.anyLoops {holds : Nat → List Token → Token → List Token → Prop}
    {first : List Token} (along : Along holds line first toks)
    (free : ∀ line first second t rest, holds line first t rest → holds line second t rest)
    (second : List Token) : Along holds line second toks := by
  induction toks generalizing line first second with
  | nil => trivial
  | cons t rest ih => exact ⟨free _ _ _ _ _ along.1, ih along.2 _⟩

/-- A loop whose body is missing is closed on the line of its header. -/
theorem along_bodies {read replayed : List Token} (some : toks ≠ []) (order : InSequence toks)
    (fits : Along Fit line read toks) (owned : Along Owned line replayed (healFrom line loops toks)) :
    (∀ o ∈ loops.head?, o.line = line → Body o line toks) ∧
      ∀ others, Along HasBody line others toks := by
  induction toks generalizing line loops replayed read with
  | nil => exact absurd rfl some
  | cons t rest ih =>
      have first {o : Token} {closed behind : List Token}
          (owned : Along Owned line replayed ((o :: closed).flatMap closing ++ behind)) :
          o.line ≠ line := owned.1 rfl rfl
      cases finished : t.isFinish with
      | true =>
          rw [healFrom_finish finished] at owned
          refine ⟨fun o top same => ?_, fun others => ⟨fun opened => ?_, ?_⟩⟩
          · cases loops with
            | nil => cases top
            | cons inner loops =>
                cases Option.some.inj top
                exact absurd same (first owned)
          · rw [unfinished_of_opens opened] at finished
            cases finished
          · rw [order.ends finished]
            trivial
      | false =>
          rcases fits with ⟨fit, fits⟩
          rw [healFrom_token finished] at owned
          have more : rest ≠ [] := fun empty => by
            rw [fit.last empty] at finished
            cases finished
          have anyLoops := owned.anyLoops (fun _ _ _ _ _ holds => holds)
            (closedAt line t loops ++ loops.drop (closedAt line t loops).length)
          rcases Along.behind_closings anyLoops with ⟨_, -, -, behind⟩
          rcases ih more order.tail fits behind with ⟨body, bodies⟩
          refine ⟨fun o top same => ?_, fun others => ⟨fun opened => ?_, bodies _⟩⟩
          · by_cases begins : t.line = line
            · -- The token continues the line of the header.
              have other : opens t rest = false ∧ t.isWord .keep = false := by
                refine ⟨?_, ?_⟩
                · exact Bool.eq_false_iff.mpr fun opened => fit.head (.inr opened) begins
                · exact Bool.eq_false_iff.mpr fun keeps => fit.head (.inl keeps) begins
              have still : openAfter t (opens t rest) (loops.drop (closedAt line t loops).length) =
                  loops := by
                rw [closedAt_of_same begins, openAfter, other.1, other.2]
                rfl
              rw [still] at body
              rcases body o top (same.trans begins.symm) with ⟨u, found, under⟩
              refine ⟨u, ?_, under⟩
              rw [List.find?_cons, finished, begins, bne_self_eq_false, Bool.or_self]
              exact begins ▸ found
            · refine ⟨t, ?_, ?_⟩
              · rw [List.find?_cons, bne_iff_ne.mpr begins, Bool.or_true]
              · cases keeps : t.isWord .keep with
                | true => exact .inl rfl
                | false =>
                    refine .inr ⟨finished, Nat.lt_of_not_le fun left => ?_⟩
                    cases loops with
                    | nil => cases top
                    | cons inner loops =>
                        cases Option.some.inj top
                        have closes : closedAt line t (o :: loops) =
                            o :: closedBy t.column loops := by
                          unfold closedAt closedBy
                          rw [if_pos (by simp [begins, keeps]),
                            List.takeWhile_cons_of_pos (by simpa using left)]
                        rw [closes] at owned
                        exact first owned same
          · rw [openAfter, opened] at body
            exact body t rfl rfl

end Heal
end BigScript