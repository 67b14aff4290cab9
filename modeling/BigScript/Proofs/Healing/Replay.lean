import BigScript.Proofs.Structured.Program
import BigScript.Token.Heal

/-!
# Replaying loops

Which loops are open at a token can be read off from the tokens in front of it: a loop is opened by
its header and closed by `keep`, and by nothing else.  `TokenStream.unclosed` replays a stream in
this way, over indices.

Healing works through a stream as a list.  `Heal.Along` says of a list that something holds at each
of its tokens, given the line in front of the token and the loops that the replay has open there;
`along_iff` reads this off from the indices of a stream.
-/

namespace BigScript

namespace Heal

/-- Whether a loop opens at a token, given the tokens behind it. -/
def opens (t : Token) (rest : List Token) : Bool :=
  (t.isWord .start && rest.head?.any (·.isWord .loop)) || t.isWord .startLoop

theorem kind_of_opens {t : Token} {rest : List Token} (opened : opens t rest = true) :
    t.kind = .word .start ∨ t.kind = .word .startLoop := by
  rcases Bool.or_eq_true _ _ |>.mp opened with long | short
  · exact .inl (eq_of_beq (Bool.and_eq_true _ _ |>.mp long).1)
  · exact .inr (eq_of_beq short)

/-- A token that opens a loop does not close one. -/
theorem not_keep_of_opens {t : Token} {rest : List Token} (opened : opens t rest = true) :
    t.isWord .keep = false := by
  unfold Token.isWord
  rcases kind_of_opens opened with kind | kind <;> rw [kind] <;> rfl

/-- The end of a script does not open a loop. -/
theorem unfinished_of_opens {t : Token} {rest : List Token} (opened : opens t rest = true) :
    t.isFinish = false := by
  unfold Token.isFinish
  rcases kind_of_opens opened with kind | kind <;> rw [kind] <;> rfl

end Heal

namespace TokenStream

open Heal

theorem opens_eq (toks : TokenStream) (i : Nat) :
    opens (toks.peek i) (toks.toList.drop (i + 1)) = toks.opensLoop i := by
  have next : (toks.toList.drop (i + 1)).head?.any (·.isWord .loop) =
      (toks.kindAt (i + 1) == .word .loop) := by
    rcases Nat.lt_or_ge (i + 1) toks.size with inside | outside
    · rw [drop_of_lt inside]
      rfl
    · rw [drop_of_le outside, kindAt, peek_of_le outside]
      rfl
  unfold opens opensLoop
  rw [next]
  rfl

variable (toks : TokenStream)

/-- The line of the token in front of an index.  Lines are counted from one, and in front of a script
stands line zero. -/
def lineBefore : Nat → Nat
  | 0 => 0
  | i + 1 => (toks.peek i).line

/-- Whether a line begins at an index. -/
def beginsLine (i : Nat) : Bool := (toks.peek i).line != toks.lineBefore i

/-- The headers of the loops that are open in front of an index, innermost first. -/
def unclosed : Nat → List Nat
  | 0 => []
  | i + 1 =>
    if toks.opensLoop i then i :: unclosed i
    else if (toks.peek i).isWord .keep then (unclosed i).drop 1
    else unclosed i

/-- No loop is left open: neither at the end of a stream, nor in front of a line that begins at or
left of the loop and is not a `keep` line. -/
structure LoopsClosed : Prop where
  ends : ∀ i < toks.size, (toks.peek i).isFinish = true → toks.unclosed i = []
  dedents : ∀ i, toks.beginsLine i = true → (toks.peek i).isFinish = false →
    (toks.peek i).isWord .keep = false →
      ∀ head ∈ toks.unclosed i, (toks.peek head).column < (toks.peek i).column

variable {toks} {i : Nat}

theorem unclosed_opens (opened : toks.opensLoop i = true) :
    toks.unclosed (i + 1) = i :: toks.unclosed i := by
  rw [unclosed, if_pos opened]

theorem not_keep_of_opensLoop (opened : toks.opensLoop i = true) :
    (toks.peek i).isWord .keep = false :=
  not_keep_of_opens ((toks.opens_eq i).trans opened)

theorem not_opensLoop_of_keep (keeps : (toks.peek i).isWord .keep = true) :
    toks.opensLoop i = false := by
  cases opened : toks.opensLoop i with
  | false => rfl
  | true => rw [not_keep_of_opensLoop opened] at keeps; cases keeps

theorem unclosed_keeps (keeps : (toks.peek i).isWord .keep = true) :
    toks.unclosed (i + 1) = (toks.unclosed i).drop 1 := by
  rw [unclosed, not_opensLoop_of_keep keeps, if_neg Bool.false_ne_true, if_pos keeps]

theorem unclosed_passes (plain : toks.turns i = false) :
    toks.unclosed (i + 1) = toks.unclosed i := by
  rw [turns, Bool.or_eq_false_iff] at plain
  rw [unclosed, plain.1, plain.2]
  rfl

/-- What is open does not change along tokens that neither open nor close a loop. -/
theorem unclosed_stretch {first last : Nat} (ahead : first ≤ last)
    (plain : ∀ k, first ≤ k → k < last → toks.turns k = false) :
    toks.unclosed last = toks.unclosed first := by
  induction ahead with
  | refl => rfl
  | @step last ahead ih =>
      rw [unclosed_passes (plain last ahead (Nat.lt_succ_self last))]
      exact ih fun k behind below => plain k behind (Nat.lt_succ_of_lt below)

/-- An open loop was opened further up, and what is open around it is what was open at its header. -/
theorem unclosed_cons {head : Nat} {rest : List Nat} (found : toks.unclosed i = head :: rest) :
    head < i ∧ toks.opensLoop head = true ∧ rest = toks.unclosed head := by
  induction i using Nat.strongRecOn generalizing head rest with
  | ind i ih =>
      cases i with
      | zero => cases found
      | succ i =>
          have earlier (found : toks.unclosed i = head :: rest) :
              head < i + 1 ∧ toks.opensLoop head = true ∧ rest = toks.unclosed head :=
            have ⟨less, opened, same⟩ := ih i (Nat.lt_succ_self i) found
            ⟨Nat.lt_succ_of_lt less, opened, same⟩
          unfold unclosed at found
          split at found
          case isTrue opened =>
            cases found
            exact ⟨Nat.lt_succ_self _, opened, rfl⟩
          case isFalse =>
            split at found
            case isFalse => exact earlier found
            case isTrue =>
              -- The loop closed here was open above this one, which was thus open at its header.
              cases above : toks.unclosed i with
              | nil => rw [above] at found; cases found
              | cons first others =>
                  rcases ih i (Nat.lt_succ_self i) above with ⟨lower, -, around⟩
                  rw [above, List.drop_one, List.tail_cons, around] at found
                  rcases ih first (Nat.lt_succ_of_lt lower) found with ⟨less, opened, same⟩
                  exact ⟨by omega, opened, same⟩

end TokenStream

/-! ## Replaying lists -/

namespace Heal

/-- Something holds at each token of a list: of the line in front of it, of the loops open there, of
the token itself, and of the tokens behind it. -/
def Along (holds : Nat → List Token → Token → List Token → Prop) :
    Nat → List Token → List Token → Prop
  | _, _, [] => True
  | line, loops, t :: rest =>
    holds line loops t rest ∧ Along holds t.line (openAfter t (opens t rest) loops) rest

theorem Along.mono {holds other : Nat → List Token → Token → List Token → Prop}
    (wider : ∀ line loops t rest, holds line loops t rest → other line loops t rest) {line : Nat}
    {loops toks : List Token} (along : Along holds line loops toks) : Along other line loops toks := by
  induction toks generalizing line loops with
  | nil => trivial
  | cons t rest ih => exact ⟨wider _ _ _ _ along.1, ih along.2⟩

end Heal

namespace TokenStream

open Heal

variable {toks : TokenStream} {i : Nat}

/-- The loops that the replay of a list has open are those of the indices. -/
theorem unclosed_map (toks : TokenStream) (i : Nat) :
    (toks.unclosed (i + 1)).map toks.peek =
      openAfter (toks.peek i) (opens (toks.peek i) (toks.toList.drop (i + 1)))
        ((toks.unclosed i).map toks.peek) := by
  rw [opens_eq, unclosed, openAfter]
  split
  · rfl
  · split
    · exact List.map_drop
    · rfl

/-- What holds along the rest of a stream holds at each of its indices. -/
theorem along_drop {holds : Nat → List Token → Token → List Token → Prop} (i : Nat) :
    Along holds (toks.lineBefore i) ((toks.unclosed i).map toks.peek) (toks.toList.drop i) ↔
      ∀ j, i ≤ j → j < toks.size →
        holds (toks.lineBefore j) ((toks.unclosed j).map toks.peek) (toks.peek j)
          (toks.toList.drop (j + 1)) := by
  rcases Nat.lt_or_ge i toks.size with inside | outside
  · rw [drop_of_lt inside, Along, ← unclosed_map]
    have behind := @along_drop holds (i + 1)
    constructor
    · rintro ⟨here, rest⟩ j ahead below
      rcases Nat.eq_or_lt_of_le ahead with rfl | further
      · exact here
      · exact behind.mp rest j further below
    · intro every
      exact ⟨every i (Nat.le_refl i) inside,
        behind.mpr fun j ahead below => every j (Nat.le_of_succ_le ahead) below⟩
  · rw [drop_of_le outside]
    exact ⟨fun _ j ahead below => absurd (Nat.le_trans outside ahead) (Nat.not_le.mpr below),
      fun _ => trivial⟩
termination_by toks.size - i

theorem along_iff {holds : Nat → List Token → Token → List Token → Prop} :
    Along holds 0 [] toks.toList ↔
      ∀ j < toks.size, holds (toks.lineBefore j) ((toks.unclosed j).map toks.peek) (toks.peek j)
        (toks.toList.drop (j + 1)) :=
  (along_drop 0).trans ⟨fun every j => every j (Nat.zero_le j), fun every j _ => every j⟩

end TokenStream

end BigScript
