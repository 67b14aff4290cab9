import BigScript.Proofs.Structured.Reading
import BigScript.Proofs.Structured.Walk

/-!
# Simple lines

A simple line assigns to a variable or prints, and no other statement begins on it.  In a script it
does what it does alone, as long as its operands are given in full: the walk comes to the end of the
line with the machine in which the line alone ends, or it ends on the line for the same reason.
-/

namespace BigScript

/-- The words of the control flow, of scopes, and of blocks that have no meaning in a script. -/
def Keyword.controls : List Keyword :=
  [.run, .addrun, .use, .returnWord, .ifWord, .orWord, .start, .startLoop, .keep, .stop, .stopLoop,
    .step, .set, .update, .global, .on, .pin, .control, .blueprint, .style]

/-- Whether a statement has a word of its own that is of the class. -/
def Kind.beginsStatement (kind : Kind) : Bool :=
  (Keyword.controls.map Kind.word).contains kind ||
    ((Verb.all Statement.idle).lookup kind).isSome

namespace Line

/-- A line that assigns to a variable or prints, with its operands given in full and without the
word of any other statement. -/
structure Simple (words : Line) : Prop extends Whole words, Full words where
  head : words.first.kind = .word .print ∨
    (words.first.kind = .name ∧ (words.stream.peek 1).isSymbol .assign = true)
  single : ∀ t ∈ words.tail, t.kind.beginsStatement = false

instance (words : Line) : Decidable words.Simple :=
  decidable_of_iff
    (words.Whole ∧ words.Full ∧
      (words.first.kind = .word .print ∨
        (words.first.kind = .name ∧ (words.stream.peek 1).isSymbol .assign = true)) ∧
      ∀ t ∈ words.tail, t.kind.beginsStatement = false)
    ⟨fun ⟨whole, full, head, single⟩ => ⟨whole, full, head, single⟩,
      fun ⟨whole, full, head, single⟩ => ⟨whole, full, head, single⟩⟩

/-- The line executed alone. -/
def alone (words : Line) (m : Machine) : Machine := m.exec (words.length + 1) words.stream 0

/-- Alone, an empty line is the end of a stream. -/
theorem alone_nil (m : Machine) : alone [] m = m.settle := by
  have finish : (stream []).peek 0 |>.isFinish := rfl
  rw [alone, List.length_nil, Machine.exec_succ,
    Machine.arrive_of_finish (Nat.zero_lt_one) finish]

/-- Behind the first word of a simple line no statement begins. -/
theorem Simple.behind {words : Line} (simple : words.Simple) {k : Nat} (later : 0 < k) :
    (words.stream.peek k).kind.beginsStatement = false := by
  rcases Nat.lt_or_ge k words.length with inside | outside
  · exact simple.single _ (stream_peek_tail later inside)
  · rw [stream_peek_of_le outside]
    rfl

theorem Simple.word {words : Line} (simple : words.Simple) {k : Nat}
    (other : (words.stream.peek k).kind ≠ .word .print) :
    (words.stream.peek k).kind.beginsStatement = false := by
  cases k with
  | zero =>
    rw [← first_eq simple.some] at other ⊢
    rw [(simple.head.resolve_left other).1]
    rfl
  | succ k => exact simple.behind (Nat.succ_pos k)

end Line

/-! ## Statements along a line -/

section Statements

open Line Inset

variable {toks : TokenStream} {base : Nat} {words : Line} {loops : List LoopFrame}

namespace Verb

/-- Joined values end with their line at the latest. -/
theorem joinedValues_mirrors (inset : Inset toks base words) (full : words.Full) {i k last : Nat}
    (start : i < words.length) (low : i ≤ k) (inside : k ≤ words.length)
    (before : Beside base words i (base + last) last) (steps fewer : Nat)
    (enough : words.length < k + steps) (also : words.length < k + fewer) (text : String) :
    Mirrors loops (Shifted base words i)
      (joinedValues toks (base + i) steps (base + k) (base + last) text)
      (joinedValues words.stream i fewer k last text) := by
  induction steps generalizing k last fewer text with
  | zero => omega
  | succ steps ih =>
    cases fewer with
    | zero => omega
    | succ fewer =>
      unfold joinedValues
      rw [inset.onLine_eq start]
      by_cases within : k < words.length
      · rw [inset.peek_eq within]
        refine .ite Iff.rfl (fun _ => ?_) fun _ => .pure ⟨rfl, before⟩
        refine (Operand.value_mirrors inset full within).bind ?_
        rintro ⟨value, _⟩ ⟨_, next⟩ ⟨same, shift, near, high⟩
        dsimp only at same shift near high
        subst same shift
        have ended : Shifted base words i (text ++ value, base + next) (text ++ value, next) :=
          ⟨rfl, rfl, Nat.le_trans low near, high⟩
        dsimp only
        rw [Nat.add_assoc, Nat.add_assoc, inset.isSymbol_eq _ (Nat.succ_le_of_lt high),
          inset.onLine_eq start]
        by_cases joins : ((words.stream.peek (next + 1)).isSymbol .ampersand &&
            words.stream.onLine i (next + 1)) = true
        · have ampersand : next + 1 < words.length := by
            rw [Bool.and_eq_true] at joins
            exact (inset.onLine_iff start _).mp joins.2
          rw [joins, Bool.true_and, Bool.true_and]
          by_cases further : next + 2 < words.length
          · rw [inset.peek_eq further]
            refine .ite Iff.rfl (fun _ => ?_) fun _ => .pure ended
            exact ih (by omega) (Nat.le_of_lt further) ended.beside fewer (by omega) (by omega) _
          · -- Behind an ampersand at the end of the line nothing is joined.
            have done : next + 2 = words.length := by omega
            have out : words.stream.onLine i (next + 2) ≠ true := by
              rw [Ne, inset.onLine_iff start]
              exact further
            rw [stream_peek_of_le (k := next + 2) (Nat.le_of_not_lt further)]
            change Mirrors loops _ _ (pure (text ++ value, next))
            split
            · cases steps with
              | zero => exact .pure ended
              | succ steps =>
                unfold joinedValues
                rw [inset.onLine_eq start, (Bool.not_eq_true _).mp out]
                exact .pure ended
            · exact .pure ended
        · rw [(Bool.not_eq_true _).mp joins]
          exact .pure ended
      · have out : words.stream.onLine i k ≠ true := by
          rw [Ne, inset.onLine_iff start]
          exact within
        rw [(Bool.not_eq_true _).mp out]
        exact .pure ⟨rfl, before⟩

theorem print_mirrors (inset : Inset toks base words) (full : words.Full) {k : Nat}
    (inside : k < words.length) :
    Mirrors loops (Beside base words k) (print toks (base + k)) (print words.stream k) := by
  have fits := inset.fits
  have size := stream_size words
  have update : (toks.peek (base + (k + 1))).isWord .update =
      (words.stream.peek (k + 1)).isWord .update := inset.kind_eq _ rfl (Nat.succ_le_of_lt inside)
  unfold print
  dsimp only
  rw [Nat.add_assoc, update, inset.onLine_eq inside]
  generalize overwrites : ((words.stream.peek (k + 1)).isWord .update &&
    words.stream.onLine k (k + 1)) = replaces
  have read : Mirrors loops (Shifted base words k)
      (joinedValues toks (base + k) (toks.size + 1)
        ((if replaces = true then base + (k + 1) else base + k) + 1)
        (if replaces = true then base + (k + 1) else base + k) "")
      (joinedValues words.stream k (words.stream.size + 1)
        ((if replaces = true then k + 1 else k) + 1) (if replaces = true then k + 1 else k)
        "") := by
    cases replaces with
    | true =>
      rw [Bool.and_eq_true] at overwrites
      have further := (inset.onLine_iff inside _).mp overwrites.2
      exact joinedValues_mirrors inset full inside (by omega) (Nat.succ_le_of_lt further)
        ⟨rfl, Nat.le_succ k, further⟩ _ _ (by omega) (by omega) ""
    | false =>
      exact joinedValues_mirrors inset full inside (Nat.le_succ k) (Nat.succ_le_of_lt inside)
        (.here inside) _ _ (by omega) (by omega) ""
  refine read.bind ?_
  rintro ⟨text, _⟩ ⟨_, last⟩ ⟨same, beside⟩
  dsimp only at same beside ⊢
  subst same
  generalize (if replaces = true then "\r" ++ text else text ++ "\n") = line
  have writes : Mirrors loops Eq (modify (Machine.print line) : Act Unit) _ := .modify fun _ => rfl
  exact writes.bindSame fun _ => .pure beside

end Verb

namespace Statement

theorem assignAt_mirrors (inset : Inset toks base words) (full : words.Full) {k : Nat}
    (inside : k < words.length) (assigns : words.stream.isAssignment k = true) :
    Mirrors loops (fun outer inner => Beside base words k outer.1 inner.1)
      (assignAt toks (base + k)) (assignAt words.stream k) := by
  have assignSign (j : Nat) (sign : (words.stream.peek j).isSymbol .assign = true) :
      j + 1 < words.length :=
    full.complete.follows (lt_of_kind sign nofun) sign rfl
  unfold assignAt
  dsimp only
  rw [Nat.add_assoc, Nat.add_assoc, Nat.add_assoc, inset.peek_eq inside,
    inset.isSymbol_eq .dot (Nat.succ_le_of_lt inside)]
  refine .ite Iff.rfl (fun field => ?_) fun whole => ?_
  · have sign : (words.stream.peek (k + 3)).isSymbol .assign = true := by
      have other : (words.stream.peek (k + 1)).isSymbol .assign = false := by
        rw [Token.isSymbol, eq_of_beq field]
        rfl
      rw [TokenStream.isAssignment, other] at assigns
      simp only [Bool.and_eq_true, Bool.false_and, Bool.false_or] at assigns
      exact assigns.2.1.2
    have last := assignSign _ sign
    rw [inset.peek_eq (k := k + 2) (by omega), inset.peek_eq (k := k + 4) last]
    have beside : Beside base words k (base + (k + 4)) (k + 4) := ⟨rfl, by omega, last⟩
    refine .getBind fun m => ?_
    -- Both streams read the same field of the same map.
    split
    · rename_i updated outer
      split
      · rename_i again inner
        cases outer.symm.trans inner
        exact (Mirrors.modify fun m => m.assign_withLoops loops _ updated).bindSame fun _ =>
          .pure beside
      · rename_i inner
        cases outer.symm.trans inner
    · rename_i outer
      split
      · rename_i again inner
        cases outer.symm.trans inner
      · exact .pure beside
  · have sign : (words.stream.peek (k + 1)).isSymbol .assign = true := by
      rw [TokenStream.isAssignment, (Bool.not_eq_true _).mp whole] at assigns
      simp only [Bool.and_eq_true, Bool.false_and, Bool.or_false] at assigns
      exact assigns.2.1
    have further := assignSign _ sign
    refine .getBind fun m => ?_
    refine (Operand.assigned_mirrors inset full further).bind ?_
    rintro ⟨value, _⟩ ⟨_, last⟩ ⟨same, beside⟩
    dsimp only at same beside
    subst same
    have beside := beside.after (Nat.le_add_right k 2)
    refine .getBind fun after => .ite Iff.rfl (fun _ => .pure beside) fun _ => ?_
    exact (Mirrors.modify fun m => m.assign_withLoops loops _ value).bindSame fun _ => .pure beside

theorem plain_mirrors (inset : Inset toks base words) (full : words.Full) {k : Nat}
    (inside : k < words.length) :
    Mirrors loops (Beside base words k) (plain toks (base + k)) (plain words.stream k) := by
  unfold plain
  rw [inset.isAssignment_eq inside, inset.peek_eq inside]
  refine .ite Iff.rfl (fun assigns => ?_) fun _ => ?_
  · exact (assignAt_mirrors inset full inside assigns).map fun _ _ beside => beside
  refine .ite Iff.rfl (fun _ => ?_) fun _ => .pure (.here inside)
  have outer := inset.lineEnd_eq inside
  have inner := inset.toWhole.inset.lineEnd_eq inside
  rw [Nat.zero_add, Nat.zero_add] at inner
  exact .pure ⟨by omega, by omega, by omega⟩

/-- A token with which no statement begins is left out, unless an assignment begins there. -/
theorem dispatch_plain (run : Runner) {stream : TokenStream} {i : Nat}
    (other : (stream.peek i).kind.beginsStatement = false)
    (apart : ((stream.peek (i + 1)).isWord .blueprint ||
      (stream.peek (i + 1)).isWord .style) = false) :
    dispatch run stream i = if (stream.peek i).kind = .symbol .leftBracket ∨
      (stream.peek i).kind = .symbol .ampersand then pure i else plain stream i := by
  have known : (Verb.all idle).lookup (stream.peek i).kind = none := by
    rw [Kind.beginsStatement, Bool.or_eq_false_iff] at other
    exact Option.not_isSome_iff_eq_none.mp (Bool.not_eq_true _ ▸ other.2)
  have idles : (stream.peek i).kind ≠ .word .attach := by
    intro same
    rw [same] at known
    cases known
  have begins {kind : Kind} (same : (stream.peek i).kind = kind) : kind.beginsStatement ≠ true := by
    rw [← same, other]
    exact Bool.false_ne_true
  unfold dispatch
  split
  · rename_i same; exact absurd rfl (begins same)
  · rename_i same; exact absurd rfl (begins same)
  · rename_i same; exact absurd rfl (begins same)
  rw [lookup_all run idles, known]
  dsimp only
  unfold direct
  split <;> rename_i same <;> try exact absurd rfl (begins same)
  · rw [if_pos (Or.inl same), apart]
    rfl
  · rw [if_pos (Or.inr same)]
  · rename_i noBracket
    rw [if_neg (not_or.mpr ⟨noBracket, same⟩)]

/-- What a simple line does from one of its tokens on. -/
theorem dispatch_mirrors (loops : List LoopFrame) (inset : Inset toks base words)
    (simple : words.Simple) {k : Nat} (inside : k < words.length) :
    Mirrors loops (Beside base words k) (dispatch idle toks (base + k))
      (dispatch idle words.stream k) := by
  have here := inset.peek_eq inside
  by_cases prints : (words.stream.peek k).kind = .word .print
  · have print {stream : TokenStream} {i : Nat} (head : (stream.peek i).kind = .word .print) :
        dispatch idle stream i = Verb.print stream i := by
      unfold dispatch
      rw [head]
      rfl
    rw [print prints, print (here ▸ prints)]
    exact Verb.print_mirrors inset simple.toFull inside
  · have other := simple.word prints
    have next := Nat.succ_le_of_lt inside
    have alone : ((words.stream.peek (k + 1)).isWord .blueprint ||
        (words.stream.peek (k + 1)).isWord .style) = false := by
      have apart (word : Keyword) (among : (Kind.word word).beginsStatement = true) :
          (words.stream.peek (k + 1)).isWord word = false := by
        refine beq_eq_false_iff_ne.mpr fun same => ?_
        rw [← same, simple.behind (Nat.succ_pos k)] at among
        cases among
      rw [apart _ rfl, apart _ rfl]
      rfl
    have whole : ((toks.peek (base + k + 1)).isWord .blueprint ||
        (toks.peek (base + k + 1)).isWord .style) = false := by
      have same (word : Keyword) (inner : (Kind.word word).opensLine = false) :
          (toks.peek (base + k + 1)).isWord word = (words.stream.peek (k + 1)).isWord word :=
        inset.kind_eq _ inner next
      rw [same _ rfl, same _ rfl]
      exact alone
    rw [dispatch_plain idle other alone, dispatch_plain idle (here ▸ other) whole, here]
    exact .ite Iff.rfl (fun _ => .pure (.here inside)) fun _ =>
      plain_mirrors inset simple.toFull inside

/-- A simple line runs no other tokens. -/
theorem nested?_plain {stream : TokenStream} {i : Nat} {m : Machine}
    (other : (stream.peek i).kind = .word .print ∨ (stream.peek i).kind.beginsStatement = false) :
    nested? stream i m = none := by
  have begins {k : Keyword} (same : (stream.peek i).kind = .word k) (silent : k ≠ .print) :
      (Kind.word k).beginsStatement = false := by
    rw [same] at other
    exact other.resolve_left fun print => silent (Kind.word.inj print)
  unfold nested?
  split
  · rename_i same; cases begins same nofun
  · rename_i same; cases begins same nofun
  · rename_i same; cases begins same nofun
  · rename_i same; cases begins same nofun
  · rfl

end Statement

end Statements

/-! ## A line in a script and alone -/

/-- An arrival with other loops open. -/
def Arrival.withLoops (loops : List LoopFrame) : Arrival → Arrival
  | .ends m => .ends (m.withLoops loops)
  | .ready m => .ready (m.withLoops loops)

theorem Machine.settle_withLoops (loops : List LoopFrame) (m : Machine) :
    (m.withLoops loops).settle = m.settle.withLoops loops := by
  unfold settle
  rw [withLoops_isStopped, withLoops_cancellation?]
  split
  · rfl
  · cases m.cancellation? with
    | some reason => exact m.stop_withLoops loops _
    | none => rfl

namespace Inset

open Line Machine Statement

variable {toks : TokenStream} {base : Nat} {words : Line}

theorem asksForBug_eq (inset : Inset toks base words) {k : Nat} (inside : k < words.length) :
    toks.asksForBug (base + k) = words.stream.asksForBug k := by
  unfold TokenStream.asksForBug TokenStream.kindAt
  rw [inset.peek_eq inside, Nat.add_assoc, Nat.add_assoc, Nat.add_assoc,
    inset.kind_eq (.word .any) rfl (Nat.succ_le_of_lt inside)]
  cases any : (words.stream.peek (k + 1)).kind == .word .any with
  | false => simp only [Bool.and_false, Bool.false_and]
  | true =>
    rw [inset.kind_eq (.word .bug) rfl (Nat.succ_le_of_lt (lt_of_kind any nofun))]
    cases bug : (words.stream.peek (k + 2)).kind == .word .bug with
    | false => simp only [Bool.and_false, Bool.false_and]
    | true => rw [inset.kind_eq (.word .found) rfl (Nat.succ_le_of_lt (lt_of_kind bug nofun))]

variable (loops : List LoopFrame)

theorem arrive_eq (inset : Inset toks base words) {k : Nat} (inside : k < words.length)
    (m : Machine) :
    (m.withLoops loops).arrive toks (base + k) = (m.arrive words.stream k).withLoops loops := by
  have fits := inset.fits
  have size := stream_size words
  unfold arrive
  rw [dif_pos (by omega), dif_pos (by omega), ← TokenStream.peek_of_lt, ← TokenStream.peek_of_lt,
    inset.peek_eq inside, inset.asksForBug_eq inside, withLoops_isStopped, withLoops_cancellation?,
    moveTo_withLoops, withLoops_bug, stopOnBug_withLoops, begun_withLoops,
    inset.unfinished_at inside]
  by_cases stopped : m.isStopped = true
  · rw [if_pos stopped, if_pos stopped]
    rfl
  rw [if_neg stopped, if_neg stopped]
  cases m.cancellation? with
  | some reason =>
    dsimp only
    rw [stop_withLoops]
    rfl
  | none =>
    simp only [Bool.false_eq_true, if_false]
    split <;> rfl

/-- What a line does in a script from one of its tokens on, if it is simple. -/
theorem leads (inset : Inset toks base words) (simple : words.Simple) {k : Nat}
    (inside : k ≤ words.length) (steps : Nat) (enough : words.length < k + steps) (m : Machine) :
    ((exec steps words.stream k m).isStopped = true →
        ∃ used, Closes toks used (base + k) (m.withLoops loops)
          ((exec steps words.stream k m).withLoops loops)) ∧
      ((exec steps words.stream k m).isStopped = false →
        ∃ used, Leads toks used (base + k) (m.withLoops loops) (base + words.length)
          ((exec steps words.stream k m).withLoops loops)) := by
  induction steps generalizing k m with
  | zero => omega
  | succ steps ih =>
    rw [exec_succ]
    rcases Nat.lt_or_eq_of_le inside with within | rfl
    · have arrival := inset.arrive_eq loops within m
      have word : (words.stream.peek k).kind = .word .print ∨
          (words.stream.peek k).kind.beginsStatement = false := by
        by_cases prints : (words.stream.peek k).kind = .word .print
        · exact .inl prints
        · exact .inr (simple.word prints)
      cases arrived : m.arrive words.stream k with
      | ends out =>
        rw [arrived] at arrival
        have stopped := arrive_ends_stopped (inset.unfinished_at within) arrived
        refine ⟨fun _ => ⟨1, closes_of_arrive arrival⟩, fun going => ?_⟩
        rw [stopped] at going
        cases going
      | ready ready =>
        rw [arrived] at arrival
        dsimp only
        rw [Statement.nested?_plain word]
        dsimp only
        have here := inset.peek_eq within
        have first := leads_of_arrive arrival (Statement.nested?_plain (here ▸ word))
        have mirrored := Statement.dispatch_mirrors loops inset simple within ready
        rcases mirrored with ⟨⟨shift, low, high⟩, state⟩
        rw [shift, state, Nat.add_assoc] at first
        have rest := ih (k := ((dispatch idle words.stream k).run ready).1 + 1)
          (Nat.succ_le_of_lt high) (by omega) ((dispatch idle words.stream k).run ready).2
        refine ⟨fun stopped => ?_, fun going => ?_⟩
        · rcases rest.1 stopped with ⟨used, closes⟩
          exact ⟨1 + used, first.closes closes⟩
        · rcases rest.2 going with ⟨used, further⟩
          exact ⟨1 + used, first.trans further⟩
    · have finish : (words.stream.peek words.length).isFinish = true := by
        rw [stream_peek_of_le (Nat.le_refl _)]
        rfl
      have size := stream_size words
      rw [arrive_of_finish (by omega) finish]
      dsimp only
      refine ⟨fun stopped => ?_, fun going => ?_⟩
      · have settled := settle_withLoops loops m
        refine ⟨1, closes_of_arrive ?_⟩
        rw [← settled]
        refine arrive_of_settled inset.fits ?_
        rw [settled]
        exact stopped
      · rw [settle_going going]
        exact ⟨0, .refl toks _ _⟩

/-- A simple line does in a script what it does alone. -/
theorem simple_leads (inset : Inset toks base words) (simple : words.Simple) (m : Machine) :
    ((words.alone m).isStopped = true →
        ∃ used, Closes toks used base (m.withLoops loops) ((words.alone m).withLoops loops)) ∧
      ((words.alone m).isStopped = false →
        ∃ used, Leads toks used base (m.withLoops loops) (base + words.length)
          ((words.alone m).withLoops loops)) :=
  inset.leads loops simple (Nat.zero_le _) (words.length + 1) (by omega) m

end Inset
end BigScript
