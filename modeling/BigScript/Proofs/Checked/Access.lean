import BigScript.Proofs.Forward.Basic

/-!
# Checked access

The definitions that run read a token with `peek`, which answers outside a stream too, and cut parts
out of a stream wherever the two ends lie.  A program that indexes its tokens directly has no such
answer: it reaches outside the list and comes to grief.  The modules below this one write the
interpreter once more with every direct access made where the interpreter relies on it: an index
`toks[i]?` and a cut `cut?` fail outside the list, and an action that fails has no result.  An access
under a test `j < toks.size` that is written as `toks[j]` needs no check, since Lean asks for the proof.

That nothing reaches outside is then one statement: the checked action and the one that runs agree,
whatever the machine.
-/

namespace BigScript

/-- An action that fails when it reaches outside a list. -/
abbrev Checked (α : Type) := StateT Machine Option α

namespace Checked

/-- An action without an access of its own. -/
def of {α : Type} (act : Act α) : Checked α := fun m => some (act.run m)

/-- The part of a stream from index `first` up to but not including index `stop`. -/
def cut? (toks : TokenStream) (first stop : Nat) : Option TokenStream :=
  if first ≤ stop ∧ stop ≤ toks.size then some (toks.extract first stop) else none

/-- The index before an index. -/
def before? (i : Nat) : Option Nat := if i = 0 then none else some (i - 1)

/-- A checked action that gives what an action gives, and never fails. -/
def Agrees {α : Type} (checked : Checked α) (act : Act α) : Prop :=
  ∀ m : Machine, checked.run m = some (act.run m)

theorem cut?_eq {toks : TokenStream} {first stop : Nat} (order : first ≤ stop)
    (inside : stop ≤ toks.size) : cut? toks first stop = some (toks.extract first stop) :=
  if_pos ⟨order, inside⟩

theorem before?_eq {i : Nat} (positive : 0 < i) : before? i = some (i - 1) :=
  if_neg (Nat.pos_iff_ne_zero.mp positive)

theorem token_eq {toks : TokenStream} {i : Nat} (inside : i < toks.size) :
    toks[i]? = some (toks.peek i) := by
  rw [TokenStream.peek_of_lt inside]
  exact Array.getElem?_eq_getElem inside

theorem unfinished_of_kind {t : Token} {kind : Kind} (stands : (t.kind == kind) = true)
    (other : kind ≠ .finish) : t.isFinish = false :=
  Bool.eq_false_iff.mpr fun finished => other ((eq_of_beq stands).symm.trans (eq_of_beq finished))

/-- Where something other than an end stands there is a token. -/
theorem lt_of_kind {toks : TokenStream} {i : Nat} {kind : Kind}
    (stands : ((toks.peek i).kind == kind) = true) (other : kind ≠ .finish) : i < toks.size :=
  TokenStream.lt_of_not_finish (unfinished_of_kind stands other)

theorem lt_of_symbol {toks : TokenStream} {i : Nat} {symbol : Symbol}
    (stands : (toks.peek i).isSymbol symbol = true) : i < toks.size :=
  lt_of_kind stands nofun

theorem lt_of_word {toks : TokenStream} {i : Nat} {word : Keyword}
    (stands : (toks.peek i).isWord word = true) : i < toks.size :=
  lt_of_kind stands nofun

namespace Agrees

variable {α β : Type}

theorem of (act : Act α) : Agrees (Checked.of act) act := fun _ => rfl

theorem pure (value : α) : Agrees (Pure.pure value) (Pure.pure value) := fun _ => rfl

theorem get : Agrees MonadState.get MonadState.get := fun _ => rfl

theorem modify (change : Machine → Machine) : Agrees (modify change) (modify change) := fun _ => rfl

theorem bind {first : Checked α} {next : α → Checked β} {act : Act α} {rest : α → Act β}
    (firstAgrees : Agrees first act) (nextAgrees : ∀ value, Agrees (next value) (rest value)) :
    Agrees (first >>= next) (act >>= rest) := by
  intro m
  rw [StateT.run_bind, firstAgrees m]
  exact nextAgrees _ _

/-- Sequencing where the answer of the first action is known to have a property. -/
theorem bindYields {first : Checked α} {next : α → Checked β} {act : Act α} {rest : α → Act β}
    {holds : α → Prop} (firstAgrees : Agrees first act) (yields : Yields act holds)
    (nextAgrees : ∀ value, holds value → Agrees (next value) (rest value)) :
    Agrees (first >>= next) (act >>= rest) := by
  intro m
  rw [StateT.run_bind, firstAgrees m]
  exact nextAgrees _ (yields m) _

/-- An access that succeeds goes on with what it finds. -/
theorem given {found? : Option α} {value : α} {next : α → Checked β} {act : Act β}
    (found : found? = some value) (nextAgrees : Agrees (next value) act) :
    Agrees (liftM found? >>= next) act := by
  intro m
  rw [found]
  exact nextAgrees m

theorem found {found? : Option α} {value : α} (found : found? = some value) :
    Agrees (liftM found?) (Pure.pure value) := by
  intro m
  rw [found]
  rfl

theorem ite {condition : Prop} [Decidable condition] {first second : Checked α}
    {act other : Act α} (firstAgrees : condition → Agrees first act)
    (secondAgrees : ¬ condition → Agrees second other) :
    Agrees (if condition then first else second) (if condition then act else other) := by
  split
  · rename_i holds
    exact firstAgrees holds
  · rename_i fails
    exact secondAgrees fails

end Agrees

/-! ## Lines and blocks -/

/-- The index of the last token on the line of the token at an index, which has to be there. -/
def lineEnd? (toks : TokenStream) (i : Nat) : Option Nat := do
  let t ← toks[i]?
  return i + toks.lineRun t.line (i + 1)

/-- The end of a block, looked for from index `j` on.  The first argument bounds the number of lines;
a search that uses it up fails. -/
def blockEnd? (steps : Nat) (toks : TokenStream) (base : Nat) (joins : Bool) (j : Nat) :
    Option Nat :=
  match steps with
  | 0 => none
  | steps + 1 =>
    if j < toks.size then do
      let t ← toks[j]?
      if t.isFinish then return j
      else if t.column ≤ base && !(joins && t.isSymbol .ampersand) then return j
      else blockEnd? steps toks base joins ((← lineEnd? toks j) + 1)
    else return j

/-- The index of the last token of the block headed by the token at an index. -/
def skipBlock? (toks : TokenStream) (i base : Nat) : Option Nat := do
  let stop ← blockEnd? (toks.size + 1) toks base true ((← lineEnd? toks i) + 1)
  before? stop

/-- The index of the last token of the line with which `depth` loops have been closed. -/
def afterKeep? (toks : TokenStream) (depth j : Nat) : Option Nat :=
  if h : j < toks.size then
    if toks[j].isFinish then before? toks.size
    else if toks.opensLoop j then afterKeep? toks (depth + 1) (j + 1)
    else if toks[j].isWord .keep then
      if depth = 1 then lineEnd? toks j else afterKeep? toks (depth - 1) (j + 1)
    else afterKeep? toks depth (j + 1)
  else before? toks.size
termination_by toks.size - j

/-- Whether the test for a pending bug begins at an index, with room for all of its words. -/
def asksForBug? (toks : TokenStream) (i : Nat) : Option Bool :=
  if i + 3 < toks.size then do
    let first ← toks[i]?
    let second ← toks[i + 1]?
    let third ← toks[i + 2]?
    let fourth ← toks[i + 3]?
    return first.isWord .ifWord && second.isWord .any && third.isWord .bug && fourth.isWord .found
  else return false

section Lines

variable {toks : TokenStream} {i j : Nat}

theorem lineEnd?_eq (inside : i < toks.size) : lineEnd? toks i = some (toks.lineEnd i) := by
  unfold lineEnd?
  rw [token_eq inside]
  rfl

theorem add_lineRun_le (line j : Nat) (inside : j ≤ toks.size) :
    j + toks.lineRun line j ≤ toks.size := by
  unfold TokenStream.lineRun
  split
  · split
    · exact inside
    · rename_i further _
      have rest : j + 1 + toks.lineRun line (j + 1) ≤ toks.size :=
        add_lineRun_le line (j + 1) further
      omega
  · exact inside
termination_by toks.size - j

/-- A line ends inside the stream. -/
theorem lineEnd_lt (inside : i < toks.size) : toks.lineEnd i < toks.size := by
  have run : i + 1 + toks.lineRun (toks.peek i).line (i + 1) ≤ toks.size :=
    add_lineRun_le _ (i + 1) inside
  unfold TokenStream.lineEnd
  omega

/-- The search for the end of a block has a step left for every line, since a line has a token. -/
theorem blockEnd?_eq (steps base : Nat) (joins : Bool) (inside : j ≤ toks.size)
    (enough : toks.size < steps + j) :
    blockEnd? steps toks base joins j = some (toks.blockEnd base joins j) := by
  induction steps generalizing j with
  | zero => omega
  | succ steps ih =>
    unfold blockEnd? TokenStream.blockEnd
    split
    · rename_i further
      rw [token_eq further, lineEnd?_eq further, ← TokenStream.peek_of_lt further]
      have line : j ≤ toks.lineEnd j := TokenStream.le_lineEnd j
      have next := ih (lineEnd_lt further) (by omega)
      change (if _ then _ else if _ then _ else _) = _
      split
      · rfl
      · split
        · rfl
        · exact next
    · rfl

theorem skipBlock?_eq (inside : i < toks.size) (base : Nat) :
    skipBlock? toks i base = some (toks.skipBlock i base) := by
  have found := blockEnd?_eq (toks.size + 1) base true (lineEnd_lt inside) (by omega)
  have further : toks.lineEnd i + 1 ≤ toks.blockEnd base true (toks.lineEnd i + 1) :=
    TokenStream.le_blockEnd base true _
  unfold skipBlock? TokenStream.skipBlock
  rw [lineEnd?_eq inside]
  change (blockEnd? _ _ _ _ _ >>= fun stop => before? stop) = _
  rw [found]
  exact before?_eq (Nat.lt_of_lt_of_le (Nat.succ_pos _) further)

theorem afterKeep?_eq (filled : 0 < toks.size) (depth j : Nat) :
    afterKeep? toks depth j = some (toks.afterKeep depth j) := by
  unfold afterKeep? TokenStream.afterKeep
  split
  · rename_i further
    split
    · exact before?_eq filled
    · split
      · exact afterKeep?_eq filled (depth + 1) (j + 1)
      · split
        · split
          · exact lineEnd?_eq further
          · exact afterKeep?_eq filled (depth - 1) (j + 1)
        · exact afterKeep?_eq filled depth (j + 1)
  · exact before?_eq filled
termination_by toks.size - j

theorem asksForBug?_eq (toks : TokenStream) (i : Nat) :
    asksForBug? toks i = some (toks.asksForBug i) := by
  unfold asksForBug? TokenStream.asksForBug TokenStream.kindAt
  split
  · rename_i room
    rw [token_eq (show i < toks.size by omega), token_eq (show i + 1 < toks.size by omega),
      token_eq (show i + 2 < toks.size by omega), token_eq room]
    rfl
  · rename_i short
    rw [TokenStream.peek_of_le (Nat.le_of_not_lt short)]
    exact congrArg some (Bool.and_false _).symm

end Lines

end Checked
end BigScript
