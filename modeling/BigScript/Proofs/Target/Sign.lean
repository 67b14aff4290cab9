import BigScript.Proofs.MapStatement

/-!
# Signs of targets

A statement that is meant for a variable or a file names it behind an at sign.  The sign has to stand
behind a gap and directly in front of its target.  A reader that comes to a sign written otherwise
prints one line about it, `Misplaced`, and refuses.

`Heeds` relates an action to the signs it comes to.  A misplaced one among them makes it refuse: the
operands in front of the sign have been computed, the line is printed, and that is all.  Without a
misplaced sign no such line is printed, because nothing with an at sign in it is.  Both halves are
carried through an action along its own choices, as long as it does nothing but compute before it has
come to its last sign.
-/

namespace BigScript

namespace TokenStream

variable {toks : TokenStream} {k : Nat} {line : String}

/-- A sign is misplaced, and the line that is printed about it. -/
inductive Misplaced (toks : TokenStream) (k : Nat) : String → Prop where
  /-- There is no gap between the token in front of the sign and the sign. -/
  | crowded (inside : 0 < k) (sameLine : (toks.peek (k - 1)).line = (toks.peek k).line)
      (close : (toks.peek k).column ≤ (toks.peek (k - 1)).column + (toks.peek (k - 1)).width) :
      Misplaced toks k ("Big Error: Missing space before '@'!" ++
        (" (Line " ++ Number.digitText (toks.peek k).line ++ ")"))
  /-- There is a gap in front of the sign, but the target is not attached to it. -/
  | loose (gap : 0 < k → (toks.peek (k - 1)).line = (toks.peek k).line →
        (toks.peek (k - 1)).column + (toks.peek (k - 1)).width < (toks.peek k).column)
      (apart : (toks.peek (k + 1)).line = (toks.peek k).line →
        (toks.peek (k + 1)).column ≠ (toks.peek k).column + 1) :
      Misplaced toks k
        ("Big Error: The target must be attached directly to '@'. No spaces allowed!" ++
          (" (Line " ++ Number.digitText (toks.peek k).line ++ ")"))

/-- A sign is where it has to be. -/
def Placed (toks : TokenStream) (k : Nat) : Prop := ∀ line, ¬ toks.Misplaced k line

theorem placed_of_attached
    (gap : (toks.peek (k - 1)).column + (toks.peek (k - 1)).width < (toks.peek k).column)
    (line : (toks.peek (k + 1)).line = (toks.peek k).line)
    (attached : (toks.peek (k + 1)).column = (toks.peek k).column + 1) : toks.Placed k := by
  intro _ misplaced
  cases misplaced with
  | crowded _ _ close => omega
  | loose _ apart => exact apart line attached

/-- What is printed about a sign is one line. -/
theorem Misplaced.oneLine (misplaced : toks.Misplaced k line) : '\n' ∉ line.toList := by
  have number : '\n' ∉ (Number.digitText (toks.peek k).line).toList := by
    rw [Number.digitText, String.toList_ofList]
    intro broken
    exact absurd (Nat.isDigit_of_mem_toDigits (by decide) (by decide) broken) (by decide)
  cases misplaced with
  | crowded | loose =>
      simp only [String.toList_append, List.mem_append, not_or]
      exact ⟨by decide, ⟨by decide, number⟩, by decide⟩

theorem Misplaced.checkAt_run (misplaced : toks.Misplaced k line) (m : Machine) :
    (Results.checkAt toks k).run m = (false, m.print (line ++ "\n")) := by
  unfold Results.checkAt
  dsimp only
  cases misplaced with
  | crowded inside sameLine close =>
      rw [if_pos (by simp [inside, sameLine, close])]
      simp only [Act.run_bind, Act.run_modify, Act.run_pure, String.append_assoc]
      rfl
  | loose gap apart =>
      have front : ¬ (0 < k && (toks.peek (k - 1)).line == (toks.peek k).line &&
          (toks.peek k).column ≤ (toks.peek (k - 1)).column + (toks.peek (k - 1)).width) = true := by
        simp only [Bool.and_eq_true, decide_eq_true_eq, beq_iff_eq, not_and, Nat.not_le, and_imp]
        exact gap
      have back : ((toks.peek (k + 1)).line != (toks.peek k).line ||
          (toks.peek (k + 1)).column != (toks.peek k).column + 1) = true := by
        simp only [Bool.or_eq_true, bne_iff_ne]
        exact not_and_or.mp fun attached => apart attached.1 attached.2
      rw [if_neg front, if_pos back]
      simp only [Act.run_bind, Act.run_modify, Act.run_pure, String.append_assoc]
      rfl

theorem Placed.checkAt_run (placed : toks.Placed k) (m : Machine) :
    (Results.checkAt toks k).run m = (true, m) := by
  have gap (inside : 0 < k) (sameLine : (toks.peek (k - 1)).line = (toks.peek k).line) :
      (toks.peek (k - 1)).column + (toks.peek (k - 1)).width < (toks.peek k).column := by
    by_contra close
    exact placed _ (.crowded inside sameLine (Nat.not_lt.mp close))
  have attached : (toks.peek (k + 1)).line = (toks.peek k).line ∧
      (toks.peek (k + 1)).column = (toks.peek k).column + 1 := by
    by_contra apart
    exact placed _ (.loose gap fun sameLine sameColumn => apart ⟨sameLine, sameColumn⟩)
  exact TokenStream.checkAt_run gap attached.1 attached.2 m

/-- The check of a sign fails if the sign is misplaced, whatever the machine is like. -/
theorem checkAt_eq_false_iff (toks : TokenStream) (k : Nat) (m : Machine) :
    ((Results.checkAt toks k).run m).1 = false ↔ ∃ line, toks.Misplaced k line := by
  constructor
  · intro refused
    by_contra placed
    rw [Placed.checkAt_run (not_exists.mp placed) m] at refused
    cases refused
  · rintro ⟨line, misplaced⟩
    rw [misplaced.checkAt_run m]

end TokenStream

/-! ## Readers of targets -/

namespace Results

variable {toks : TokenStream} {j : Nat} {line : String}

theorem targetName?_absent (absent : ¬ (toks.peek j).isSymbol .at = true) (m : Machine) :
    (targetName? toks j).run m = (none, m) := by
  unfold targetName?
  rw [if_neg absent]
  rfl

theorem targetValue?_absent (absent : ¬ (toks.peek j).isSymbol .at = true) (m : Machine) :
    (targetValue? toks j).run m = (none, m) := by
  unfold targetValue?
  rw [if_neg absent]
  rfl

section Sign

variable (sign : (toks.peek j).isSymbol .at = true)
include sign

theorem targetName?_misplaced (misplaced : toks.Misplaced j line) (m : Machine) :
    (targetName? toks j).run m = (none, m.print (line ++ "\n")) := by
  unfold targetName?
  rw [if_pos sign, Act.run_bind, misplaced.checkAt_run]
  rfl

theorem targetValue?_misplaced (misplaced : toks.Misplaced j line) (m : Machine) :
    (targetValue? toks j).run m = (none, m.print (line ++ "\n")) := by
  unfold targetValue?
  rw [if_pos sign, Act.run_bind, misplaced.checkAt_run]
  rfl

theorem targetName?_placed (placed : toks.Placed j) (m : Machine) :
    (targetName? toks j).run m = (some (toks.bracedName (j + 1)), m) := by
  unfold targetName?
  rw [if_pos sign, Act.run_bind, placed.checkAt_run]
  rfl

theorem targetValue?_placed (placed : toks.Placed j) (m : Machine) :
    (targetValue? toks j).run m =
      (some ((Operand.text toks (j + 1)).run m).1, ((Operand.text toks (j + 1)).run m).2) := by
  unfold targetValue?
  rw [if_pos sign, Act.run_bind, placed.checkAt_run]
  rfl

end Sign
end Results

/-! ## Printing without a sign -/

/-- What was printed has no at sign in it. -/
def Signless (before after : Machine) : Prop :=
  ∃ text, '@' ∉ text.toList ∧ after.output = before.output ++ text

namespace Signless

variable {before between after : Machine}

theorem of_output (same : after.output = before.output) : Signless before after :=
  ⟨"", by decide, by rw [same, String.append_empty]⟩

theorem trans (first : Signless before between) (second : Signless between after) :
    Signless before after := by
  rcases first with ⟨text, free, printed⟩
  rcases second with ⟨more, moreFree, further⟩
  refine ⟨text ++ more, ?_, ?_⟩
  · rw [String.toList_append, List.mem_append, not_or]
    exact ⟨free, moreFree⟩
  · rw [further, printed, String.append_assoc]

end Signless

/-- An action that prints no at sign. -/
def Mute {α : Type} (act : Act α) : Prop := ∀ m : Machine, Signless m (act.run m).2

namespace Mute

variable {α β : Type}

theorem pure (value : α) : Mute (Pure.pure value : Act α) := fun _ => .of_output rfl

theorem modify {change : Machine → Machine} (same : ∀ m, (change m).output = m.output) :
    Mute (modify change : Act Unit) := fun m => .of_output (same m)

theorem of_computes {act : Act α} (computes : Computes act) : Mute act := by
  intro m
  refine .of_output ?_
  rw [(computes.unbound m).rest]

theorem bind {first : Act α} {next : α → Act β} (firstMute : Mute first)
    (nextMute : ∀ value, Mute (next value)) : Mute (first >>= next) :=
  fun m => (firstMute m).trans (nextMute _ _)

/-- A look at the machine, and what follows it. -/
theorem look {next : Machine → Act β} (nextMute : ∀ m, Mute (next m)) : Mute (get >>= next) :=
  fun m => nextMute m m

theorem ite {condition : Prop} [Decidable condition] {first second : Act α}
    (firstMute : Mute first) (secondMute : Mute second) :
    Mute (if condition then first else second) := by
  split
  · exact firstMute
  · exact secondMute

theorem mapM {change : α → Act β} (each : ∀ value, Mute (change value)) (values : List α) :
    Mute (values.mapM change) := by
  induction values with
  | nil => exact .pure _
  | cons value values ih =>
      rw [List.mapM_cons]
      exact (each value).bind fun _ => ih.bind fun _ => .pure _

end Mute

/-! ## Heeding signs -/

/-- The at signs that an action comes to in a machine: their indices, and the machines it has made of
it by then. -/
abbrev Signs := Machine → Nat → Machine → Prop

namespace Signs

/-- No sign. -/
def none : Signs := fun _ _ _ => False

/-- The sign at an index, if one stands there. -/
def sign (toks : TokenStream) (j : Nat) : Signs := fun m k read =>
  (toks.peek j).isSymbol .at = true ∧ k = j ∧ read = m

/-- The signs of what is read behind an operand, given the index of its last token. -/
def behind {α : Type} (operand : Act (α × Nat)) (next : Nat → Signs) : Signs := fun m =>
  next (operand.run m).1.2 (operand.run m).2

/-- The sign at an index and, unless it is misplaced, the signs of what is read behind its target. -/
def target (toks : TokenStream) (j : Nat) (next : Nat → Signs) : Signs := fun m k read =>
  sign toks j m k read ∨
    (toks.peek j).isSymbol .at = true ∧ toks.Placed j ∧
      behind (Operand.text toks (j + 1)) next m k read

end Signs

/-- An action that refuses at a misplaced sign. -/
structure Heeds {α : Type} (toks : TokenStream) (signs : Signs) (refusal : α) (act : Act α) :
    Prop where
  /-- It prints the line about the sign and does nothing more. -/
  refuses : ∀ {m : Machine} {k : Nat} {read : Machine} {line : String}, signs m k read →
    toks.Misplaced k line → act.run m = (refusal, read.print (line ++ "\n"))
  /-- If none is misplaced, it prints no such line. -/
  spared : ∀ {m : Machine}, (∀ k read, signs m k read → toks.Placed k) → Signless m (act.run m).2
  /-- In front of a sign it does nothing but compute. -/
  computes : ∀ {m : Machine} {k : Nat} {read : Machine}, signs m k read →
    ∃ times, read = m.divided times

namespace Heeds

variable {toks : TokenStream} {signs : Signs} {α β : Type} {refusal : β}

theorem of_mute {act : Act β} (mute : Mute act) : Heeds toks .none refusal act where
  refuses never := never.elim
  spared _ := mute _
  computes never := never.elim

theorem targetName? (toks : TokenStream) (j : Nat) :
    Heeds toks (.sign toks j) none (Results.targetName? toks j) where
  refuses := by
    rintro m k read line ⟨sign, rfl, rfl⟩ misplaced
    exact Results.targetName?_misplaced sign misplaced _
  spared {m} spared := by
    by_cases sign : (toks.peek j).isSymbol .at = true
    · rw [Results.targetName?_placed sign (spared j m ⟨sign, rfl, rfl⟩)]
      exact .of_output rfl
    · rw [Results.targetName?_absent sign]
      exact .of_output rfl
  computes := by
    rintro m k read ⟨_, rfl, rfl⟩
    exact ⟨0, rfl⟩

theorem targetValue? (toks : TokenStream) (j : Nat) :
    Heeds toks (.sign toks j) none (Results.targetValue? toks j) where
  refuses := by
    rintro m k read line ⟨sign, rfl, rfl⟩ misplaced
    exact Results.targetValue?_misplaced sign misplaced _
  spared {m} spared := by
    by_cases sign : (toks.peek j).isSymbol .at = true
    · rw [Results.targetValue?_placed sign (spared j m ⟨sign, rfl, rfl⟩)]
      exact Mute.of_computes (Operand.text_computes toks (j + 1)) m
    · rw [Results.targetValue?_absent sign]
      exact .of_output rfl
  computes := by
    rintro m k read ⟨_, rfl, rfl⟩
    exact ⟨0, rfl⟩

/-- A look at the machine, and what follows it. -/
theorem look {next : Machine → Act β} (heeds : ∀ m, Heeds toks signs refusal (next m)) :
    Heeds toks signs refusal (get >>= next) where
  refuses {m} _ _ _ comes misplaced := (heeds m).refuses comes misplaced
  spared {m} placed := (heeds m).spared placed
  computes {m} _ _ comes := (heeds m).computes comes

theorem ite {condition : Prop} [Decidable condition] {other : Signs} {first second : Act β}
    (firstHeeds : Heeds toks signs refusal first) (secondHeeds : Heeds toks other refusal second) :
    Heeds toks (if condition then signs else other) refusal
      (if condition then first else second) := by
  split
  · exact firstHeeds
  · exact secondHeeds

/-- An operand is read in front of all signs. -/
theorem behind {operand : Act (α × Nat)} {following : Nat → Signs} {next : α × Nat → Act β}
    (operandComputes : Computes operand)
    (heeds : ∀ read, Heeds toks (following read.2) refusal (next read)) :
    Heeds toks (.behind operand following) refusal (operand >>= next) where
  refuses comes misplaced := (heeds _).refuses comes misplaced
  spared {m} placed := (Mute.of_computes operandComputes m).trans ((heeds _).spared placed)
  computes {m k read} comes := by
    rcases operandComputes m with ⟨times, shown⟩
    rcases (heeds _).computes comes with ⟨more, further⟩
    refine ⟨more + times, ?_⟩
    rw [further, shown, Machine.divided_divided]

theorem supply {value : α} {next : α → Act β} (heeds : Heeds toks signs refusal (next value)) :
    Heeds toks signs refusal (pure value >>= next) := heeds

/-- Something is done with what a reader has read behind the last sign. -/
theorem bind {reader : Act (Option α)} {next : Option α → Act β}
    (heeds : Heeds toks signs none reader) (refused : next none = pure refusal)
    (mute : ∀ value, Mute (next (some value))) : Heeds toks signs refusal (reader >>= next) where
  refuses comes misplaced := by
    rw [Act.run_bind, heeds.refuses comes misplaced, refused]
    rfl
  spared {m} placed := by
    refine (heeds.spared placed).trans ?_
    rw [Act.run_bind]
    cases (reader.run m).1 with
    | none =>
        rw [refused]
        exact .of_output rfl
    | some value => exact mute value _
  computes comes := heeds.computes comes

/-- A target is read and more is read behind it. -/
theorem target {j : Nat} {following : Nat → Signs} {next : Option (String × Nat) → Act β}
    (refused : next none = pure refusal)
    (heeds : ∀ read, Heeds toks (following read.2) refusal (next (some read))) :
    Heeds toks (.target toks j following) refusal (Results.targetValue? toks j >>= next) where
  refuses {m k read line} comes misplaced := by
    rcases comes with first | ⟨sign, placed, later⟩
    · rw [Act.run_bind, (targetValue? toks j).refuses first misplaced, refused]
      rfl
    · rw [Act.run_bind, Results.targetValue?_placed sign placed]
      exact (heeds _).refuses later misplaced
  spared {m} placed := by
    rw [Act.run_bind]
    by_cases sign : (toks.peek j).isSymbol .at = true
    · have here : toks.Placed j := placed j m (.inl ⟨sign, rfl, rfl⟩)
      rw [Results.targetValue?_placed sign here]
      refine (Mute.of_computes (Operand.text_computes toks (j + 1)) m).trans ?_
      exact (heeds _).spared fun k read later => placed k read (.inr ⟨sign, here, later⟩)
    · rw [Results.targetValue?_absent sign, refused]
      exact .of_output rfl
  computes {m k read} comes := by
    rcases comes with first | ⟨_, _, later⟩
    · exact (targetValue? toks j).computes first
    · exact (behind (Operand.text_computes toks (j + 1)) heeds).computes later

end Heeds
end BigScript
