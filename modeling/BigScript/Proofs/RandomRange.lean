import BigScript.Proofs.Substitution
import Mathlib

/-!
# Random ranges

Numbers are drawn between two bounds of 64 bits.  How many numbers there are is counted in 64 bits as
well, which is right as long as there are fewer than `2 ^ 63` of them; the number drawn then lies between
the bounds, and each of them can be drawn.  Where there are more, the count is no positive number, the
source has no answer and the program dies.
-/

namespace BigScript

namespace Luck

theorem advance_run (m : Machine) : advance.run m = ((), { m with luck := next m.luck }) := rfl

/-- The source that answers with one number wherever that is among the choices. -/
def Source.always (number : Int64) : Source where
  draw choices :=
    if 0 < choices then some (if 0 ≤ number ∧ number < choices then number else 0) else none
  draws choices positive := by
    refine ⟨_, if_pos positive, ?_⟩
    split
    · next among => exact among
    · exact ⟨Int64.le_refl 0, positive⟩
  refuses _ none := if_neg (Int64.not_lt.mpr none)

theorem Source.draw_always {number choices : Int64} (atLeast : 0 ≤ number) (less : number < choices) :
    (Source.always number).draw choices = some number := by
  have positive : 0 < choices := Int64.lt_of_le_of_lt atLeast less
  change (if 0 < choices then some (if 0 ≤ number ∧ number < choices then number else 0) else none) = _
  rw [if_pos positive, if_pos ⟨atLeast, less⟩]

end Luck

namespace Persona

/-- The integer that a text gives as a bound, or another one in its place. -/
def boundValue (text : String) (otherwise : Int) : Int :=
  (Number.parseInt? (Text.trim text)).getD otherwise

/-- The smaller of the bounds that two texts give. -/
def lowest (first second : String) : Int := min (boundValue first 0) (boundValue second 100)

/-- The larger of the bounds that two texts give. -/
def highest (first second : String) : Int := max (boundValue first 0) (boundValue second 100)

/-- How many integers lie between the bounds that two texts give. -/
def extent (first second : String) : Int := highest first second - lowest first second + 1

/-- A number that is read has 64 bits. -/
theorem parseInt?_bounds {text : String} {number : Int} (read : Number.parseInt? text = some number) :
    -2 ^ 63 ≤ number ∧ number < 2 ^ 63 := by
  have least : Number.leastInt64 = -2 ^ 63 := by decide
  have limit : (Number.twoTo 63 : Int) = 2 ^ 63 := by decide
  unfold Number.parseInt? at read
  generalize Number.readSign text.toList = parts at read
  rcases parts with ⟨negative, digits⟩
  dsimp only at read
  generalize (if negative = true then _ else _ : Int) = whole at read
  split at read
  · cases read
  · split at read
    · next within =>
      rw [least, limit, Option.some.inj read] at within
      exact within
    · cases read

theorem toInt_bound (text : String) (otherwise : Int64) :
    (bound text otherwise).toInt = boundValue text otherwise.toInt := by
  unfold bound boundValue
  cases read : Number.parseInt? (Text.trim text) with
  | none => rfl
  | some number =>
    rcases parseInt?_bounds read with ⟨least, less⟩
    exact Int64.toInt_ofInt_of_le least less

/-! ## Counting the choices -/

section Count

variable {low high : Int64}

theorem toInt_choices : (high - low + 1).toInt = (high.toInt - low.toInt + 1).bmod (2 ^ 64) := by
  rw [Int64.toInt_add, Int64.toInt_sub, Int.bmod_add_bmod]
  rfl

theorem toInt_few (ordered : low.toInt ≤ high.toInt) (few : high.toInt - low.toInt + 1 < 2 ^ 63) :
    (high - low + 1).toInt = high.toInt - low.toInt + 1 := by
  rw [toInt_choices]
  exact Int.bmod_eq_of_le (by omega) (by omega)

theorem toInt_many (many : 2 ^ 63 ≤ high.toInt - low.toInt + 1) : (high - low + 1).toInt ≤ 0 := by
  have least := low.le_toInt
  have less := high.toInt_lt
  rw [toInt_choices, ← Int.sub_bmod_right]
  have whole : (high.toInt - low.toInt + 1 - (2 ^ 64 : Nat)).bmod (2 ^ 64) =
      high.toInt - low.toInt + 1 - (2 ^ 64 : Nat) := Int.bmod_eq_of_le (by omega) (by omega)
  rw [whole]
  omega

end Count

/-! ## Drawing -/

/-- Where there are few choices a number between the bounds is drawn. -/
theorem drawn_between (source : Luck.Source) {low high : Int64} (ordered : low.toInt ≤ high.toInt)
    (few : high.toInt - low.toInt + 1 < 2 ^ 63) :
    ∃ number : Int64, (source.draw (high - low + 1)).map (low + ·) = some number ∧
      low.toInt ≤ number.toInt ∧ number.toInt ≤ high.toInt := by
  have count := toInt_few ordered few
  have positive : 0 < high - low + 1 := by
    rw [Int64.lt_iff_toInt_lt, count]
    change 0 < _
    omega
  rcases source.draws _ positive with ⟨drawn, answers, least, less⟩
  have atLeast : 0 ≤ drawn.toInt := Int64.le_iff_toInt_le.mp least
  have atMost : drawn.toInt < high.toInt - low.toInt + 1 := count ▸ Int64.lt_iff_toInt_lt.mp less
  have bottom := low.le_toInt
  have top := high.toInt_lt
  have sum : (low + drawn).toInt = low.toInt + drawn.toInt := by
    rw [Int64.toInt_add]
    exact Int.bmod_eq_of_le (by omega) (by omega)
  exact ⟨low + drawn, by rw [answers, Option.map_some], by omega, by omega⟩

/-- Every number between the bounds is drawn by some source. -/
theorem between_drawn {low high number : Int64} (least : low.toInt ≤ number.toInt)
    (most : number.toInt ≤ high.toInt) (few : high.toInt - low.toInt + 1 < 2 ^ 63) :
    ((Luck.Source.always (number - low)).draw (high - low + 1)).map (low + ·) = some number := by
  have count := toInt_few (Int.le_trans least most) few
  have bottom := low.le_toInt
  have top := high.toInt_lt
  have apart : (number - low).toInt = number.toInt - low.toInt := by
    rw [Int64.toInt_sub]
    exact Int.bmod_eq_of_le (by omega) (by omega)
  have among : 0 ≤ number - low ∧ number - low < high - low + 1 := by
    rw [Int64.le_iff_toInt_le, Int64.lt_iff_toInt_lt, apart, count]
    change 0 ≤ _ ∧ _
    omega
  have added : low + (number - low) = number := by
    rw [Int64.add_comm, Int64.sub_add_cancel]
  rw [Luck.Source.draw_always among.1 among.2, Option.map_some, added]

/-- The bounds in their order, as the numbers of 64 bits that they are counted with. -/
theorem exists_ordered (first second : String) : ∃ low high : Int64,
    (∀ source, numberText? source first second =
      ((source.draw (high - low + 1)).map (low + ·)).map fun number => Number.intText number.toInt) ∧
    low.toInt = lowest first second ∧ high.toInt = highest first second ∧ low.toInt ≤ high.toInt := by
  have one := toInt_bound first 0
  have other := toInt_bound second 100
  change _ = boundValue first 0 at one
  change _ = boundValue second 100 at other
  unfold lowest highest numberText? numberBetween?
  rw [← one, ← other]
  by_cases swapped : bound second 100 < bound first 0
  · have less := Int64.lt_iff_toInt_lt.mp swapped
    refine ⟨bound second 100, bound first 0, fun source => ?_, by omega, by omega, by omega⟩
    rw [if_pos swapped]
  · have most : (bound first 0).toInt ≤ (bound second 100).toInt :=
      Int64.le_iff_toInt_le.mp (Int64.not_lt.mp swapped)
    refine ⟨bound first 0, bound second 100, fun source => ?_, by omega, by omega, most⟩
    rw [if_neg swapped]

theorem numberText?_few (source : Luck.Source) {first second : String}
    (few : extent first second < 2 ^ 63) : ∃ number : Int,
      lowest first second ≤ number ∧ number ≤ highest first second ∧
        numberText? source first second = some (Number.intText number) := by
  rcases exists_ordered first second with ⟨low, high, text, least, most, ordered⟩
  rw [extent, ← least, ← most] at few
  rcases drawn_between source ordered few with ⟨number, drawn, above, below⟩
  rw [← least, ← most]
  exact ⟨number.toInt, above, below, by rw [text, drawn, Option.map_some]⟩

theorem exists_numberText? {first second : String} (few : extent first second < 2 ^ 63) {number : Int}
    (above : lowest first second ≤ number) (below : number ≤ highest first second) :
    ∃ source, numberText? source first second = some (Number.intText number) := by
  rcases exists_ordered first second with ⟨low, high, text, least, most, -⟩
  rw [extent, ← least, ← most] at few
  rw [← least] at above
  rw [← most] at below
  have value : (Int64.ofInt number).toInt = number :=
    Int64.toInt_ofInt_of_le (Int.le_trans low.le_toInt above) (Int.lt_of_le_of_lt below high.toInt_lt)
  refine ⟨.always (Int64.ofInt number - low), ?_⟩
  rw [text, between_drawn (by rwa [value]) (by rwa [value]) few, Option.map_some, value]

theorem numberText?_many (source : Luck.Source) {first second : String}
    (many : 2 ^ 63 ≤ extent first second) : numberText? source first second = none := by
  rcases exists_ordered first second with ⟨low, high, text, least, most, -⟩
  rw [extent, ← least, ← most] at many
  have none : high - low + 1 ≤ 0 := Int64.le_iff_toInt_le.mpr (toInt_many many)
  rw [text, source.refuses _ none]
  rfl

end Persona

open Persona

/-! ## Statements -/

namespace Statement

/-- A statement that draws a number between two bounds that it reads, `get luck number LOW [to] HIGH`:
it ends at `last`, and `read` is the machine that the operands have been read in. -/
structure DrawsNumber (toks : TokenStream) (i : Nat) (low high : String) (last : Nat)
    (m read : Machine) : Prop where
  head : (toks.peek i).kind = .word .get
  line : toks.onLine i (i + 1) = true
  particle : (toks.peek (i + 1)).kind = .word .luck
  unconverted : Verb.asIndex? toks (i + 1) (i + 1) = none
  named : Text.lower (toks.peek (i + 2)).rawName = "number" ∨
    Text.lower (toks.peek (i + 2)).rawName = "random"
  reads : ∃ lowEnd middle, (Operand.text toks (i + 3)).run m = ((low, lowEnd), middle) ∧
    (Operand.text toks (if (toks.peek (lowEnd + 1)).isWord .to then lowEnd + 2 else lowEnd + 1)).run
      middle = ((high, last), read)

namespace DrawsNumber

variable {toks : TokenStream} {i last : Nat} {low high : String} {m read : Machine}

theorem get (draws : DrawsNumber toks i low high last m read) (run : Runner) :
    dispatch run toks i = Verb.getNumber toks (i + 2) := by
  have other (word : String) : (toks.peek (i + 1)).isName word = false := by
    rw [Token.isName, draws.particle]
    rfl
  have noLength : (toks.peek (i + 1)).isWord .len = false := by
    rw [Token.isWord, draws.particle]
    rfl
  unfold dispatch
  rw [draws.head]
  change Verb.getValue toks i = _
  unfold Verb.getValue
  dsimp only
  rw [draws.line, other, other, other, noLength, draws.unconverted]
  unfold Verb.getWord
  rw [Token.lexeme_of_word draws.particle]
  change Verb.getLuck toks i (i + 1) = Verb.getNumber toks (i + 1 + 1)
  unfold Verb.getLuck
  dsimp only
  rcases draws.named with word | word
  all_goals
    change Text.lower (toks.peek (i + 1 + 1)).rawName = _ at word
    rw [word]
    rfl

/-- The number that the source answers with is bound. -/
theorem run (draws : DrawsNumber toks i low high last m read) (run : Runner) :
    (dispatch run toks i).run m =
      (Verb.bindNumber toks last (numberText? (Luck.source (Luck.next read.luck)) low high)).run
        { read with luck := Luck.next read.luck } := by
  rcases draws.reads with ⟨lowEnd, middle, readsLow, readsHigh⟩
  rw [draws.get run]
  unfold Verb.getNumber
  rw [Act.run_bind, readsLow]
  dsimp only
  rw [Act.run_bind, readsHigh]
  dsimp only
  rw [Act.run_bind, Luck.advance_run, Act.run_bind, Act.run_get]

end DrawsNumber
end Statement

open Statement

/-- What is drawn between the bounds that two texts give. -/
structure RangeLaw (first second : String) : Prop where
  /-- A source answers with a number between the bounds if there are fewer than `2 ^ 63` of them. -/
  within : extent first second < 2 ^ 63 → ∀ source : Luck.Source, ∃ number : Int,
    lowest first second ≤ number ∧ number ≤ highest first second ∧
      numberText? source first second = some (Number.intText number)
  /-- Each of these numbers is the answer of some source. -/
  reached : extent first second < 2 ^ 63 → ∀ number : Int,
    lowest first second ≤ number → number ≤ highest first second →
      ∃ source : Luck.Source, numberText? source first second = some (Number.intText number)
  /-- A statement hands such a number to its tail, and the source moves on. -/
  binds : extent first second < 2 ^ 63 → ∀ {toks : TokenStream} {i last : Nat} {m read : Machine},
    DrawsNumber toks i first second last m read → ∀ run : Runner, ∃ number : Int,
      lowest first second ≤ number ∧ number ≤ highest first second ∧
        (dispatch run toks i).run m = (finish toks last [Number.intText number]).run
          { read with luck := Luck.next read.luck }
  /-- Otherwise no source has an answer. -/
  refused : 2 ^ 63 ≤ extent first second → ∀ source : Luck.Source,
    numberText? source first second = none
  /-- A statement that asks for one lets the program die. -/
  dies : 2 ^ 63 ≤ extent first second → ∀ {toks : TokenStream} {i last : Nat} {m read : Machine},
    DrawsNumber toks i first second last m read → ∀ run : Runner,
      ((dispatch run toks i).run m).2.crashed = true

theorem range_law (first second : String) : RangeLaw first second where
  within few source := numberText?_few source few
  reached few _ above below := exists_numberText? few above below
  binds few _ _ _ _ _ draws run := by
    rcases numberText?_few _ few with ⟨number, above, below, text⟩
    refine ⟨number, above, below, ?_⟩
    rw [draws.run run, text]
    rfl
  refused many source := numberText?_many source many
  dies many _ _ _ _ _ draws run := by
    rw [draws.run run, numberText?_many _ many]
    rfl

/-- Between nothing and the largest number of 64 bits there are too many numbers, and a program that
draws one of them does not survive. -/
theorem wideRange_crashes :
    let toks := scan "get luck number \"0\" \"9223372036854775807\" & set as \x7bN\x7d"
    lowest "0" "9223372036854775807" = 0 ∧ highest "0" "9223372036854775807" = 9223372036854775807 ∧
      (∀ source, numberText? source "0" "9223372036854775807" = none) ∧
      ((dispatch idle toks 0).run (Machine.start {})).2.crashed = true := by
  intro toks
  have ⟨least, most, many⟩ : lowest "0" "9223372036854775807" = 0 ∧
      highest "0" "9223372036854775807" = 9223372036854775807 ∧
        2 ^ 63 ≤ extent "0" "9223372036854775807" := by
    decide +kernel
  refine ⟨least, most, fun source => numberText?_many source many, ?_⟩
  have ⟨⟨head, line, particle, unconverted, named⟩, low, lowText, other, high, highText⟩ :
      ((toks.peek 0).kind = .word .get ∧ toks.onLine 0 1 = true ∧
        (toks.peek 1).kind = .word .luck ∧ Verb.asIndex? toks 1 1 = none ∧
          Text.lower (toks.peek 2).rawName = "number") ∧
      (toks.peek 3).kind = .text ∧ (toks.peek 3).content = "0" ∧ ¬(toks.peek 4).isWord .to = true ∧
      (toks.peek 4).kind = .text ∧ (toks.peek 4).content = "9223372036854775807" := by
    decide +kernel
  have readsLow := Operand.text_quoted low (lowText ▸ by decide) (Machine.start {})
  have readsHigh := Operand.text_quoted high (highText ▸ by decide) (Machine.start {})
  rw [lowText] at readsLow
  rw [highText] at readsHigh
  have draws : DrawsNumber toks 0 "0" "9223372036854775807" 4 (Machine.start {}) (Machine.start {}) :=
    { head, line, particle, unconverted, named := .inl named
      reads := ⟨3, _, readsLow, by rwa [if_neg other]⟩ }
  rw [draws.run idle, numberText?_many _ many]
  rfl

end BigScript
