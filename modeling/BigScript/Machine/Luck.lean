import BigScript.Machine.State

/-!
# Luck

The source of random numbers of a run: a linear congruence on 64 bits, of which the upper half is
used.
-/

namespace BigScript
namespace Luck

/-- The next state of the source. -/
def next (state : UInt64) : UInt64 := state * 2862933555777941757 + 3037000493

/-- The number that a state of the source stands for. -/
def word (state : UInt64) : Nat :=
  (state >>> 32).toNat * Number.twoTo 32 + (next state >>> 32).toNat

/-- Moves the source on. -/
def advance : Act Unit := modify fun m => { m with luck := next m.luck }

/-- Draws a number below `n`, and zero where there is none. -/
def below (n : Nat) : Act Nat := do
  advance
  return word (← get).luck % n

/-- A number drawn is below the bound. -/
theorem below_lt (n : Nat) (positive : 0 < n) (m : Machine) : ((below n).run m).1 < n :=
  Nat.mod_lt _ positive

/-- A source of random numbers of 64 bits.  Asked to choose among a number of choices it answers with
one that is not negative and below that number; where there is no choice it has no answer. -/
structure Source where
  draw : Int64 → Option Int64
  draws : ∀ choices, 0 < choices → ∃ drawn, draw choices = some drawn ∧ 0 ≤ drawn ∧ drawn < choices
  refuses : ∀ choices, choices ≤ 0 → draw choices = none

/-- What a state of the source answers. -/
def choose (state : UInt64) (choices : Int64) : Option Int64 :=
  if 0 < choices then some (.ofNat (word state % choices.toInt.toNat)) else none

/-- What is chosen is among the choices. -/
theorem choose_lt (state : UInt64) (choices : Int64) (positive : 0 < choices) :
    ∃ drawn, choose state choices = some drawn ∧ 0 ≤ drawn ∧ drawn < choices := by
  have size : 0 < choices.toInt := Int64.lt_iff_toInt_lt.mp positive
  have fits : choices.toInt < 2 ^ 63 := choices.toInt_lt
  have less : word state % choices.toInt.toNat < choices.toInt.toNat := Nat.mod_lt _ (by omega)
  have value := Int64.toInt_ofNat_of_lt (n := word state % choices.toInt.toNat) (by omega)
  refine ⟨_, if_pos positive, Int64.le_iff_toInt_le.mpr ?_, Int64.lt_iff_toInt_lt.mpr ?_⟩
  · rw [value]
    exact Int.natCast_nonneg _
  · rw [value]
    omega

/-- The source at a state. -/
def source (state : UInt64) : Source where
  draw := choose state
  draws := choose_lt state
  refuses _ none := if_neg (Int64.not_lt.mpr none)

/-- Draws one of some texts. -/
def pick (choices : List String) : Act String := do
  return choices.getD (← below choices.length) ""

end Luck
end BigScript
