import BigScript.Machine.Condition
import BigScript.Proofs.Doubles

/-!
# Equal and different

Two texts that are not both numbers are equal or different as texts.  Two numbers are equal if their
distance is less than the tolerance, and different if it is more.  Neither is said of numbers that
are apart by the tolerance itself, nor where there is no distance: a condition can deny both signs
(`neitherSign_holds`).

`complement_law` says where that happens, and that exactly one of the two signs holds everywhere
else.  In particular a text is equal to itself unless it is one of the words for an infinity or for
no number.
-/

namespace BigScript
namespace Comparison

/-- Whether two numbers are neither near enough to be equal nor far enough apart to be different:
they are apart by the tolerance, one of them is undefined, or both are the same infinity. -/
def Poised (a b : Float) : Prop :=
  ((a - b).abs == tolerance) = true ∨ a.isNaN = true ∨ b.isNaN = true ∨ (a.isInf = true ∧ a = b)

/-- Whether two texts are numbers that are neither equal nor different. -/
def Undecided (x y : String) : Prop :=
  ∃ a b, Number.parse? x = some a ∧ Number.parse? y = some b ∧ Poised a b

variable {a b : Float}

theorem equal_numbers_iff (a b : Float) :
    equal.numbers a b = true ↔ Number.order (a - b).abs tolerance = some .lt := by
  unfold numbers
  exact decide_eq_true_iff.trans (Number.lt_iff_order _ _)

theorem notEqual_numbers_iff (a b : Float) :
    notEqual.numbers a b = true ↔ Number.order (a - b).abs tolerance = some .gt := by
  unfold numbers
  exact decide_eq_true_iff.trans (Number.gt_iff_order _ _)

/-- The distance of two numbers is placed in one of three ways against the tolerance, or there is
none. -/
theorem poised_iff (a b : Float) :
    Poised a b ↔ Number.order (a - b).abs tolerance = some .eq ∨
      Number.order (a - b).abs tolerance = none := by
  have defined : tolerance.isNaN = false := by decide +kernel
  rw [Poised, Number.beq_iff_order, Number.order_eq_none_iff, defined, Number.distance_isNaN]
  simp only [Bool.false_eq_true, or_false]

/-- Numbers are equal or different, and not both, unless they are poised. -/
theorem numbers_complement (decided : ¬ Poised a b) :
    notEqual.numbers a b = !equal.numbers a b := by
  rw [poised_iff, not_or] at decided
  rw [Bool.eq_iff_iff, Bool.not_eq_true', ← Bool.not_eq_true, notEqual_numbers_iff,
    equal_numbers_iff]
  cases place : Number.order (a - b).abs tolerance with
  | none => exact absurd place decided.2
  | some side =>
      cases side with
      | lt => exact iff_of_false nofun (not_not_intro rfl)
      | gt => exact iff_of_true rfl nofun
      | eq => exact absurd place decided.1

theorem numbers_poised (poised : Poised a b) :
    equal.numbers a b = false ∧ notEqual.numbers a b = false := by
  rw [← Bool.not_eq_true, ← Bool.not_eq_true, equal_numbers_iff, notEqual_numbers_iff]
  rcases (poised_iff a b).mp poised with same | undefined
  · rw [same]
    exact ⟨nofun, nofun⟩
  · rw [undefined]
    exact ⟨nofun, nofun⟩

/-- A number is equal to itself if it is finite, and only then. -/
theorem equal_self_iff (a : Float) : equal.numbers a a = true ↔ a.isFinite = true := by
  cases finite : a.isFinite with
  | true =>
      refine iff_of_true (decide_eq_true ?_) rfl
      rw [Number.distance_self finite]
      decide +kernel
  | false =>
      have poised : Poised a a := by
        rcases (Number.isFinite_eq_false_iff a).mp finite with undefined | infinite
        · exact .inr (.inl undefined)
        · exact .inr (.inr (.inr ⟨infinite, rfl⟩))
      rw [(numbers_poised poised).1]

/-! ## Texts -/

theorem holds_of_numbers (c : Comparison) {x y : String} (first : Number.parse? x = some a)
    (second : Number.parse? y = some b) : c.holds x y = c.numbers a b := by
  rw [holds, first, second]

theorem holds_of_texts (c : Comparison) {x y : String}
    (text : Number.parse? x = none ∨ Number.parse? y = none) : c.holds x y = c.texts x y := by
  unfold holds
  split
  · next first second =>
      rcases text with text | text
      · rw [text] at first
        cases first
      · rw [text] at second
        cases second
  · rfl

/-- What equality and inequality say of two texts. -/
structure ComplementLaw (x y : String) : Prop where
  /-- Exactly one of the two holds, -/
  complement : ¬ Undecided x y → notEqual.holds x y = !equal.holds x y
  /-- and where that is not so, neither of them holds. -/
  neither : Undecided x y → equal.holds x y = false ∧ notEqual.holds x y = false
  /-- A text is equal to itself unless it is one of the special words. -/
  self : equal.holds x x = true ↔ (Text.trim x).map Char.toLower ∉ Number.specialWords

theorem complement_law (x y : String) : ComplementLaw x y where
  complement := by
    intro decided
    cases first : Number.parse? x with
    | none =>
        rw [holds_of_texts _ (.inl first), holds_of_texts _ (.inl first)]
        rfl
    | some a =>
        cases second : Number.parse? y with
        | none =>
            rw [holds_of_texts _ (.inr second), holds_of_texts _ (.inr second)]
            rfl
        | some b =>
            rw [holds_of_numbers _ first second, holds_of_numbers _ first second]
            exact numbers_complement fun poised => decided ⟨a, b, first, second, poised⟩
  neither := by
    rintro ⟨a, b, first, second, poised⟩
    rw [holds_of_numbers _ first second, holds_of_numbers _ first second]
    exact numbers_poised poised
  self := by
    rw [← Number.read_special_iff]
    cases first : Number.parse? x with
    | none =>
        rw [holds_of_texts _ (.inl first)]
        refine iff_of_true (beq_self_eq_true x) ?_
        rintro ⟨a, found, -⟩
        exact absurd (first.symm.trans found) nofun
    | some a =>
        rw [holds_of_numbers _ first first, equal_self_iff]
        constructor
        · rintro finite ⟨b, found, infinite⟩
          cases first.symm.trans found
          rw [finite] at infinite
          cases infinite
        · intro ordinary
          by_contra infinite
          exact ordinary ⟨a, first, (Bool.not_eq_true _).mp infinite⟩

/-- Numbers that are apart by the tolerance are neither equal nor different, and neither is infinity
to itself. -/
theorem neitherSign_holds :
    equal.holds "0" "0.00001" = false ∧ notEqual.holds "0" "0.00001" = false ∧
      equal.holds "inf" "inf" = false ∧ notEqual.holds "inf" "inf" = false := by
  decide +kernel

end Comparison
end BigScript
