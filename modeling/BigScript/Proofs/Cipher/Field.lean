import BigScript.Bytes.Cipher
import Mathlib.Data.FinEnum
import Mathlib.GroupTheory.OrderOfElement

/-!
# The field of 256 elements

The product of bytes is additive in both factors, so that what is to be known of all pairs of bytes
need only be checked for pairs of single bits.  In this way the product is found to be commutative and
associative.  Three generates all bytes but zero, hence the power of 254 is the inverse of a byte, and
no two bytes have the same substitute.
-/

namespace BigScript
namespace Cipher
namespace Field

/-! ## The product is additive -/

theorem pick_xor (a b c : UInt8) :
    (if (b ^^^ c) &&& 1 == 1 then a else 0) =
      (if b &&& 1 == 1 then a else 0) ^^^ (if c &&& 1 == 1 then a else 0) := by
  have lowBit : ∀ b : UInt8, b &&& 1 = 0 ∨ b &&& 1 = 1 := by decide +kernel
  have sum : (b ^^^ c) &&& 1 = (b &&& 1) ^^^ (c &&& 1) := by
    apply UInt8.toBitVec_inj.mp
    ext k
    simp [Bool.and_xor_distrib_right]
  rw [sum]
  rcases lowBit b with low | low <;> rcases lowBit c with other | other <;> simp [low, other]

theorem timesFrom_xor (bits : Nat) (a b c : UInt8) :
    timesFrom bits a (b ^^^ c) = timesFrom bits a b ^^^ timesFrom bits a c := by
  induction bits generalizing a b c with
  | zero => exact (UInt8.xor_self (a := 0)).symm
  | succ bits ih =>
      simp only [timesFrom, pick_xor a b c, UInt8.shiftRight_xor, ih]
      ac_rfl

theorem times_xor (a b c : UInt8) : times a (b ^^^ c) = times a b ^^^ times a c :=
  timesFrom_xor 8 a b c

theorem times_zero (a : UInt8) : times a 0 = 0 := by
  have twice := times_xor a 0 0
  rw [UInt8.xor_self] at twice
  rw [twice, UInt8.xor_self]

theorem times_two (a : UInt8) : times 2 a = double a := by
  revert a
  decide +kernel

theorem double_xor (a b : UInt8) : double (a ^^^ b) = double a ^^^ double b := by
  rw [← times_two, times_xor, times_two, times_two]

theorem timesFrom_xor_left (bits : Nat) (a b c : UInt8) :
    timesFrom bits (a ^^^ b) c = timesFrom bits a c ^^^ timesFrom bits b c := by
  induction bits generalizing a b c with
  | zero => exact (UInt8.xor_self (a := 0)).symm
  | succ bits ih =>
      have picked : (if c &&& 1 == 1 then a ^^^ b else 0) =
          (if c &&& 1 == 1 then a else 0) ^^^ (if c &&& 1 == 1 then b else 0) := by
        split
        · rfl
        · exact UInt8.xor_self.symm
      simp only [timesFrom, picked, double_xor, ih]
      ac_rfl

theorem xor_times (a b c : UInt8) : times (a ^^^ b) c = times a c ^^^ times b c :=
  timesFrom_xor_left 8 a b c

/-- What holds of zero and of the single bits and is kept by sums holds of every byte. -/
theorem byte_induction {holds : UInt8 → Prop} (zero : holds 0)
    (bit : ∀ k < 8, holds (1 <<< UInt8.ofNat k))
    (sum : ∀ a b, holds a → holds b → holds (a ^^^ b)) (b : UInt8) : holds b := by
  have split : ∀ b : UInt8, b = (b &&& 1) ^^^ (b &&& 2) ^^^ (b &&& 4) ^^^ (b &&& 8) ^^^
      (b &&& 16) ^^^ (b &&& 32) ^^^ (b &&& 64) ^^^ (b &&& 128) := by
    decide +kernel
  have single : ∀ k < 8, ∀ b : UInt8, b &&& (1 <<< UInt8.ofNat k) = 0 ∨
      b &&& (1 <<< UInt8.ofNat k) = 1 <<< UInt8.ofNat k := by
    decide +kernel
  have part (k : Nat) (small : k < 8) : holds (b &&& (1 <<< UInt8.ofNat k)) := by
    rcases single k small b with none | one
    · rw [none]
      exact zero
    · rw [one]
      exact bit k small
  suffices whole : holds ((b &&& 1) ^^^ (b &&& 2) ^^^ (b &&& 4) ^^^ (b &&& 8) ^^^ (b &&& 16) ^^^
      (b &&& 32) ^^^ (b &&& 64) ^^^ (b &&& 128)) from split b ▸ whole
  refine sum _ _ (sum _ _ (sum _ _ (sum _ _ (sum _ _ (sum _ _ (sum _ _ ?_ ?_) ?_) ?_) ?_) ?_) ?_) ?_
  · exact part 0 (by decide)
  · exact part 1 (by decide)
  · exact part 2 (by decide)
  · exact part 3 (by decide)
  · exact part 4 (by decide)
  · exact part 5 (by decide)
  · exact part 6 (by decide)
  · exact part 7 (by decide)

theorem iterate_double_xor (k : Nat) (a b : UInt8) :
    double^[k] (a ^^^ b) = double^[k] a ^^^ double^[k] b := by
  induction k generalizing a b with
  | zero => rfl
  | succ k ih => rw [Function.iterate_succ_apply, double_xor, ih]; rfl

/-! ## The product is associative -/

/-- To multiply with a single bit is to double as often as its place says. -/
theorem times_bit (a : UInt8) : ∀ k < 8, times a (1 <<< UInt8.ofNat k) = double^[k] a := by
  intro k small
  induction a using byte_induction with
  | zero => revert k; decide +kernel
  | bit j range => revert k j; decide +kernel
  | sum a b first second => rw [xor_times, first, second, iterate_double_xor]

theorem times_double (a b : UInt8) : times a (double b) = double (times a b) := by
  induction b using byte_induction with
  | zero => rw [times_zero]; exact times_zero a
  | bit k small =>
    induction a using byte_induction with
    | zero => revert k; decide +kernel
    | bit j range => revert k j; decide +kernel
    | sum a b first second => rw [xor_times, xor_times, first, second, double_xor]
  | sum b c first second => rw [double_xor, times_xor, times_xor, first, second, double_xor]

theorem times_comm (a b : UInt8) : times a b = times b a := by
  induction a using byte_induction with
  | zero =>
    rw [times_zero]
    have twice := xor_times 0 0 b
    rw [UInt8.xor_self] at twice
    rw [twice, UInt8.xor_self]
  | bit k small =>
    induction b using byte_induction with
    | zero => revert k; decide +kernel
    | bit j range => revert k j; decide +kernel
    | sum a b first second => rw [xor_times, times_xor, first, second]
  | sum b c first second => rw [xor_times, times_xor, first, second]

theorem times_assoc (a b c : UInt8) : times (times a b) c = times a (times b c) := by
  induction c using byte_induction with
  | zero => simp only [times_zero]
  | bit k small =>
    rw [times_bit _ k small, times_bit _ k small]
    clear small
    induction k with
    | zero => rfl
    | succ k ih => rw [Function.iterate_succ_apply', Function.iterate_succ_apply', times_double, ih]
  | sum c d first second => rw [times_xor, times_xor, times_xor, first, second]

theorem times_one (a : UInt8) : times a 1 = a := times_bit a 0 (by decide)

/-- The bytes with the product of the field. -/
def Element : Type := UInt8

namespace Element

instance : Fintype Element := inferInstanceAs (Fintype UInt8)

instance : DecidableEq Element := inferInstanceAs (DecidableEq UInt8)

instance : CommMonoid Element where
  mul := times
  mul_assoc := times_assoc
  one := (1 : UInt8)
  one_mul a := (times_comm 1 a).trans (times_one a)
  mul_one := times_one
  npow n a := power a n
  npow_zero _ := rfl
  npow_succ n a := times_comm a (power a n)
  mul_comm := times_comm

/-- The byte three, of which every byte but zero is a power. -/
def generator : Element := (3 : UInt8)

theorem generator_order : orderOf generator = 255 := by
  apply orderOf_eq_of_pow_and_pow_div_prime (by decide)
  · change power 3 255 = 1
    decide +kernel
  · intro p prime divides
    have factor : p = 3 ∨ p = 5 ∨ p = 17 := by
      rw [show 255 = 3 * (5 * 17) from rfl, prime.dvd_mul, prime.dvd_mul] at divides
      have large : Nat.Prime 17 := by decide
      rwa [Nat.prime_dvd_prime_iff_eq prime Nat.prime_three,
        Nat.prime_dvd_prime_iff_eq prime Nat.prime_five,
        Nat.prime_dvd_prime_iff_eq prime large] at divides
    rcases factor with rfl | rfl | rfl
    · change power 3 85 ≠ 1
      decide +kernel
    · change power 3 51 ≠ 1
      decide +kernel
    · change power 3 15 ≠ 1
      decide +kernel

theorem pow_generator_pow (n : Nat) : (generator ^ n) ^ 255 = 1 := by
  rw [← pow_mul, mul_comm, pow_mul, ← generator_order, pow_orderOf_eq_one, one_pow]

/-- Every byte but zero is a power of three. -/
theorem exists_pow (a : Element) (nonzero : a ≠ (0 : UInt8)) : ∃ n < 255, generator ^ n = a := by
  let powers := (Finset.range 255).image (generator ^ ·)
  let others := Finset.univ.erase ((0 : UInt8) : Element)
  have within : powers ⊆ others := by
    intro b member
    rcases Finset.mem_image.mp member with ⟨n, -, rfl⟩
    refine Finset.mem_erase.mpr ⟨fun zero => ?_, Finset.mem_univ _⟩
    have one := pow_generator_pow n
    rw [zero] at one
    revert one
    change ¬ power 0 255 = 1
    decide +kernel
  have card : others.card ≤ powers.card := by
    have distinct : Set.InjOn (generator ^ ·) (Finset.range 255 : Finset Nat) := by
      rw [Finset.coe_range, ← generator_order]
      exact pow_injOn_Iio_orderOf
    rw [Finset.card_image_of_injOn distinct, Finset.card_range,
      Finset.card_erase_of_mem (Finset.mem_univ _)]
    decide +kernel
  have same := Finset.eq_of_subset_of_card_le within card
  have member : a ∈ powers := by
    rw [same]
    exact Finset.mem_erase.mpr ⟨nonzero, Finset.mem_univ a⟩
  rcases Finset.mem_image.mp member with ⟨n, range, rfl⟩
  exact ⟨n, Finset.mem_range.mp range, rfl⟩

end Element

/-- The power of 254 is the inverse of every byte but zero. -/
theorem times_power {a : UInt8} (nonzero : a ≠ 0) : times a (power a 254) = 1 := by
  rcases Element.exists_pow a nonzero with ⟨n, -, rfl⟩
  change (Element.generator ^ n) * (Element.generator ^ n) ^ 254 = 1
  rw [← pow_succ']
  exact Element.pow_generator_pow n

theorem power_injective {a b : UInt8} (same : power a 254 = power b 254) : a = b := by
  have zero : power 0 254 = 0 := by decide +kernel
  by_cases none : a = 0
  · by_contra other
    have inverse := times_power (Ne.symm (none ▸ other))
    rw [← same, none, zero, times_zero] at inverse
    exact absurd inverse (by decide)
  · have some : b ≠ 0 := by
      intro other
      have inverse := times_power none
      rw [same, other, zero, times_zero] at inverse
      exact absurd inverse (by decide)
    calc a = times a (times b (power b 254)) := by rw [times_power some, times_one]
      _ = times b (times a (power a 254)) := by
        rw [← same, ← times_assoc, times_comm a b, times_assoc]
      _ = b := by rw [times_power none, times_one]

theorem substitute_injective {a b : UInt8} (same : substitute a = substitute b) : a = b := by
  let mix (x : UInt8) : UInt8 := x ^^^ rotate x 1 ^^^ rotate x 2 ^^^ rotate x 3 ^^^ rotate x 4 ^^^ 0x63
  let unmix (y : UInt8) : UInt8 := rotate y 1 ^^^ rotate y 3 ^^^ rotate y 6 ^^^ 0x05
  have undone : ∀ x, unmix (mix x) = x := by decide +kernel
  apply power_injective
  rw [← undone (power a 254), ← undone (power b 254)]
  exact congrArg unmix same

end Field
end Cipher
end BigScript
