import BigScript.Number.Read
import BigScript.Number.Decimal
import Mathlib

/-!
# Whole numbers that are read exactly

A whole number of at most `2 ^ 53` is a double.  `read_digits` says that reading its digits gives that
double: its whole part is the number that was written.

The double is put together from a sign, a scale and a fraction, and taken apart again.  The bits in
between are those of a double that is neither infinite nor undefined, and such bits are kept.
-/

namespace BigScript
namespace Number

open Float.Model Float.Model.UnpackedFloat

/-! ## Parts of a double -/

/-- The bits of a double that is neither infinite nor undefined are kept. -/
theorem toBits_ofParts {rest : Nat} (finite : rest < 2047 * twoTo 52) :
    (ofParts false rest).toBits.toNat = rest := by
  have small : rest < 2 ^ 64 := by
    have bound : 2047 * twoTo 52 < 2 ^ 64 := by decide
    omega
  have bits : (UInt64.ofNat rest).toBitVec.toNat = rest := by
    rw [UInt64.toNat_toBitVec, UInt64.toNat_ofNat_of_lt' small]
  have scale : @unpackExponent Format.binary64 (UInt64.ofNat rest).toBitVec ≠ -1 := by
    intro full
    have values := congrArg BitVec.toNat full
    change (UInt64.ofNat rest).toBitVec.toNat >>> 52 % 2 ^ 11 = 2047 at values
    rw [bits, Nat.shiftRight_eq_div_pow] at values
    change rest < 2047 * 2 ^ 52 at finite
    omega
  have kept : (ofParts false rest).toBits = UInt64.ofNat rest := by
    refine UInt64.toBitVec_inj.mp ?_
    unfold ofParts
    rw [if_neg Bool.false_ne_true, Nat.zero_add]
    change (unpack Format.binary64 (UInt64.ofNat rest).toBitVec).pack Format.binary64 = _
    rw [pack_unpack, if_neg]
    unfold isNaNBits
    rw [decide_eq_true_eq]
    exact fun undefined => scale undefined.1
  rw [kept, ← UInt64.toNat_toBitVec, bits]

/-- The parts that a double is put together from are those that it is taken apart into. -/
theorem shape_ofParts {scale fraction : Nat} (normal : 0 < scale) (finite : scale < 2047)
    (small : fraction < twoTo 52) :
    shape (ofParts false (scale * twoTo 52 + fraction)) =
      .finite false (twoTo 52 + fraction) ((scale : Int) - 1075) := by
  have bound : scale * twoTo 52 + fraction < 2047 * twoTo 52 := by
    have step : (scale + 1) * twoTo 52 ≤ 2047 * twoTo 52 := Nat.mul_le_mul_right _ finite
    rw [Nat.succ_mul] at step
    omega
  have high : (scale * twoTo 52 + fraction) / twoTo 52 = scale := by
    rw [Nat.mul_comm, Nat.mul_add_div (Nat.two_pow_pos 52), Nat.div_eq_of_lt small, Nat.add_zero]
  have low : (scale * twoTo 52 + fraction) % twoTo 52 = fraction := by
    rw [Nat.mul_comm, Nat.mul_add_mod, Nat.mod_eq_of_lt small]
  have sign : (scale * twoTo 52 + fraction) / twoTo 63 = 0 := by
    refine Nat.div_eq_of_lt (Nat.lt_trans bound ?_)
    decide
  unfold shape
  dsimp only
  rw [toBits_ofParts bound, high, low, sign, Nat.mod_eq_of_lt (by omega), if_neg (by omega),
    if_neg (by omega)]
  rfl

/-! ## Whole numbers -/

section Whole

variable {n : Nat}

theorem log2_le_of_lt (positive : 0 < n) (small : n < twoTo 53) : n.log2 ≤ 52 :=
  Nat.le_of_lt_succ ((Nat.log2_lt (Nat.ne_of_gt positive)).mpr small)

/-- Shifted to 53 bits, a whole number has just these. -/
theorem shifted_bounds (positive : 0 < n) (small : n < twoTo 53) :
    twoTo 52 ≤ n * twoTo (52 - n.log2) ∧ n * twoTo (52 - n.log2) < twoTo 53 := by
  have log := log2_le_of_lt positive small
  have low : 2 ^ n.log2 ≤ n := Nat.log2_self_le (Nat.ne_of_gt positive)
  have high : n < 2 ^ (n.log2 + 1) := Nat.lt_log2_self
  have power : 0 < 2 ^ (52 - n.log2) := Nat.two_pow_pos _
  constructor
  · calc
      2 ^ 52 = 2 ^ n.log2 * 2 ^ (52 - n.log2) := by
        rw [← Nat.pow_add, Nat.add_sub_cancel' log]
      _ ≤ n * 2 ^ (52 - n.log2) := Nat.mul_le_mul_right _ low
  · calc
      n * 2 ^ (52 - n.log2) < 2 ^ (n.log2 + 1) * 2 ^ (52 - n.log2) :=
        Nat.mul_lt_mul_of_pos_right high power
      _ = 2 ^ 53 := by rw [← Nat.pow_add]; congr 1; omega

theorem roundHalfEven_one (n : Nat) : roundHalfEven n 1 = n := by
  unfold roundHalfEven
  rw [Nat.div_one, Nat.mod_one]
  rfl

theorem exponentFor_whole (positive : 0 < n) (small : n < twoTo 53) :
    exponentFor n 1 = (n.log2 : Int) - 52 := by
  have log := log2_le_of_lt positive small
  have guess : (n.log2 : Int) - Nat.log2 1 - 52 = -((52 - n.log2 : Nat) : Int) := by
    rw [show Nat.log2 1 = 0 from rfl]
    omega
  unfold exponentFor shiftUp
  dsimp only
  rw [guess, Int.neg_neg, Int.toNat_natCast, show (-((52 - n.log2 : Nat) : Int)).toNat = 0 by omega,
    show twoTo 52 * (1 * twoTo 0) = twoTo 52 from rfl,
    if_neg (Nat.not_lt.mpr (shifted_bounds positive small).1)]
  unfold leastExponent
  omega

/-- The double nearest to a whole number below `2 ^ 53`. -/
theorem nearest_whole (positive : 0 < n) (small : n < twoTo 53) :
    nearest false n 1 = some (ofParts false
      ((n.log2 + 1023) * twoTo 52 + (n * twoTo (52 - n.log2) - twoTo 52))) := by
  have log := log2_le_of_lt positive small
  have bounds := shifted_bounds positive small
  have narrow : (n * twoTo (52 - n.log2) == twoTo 53) = false :=
    beq_eq_false_iff_ne.mpr (Nat.ne_of_lt bounds.2)
  unfold nearest shiftUp
  dsimp only
  rw [exponentFor_whole positive small, if_neg (Nat.ne_of_gt positive),
    show (-((n.log2 : Int) - 52)).toNat = 52 - n.log2 by omega,
    show ((n.log2 : Int) - 52).toNat = 0 by omega, show 1 * twoTo 0 = 1 from rfl,
    roundHalfEven_one, narrow, if_neg Bool.false_ne_true, if_neg Bool.false_ne_true,
    if_neg (Nat.not_lt.mpr bounds.1), if_neg (by omega),
    show ((n.log2 : Int) - 52 + 1075).toNat = n.log2 + 1023 by omega]

/-- The whole part of a whole number that is shifted up and scaled down again. -/
theorem toInt64_shifted {x : Float} {shift : Nat} (range : n < 2 ^ 63)
    (parts : shape x = .finite false (n * twoTo shift) (-(shift : Int))) : toInt64 x = n := by
  have power : 0 < twoTo shift := Nat.two_pow_pos _
  unfold toInt64
  rw [parts]
  dsimp only
  rw [show (-(shift : Int)).toNat = 0 by omega, Int.neg_neg, Int.toNat_natCast,
    show twoTo 0 = 1 from rfl, Nat.mul_one, Nat.mul_div_cancel n power, if_neg Bool.false_ne_true,
    if_pos]
  unfold leastInt64
  change -((2 ^ 63 : Nat) : Int) ≤ n ∧ (n : Int) < ((2 ^ 63 : Nat) : Int)
  omega

theorem shape_nearest (positive : 0 < n) (small : n < twoTo 53) :
    shape (ofParts false ((n.log2 + 1023) * twoTo 52 + (n * twoTo (52 - n.log2) - twoTo 52))) =
      .finite false (n * twoTo (52 - n.log2)) (-((52 - n.log2 : Nat) : Int)) := by
  have log := log2_le_of_lt positive small
  have bounds := shifted_bounds positive small
  have fraction : n * twoTo (52 - n.log2) - twoTo 52 < twoTo 52 := by
    have double : twoTo 53 = twoTo 52 + twoTo 52 := rfl
    omega
  rw [shape_ofParts (by omega) (by omega) fraction, Nat.add_sub_cancel' bounds.1,
    show ((n.log2 + 1023 : Nat) : Int) - 1075 = -((52 - n.log2 : Nat) : Int) by omega]

/-- The double nearest to a whole number of at most `2 ^ 53` is that number. -/
theorem toInt64_nearest (small : n ≤ twoTo 53) :
    ∃ x, nearest false n 1 = some x ∧ toInt64 x = n := by
  rcases Nat.eq_or_lt_of_le small with rfl | small
  · exact ⟨ofParts false (1076 * twoTo 52), by decide +kernel, by decide +kernel⟩
  rcases Nat.eq_zero_or_pos n with rfl | positive
  · exact ⟨ofParts false 0, rfl, by decide +kernel⟩
  · refine ⟨_, nearest_whole positive small, ?_⟩
    exact toInt64_shifted (Nat.lt_trans small (by decide)) (shape_nearest positive small)

end Whole

/-! ## Written numbers -/

section Written

variable {c : Char} {cs : List Char}

/-- A decimal digit is none of the other characters of a number. -/
theorem digit_range (digit : c.isDigit = true) : '0'.toNat ≤ c.toNat ∧ c.toNat ≤ '9'.toNat := by
  rw [Char.isDigit, Bool.and_eq_true, decide_eq_true_eq, decide_eq_true_eq] at digit
  exact ⟨UInt32.le_iff_toNat_le.mp digit.1, UInt32.le_iff_toNat_le.mp digit.2⟩

theorem ne_of_digit {other : Char} (digit : c.isDigit = true)
    (apart : other.toNat < '0'.toNat ∨ '9'.toNat < other.toNat) : c ≠ other := by
  rintro rfl
  have range := digit_range digit
  omega

theorem between_of_digit (digit : c.isDigit = true) : ('0' ≤ c && c ≤ '9') = true := by
  have range := digit_range digit
  rw [Bool.and_eq_true, decide_eq_true_eq, decide_eq_true_eq]
  exact ⟨Char.le_def.mpr (UInt32.le_iff_toNat_le.mpr range.1),
    Char.le_def.mpr (UInt32.le_iff_toNat_le.mpr range.2)⟩

theorem digitValue?_of_digit (digit : c.isDigit = true) :
    digitValue? false c = some (c.toNat - '0'.toNat) := by
  unfold digitValue?
  rw [if_pos (between_of_digit digit)]
  rfl

/-- Digits are read to their end. -/
theorem readMantissa_digits (digits : ∀ c ∈ cs, c.isDigit = true) (read : Mantissa)
    (whole : read.point = false) :
    readMantissa false read cs =
      ({ read with
          value := Nat.ofDigitChars 10 cs read.value
          digits := read.digits || !cs.isEmpty }, []) := by
  induction cs generalizing read with
  | nil => simp [readMantissa]
  | cons c cs ih =>
      have digit := digits c List.mem_cons_self
      have underscore : (c == '_') = false := beq_eq_false_iff_ne.mpr (ne_of_digit digit (by decide))
      have point : (c == '.') = false := beq_eq_false_iff_ne.mpr (ne_of_digit digit (by decide))
      rw [readMantissa, underscore, point, digitValue?_of_digit digit, if_neg Bool.false_ne_true,
        if_neg Bool.false_ne_true]
      dsimp only
      rw [ih (fun c member => digits c (List.mem_cons_of_mem _ member))]
      · rw [Nat.ofDigitChars_cons, whole, Nat.mul_comm]
        simp
      · exact whole

theorem readSign_digits (digits : ∀ c ∈ cs, c.isDigit = true) : readSign cs = (false, cs) := by
  unfold readSign
  split
  · exact absurd rfl (ne_of_digit (digits '-' List.mem_cons_self) (by decide))
  · exact absurd rfl (ne_of_digit (digits '+' List.mem_cons_self) (by decide))
  · rfl

theorem toLower_digit (digit : c.isDigit = true) : c.toLower = c := by
  have range := digit_range digit
  unfold Char.toLower
  split
  · rename_i upper
    have lower := UInt32.le_iff_toNat_le.mp upper.1
    change 65 ≤ c.toNat at lower
    change _ ∧ c.toNat ≤ 57 at range
    omega
  · rfl

/-- Digits stand for the number they write. -/
theorem readDigits_digits (digits : ∀ c ∈ cs, c.isDigit = true) (nonempty : cs ≠ []) :
    readDigits cs = scaled false (Nat.ofDigitChars 10 cs 0) 10 0 := by
  have plain : cs.contains '_' = false := by
    rw [List.contains_eq_mem, decide_eq_false_iff_not]
    exact fun member => absurd (digits '_' member) (by decide)
  unfold readDigits
  split
  rename_i negative body signed
  cases (readSign_digits digits).symm.trans signed
  split
  rename_i hexadecimal body base
  have decimal : (hexadecimal, body) = (false, cs) := by
    rw [← base]
    split
    · rename_i mark next rest
      rw [if_neg]
      rw [toLower_digit (digits mark (by simp)), beq_iff_eq]
      exact ne_of_digit (digits mark (by simp)) (by decide)
    · rfl
  cases decimal
  rw [readMantissa_digits digits {} rfl]
  dsimp only
  rw [plain, List.isEmpty_eq_false_iff.mpr nonempty]
  rfl

/-- A text of digits is no word. -/
theorem ofList_ne_word {text : String} (digits : ∀ c ∈ cs, c.isDigit = true)
    (word : ∃ c ∈ text.toList, c.isDigit = false) : (String.ofList cs == text) = false := by
  refine beq_eq_false_iff_ne.mpr fun same => ?_
  rcases word with ⟨c, member, other⟩
  rw [← same, String.toList_ofList] at member
  rw [digits c member] at other
  cases other

theorem map_toLower_digits (digits : ∀ c ∈ cs, c.isDigit = true) :
    (String.ofList cs).map Char.toLower = String.ofList cs := by
  rw [← String.toList_inj, String.toList_map, String.toList_ofList]
  exact (List.map_congr_left fun c member => toLower_digit (digits c member)).trans (List.map_id cs)

/-- Digits of a whole number of at most `2 ^ 53` are read as that number. -/
theorem read_digits (digits : ∀ c ∈ cs, c.isDigit = true) (nonempty : cs ≠ [])
    (small : Nat.ofDigitChars 10 cs 0 ≤ twoTo 53) :
    toInt64 ((read (String.ofList cs)).value?.getD 0) = Nat.ofDigitChars 10 cs 0 := by
  unfold read
  rw [String.toList_ofList, readSign_digits digits]
  dsimp only
  rw [map_toLower_digits digits, ofList_ne_word digits ⟨'i', by decide, rfl⟩,
    ofList_ne_word digits ⟨'i', by decide, rfl⟩, ofList_ne_word digits ⟨'n', by decide, rfl⟩,
    Bool.or_self, if_neg Bool.false_ne_true, if_neg Bool.false_ne_true, readDigits_digits digits nonempty]
  generalize Nat.ofDigitChars 10 cs 0 = n at small
  rcases toInt64_nearest small with ⟨x, nearest, whole⟩
  have length : (Nat.toDigits 10 n).length ≤ 16 := by
    refine (Nat.length_toDigits_le_iff (by decide) (by decide)).mpr (Nat.lt_of_le_of_lt small ?_)
    decide
  unfold scaled
  dsimp only
  by_cases zero : n = 0
  · rw [if_pos zero, zero]
    decide +kernel
  · rw [if_neg zero, if_pos rfl, if_neg (by omega), if_neg (by omega)]
    have unscaled : Number.nearest false (n * Nat.pow 10 (Int.toNat 0)) (Nat.pow 10 (-0 : Int).toNat) =
        some x := by
      change Number.nearest false (n * 1) 1 = some x
      rw [Nat.mul_one, nearest]
    rw [unscaled]
    exact whole

end Written

end Number
end BigScript
