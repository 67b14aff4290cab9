import BigScript.Proofs.WholeNumber

/-!
# Order and distance of doubles

Two doubles are placed against each other in one of three ways, unless one of them is undefined.
Their distance is undefined where one of them is, and between an infinity and itself.  So a double
is at the distance zero from itself exactly where it is finite.

Whatever is written with digits is read as a finite double: a number too large for one is refused.
The others are read from words only, which `specialWords` lists.
-/

namespace BigScript
namespace Number

open Float.Model Float.Model.UnpackedFloat

/-! ## Order -/

theorem compare_swap (x y : UnpackedFloat) : y.compare x = (x.compare y).map Ordering.swap := by
  cases x with
  | notANumber => cases y <;> rfl
  | infinity s =>
      cases y with
      | infinity t => cases s <;> cases t <;> rfl
      | _ => cases s <;> rfl
  | zero s =>
      cases y with
      | infinity t => cases t <;> rfl
      | finite t m e positive => cases t <;> rfl
      | _ => rfl
  | finite s m e positive =>
      cases y with
      | notANumber => cases s <;> rfl
      | infinity t => cases s <;> cases t <;> rfl
      | zero t => cases s <;> rfl
      | finite t n f other =>
          have sized : (compare f e).then (compare n m) =
              ((compare e f).then (compare m n)).swap := by
            rw [Ordering.swap_then, ← Std.OrientedCmp.eq_swap, ← Std.OrientedCmp.eq_swap]
          cases s <;> cases t <;>
            simp only [UnpackedFloat.compare, sized, Option.map_some, Ordering.swap]

theorem compare_eq_none_iff (x y : UnpackedFloat) :
    x.compare y = none ↔ x.isNaN = true ∨ y.isNaN = true := by
  cases x with
  | notANumber => exact iff_of_true rfl (.inl rfl)
  | infinity s | finite s =>
      cases y with
      | notANumber => exact iff_of_true (by cases s <;> rfl) (.inr rfl)
      | infinity t | zero t | finite t =>
          cases s <;> cases t <;> simp [UnpackedFloat.compare, UnpackedFloat.isNaN]
  | zero s =>
      cases y with
      | notANumber => exact iff_of_true rfl (.inr rfl)
      | infinity t | zero t | finite t =>
          cases t <;> simp [UnpackedFloat.compare, UnpackedFloat.isNaN]

/-- How a double is placed against another one. -/
def order (x y : Float) : Option Ordering := x.toModel.unpack.compare y.toModel.unpack

section Order

variable (x y : Float)

theorem lt_iff_order : x < y ↔ order x y = some .lt := by
  change decide (x.toModel.unpack.lt y.toModel.unpack = true) = true ↔ _
  rw [decide_eq_true_iff, UnpackedFloat.lt, beq_iff_eq, order]

theorem gt_iff_order : x > y ↔ order x y = some .gt := by
  rw [gt_iff_lt, lt_iff_order, order, compare_swap, order]
  cases x.toModel.unpack.compare y.toModel.unpack with
  | none => simp
  | some place => cases place <;> simp

theorem beq_iff_order : (x == y) = true ↔ order x y = some .eq := by
  change (x.toModel.unpack.compare y.toModel.unpack == some .eq) = true ↔ _
  rw [beq_iff_eq, order]

theorem order_eq_none_iff : order x y = none ↔ x.isNaN = true ∨ y.isNaN = true :=
  compare_eq_none_iff _ _

end Order

/-! ## Distance -/

section Parts

variable (s : Sign) (m : Nat) (e : Int) (positive : 0 < m)

theorem isNaN_infinity : (UnpackedFloat.infinity s).isNaN = false := rfl

theorem isNaN_zero : (UnpackedFloat.zero s).isNaN = false := rfl

theorem isNaN_finite : (UnpackedFloat.finite s m e positive).isNaN = false := rfl

theorem isInf_infinity : (UnpackedFloat.infinity s).isInf = true := rfl

theorem isInf_zero : (UnpackedFloat.zero s).isInf = false := rfl

theorem isInf_finite : (UnpackedFloat.finite s m e positive).isInf = false := rfl

theorem round_isNaN : (UnpackedFloat.round Format.binary64 s m e).isNaN = false := by
  unfold UnpackedFloat.round roundWithAccuracy
  dsimp only
  split <;> rfl

end Parts

theorem normalize_isNaN (n e : Int) (s : Sign) :
    (UnpackedFloat.normalize Format.binary64 n e s).isNaN = false := by
  unfold UnpackedFloat.normalize
  split
  · exact round_isNaN _ _ _
  · rfl
  · exact round_isNaN _ _ _

/-- A difference is undefined where one of the two numbers is, and between an infinity and
itself. -/
theorem sub_isNaN (x y : UnpackedFloat) :
    (UnpackedFloat.sub Format.binary64 x y).isNaN = true ↔
      x.isNaN = true ∨ y.isNaN = true ∨ (x.isInf = true ∧ x = y) := by
  cases x with
  | notANumber => exact iff_of_true rfl (.inl rfl)
  | infinity s =>
      cases y with
      | notANumber => exact iff_of_true rfl (.inr (.inl rfl))
      | infinity t =>
          cases s <;> cases t <;> simp [UnpackedFloat.sub, isNaN_infinity, isInf_infinity] <;> rfl
      | zero | finite => simp [UnpackedFloat.sub, isNaN_infinity, isNaN_zero, isNaN_finite]
  | zero s =>
      cases y with
      | notANumber => exact iff_of_true rfl (.inr (.inl rfl))
      | infinity | finite => simp [UnpackedFloat.sub, isNaN_infinity, isNaN_zero, isNaN_finite]
      | zero t =>
          rw [UnpackedFloat.sub]
          split <;> simp [isNaN_zero, isInf_zero]
  | finite s m e positive =>
      cases y with
      | notANumber => exact iff_of_true rfl (.inr (.inl rfl))
      | infinity | zero =>
          simp [UnpackedFloat.sub, isNaN_infinity, isNaN_zero, isNaN_finite, isInf_finite]
      | finite t n f other =>
          rw [UnpackedFloat.sub]
          dsimp only
          rw [normalize_isNaN]
          simp [isNaN_finite, isInf_finite]

theorem packComponents_ne_packedNaN {sign : Sign} {scale : BitVec 11} {fraction : BitVec 52}
    (bounded : scale ≠ -1#11 ∨ fraction = 0#52) :
    packComponents Format.binary64 sign scale fraction ≠ packedNaN Format.binary64 := by
  intro same
  have scales := congrArg unpackExponent same
  have fractions := congrArg unpackMantissa same
  rw [packedNaN, unpackExponent_packComponents, unpackExponent_packComponents] at scales
  rw [packedNaN, unpackMantissa_packComponents, unpackMantissa_packComponents] at fractions
  rcases bounded with bounded | whole
  · exact bounded scales
  · rw [whole] at fractions
    exact absurd fractions (by decide)

/-- Packing a number, however large, does not make it undefined. -/
theorem pack_eq_packedNaN_iff (x : UnpackedFloat) :
    UnpackedFloat.pack Format.binary64 x = packedNaN Format.binary64 ↔ x = .notANumber := by
  refine ⟨fun same => ?_, fun same => same ▸ rfl⟩
  cases x with
  | notANumber => rfl
  | infinity s => exact absurd same (packComponents_ne_packedNaN (.inr rfl))
  | zero s => exact absurd same (packComponents_ne_packedNaN (.inl (by decide)))
  | finite s m e positive =>
      rw [UnpackedFloat.pack] at same
      dsimp only at same
      split at same
      · exact absurd same (packComponents_ne_packedNaN (.inr rfl))
      · next small =>
          split at same
          · refine absurd same (packComponents_ne_packedNaN (.inl fun full => ?_))
            have values := congrArg BitVec.toNat full
            rw [BitVec.toNat_ofNat] at values
            change _ % 2 ^ 11 = 2047 at values
            change ¬ 2 ^ 11 ≤ _ at small
            omega
          · exact absurd same (packComponents_ne_packedNaN (.inl (by decide)))

theorem unpack_pack_isNaN (x : UnpackedFloat) : (Float.Model.pack x).unpack.isNaN = x.isNaN := by
  have undefined : (Float.Model.pack x).unpack.isNaN = true ↔ x = .notANumber :=
    (isNaN_unpack_iff_of_valid valid_pack).trans (pack_eq_packedNaN_iff x)
  rw [Bool.eq_iff_iff, undefined]
  cases x <;> simp [UnpackedFloat.isNaN]

theorem abs_isNaN (x : UnpackedFloat) : x.abs.isNaN = x.isNaN := by
  cases x <;> rfl

theorem eq_of_unpack {x y : Float} (same : x.toModel.unpack = y.toModel.unpack) : x = y := by
  rcases x with ⟨⟨bits, valid⟩⟩
  rcases y with ⟨⟨others, otherValid⟩⟩
  cases UInt64.toBitVec_inj.mp ((unpack_inj_of_valid valid otherValid).mp same)
  rfl

/-- The distance of two doubles, before it is packed. -/
theorem abs_sub_eq (x y : Float) :
    (x - y).abs = ⟨.pack (Float.Model.pack (.sub Format.binary64 x.toModel.unpack
      y.toModel.unpack)).unpack.abs⟩ := rfl

theorem distance_isNaN (x y : Float) :
    (x - y).abs.isNaN = true ↔ x.isNaN = true ∨ y.isNaN = true ∨ (x.isInf = true ∧ x = y) := by
  have parts : (x - y).abs.isNaN =
      (UnpackedFloat.sub Format.binary64 x.toModel.unpack y.toModel.unpack).isNaN := by
    rw [abs_sub_eq]
    change (Float.Model.pack _).unpack.isNaN = _
    rw [unpack_pack_isNaN, abs_isNaN, unpack_pack_isNaN]
  have same : x.toModel.unpack = y.toModel.unpack ↔ x = y := ⟨eq_of_unpack, fun same => same ▸ rfl⟩
  rw [parts, sub_isNaN, same]
  rfl

/-- A finite double is at no distance from itself. -/
theorem distance_self {x : Float} (finite : x.isFinite = true) : (x - x).abs = 0 := by
  have nothing : UnpackedFloat.sub Format.binary64 x.toModel.unpack x.toModel.unpack =
      .zero .positive := by
    change x.toModel.unpack.isFinite = true at finite
    cases parts : x.toModel.unpack with
    | notANumber | infinity => rw [parts] at finite; cases finite
    | zero s => cases s <;> rfl
    | finite s m e positive =>
        simp only [UnpackedFloat.sub, Int.sub_self]
        rfl
  rw [abs_sub_eq, nothing]
  decide +kernel

theorem isFinite_eq_false_iff (x : Float) :
    x.isFinite = false ↔ x.isNaN = true ∨ x.isInf = true := by
  change x.toModel.unpack.isFinite = false ↔
    x.toModel.unpack.isNaN = true ∨ x.toModel.unpack.isInf = true
  cases x.toModel.unpack <;>
    simp [UnpackedFloat.isFinite, UnpackedFloat.isNaN, UnpackedFloat.isInf]

/-! ## Numbers that are read -/

theorem ofParts_isFinite (negative : Bool) {rest : Nat} (small : rest < 2047 * twoTo 52) :
    (ofParts negative rest).isFinite = true := by
  let bits : BitVec 64 := (UInt64.ofNat ((if negative then twoTo 63 else 0) + rest)).toBitVec
  have size : bits.toNat = (if negative then 2 ^ 63 else 0) + rest := by
    change rest < 2047 * 2 ^ 52 at small
    have fits : (if negative then twoTo 63 else 0) + rest < 2 ^ 64 := by
      change (if negative then 2 ^ 63 else 0) + rest < 2 ^ 64
      split <;> omega
    change (UInt64.ofNat _).toBitVec.toNat = _
    rw [UInt64.toNat_toBitVec, UInt64.toNat_ofNat_of_lt' fits]
    rfl
  have scale : @unpackExponent Format.binary64 bits ≠ -1 := by
    intro full
    have values := congrArg BitVec.toNat full
    change bits.toNat >>> 52 % 2 ^ 11 = 2047 at values
    rw [size, Nat.shiftRight_eq_div_pow] at values
    change rest < 2047 * 2 ^ 52 at small
    cases negative <;> simp only [Bool.false_eq_true, if_false, if_true] at values <;> omega
  have valid : Format.binary64.Valid bits := ⟨fun full => absurd full scale⟩
  change (UnpackedFloat.unpack Format.binary64 (UnpackedFloat.pack Format.binary64
    (UnpackedFloat.unpack Format.binary64 bits))).isFinite = true
  rw [pack_unpack_of_valid valid]
  unfold UnpackedFloat.unpack
  dsimp only
  split
  · exact absurd ‹_› scale
  · split
    · split <;> rfl
    · rfl

theorem infinity_isFinite (negative : Bool) : (infinity negative).isFinite = false := by
  cases negative <;> decide +kernel

section Rounding

variable {n d : Nat}

theorem shiftUp_lt {e : Int} (positive : 0 < d) (large : (n.log2 : Int) - d.log2 - 52 ≤ e) :
    shiftUp n (-e) < twoTo 53 * shiftUp d e := by
  have power : 2 ^ (n.log2 + 1 + (-e).toNat) ≤ 2 ^ (53 + d.log2 + e.toNat) :=
    Nat.pow_le_pow_right (by decide) (by omega)
  calc
    n * 2 ^ (-e).toNat < 2 ^ (n.log2 + 1) * 2 ^ (-e).toNat :=
      Nat.mul_lt_mul_of_pos_right Nat.lt_log2_self (Nat.two_pow_pos _)
    _ = 2 ^ (n.log2 + 1 + (-e).toNat) := (Nat.pow_add ..).symm
    _ ≤ 2 ^ (53 + d.log2 + e.toNat) := power
    _ = 2 ^ 53 * (2 ^ d.log2 * 2 ^ e.toNat) := by rw [Nat.pow_add, Nat.pow_add, Nat.mul_assoc]
    _ ≤ 2 ^ 53 * (d * 2 ^ e.toNat) :=
      Nat.mul_le_mul_left _ (Nat.mul_le_mul_right _ (Nat.log2_self_le (Nat.ne_of_gt positive)))

/-- One binary place more on one of the two sides doubles a quotient. -/
theorem shiftUp_pred_lt {e : Int} (short : shiftUp n (-e) < twoTo 52 * shiftUp d e) :
    shiftUp n (-(e - 1)) < twoTo 53 * shiftUp d (e - 1) := by
  unfold shiftUp at short ⊢
  rcases Int.lt_or_le 0 e with up | down
  · obtain ⟨k, rfl⟩ : ∃ k : Nat, e = k + 1 := ⟨(e - 1).toNat, by omega⟩
    rw [show (-((k : Int) + 1)).toNat = 0 by omega,
      show ((k : Int) + 1).toNat = k + 1 by omega] at short
    rw [show (-((k : Int) + 1 - 1)).toNat = 0 by omega, show ((k : Int) + 1 - 1).toNat = k by omega]
    calc
      n * 2 ^ 0 < 2 ^ 52 * (d * 2 ^ (k + 1)) := short
      _ = 2 ^ 53 * (d * 2 ^ k) := by ring
  · obtain ⟨k, rfl⟩ : ∃ k : Nat, e = -(k : Int) := ⟨(-e).toNat, by omega⟩
    rw [Int.neg_neg, Int.toNat_natCast, show (-(k : Int)).toNat = 0 by omega] at short
    rw [show (-(-(k : Int) - 1)).toNat = k + 1 by omega, show (-(k : Int) - 1).toNat = 0 by omega]
    calc
      n * 2 ^ (k + 1) = 2 * (n * 2 ^ k) := by ring
      _ < 2 * (2 ^ 52 * (d * 2 ^ 0)) := Nat.mul_lt_mul_of_pos_left short (by decide)
      _ = 2 ^ 53 * (d * 2 ^ 0) := by ring

/-- The quotient that is rounded to a double has at most 53 bits. -/
theorem quotient_lt (n : Nat) (positive : 0 < d) :
    shiftUp n (-exponentFor n d) < twoTo 53 * shiftUp d (exponentFor n d) := by
  unfold exponentFor
  dsimp only
  generalize guessed : (n.log2 : Int) - d.log2 - 52 = guess
  split
  · next short =>
      by_cases above : guess ≤ max leastExponent (guess - 1)
      · exact shiftUp_lt positive (guessed ▸ above)
      · rw [show max leastExponent (guess - 1) = guess - 1 by omega]
        exact shiftUp_pred_lt short
  · exact shiftUp_lt positive (guessed ▸ Int.le_max_right _ _)

theorem roundHalfEven_le {bound : Nat} (small : n < bound * d) : roundHalfEven n d ≤ bound := by
  have quotient : n / d < bound := Nat.div_lt_of_lt_mul (by rwa [Nat.mul_comm] at small)
  unfold roundHalfEven
  dsimp only
  split
  · omega
  · split
    · omega
    · split <;> omega

theorem nearest_isFinite {negative : Bool} {x : Float} (positive : 0 < d)
    (found : nearest negative n d = some x) : x.isFinite = true := by
  have bound := roundHalfEven_le (quotient_lt n positive)
  unfold nearest at found
  dsimp only at found
  split at found
  · cases found
    exact ofParts_isFinite negative (by decide)
  · generalize exponentFor n d = e at found bound
    generalize roundHalfEven _ _ = significand at found bound
    generalize narrowed : (if (significand == twoTo 53) = true then twoTo 52 else significand) =
      narrow at found
    generalize (if (significand == twoTo 53) = true then e + 1 else e) = scale at found
    have fits : narrow < twoTo 53 := by
      rw [← narrowed]
      split
      · decide
      · next other =>
          rw [beq_iff_eq] at other
          exact Nat.lt_of_le_of_ne bound other
    split at found
    · next below =>
        cases found
        exact ofParts_isFinite negative (Nat.lt_trans below (by decide))
    · split at found
      · cases found
      · have scales : (scale + 1075).toNat ≤ 2046 := by omega
        generalize (scale + 1075).toNat = k at *
        have size : k * twoTo 52 + (narrow - twoTo 52) < 2047 * twoTo 52 := by
          have double : twoTo 53 = twoTo 52 + twoTo 52 := rfl
          have most : k * twoTo 52 ≤ 2046 * twoTo 52 := Nat.mul_le_mul_right _ scales
          omega
        exact Option.some.inj found ▸ ofParts_isFinite negative size

end Rounding

namespace Reading

/-- Whether what is read is finite, if it is a number. -/
def Finite (reading : Reading) : Prop := ∀ x, reading.value? = some x → x.isFinite = true

theorem Finite.ite {condition : Prop} [Decidable condition] {first second : Reading}
    (firstFinite : first.Finite) (secondFinite : second.Finite) :
    (if condition then first else second).Finite := by
  split
  · exact firstFinite
  · exact secondFinite

theorem Finite.malformed : Reading.malformed.Finite := nofun

theorem Finite.tooLarge (negative : Bool) : (Reading.tooLarge negative).Finite := nofun

theorem Finite.exact {x : Float} (finite : x.isFinite = true) : (Reading.exact x).Finite :=
  fun _ found => Option.some.inj found ▸ finite

end Reading

theorem scaled_finite (negative : Bool) (value : Nat) {base : Nat} (exponent : Int)
    (positive : 0 < base) : (scaled negative value base exponent).Finite := by
  have zero : (Reading.exact (ofParts negative 0)).Finite :=
    .exact (ofParts_isFinite negative (by decide))
  unfold scaled
  refine zero.ite (.ite (.tooLarge negative) (zero.ite ?_))
  split
  · next found => exact .exact (nearest_isFinite (Nat.pow_pos positive) found)
  · exact .tooLarge negative

/-- What is read from digits is finite. -/
theorem readDigits_finite (text : List Char) : (readDigits text).Finite := by
  have malformed := Reading.Finite.malformed
  have finished (negative hexadecimal : Bool) (value : Nat) (exponent : Int) :
      (scaled negative value (if hexadecimal then 2 else 10) exponent).Finite :=
    scaled_finite negative value exponent (by cases hexadecimal <;> decide)
  unfold readDigits
  dsimp only
  split
  · exact malformed.ite (malformed.ite (finished _ _ _ _))
  · refine .ite ?_ malformed
    split
    · exact malformed
    · exact .ite (malformed.ite (finished _ _ _ _)) malformed

/-- The words, in lower case, that are read as numbers without being finite. -/
def specialWords : List String :=
  ["nan", "inf", "infinity", "+inf", "+infinity", "-inf", "-infinity"]

theorem toLower_eq_iff {c mark : Char} (low : mark.toNat < 'A'.toNat) :
    c.toLower = mark ↔ c = mark := by
  change mark.toNat < 65 at low
  unfold Char.toLower
  split
  · next upper =>
      have first : 65 ≤ c.toNat := UInt32.le_iff_toNat_le.mp upper.1
      have last : c.toNat ≤ 90 := UInt32.le_iff_toNat_le.mp upper.2
      refine iff_of_false (fun same => ?_) (fun same => ?_)
      · have codes : (c.val + 32).toNat = mark.toNat := congrArg Char.toNat same
        rw [UInt32.toNat_add] at codes
        change (c.toNat + 32) % 2 ^ 32 = mark.toNat at codes
        omega
      · rw [same] at first
        omega
  · exact Iff.rfl

theorem readSign_of_ne {c : Char} (minus : c ≠ '-') (plus : c ≠ '+') (cs : List Char) :
    readSign (c :: cs) = (false, c :: cs) := by
  unfold readSign
  split
  · next same => exact absurd (List.cons.inj same).1 minus
  · next same => exact absurd (List.cons.inj same).1 plus
  · rfl

/-- What stands behind a sign does not depend on the letter case. -/
theorem readSign_lower (cs : List Char) :
    (readSign (cs.map Char.toLower)).2 = (readSign cs).2.map Char.toLower := by
  cases cs with
  | nil => rfl
  | cons c cs =>
      by_cases minus : c = '-'
      · subst minus
        rfl
      · by_cases plus : c = '+'
        · subst plus
          rfl
        · rw [List.map_cons, readSign_of_ne minus plus, readSign_of_ne]
          · rfl
          · rwa [Ne, toLower_eq_iff (by decide)]
          · rwa [Ne, toLower_eq_iff (by decide)]

theorem mem_specialWords_iff (text : String) :
    text ∈ specialWords ↔ (readSign text.toList).2 = "inf".toList ∨
      (readSign text.toList).2 = "infinity".toList ∨ text = "nan" := by
  have chars (other : String) : text = other ↔ text.toList = other.toList := String.toList_inj.symm
  simp only [specialWords, List.mem_cons, List.not_mem_nil, or_false, chars]
  generalize text.toList = cs
  cases cs with
  | nil => decide
  | cons c cs =>
      by_cases minus : c = '-'
      · subst minus
        simp [readSign]
      · by_cases plus : c = '+'
        · subst plus
          simp [readSign]
        · rw [readSign_of_ne minus plus]
          simp [minus, plus]
          tauto

/-- A text is read as a number that is not finite if it is one of the words, and only then. -/
theorem read_special_iff (text : String) :
    (∃ x, (read text).value? = some x ∧ x.isFinite = false) ↔
      text.map Char.toLower ∈ specialWords := by
  rw [mem_specialWords_iff, String.toList_map, readSign_lower]
  unfold read
  split
  next negative word signed =>
  have spelled (other : String) : ((String.ofList word).map Char.toLower == other) = true ↔
      word.map Char.toLower = other.toList := by
    rw [beq_iff_eq, ← String.toList_inj, String.toList_map, String.toList_ofList]
  rw [signed]
  dsimp only
  split
  · next unbounded =>
      rw [Bool.or_eq_true, spelled, spelled] at unbounded
      exact iff_of_true ⟨_, rfl, infinity_isFinite negative⟩ (or_assoc.mp (.inl unbounded))
  · next bounded =>
      rw [Bool.or_eq_true, spelled, spelled] at bounded
      split
      · next nan => exact iff_of_true ⟨_, rfl, by decide +kernel⟩ (.inr (.inr (eq_of_beq nan)))
      · next digits =>
          rw [beq_iff_eq] at digits
          refine iff_of_false ?_ fun word => (or_assoc.mpr word).elim bounded digits
          rintro ⟨x, found, infinite⟩
          rw [readDigits_finite _ x found] at infinite
          cases infinite

end Number
end BigScript
