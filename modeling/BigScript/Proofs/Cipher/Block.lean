import BigScript.Proofs.Cipher.Field
import Mathlib.Data.List.GetD
import Mathlib.Tactic.Set

/-!
# Blocks

Every part of a round of encryption has an inverse: substitution, the moving of rows, the mixing of
columns and the adding of a key.  The rounds of decryption undo those of encryption one by one, from the
last to the first, whatever the keys of the rounds are.
-/

namespace BigScript
namespace Cipher

/-! ## The substitution -/

theorem getD_substitutes (b : UInt8) : substitutes.getD b.toNat 0 = Field.substitute b := by
  have small : b.toNat < 256 := b.toNat_lt
  simp [substitutes, small]

/-- Writing the arguments of an injective function at its values makes a table of its inverse. -/
theorem getD_tabled (size n : Nat) (value : Nat → Nat) (entry : Nat → UInt8)
    (range : ∀ k < n, value k < size)
    (injective : ∀ j < n, ∀ k < n, value j = value k → j = k) :
    ∀ k < n, ((List.range n).foldl (fun table j => table.setIfInBounds (value j) (entry j))
      (Array.replicate size 0)).getD (value k) 0 = entry k := by
  have sized (n : Nat) : ((List.range n).foldl
      (fun table j => table.setIfInBounds (value j) (entry j)) (Array.replicate size (0 : UInt8))).size =
        size := by
    induction n with
    | zero => simp
    | succ n ih => rw [List.range_succ, List.foldl_append]; simpa using ih
  induction n with
  | zero => intro k small; exact absurd small (Nat.not_lt_zero k)
  | succ n ih =>
      intro k small
      have before := ih (fun k small => range k (Nat.lt_succ_of_lt small))
        (fun j first k second => injective j (Nat.lt_succ_of_lt first) k (Nat.lt_succ_of_lt second))
      rw [List.range_succ, List.foldl_append]
      simp only [List.foldl_cons, List.foldl_nil]
      rw [Array.getD_eq_getD_getElem?, Array.getElem?_setIfInBounds, sized]
      by_cases last : n = k
      · subst last
        simp [range n (Nat.lt_succ_self n)]
      · have apart : value n ≠ value k := fun same =>
          last (injective n (Nat.lt_succ_self n) k small same)
        rw [if_neg apart, ← Array.getD_eq_getD_getElem?]
        exact before k (by omega)

theorem restore_substitute (b : UInt8) : restore (substitute b) = b := by
  have byte (k : Nat) (small : k < 256) : k.toUInt8.toNat = k :=
    UInt8.toNat_ofNat_of_lt' small
  have tabled (k : Nat) (small : k < 256) :
      substitutes.getD k 0 = Field.substitute k.toUInt8 := by
    have entry := getD_substitutes k.toUInt8
    rwa [byte k small] at entry
  have inverse := getD_tabled 256 256 (fun k => (substitutes.getD k 0).toNat) (fun k => k.toUInt8)
    (fun k _ => UInt8.toNat_lt _)
    (fun j first k second same => by
      have bytes := UInt8.toNat_inj.mp same
      rw [tabled j first, tabled k second] at bytes
      have equal := congrArg UInt8.toNat (Field.substitute_injective bytes)
      rwa [byte j first, byte k second] at equal)
    b.toNat b.toNat_lt
  have self : b.toNat.toUInt8 = b := UInt8.ofNat_toNat
  rw [self] at inverse
  exact inverse

theorem map_restore_substitute (block : Bytes) : (block.map substitute).map restore = block := by
  simp only [List.map_map, Function.comp_def, restore_substitute, List.map_id']

/-! ## Adding a key -/

theorem length_xor (a b : Bytes) : (xor a b).length = min a.length b.length := List.length_zipWith

theorem xor_xor {a b : Bytes} (same : a.length = b.length) : xor (xor a b) b = a := by
  induction a generalizing b with
  | nil => rfl
  | cons x a ih =>
      cases b with
      | nil => cases same
      | cons y b =>
          have rest := ih (Nat.succ.inj same)
          unfold xor at rest ⊢
          rw [List.zipWith_cons_cons, List.zipWith_cons_cons, rest, UInt8.xor_assoc, UInt8.xor_self,
            UInt8.xor_zero]

/-! ## Moving rows -/

theorem length_shiftRows (block : Bytes) : (shiftRows block).length = blockSize := by
  rw [shiftRows, List.length_map, List.length_range, blockSize]

theorem unshiftRows_shiftRows {block : Bytes} (whole : block.length = blockSize) :
    unshiftRows (shiftRows block) = block := by
  have back : ∀ k < 16, (k + 12 * (k % 4) + 4 * ((k + 12 * (k % 4)) % 4)) % 16 = k := by decide
  apply List.ext_getElem
  · rw [unshiftRows, List.length_map, List.length_range, whole, blockSize]
  · intro k inside within
    have small : k < 16 := by rwa [whole] at within
    have there : (k + 12 * (k % 4)) % 16 < 16 := Nat.mod_lt _ (by decide)
    simp [unshiftRows, shiftRows, there, back k small]
    simp [within]

/-! ## Mixing columns -/

namespace Field

/-- The sum of the products of four factors with the bytes of a column. -/
def combine (p q r s : UInt8) (a b c d : UInt8) : UInt8 :=
  times p a ^^^ times q b ^^^ times r c ^^^ times s d

variable (p q r s a b c d : UInt8)

/-- Combinations of a column are combined by combining their factors. -/
theorem combine_combine (p₁ q₁ r₁ s₁ p₂ q₂ r₂ s₂ p₃ q₃ r₃ s₃ u v w x : UInt8) :
    combine u v w x (combine p q r s a b c d) (combine p₁ q₁ r₁ s₁ a b c d)
        (combine p₂ q₂ r₂ s₂ a b c d) (combine p₃ q₃ r₃ s₃ a b c d) =
      combine (combine u v w x p p₁ p₂ p₃) (combine u v w x q q₁ q₂ q₃)
        (combine u v w x r r₁ r₂ r₃) (combine u v w x s s₁ s₂ s₃) a b c d := by
  simp only [combine, times_xor, xor_times, times_assoc]
  ac_rfl

theorem combine_unit : combine 1 0 0 0 a b c d = a ∧ combine 0 1 0 0 a b c d = b ∧
    combine 0 0 1 0 a b c d = c ∧ combine 0 0 0 1 a b c d = d := by
  have none (x : UInt8) : times 0 x = 0 := (times_comm 0 x).trans (times_zero x)
  have once (x : UInt8) : times 1 x = x := (times_comm 1 x).trans (times_one x)
  simp [combine, none, once]

end Field

/-- A byte of a mixed block combines the bytes of its column. -/
theorem getD_mixColumns (row : List UInt8) (block : Bytes) {k : Nat} (small : k < 16) :
    (mixColumns row block).getD k 0 =
      Field.combine (row.getD ((0 + 4 - k % 4) % 4) 0) (row.getD ((1 + 4 - k % 4) % 4) 0)
        (row.getD ((2 + 4 - k % 4) % 4) 0) (row.getD ((3 + 4 - k % 4) % 4) 0)
        (block.getD (k / 4 * 4 + 0) 0) (block.getD (k / 4 * 4 + 1) 0) (block.getD (k / 4 * 4 + 2) 0)
        (block.getD (k / 4 * 4 + 3) 0) := by
  rw [List.getD_eq_getElem?_getD, mixColumns, List.getElem?_map, List.getElem?_range small]
  change (((0 ^^^ _) ^^^ _) ^^^ _) ^^^ _ = _
  rw [UInt8.zero_xor]
  rfl

theorem length_mixColumns (row : List UInt8) (block : Bytes) :
    (mixColumns row block).length = blockSize := by
  rw [mixColumns, List.length_map, List.length_range, blockSize]

theorem mixColumns_mixColumns {block : Bytes} (whole : block.length = blockSize) :
    mixColumns unmixing (mixColumns mixing block) = block := by
  apply List.ext_getElem
  · rw [length_mixColumns, whole]
  · intro k inside within
    have small : k < 16 := by rwa [whole] at within
    have entry : block[k] = block.getD (k / 4 * 4 + k % 4) 0 := by
      rw [Nat.div_add_mod']
      exact (List.getD_eq_getElem _ 0 within).symm
    have column (j : Nat) (less : j < 4) : k / 4 * 4 + j < 16 ∧ (k / 4 * 4 + j) / 4 = k / 4 ∧
        (k / 4 * 4 + j) % 4 = j := by
      omega
    have mixed (j : Nat) (less : j < 4) := getD_mixColumns mixing block (column j less).1
    have row : k % 4 = 0 ∨ k % 4 = 1 ∨ k % 4 = 2 ∨ k % 4 = 3 := by omega
    rw [← List.getD_eq_getElem _ 0 inside, getD_mixColumns _ _ small, entry, mixed 0 (by decide),
      mixed 1 (by decide), mixed 2 (by decide), mixed 3 (by decide)]
    simp only [(column 0 (by decide)).2, (column 1 (by decide)).2, (column 2 (by decide)).2,
      (column 3 (by decide)).2]
    rcases row with same | same | same | same
    · simp only [same, Field.combine_combine]
      exact (Field.combine_unit _ _ _ _).1
    · simp only [same, Field.combine_combine]
      exact (Field.combine_unit _ _ _ _).2.1
    · simp only [same, Field.combine_combine]
      exact (Field.combine_unit _ _ _ _).2.2.1
    · simp only [same, Field.combine_combine]
      exact (Field.combine_unit _ _ _ _).2.2.2

/-! ## Rounds -/

/-- What a round of encryption does in front of the key is undone. -/
theorem unmix_mix {block : Bytes} (whole : block.length = blockSize) :
    (unshiftRows (mixColumns unmixing
      (mixColumns mixing (shiftRows (block.map substitute))))).map restore = block := by
  have moved : (shiftRows (block.map substitute)).length = blockSize := length_shiftRows _
  have replaced : (block.map substitute).length = blockSize := by rwa [List.length_map]
  rw [mixColumns_mixColumns moved, unshiftRows_shiftRows replaced, map_restore_substitute]

/-- The rounds of decryption undo those of encryption, whatever rounds come behind them. -/
theorem decryptRounds_encryptRounds {keys rest : List Bytes} {last : Bytes} {block : Bytes}
    (reversed : keys.reverse = last :: rest) (sized : ∀ key ∈ keys, key.length = blockSize)
    (whole : block.length = blockSize) {behind : List Bytes} (more : behind ≠ []) :
    decryptRounds (rest ++ behind)
      ((unshiftRows (xor (encryptRounds keys block) last)).map restore) = decryptRounds behind block := by
  induction keys generalizing block rest behind with
  | nil => cases reversed
  | cons key keys ih =>
    have keySize := sized key List.mem_cons_self
    have replaced : (block.map substitute).length = blockSize := by rwa [List.length_map]
    cases keys with
    | nil =>
      injection reversed with same none
      subst same none
      have moved : (shiftRows (block.map substitute)).length = key.length :=
        (length_shiftRows _).trans keySize.symm
      rw [encryptRounds, xor_xor moved, unshiftRows_shiftRows replaced, map_restore_substitute,
        List.nil_append]
    | cons next keys =>
      rw [List.reverse_cons] at reversed
      rcases List.append_eq_cons_iff.mp reversed with ⟨none, -⟩ | ⟨inner, split, behindInner⟩
      · simp at none
      · have mixed : (mixColumns mixing (shiftRows (block.map substitute))).length = key.length :=
          (length_mixColumns _ _).trans keySize.symm
        have mixedSize : (xor (mixColumns mixing (shiftRows (block.map substitute))) key).length =
            blockSize := by
          rw [length_xor, mixed, keySize, Nat.min_self]
        have following : key :: behind ≠ [] := List.cons_ne_nil _ _
        have inside := ih split (fun key member => sized key (List.mem_cons_of_mem _ member)) mixedSize
          following
        rw [behindInner, List.append_assoc, List.singleton_append, encryptRounds, inside]
        · cases behind with
          | nil => exact absurd rfl more
          | cons first others =>
            rw [decryptRounds, xor_xor mixed, unmix_mix whole]
            exact List.cons_ne_nil _ _
        · exact List.cons_ne_nil _ _

theorem length_encryptRounds {keys : List Bytes} {block : Bytes}
    (sized : ∀ key ∈ keys, key.length = blockSize) (whole : block.length = blockSize) :
    (encryptRounds keys block).length = blockSize := by
  induction keys generalizing block with
  | nil => exact whole
  | cons key keys ih =>
    have keySize := sized key List.mem_cons_self
    cases keys with
    | nil => rw [encryptRounds, length_xor, length_shiftRows, keySize, Nat.min_self]
    | cons next keys =>
      refine ih (fun key member => sized key (List.mem_cons_of_mem _ member)) ?_
      rw [length_xor, length_mixColumns, keySize, Nat.min_self]

/-! ## Keys -/

theorem length_extendKey (steps count : Nat) (constant : UInt8) {words : List Bytes}
    (eight : 8 ≤ words.length) (sized : ∀ word ∈ words, word.length = 4) :
    (extendKey steps count constant words).length = words.length + steps ∧
      ∀ word ∈ extendKey steps count constant words, word.length = 4 := by
  induction steps generalizing count constant words with
  | zero => exact ⟨rfl, sized⟩
  | succ steps ih =>
    have last : (words.headD []).length = 4 := by
      cases words with
      | nil => simp at eight
      | cons word words => exact sized word List.mem_cons_self
    have older : (words.getD 7 []).length = 4 := by
      rw [List.getD_eq_getElem _ _ eight]
      exact sized _ (List.getElem_mem _)
    have further {word : Bytes} (size : word.length = 4) (count : Nat) (constant : UInt8) :
        (extendKey steps count constant (xor (words.getD 7 []) word :: words)).length =
            words.length + (steps + 1) ∧
          ∀ other ∈ extendKey steps count constant (xor (words.getD 7 []) word :: words),
            other.length = 4 := by
      have made : (xor (words.getD 7 []) word).length = 4 := by
        rw [length_xor, older, size, Nat.min_self]
      have longer : 8 ≤ (xor (words.getD 7 []) word :: words).length := Nat.le_succ_of_le eight
      have more := ih count constant longer (List.forall_mem_cons.mpr ⟨made, sized⟩)
      rwa [List.length_cons, Nat.add_right_comm] at more
    unfold extendKey
    dsimp only
    split
    · refine further ?_ _ _
      rw [length_xor, List.length_map, List.length_append, List.length_drop, List.length_take, last]
      rfl
    · split
      · exact further ((List.length_map _).trans last) _ _
      · exact further last _ _

theorem roundKeys_length (key : Bytes) (size : key.length = 32) :
    (roundKeys key).length = roundCount + 1 ∧ ∀ part ∈ roundKeys key, part.length = blockSize := by
  have words : (keyWords key).reverse.length = 8 := by simp [keyWords]
  have sized : ∀ word ∈ (keyWords key).reverse, word.length = 4 := by
    intro word member
    rcases List.mem_map.mp (List.mem_reverse.mp member) with ⟨k, range, rfl⟩
    have small := List.mem_range.mp range
    rw [List.length_take, List.length_drop, size]
    omega
  have extended := length_extendKey 52 8 1 (Nat.le_of_eq words.symm) sized
  refine ⟨by simp [roundKeys], ?_⟩
  intro part member
  rcases List.mem_map.mp member with ⟨k, range, rfl⟩
  have small : k < 14 + 1 := List.mem_range.mp range
  set all := (extendKey 52 8 1 (keyWords key).reverse).reverse with reversed
  have count : all.length = 60 := by
    rw [reversed, List.length_reverse, extended.1, words]
  have four : ((all.drop (4 * k)).take 4).length = 4 := by
    rw [List.length_take, List.length_drop, count]
    omega
  have each : ∀ word ∈ (all.drop (4 * k)).take 4, word.length = 4 := fun word member =>
    extended.2 word (List.mem_reverse.mp (List.mem_of_mem_drop (List.mem_of_mem_take member)))
  rw [List.length_flatten, List.map_congr_left each, List.map_const', List.sum_replicate, four]
  rfl

theorem length_encryptBlock {key block : Bytes} (size : key.length = 32)
    (whole : block.length = blockSize) : (encryptBlock key block).length = blockSize := by
  rcases roundKeys_length key size with ⟨count, sized⟩
  unfold encryptBlock
  cases keys : roundKeys key with
  | nil => exact whole
  | cons first others =>
    rw [keys] at sized
    have begun : (xor block first).length = blockSize := by
      rw [length_xor, whole, sized first List.mem_cons_self, Nat.min_self]
    exact length_encryptRounds (fun key member => sized key (List.mem_cons_of_mem _ member)) begun

/-- Decrypting a block undoes its encryption. -/
theorem decryptBlock_encryptBlock {key block : Bytes} (size : key.length = 32)
    (whole : block.length = blockSize) :
    decryptBlock key (encryptBlock key block) = block := by
  rcases roundKeys_length key size with ⟨count, sized⟩
  unfold encryptBlock decryptBlock
  cases keys : roundKeys key with
  | nil =>
    rw [keys] at count
    cases count
  | cons first others =>
    rw [keys] at count sized
    cases reversed : others.reverse with
    | nil =>
      rw [List.reverse_eq_nil_iff.mp reversed] at count
      cases count
    | cons last rest =>
      rw [List.reverse_cons, reversed, List.cons_append]
      dsimp only
      have same : block.length = first.length := by rw [whole, sized first List.mem_cons_self]
      have begun : (xor block first).length = blockSize := by
        rw [length_xor, ← same, Nat.min_self, whole]
      have undone := decryptRounds_encryptRounds reversed
        (fun key member => sized key (List.mem_cons_of_mem _ member)) begun (List.cons_ne_nil first [])
      rw [undone, decryptRounds, xor_xor same]

end Cipher
end BigScript
