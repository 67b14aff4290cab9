import BigScript.Proofs.Cipher.Block
import BigScript.Verb.Bits
import Mathlib.Algebra.BigOperators.Group.List.Basic
import Mathlib.Tactic.Set

/-!
# Decryption undoes encryption

The chain of blocks is undone where each block is, and the padding that fills up the last block names
its own length.  So bytes come back whatever their number is, under every key and vector, which are cut
or filled up to their sizes.  The key stream is added twice and vanishes.

What is written between the two, in hexadecimal digits, in base 64 or as a text, gives back the bytes
that it was made from.
-/

namespace BigScript
namespace Bytes

/-! ## Hexadecimal digits -/

theorem hexDigit?_hexAlphabet : ∀ n < 16, hexDigit? (hexAlphabet.getD n '0') = some n := by
  decide +kernel

theorem ofHex?_hex (bytes : Bytes) : ofHex? bytes.hex = some bytes := by
  unfold ofHex? hex
  rw [String.toList_ofList]
  induction bytes with
  | nil => rfl
  | cons b rest ih =>
    have small : b.toNat < 256 := b.toNat_lt
    have high := hexDigit?_hexAlphabet (b.toNat / 16) (by omega)
    have low := hexDigit?_hexAlphabet (b.toNat % 16) (by omega)
    have whole : UInt8.ofNat (16 * (b.toNat / 16) + b.toNat % 16) = b := by
      rw [Nat.div_add_mod]
      exact UInt8.ofNat_toNat
    rw [hexChars, ofHexChars?, high, low, ih]
    exact congrArg (fun first => some (first :: rest)) whole

/-! ## Base 64 -/

theorem base64Value?_base64Digit : ∀ n < 64, base64Value? (base64Digit n) = some n := by
  decide +kernel

theorem base64Digit_plain : ∀ n < 64, base64Digit n ≠ '=' ∧ base64Digit n ≠ '\n' ∧
    base64Digit n ≠ '\r' := by
  decide +kernel

theorem ofBase64Chars?_group (a b c : Char) {d : Char} (digit : d ≠ '=') (rest : List Char) :
    ofBase64Chars? (a :: b :: c :: d :: rest) = (do
      let x ← base64Value? a
      let y ← base64Value? b
      let z ← base64Value? c
      let w ← base64Value? d
      let tail ← ofBase64Chars? rest
      return UInt8.ofNat (x * 4 + y / 16) :: UInt8.ofNat (y % 16 * 16 + z / 4) ::
        UInt8.ofNat (z % 4 * 64 + w) :: tail) := by
  rw [ofBase64Chars?]
  · rintro - same -
    exact digit same
  · rintro same -
    exact digit same

theorem ofBase64Chars?_base64Chars (bytes : Bytes) :
    ofBase64Chars? (base64Chars bytes) = some bytes := by
  have split (a b : Nat) (small : b < 256) : (a % 4 * 16 + b / 16) / 16 = a % 4 := by omega
  have byte (a : UInt8) : UInt8.ofNat (a.toNat / 4 * 4 + a.toNat % 4) = a := by
    rw [Nat.div_add_mod']
    exact UInt8.ofNat_toNat
  induction bytes using base64Chars.induct with
  | case1 => rfl
  | case2 a =>
    have first := base64Value?_base64Digit (a.toNat / 4) (by have := a.toNat_lt; omega)
    have second := base64Value?_base64Digit (a.toNat % 4 * 16) (by omega)
    have whole : a.toNat % 4 * 16 / 16 = a.toNat % 4 := by omega
    simp only [base64Chars, ofBase64Chars?, first, second, Option.bind_eq_bind, Option.bind_some, whole,
      byte]
    rfl
  | case3 a b =>
    have small : b.toNat < 256 := b.toNat_lt
    have first := base64Value?_base64Digit (a.toNat / 4) (by have := a.toNat_lt; omega)
    have second := base64Value?_base64Digit (a.toNat % 4 * 16 + b.toNat / 16) (by omega)
    have third := base64Value?_base64Digit (b.toNat % 16 * 4) (by omega)
    have plain := (base64Digit_plain (b.toNat % 16 * 4) (by omega)).1
    have rest : (a.toNat % 4 * 16 + b.toNat / 16) % 16 * 16 + b.toNat % 16 * 4 / 4 = b.toNat := by omega
    rw [base64Chars, ofBase64Chars?]
    · simp only [first, second, third, Option.bind_eq_bind, Option.bind_some, split _ _ small, byte,
        rest, UInt8.ofNat_toNat]
      rfl
    · exact plain
  | case4 a b c rest ih =>
    have small : b.toNat < 256 := b.toNat_lt
    have less : c.toNat < 256 := c.toNat_lt
    have first := base64Value?_base64Digit (a.toNat / 4) (by have := a.toNat_lt; omega)
    have second := base64Value?_base64Digit (a.toNat % 4 * 16 + b.toNat / 16) (by omega)
    have third := base64Value?_base64Digit (b.toNat % 16 * 4 + c.toNat / 64) (by omega)
    have fourth := base64Value?_base64Digit (c.toNat % 64) (by omega)
    have plain := (base64Digit_plain (c.toNat % 64) (by omega)).1
    have middle : (a.toNat % 4 * 16 + b.toNat / 16) % 16 * 16 +
        (b.toNat % 16 * 4 + c.toNat / 64) / 4 = b.toNat := by
      omega
    have last : (b.toNat % 16 * 4 + c.toNat / 64) % 4 * 64 + c.toNat % 64 = c.toNat := by omega
    rw [base64Chars, ofBase64Chars?_group _ _ _ plain, first, second, third, fourth, ih]
    simp only [Option.bind_eq_bind, Option.bind_some, split _ _ small, byte, middle, last,
      UInt8.ofNat_toNat]
    rfl

theorem base64Chars_plain (bytes : Bytes) : ∀ c ∈ base64Chars bytes, c ≠ '\n' ∧ c ≠ '\r' := by
  have digit (n : Nat) (small : n < 64) : base64Digit n ≠ '\n' ∧ base64Digit n ≠ '\r' :=
    (base64Digit_plain n small).2
  have filler : '=' ≠ '\n' ∧ '=' ≠ '\r' := by decide
  induction bytes using base64Chars.induct with
  | case1 => simp [base64Chars]
  | case2 a =>
    have small : a.toNat < 256 := a.toNat_lt
    simp only [base64Chars, List.forall_mem_cons]
    exact ⟨digit _ (by omega), digit _ (by omega), filler, filler, List.forall_mem_nil _⟩
  | case3 a b =>
    have small : a.toNat < 256 := a.toNat_lt
    have less : b.toNat < 256 := b.toNat_lt
    simp only [base64Chars, List.forall_mem_cons]
    exact ⟨digit _ (by omega), digit _ (by omega), digit _ (by omega), filler, List.forall_mem_nil _⟩
  | case4 a b c rest ih =>
    have small : a.toNat < 256 := a.toNat_lt
    have less : b.toNat < 256 := b.toNat_lt
    have lesser : c.toNat < 256 := c.toNat_lt
    simp only [base64Chars, List.forall_mem_cons]
    exact ⟨digit _ (by omega), digit _ (by omega), digit _ (by omega), digit _ (by omega), ih⟩

theorem ofBase64?_base64 (bytes : Bytes) : ofBase64? bytes.base64 = some bytes := by
  have kept : (base64Chars bytes).filter (fun c => c != '\n' && c != '\r') = base64Chars bytes := by
    refine List.filter_eq_self.mpr fun c member => ?_
    rcases base64Chars_plain bytes c member with ⟨notEnd, notReturn⟩
    simp [notEnd, notReturn]
  rw [ofBase64?, base64, String.toList_ofList, kept, ofBase64Chars?_base64Chars]

/-! ## Texts -/

theorem text?_ofText (text : String) : text? (ofText text) = some text :=
  dif_pos text.isValidUTF8

theorem lossyText_ofText (text : String) : lossyText (ofText text) = text := by
  rw [lossyText, text?_ofText]
  rfl

end Bytes

namespace Cipher

/-! ## Blocks one behind the other -/

/-- The first bytes make the first block. -/
theorem blocks_append {block : Bytes} (whole : block.length = blockSize) (rest : Bytes) :
    blocks (block ++ rest) = block :: blocks rest := by
  have count : (block ++ rest).length / blockSize = rest.length / blockSize + 1 := by
    rw [List.length_append, whole, Nat.add_comm, Nat.add_div_right _ (by decide)]
  unfold blocks
  rw [count, List.range_succ_eq_map, List.map_cons, List.map_map]
  congr 1
  · rw [Nat.mul_zero, List.drop_zero, ← whole, List.take_left]
  · refine List.map_congr_left fun k _ => ?_
    have behind : blockSize * (k + 1) = block.length + blockSize * k := by
      rw [whole, Nat.mul_succ, Nat.add_comm]
    change ((block ++ rest).drop (blockSize * (k + 1))).take blockSize = _
    rw [behind, List.drop_length_add_append]

theorem blocks_flatten {parts : List Bytes} (whole : ∀ part ∈ parts, part.length = blockSize) :
    blocks parts.flatten = parts := by
  induction parts with
  | nil => rfl
  | cons part parts ih =>
    rcases List.forall_mem_cons.mp whole with ⟨first, others⟩
    rw [List.flatten_cons, blocks_append first, ih others]

/-- Bytes whose number is a multiple of the block size are their blocks one behind the other. -/
theorem exists_flatten (count : Nat) {bytes : Bytes} (multiple : bytes.length = blockSize * count) :
    ∃ parts : List Bytes, parts.length = count ∧ (∀ part ∈ parts, part.length = blockSize) ∧
      bytes = parts.flatten := by
  induction count generalizing bytes with
  | zero => exact ⟨[], rfl, List.forall_mem_nil _, List.eq_nil_of_length_eq_zero multiple⟩
  | succ count ih =>
    have enough : blockSize ≤ bytes.length := by
      rw [multiple, Nat.mul_succ]
      exact Nat.le_add_left _ _
    have rest : (bytes.drop blockSize).length = blockSize * count := by
      rw [List.length_drop, multiple, Nat.mul_succ, Nat.add_sub_cancel]
    rcases ih rest with ⟨parts, counted, whole, same⟩
    refine ⟨bytes.take blockSize :: parts, congrArg (· + 1) counted, ?_, ?_⟩
    · exact List.forall_mem_cons.mpr ⟨List.length_take_of_le enough, whole⟩
    · rw [List.flatten_cons, ← same, List.take_append_drop]

/-! ## The chain -/

section Chain

variable {encrypt decrypt : Bytes → Bytes}

theorem chainEncrypt_whole
    (sized : ∀ block, block.length = blockSize → (encrypt block).length = blockSize)
    {parts : List Bytes} (whole : ∀ part ∈ parts, part.length = blockSize) {before : Bytes}
    (size : before.length = blockSize) :
    (chainEncrypt encrypt before parts).length = parts.length ∧
      ∀ part ∈ chainEncrypt encrypt before parts, part.length = blockSize := by
  induction parts generalizing before with
  | nil => exact ⟨rfl, List.forall_mem_nil _⟩
  | cons part parts ih =>
    rcases List.forall_mem_cons.mp whole with ⟨first, others⟩
    have made : (encrypt (xor part before)).length = blockSize := by
      refine sized _ ?_
      rw [length_xor, first, size, Nat.min_self]
    rcases ih others made with ⟨count, further⟩
    exact ⟨congrArg (· + 1) count, List.forall_mem_cons.mpr ⟨made, further⟩⟩

/-- The chain is undone where every block is. -/
theorem chainDecrypt_chainEncrypt
    (sized : ∀ block, block.length = blockSize → (encrypt block).length = blockSize)
    (undone : ∀ block, block.length = blockSize → decrypt (encrypt block) = block)
    {parts : List Bytes} (whole : ∀ part ∈ parts, part.length = blockSize) {before : Bytes}
    (size : before.length = blockSize) :
    chainDecrypt decrypt before (chainEncrypt encrypt before parts) = parts := by
  induction parts generalizing before with
  | nil => rfl
  | cons part parts ih =>
    rcases List.forall_mem_cons.mp whole with ⟨first, others⟩
    have combined : (xor part before).length = blockSize := by
      rw [length_xor, first, size, Nat.min_self]
    rw [chainEncrypt, chainDecrypt, undone _ combined, xor_xor (first.trans size.symm),
      ih others (sized _ combined)]

end Chain

/-! ## Padding -/

theorem length_fit (size : Nat) (bytes : Bytes) : (fit size bytes).length = size := by
  rw [fit, List.length_append, List.length_take, List.length_replicate]
  omega

/-- Padding fills up to whole blocks, of which there is at least one. -/
theorem length_pad (data : Bytes) : (pad data).length = blockSize * (data.length / blockSize + 1) := by
  have rest := Nat.mod_lt data.length (show 0 < blockSize by decide)
  have split := Nat.div_add_mod data.length blockSize
  rw [pad, List.length_append, List.length_replicate, Nat.mul_succ]
  omega

theorem unpad?_pad (data : Bytes) : unpad? (pad data) = some data := by
  set count := blockSize - data.length % blockSize with counted
  have range : 0 < count ∧ count ≤ blockSize := by
    have rest := Nat.mod_lt data.length (show 0 < blockSize by decide)
    omega
  have size : (pad data).length = data.length + count := by
    rw [pad, List.length_append, List.length_replicate]
  have small : count < 256 := Nat.lt_of_le_of_lt range.2 (by decide)
  have last : (pad data).getLastD 0 = count.toUInt8 := by
    have filled : count ≠ 0 := by omega
    rw [List.getLastD_eq_getLast?, pad, List.getLast?_append, List.getLast?_replicate, ← counted,
      if_neg filled]
    rfl
  have named : ((pad data).getLastD 0).toNat = count := by
    rw [last]
    exact UInt8.toNat_ofNat_of_lt' small
  have kept : (pad data).length - count = data.length := by rw [size, Nat.add_sub_cancel]
  unfold unpad?
  dsimp only
  rw [named, kept, if_neg, if_pos]
  · rw [pad, List.take_left]
  · rw [pad, List.drop_left, beq_iff_eq]
  · have bounds : ¬(count = 0) ∧ ¬(blockSize < count) ∧ ¬((pad data).length < count) := by omega
    simpa [and_assoc] using bounds

/-! ## Texts and bytes -/

theorem decryptBytes_encryptBytes (data key iv : Bytes) :
    decryptBytes (encryptBytes data key iv) key iv = .ok data := by
  rcases exists_flatten _ (length_pad data) with ⟨parts, count, whole, padded⟩
  have sized (block : Bytes) (whole : block.length = blockSize) :=
    length_encryptBlock (length_fit 32 key) whole
  have undone (block : Bytes) (whole : block.length = blockSize) :=
    decryptBlock_encryptBlock (length_fit 32 key) whole
  have start := length_fit blockSize iv
  rcases chainEncrypt_whole sized whole start with ⟨made, encrypted⟩
  set chain := chainEncrypt (encryptBlock (fit 32 key)) (fit blockSize iv) parts with chained
  have size : chain.flatten.length = blockSize * (data.length / blockSize + 1) := by
    rw [List.length_flatten, List.map_congr_left encrypted, List.map_const', List.sum_replicate, made,
      count, smul_eq_mul, Nat.mul_comm]
  have complete : ¬(chain.flatten.isEmpty || chain.flatten.length % blockSize != 0) = true := by
    have positive : chain.flatten ≠ [] := by
      rw [← List.length_pos_iff_ne_nil, size]
      exact Nat.mul_pos (by decide) (Nat.succ_pos _)
    have multiple : chain.flatten.length % blockSize = 0 := by
      rw [size]
      exact Nat.mul_mod_right _ _
    rw [multiple, Bool.or_eq_true, List.isEmpty_iff]
    exact fun either => either.elim positive (by decide)
  unfold decryptBytes encryptBytes
  rw [padded, blocks_flatten whole]
  dsimp only
  rw [← chained, Bytes.ofBase64?_base64]
  dsimp only
  rw [if_neg complete, blocks_flatten encrypted, chained, chainDecrypt_chainEncrypt sized undone whole start,
    ← padded, unpad?_pad]

namespace Stream

theorem apply_apply (state : UInt64) (bytes : Bytes) : apply state (apply state bytes) = bytes := by
  induction bytes generalizing state with
  | nil => rfl
  | cons b rest ih =>
    rw [apply, apply, ih, UInt8.xor_assoc, UInt8.xor_self, UInt8.xor_zero]

theorem decodeBytes_encodeBytes (text : String) (key : Bytes) :
    decodeBytes (encodeBytes (Bytes.ofText text) key) key = text := by
  unfold decodeBytes encodeBytes
  rw [Bytes.ofHex?_hex]
  dsimp only
  rw [apply_apply, Bytes.text?_ofText]

end Stream

/-- What was encrypted comes back: bytes under every key and vector, and texts where the key and the
vector are texts as well; so does a text that was hidden under a key. -/
theorem decryption_law :
    (∀ data key iv : Bytes, decryptBytes (encryptBytes data key iv) key iv = .ok data) ∧
      (∀ data key iv : String, Verb.decrypted (encrypt data key iv) key iv = data) ∧
      (∀ (source : String) (key : Bytes),
        Stream.decodeBytes (Stream.encodeBytes (Bytes.ofText source) key) key = source) ∧
      ∀ source key : String, Stream.decode (Stream.encode source key) key = source := by
  refine ⟨decryptBytes_encryptBytes, fun data key iv => ?_, Stream.decodeBytes_encodeBytes,
    fun source key => Stream.decodeBytes_encodeBytes source _⟩
  unfold Verb.decrypted decrypt encrypt
  rw [decryptBytes_encryptBytes]
  exact Bytes.lossyText_ofText data

end Cipher
end BigScript
