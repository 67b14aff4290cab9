import BigScript.Bytes.Digest

/-!
# Ciphers

AES with a 256-bit key in cipher block chaining, with padding that names its own length; and a
stream cipher whose key stream is a linear congruence seeded with the checksum of the key.
-/

namespace BigScript
namespace Cipher

/-- The number of bytes of a block. -/
def blockSize : Nat := 16

/-- Bytewise exclusive or. -/
def xor (a b : Bytes) : Bytes := List.zipWith (· ^^^ ·) a b

namespace Field

/-- The product with the variable in the field of 256 elements. -/
def double (b : UInt8) : UInt8 := if b &&& 0x80 == 0 then b <<< 1 else (b <<< 1) ^^^ 0x1B

/-- The product in the field of 256 elements; the first argument counts the bits of the second
factor. -/
def timesFrom : Nat → UInt8 → UInt8 → UInt8
  | 0, _, _ => 0
  | bits + 1, a, b => (if b &&& 1 == 1 then a else 0) ^^^ timesFrom bits (double a) (b >>> 1)

/-- The product in the field of 256 elements. -/
def times (a b : UInt8) : UInt8 := timesFrom 8 a b

/-- A power in the field of 256 elements. -/
def power (a : UInt8) : Nat → UInt8
  | 0 => 1
  | n + 1 => times a (power a n)

/-- A byte rotated to the left. -/
def rotate (b : UInt8) (n : UInt8) : UInt8 := (b <<< n) ||| (b >>> (8 - n))

/-- The substitute of a byte: its inverse under an affine map. -/
def substitute (b : UInt8) : UInt8 :=
  let x := power b 254
  x ^^^ rotate x 1 ^^^ rotate x 2 ^^^ rotate x 3 ^^^ rotate x 4 ^^^ 0x63

end Field

/-- The substitutes of all bytes. -/
def substitutes : Array UInt8 := ((List.range 256).map fun n => Field.substitute n.toUInt8).toArray

/-- The bytes whose substitutes are the given ones. -/
def substituted : Array UInt8 :=
  (List.range 256).foldl (fun table n =>
    table.setIfInBounds (substitutes.getD n 0).toNat n.toUInt8) (Array.replicate 256 0)

/-- Replaces a byte by its substitute. -/
def substitute (b : UInt8) : UInt8 := substitutes.getD b.toNat 0

/-- Replaces a substitute by the byte it stands for. -/
def restore (b : UInt8) : UInt8 := substituted.getD b.toNat 0

/-- The number of rounds for a key of 32 bytes. -/
def roundCount : Nat := 14

/-- Extends the words of a key; the words so far are kept in reverse. -/
def extendKey (steps count : Nat) (constant : UInt8) (words : List Bytes) : List Bytes :=
  match steps with
  | 0 => words
  | steps + 1 =>
    let last := words.headD []
    let older := words.getD 7 []
    if count % 8 == 0 then
      let turned := (last.drop 1 ++ last.take 1).map substitute
      let marked := xor turned [constant, 0, 0, 0]
      extendKey steps (count + 1) (Field.double constant) (xor older marked :: words)
    else if count % 8 == 4 then
      extendKey steps (count + 1) constant (xor older (last.map substitute) :: words)
    else extendKey steps (count + 1) constant (xor older last :: words)

/-- The words of a key of 32 bytes. -/
def keyWords (key : Bytes) : List Bytes := (List.range 8).map fun k => (key.drop (4 * k)).take 4

/-- The keys of the rounds. -/
def roundKeys (key : Bytes) : List Bytes :=
  let words := (extendKey 52 8 1 (keyWords key).reverse).reverse
  (List.range (roundCount + 1)).map fun k => ((words.drop (4 * k)).take 4).flatten

/-- Moves the rows of a block, stored by columns: row `r` by `r` places to the left. -/
def shiftRows (block : Bytes) : Bytes :=
  (List.range 16).map fun k => block.getD ((k + 4 * (k % 4)) % 16) 0

/-- Moves the rows of a block back. -/
def unshiftRows (block : Bytes) : Bytes :=
  (List.range 16).map fun k => block.getD ((k + 12 * (k % 4)) % 16) 0

/-- Multiplies each column of a block by the circulant matrix with the given first row. -/
def mixColumns (row : List UInt8) (block : Bytes) : Bytes :=
  (List.range 16).map fun k =>
    (List.range 4).foldl (fun sum j =>
      sum ^^^ Field.times (row.getD ((j + 4 - k % 4) % 4) 0) (block.getD (k / 4 * 4 + j) 0)) 0

/-- The matrix that mixes columns. -/
def mixing : List UInt8 := [2, 3, 1, 1]

/-- The matrix that undoes the mixing of columns. -/
def unmixing : List UInt8 := [14, 11, 13, 9]

/-- The rounds of encryption after the first key. -/
def encryptRounds : List Bytes → Bytes → Bytes
  | [], block => block
  | [key], block => xor (shiftRows (block.map substitute)) key
  | key :: keys, block =>
    encryptRounds keys (xor (mixColumns mixing (shiftRows (block.map substitute))) key)

/-- The rounds of decryption, with the keys in reverse. -/
def decryptRounds : List Bytes → Bytes → Bytes
  | [], block => block
  | [key], block => xor block key
  | key :: keys, block =>
    decryptRounds keys ((unshiftRows (mixColumns unmixing (xor block key))).map restore)

/-- Encrypts a block. -/
def encryptBlock (key : Bytes) (block : Bytes) : Bytes :=
  match roundKeys key with
  | [] => block
  | first :: keys => encryptRounds keys (xor block first)

/-- Decrypts a block. -/
def decryptBlock (key : Bytes) (block : Bytes) : Bytes :=
  match (roundKeys key).reverse with
  | [] => block
  | last :: keys => decryptRounds keys ((unshiftRows (xor block last)).map restore)

/-- The blocks of bytes whose number is a multiple of the block size. -/
def blocks (bytes : Bytes) : List Bytes :=
  (List.range (bytes.length / blockSize)).map fun k => (bytes.drop (blockSize * k)).take blockSize

/-- Chains encrypted blocks: each block is combined with the encrypted one before it. -/
def chainEncrypt (encrypt : Bytes → Bytes) (before : Bytes) : List Bytes → List Bytes
  | [] => []
  | block :: rest =>
    let encrypted := encrypt (xor block before)
    encrypted :: chainEncrypt encrypt encrypted rest

/-- Undoes the chaining of blocks. -/
def chainDecrypt (decrypt : Bytes → Bytes) (before : Bytes) : List Bytes → List Bytes
  | [] => []
  | block :: rest => xor (decrypt block) before :: chainDecrypt decrypt block rest

/-- Bytes cut or filled up with zeros to a size. -/
def fit (size : Nat) (bytes : Bytes) : Bytes :=
  bytes.take size ++ List.replicate (size - bytes.length) 0

/-- Fills bytes up to whole blocks; each added byte is the number of added bytes. -/
def pad (bytes : Bytes) : Bytes :=
  let count := blockSize - bytes.length % blockSize
  bytes ++ List.replicate count count.toUInt8

/-- Takes the padding off, if it is one. -/
def unpad? (bytes : Bytes) : Option Bytes :=
  let count := (bytes.getLastD 0).toNat
  let kept := bytes.length - count
  if count = 0 || count > blockSize || count > bytes.length then none
  else if bytes.drop kept == List.replicate count count.toUInt8 then some (bytes.take kept)
  else none

/-- Why a text could not be decrypted. -/
inductive Problem where
  | notBase64
  | notEncrypted
deriving DecidableEq, Repr

/-- The words for a problem. -/
def Problem.text : Problem → String
  | .notBase64 => "Error: Base64 Fail"
  | .notEncrypted => "Error: Decrypt Fail"

/-- Encrypts bytes and writes them in base 64. -/
def encryptBytes (data key iv : Bytes) : String :=
  let encrypted := chainEncrypt (encryptBlock (fit 32 key)) (fit blockSize iv) (blocks (pad data))
  Bytes.base64 encrypted.flatten

/-- Encrypts a text and writes it in base 64. -/
def encrypt (data key iv : String) : String :=
  encryptBytes (Bytes.ofText data) (Bytes.ofText key) (Bytes.ofText iv)

/-- Decrypts what was written in base 64. -/
def decryptBytes (data : String) (key iv : Bytes) : Except Problem Bytes :=
  match Bytes.ofBase64? data with
  | none => .error .notBase64
  | some bytes =>
    if bytes.isEmpty || bytes.length % blockSize != 0 then .error .notEncrypted
    else
      let decrypted := chainDecrypt (decryptBlock (fit 32 key)) (fit blockSize iv) (blocks bytes)
      match unpad? decrypted.flatten with
      | some bytes => .ok bytes
      | none => .error .notEncrypted

/-- Decrypts what was written in base 64, with texts for the key and the vector. -/
def decrypt (data key iv : String) : Except Problem Bytes :=
  decryptBytes data (Bytes.ofText key) (Bytes.ofText iv)

namespace Stream

/-- The next state of the key stream. -/
def next (state : UInt64) : UInt64 := state * 6364136223846793005 + 1442695040888963407

/-- The byte of the key stream at a state. -/
def byte (state : UInt64) : UInt8 := ((state ^^^ (state >>> 18)) >>> 27).toUInt8

/-- Combines bytes with the key stream that follows a state.  Doing it twice changes nothing. -/
def apply (state : UInt64) : Bytes → Bytes
  | [] => []
  | b :: rest => (b ^^^ byte (next state)) :: apply (next state) rest

/-- Bytes under a key as hexadecimal digits. -/
def encodeBytes (source key : Bytes) : String := (apply (Digest.checksum key) source).hex

/-- A text under a key as hexadecimal digits. -/
def encode (source key : String) : String := encodeBytes (Bytes.ofText source) (Bytes.ofText key)

/-- The text that hexadecimal digits hide under a key of bytes. -/
def decodeBytes (source : String) (key : Bytes) : String :=
  match Bytes.ofHex? source with
  | none => "Error: Invalid Hex"
  | some bytes =>
    match Bytes.text? (apply (Digest.checksum key) bytes) with
    | some text => text
    | none => "Error: Invalid UTF-8"

/-- The text that hexadecimal digits hide under a key. -/
def decode (source key : String) : String := decodeBytes source (Bytes.ofText key)

end Stream
end Cipher
end BigScript
