import BigScript.Bytes.Cipher
import BigScript.Machine.Luck
import BigScript.Statement.Basic

/-!
# Hidden texts

`bit` encodes, encrypts, scatters and digests texts.
-/

namespace BigScript
namespace Verb

/-- The characters that scattering puts between those of a text. -/
def scatterAlphabet : List Char :=
  "ABCDEFGHIJKLMNOPQRSTUVWXYZabcdefghijklmnopqrstuvwxyz0123456789!@#$%^&*()".toList

/-- Puts two random characters behind every character. -/
def scatter : List Char → Act (List Char)
  | [] => return []
  | c :: cs => do
    let a ← Luck.below scatterAlphabet.length
    let b ← Luck.below scatterAlphabet.length
    let rest ← scatter cs
    return c :: scatterAlphabet.getD a 'A' :: scatterAlphabet.getD b 'A' :: rest

/-- Encodes or decodes a text under a key: `bit code X with K nebc`. -/
def streamCode (encoding : Bool) : Statement := fun toks i => do
  let (source, last) ← Operand.text toks (i + 2)
  if (toks.peek (last + 1)).isWord .withWord then
    let (key, last) ← Operand.text toks (last + 2)
    if (toks.peek (last + 1)).isWord .nebc then
      let result :=
        if encoding then Cipher.Stream.encode source key else Cipher.Stream.decode source key
      Statement.finish toks (last + 1) [result]
    else Statement.abandon toks i
  else Statement.abandon toks i

/-- The decrypted text, or the words for the problem. -/
def decrypted (data key iv : String) : String :=
  match Cipher.decrypt data key iv with
  | .ok bytes => Bytes.lossyText bytes
  | .error problem => problem.text

/-- Encrypts or decrypts a text: `bit aes encrypt D key K iv V`. -/
def blockCode : Statement := fun toks i => do
  let mode := toks.peek (i + 2)
  if mode.isWord .encrypt || mode.isWord .decrypt then
    let (data, last) ← Operand.value toks (i + 3)
    if (toks.peek (last + 1)).isWord .key then
      let (key, last) ← Operand.value toks (last + 2)
      if (toks.peek (last + 1)).isWord .iv then
        let (iv, last) ← Operand.value toks (last + 2)
        let result :=
          if mode.isWord .decrypt then decrypted data key iv else Cipher.encrypt data key iv
        Statement.finish toks last [result]
      else Statement.abandon toks i
    else Statement.abandon toks i
  else Statement.abandon toks i

/-- Encodes, encrypts, scatters or digests a text. -/
def bit : Statement := fun toks i => do
  let action := toks.peek (i + 1)
  match action.lexeme with
  | .word .code => streamCode true toks i
  | .word .decode => streamCode false toks i
  | .word .aes => blockCode toks i
  | .word .demon =>
    let (text, last) ← Operand.value toks (i + 2)
    Statement.finish toks last [String.ofList (← scatter text.toList)]
  | .name _ =>
    if Text.lower action.rawName == "hash" then
      let (text, last) ← Operand.text toks (i + 2)
      Statement.finish toks last [(Digest.hash (Bytes.ofText text)).hex]
    else if Text.lower action.rawName == "checksum" then
      let (text, last) ← Operand.text toks (i + 2)
      let sum := (Digest.checksum (Bytes.ofText text)).toNat
      Statement.finish toks last [String.ofList (Nat.toDigits 16 sum)]
    else Statement.abandon toks i
  | _ => Statement.abandon toks i

end Verb
end BigScript
