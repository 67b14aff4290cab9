import BigScript.Text.Quoted

/-!
# Bytes as text

A text is stored as the bytes of its UTF-8 form.  Bytes that are no text are written as hexadecimal
digits or in base 64.
-/

namespace BigScript

/-- A sequence of bytes. -/
abbrev Bytes := List UInt8

namespace Bytes

/-- The bytes of a text. -/
def ofText (s : String) : Bytes := s.toUTF8.data.toList

/-- The text that bytes store, if they store one. -/
def text? (bytes : Bytes) : Option String := String.fromUTF8? ⟨bytes.toArray⟩

/-- Whether a byte continues a character. -/
def continues (b : UInt8) : Bool := b &&& 0xC0 == 0x80

/-- The number of bytes of the character that a byte begins. -/
def sizeAfter (b : UInt8) : Nat :=
  if b < 0x80 then 1 else if b < 0xE0 then 2 else if b < 0xF0 then 3 else 4

/-- The text of bytes in which every byte that belongs to no character is shown as a replacement
character. -/
def lossyFrom (steps : Nat) (bytes : Bytes) : String :=
  match steps, bytes with
  | 0, _ => ""
  | _, [] => ""
  | steps + 1, b :: rest =>
    let size := sizeAfter b
    match text? ((b :: rest).take size) with
    | some s =>
      if s.length = 1 then s ++ lossyFrom steps ((b :: rest).drop size)
      else "\uFFFD" ++ lossyFrom steps rest
    | none => "\uFFFD" ++ lossyFrom steps rest

/-- The text of bytes, with replacement characters where they store none. -/
def lossyText (bytes : Bytes) : String := (text? bytes).getD (lossyFrom bytes.length bytes)

/-- The hexadecimal digits. -/
def hexAlphabet : List Char := "0123456789abcdef".toList

/-- Two hexadecimal digits for each byte. -/
def hexChars : Bytes → List Char
  | [] => []
  | b :: rest =>
    hexAlphabet.getD (b.toNat / 16) '0' :: hexAlphabet.getD (b.toNat % 16) '0' :: hexChars rest

/-- Bytes as hexadecimal digits. -/
def hex (bytes : Bytes) : String := String.ofList (hexChars bytes)

/-- The value of a hexadecimal digit in either case. -/
def hexDigit? (c : Char) : Option Nat := hexAlphabet.findIdx? (· == c.toLower)

/-- The bytes written by pairs of hexadecimal digits. -/
def ofHexChars? : List Char → Option Bytes
  | [] => some []
  | [_] => none
  | high :: low :: rest => do
    let h ← hexDigit? high
    let l ← hexDigit? low
    let tail ← ofHexChars? rest
    return UInt8.ofNat (16 * h + l) :: tail

/-- The bytes that hexadecimal digits write. -/
def ofHex? (s : String) : Option Bytes := ofHexChars? s.toList

/-- The digits of base 64. -/
def base64Alphabet : List Char :=
  "ABCDEFGHIJKLMNOPQRSTUVWXYZabcdefghijklmnopqrstuvwxyz0123456789+/".toList

/-- A digit of base 64. -/
def base64Digit (n : Nat) : Char := base64Alphabet.getD n 'A'

/-- Four digits for three bytes each; the last group is filled up with equality signs. -/
def base64Chars : Bytes → List Char
  | [] => []
  | [a] => [base64Digit (a.toNat / 4), base64Digit (a.toNat % 4 * 16), '=', '=']
  | [a, b] =>
    [base64Digit (a.toNat / 4), base64Digit (a.toNat % 4 * 16 + b.toNat / 16),
      base64Digit (b.toNat % 16 * 4), '=']
  | a :: b :: c :: rest =>
    base64Digit (a.toNat / 4) :: base64Digit (a.toNat % 4 * 16 + b.toNat / 16) ::
      base64Digit (b.toNat % 16 * 4 + c.toNat / 64) :: base64Digit (c.toNat % 64) ::
      base64Chars rest

/-- Bytes in base 64. -/
def base64 (bytes : Bytes) : String := String.ofList (base64Chars bytes)

/-- The value of a digit of base 64. -/
def base64Value? (c : Char) : Option Nat := base64Alphabet.findIdx? (· == c)

/-- The bytes written by groups of four digits of base 64. -/
def ofBase64Chars? : List Char → Option Bytes
  | [] => some []
  | [a, b, '=', '='] => do
    let x ← base64Value? a
    let y ← base64Value? b
    return [UInt8.ofNat (x * 4 + y / 16)]
  | [a, b, c, '='] => do
    let x ← base64Value? a
    let y ← base64Value? b
    let z ← base64Value? c
    return [UInt8.ofNat (x * 4 + y / 16), UInt8.ofNat (y % 16 * 16 + z / 4)]
  | a :: b :: c :: d :: rest => do
    let x ← base64Value? a
    let y ← base64Value? b
    let z ← base64Value? c
    let w ← base64Value? d
    let tail ← ofBase64Chars? rest
    return UInt8.ofNat (x * 4 + y / 16) :: UInt8.ofNat (y % 16 * 16 + z / 4) ::
      UInt8.ofNat (z % 4 * 64 + w) :: tail
  | _ => none

/-- The bytes that base 64 writes; ends of lines are left out. -/
def ofBase64? (s : String) : Option Bytes :=
  ofBase64Chars? (s.toList.filter fun c => c != '\n' && c != '\r')

end Bytes
end BigScript
