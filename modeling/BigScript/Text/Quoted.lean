import BigScript.Text.Basic

/-!
# Quoted texts

A text between double quotes in which every character can be seen: printable characters stand for
themselves, and every other character is written as an escape that names it.
-/

namespace BigScript
namespace Text

/-- The lower-case hexadecimal digits of a number, padded with zeros to a width. -/
def hexDigits (width n : Nat) : String :=
  padLeft width '0' (String.ofList (Nat.toDigits 16 n))

namespace Quoted

/-- The written form of one character between double quotes. -/
def char (c : Char) : String :=
  match c with
  | '"' => "\\\""
  | '\\' => "\\\\"
  | '\x07' => "\\a"
  | '\x08' => "\\b"
  | '\x0c' => "\\f"
  | '\n' => "\\n"
  | '\r' => "\\r"
  | '\t' => "\\t"
  | '\x0b' => "\\v"
  | c =>
    if isPrintable c then String.singleton c
    else if c.toNat < 128 then "\\x" ++ hexDigits 2 c.toNat
    else if c.toNat < 0x10000 then "\\u" ++ hexDigits 4 c.toNat
    else "\\U" ++ hexDigits 8 c.toNat

end Quoted

/-- A text between double quotes, with everything that is not printable escaped. -/
def quoted (s : String) : String :=
  "\"" ++ String.join (s.toList.map Quoted.char) ++ "\""

end Text
end BigScript
