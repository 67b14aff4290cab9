import BigScript.Text.Category
import BigScript.Text.Casing

/-!
# Texts

The operations on texts that scripts and their tools share: classes of characters, trimming,
splitting at a separator, replacing, and searching.  Positions and lengths count characters.
-/

namespace BigScript
namespace Text

/-- Letters of any script. -/
def isLetter (c : Char) : Bool :=
  if c.toNat < 128 then c.isAlpha else letters.contains c

/-- Decimal digits of any script. -/
def isDigit (c : Char) : Bool :=
  if c.toNat < 128 then c.isDigit else decimalDigits.contains c

/-- Blank characters: the ASCII controls that move the cursor, the spaces of every width, and the
line and paragraph separators. -/
def isSpace (c : Char) : Bool :=
  let code := c.toNat
  (9 ≤ code && code ≤ 13) || code == 32 || code == 0x85 || code == 0xA0 || code == 0x1680 ||
    (0x2000 ≤ code && code ≤ 0x200A) || code == 0x2028 || code == 0x2029 || code == 0x202F ||
    code == 0x205F || code == 0x3000

/-- Characters that are shown as they are: graphic characters and the plain space. -/
def isPrintable (c : Char) : Bool :=
  if c.toNat < 128 then 32 ≤ c.toNat && c.toNat < 127 else graphic.contains c

/-- Drops the longest run of characters satisfying `p` from the end. -/
def dropRightWhile (p : Char → Bool) (cs : List Char) : List Char :=
  (cs.reverse.dropWhile p).reverse

/-- Drops the longest runs of characters satisfying `p` from both ends. -/
def trimChars (p : Char → Bool) (cs : List Char) : List Char :=
  dropRightWhile p (cs.dropWhile p)

/-- Drops the characters satisfying `p` from both ends of a text. -/
def trimWhere (p : Char → Bool) (s : String) : String :=
  String.ofList (trimChars p s.toList)

/-- Drops blank characters from both ends of a text. -/
def trim (s : String) : String := trimWhere isSpace s

/-- The rest of `cs` after `start`, when `cs` begins with it. -/
def dropStart? : (start cs : List Char) → Option (List Char)
  | [], cs => some cs
  | _ :: _, [] => none
  | a :: start, c :: cs => if a == c then dropStart? start cs else none

theorem dropStart?_eq_some {start cs rest : List Char} (found : dropStart? start cs = some rest) :
    cs = start ++ rest := by
  induction start generalizing cs with
  | nil => simpa [dropStart?] using found
  | cons a start ih =>
      cases cs with
      | nil => simp [dropStart?] at found
      | cons c cs =>
          simp only [dropStart?] at found
          split at found
          · next same =>
              rw [ih found]
              simp_all
          · cases found

/-- Whether a text begins with another. -/
def startsWith (s start : String) : Bool := (dropStart? start.toList s.toList).isSome

/-- Whether a text ends with another. -/
def endsWith (s ending : String) : Bool :=
  (dropStart? ending.toList.reverse s.toList.reverse).isSome

/-- A text without the given start, when it has it. -/
def withoutStart (s start : String) : String :=
  match dropStart? start.toList s.toList with
  | some rest => String.ofList rest
  | none => s

/-- A text without the given ending, when it has it. -/
def withoutEnding (s ending : String) : String :=
  match dropStart? ending.toList.reverse s.toList.reverse with
  | some rest => String.ofList rest.reverse
  | none => s

/-- Splits `cs` at the first occurrence of a separator into what stands before and after it. -/
def cutChars (separator : List Char) : List Char → Option (List Char × List Char)
  | [] => if separator.isEmpty then some ([], []) else none
  | c :: cs =>
    match dropStart? separator (c :: cs) with
    | some rest => some ([], rest)
    | none => (cutChars separator cs).map fun (before, after) => (c :: before, after)

theorem cutChars_length {separator cs before after : List Char}
    (found : cutChars separator cs = some (before, after)) :
    before.length + separator.length + after.length = cs.length := by
  induction cs generalizing before after with
  | nil =>
      simp only [cutChars] at found
      split at found
      · next empty =>
          simp only [Option.some.injEq, Prod.mk.injEq] at found
          obtain ⟨rfl, rfl⟩ := found
          simp_all
      · cases found
  | cons c cs ih =>
      simp only [cutChars] at found
      split at found
      · next rest dropped =>
          simp only [Option.some.injEq, Prod.mk.injEq] at found
          obtain ⟨rfl, rfl⟩ := found
          rw [dropStart?_eq_some dropped]
          simp
      · obtain ⟨⟨inner, last⟩, inside, same⟩ := Option.map_eq_some_iff.mp found
        simp only [Prod.mk.injEq] at same
        obtain ⟨rfl, rfl⟩ := same
        have smaller := ih inside
        simp only [List.length_cons]
        omega

/-- Splits a text at the first occurrence of a separator. -/
def cut (separator s : String) : Option (String × String) :=
  (cutChars separator.toList s.toList).map fun (before, after) =>
    (String.ofList before, String.ofList after)

/-- Whether a text occurs in another. -/
def occursIn (part s : String) : Bool := (cutChars part.toList s.toList).isSome

/-- The parts of `cs` between the occurrences of a non-empty separator. -/
def splitChars (separator cs : List Char) : List (List Char) :=
  match _found : cutChars separator cs with
  | none => [cs]
  | some (before, after) =>
    if _nonempty : separator = [] then [cs]
    else
      before :: splitChars separator after
termination_by cs.length
decreasing_by
  have total := cutChars_length _found
  have : 0 < separator.length := List.length_pos_iff.mpr _nonempty
  omega

/-- The parts of a text between the occurrences of a separator.  An empty separator splits between
all characters. -/
def split (separator s : String) : List String :=
  if separator.isEmpty then s.toList.map String.singleton
  else (splitChars separator.toList s.toList).map String.ofList

/-- The texts `parts` one after another with `separator` between neighbours. -/
def join (separator : String) : List String → String
  | [] => ""
  | [part] => part
  | part :: rest => part ++ separator ++ join separator rest

/-- Replaces every occurrence of `old`, found from left to right without overlap.  An empty `old`
is found before every character and at the end. -/
def replaceAll (old new s : String) : String :=
  if old.isEmpty then
    s.toList.foldl (fun text c => text ++ String.singleton c ++ new) new
  else join new (split old s)

/-- The maximal runs of characters that are not blank, with `word` the run being read. -/
def fieldsFrom (word : List Char) : List Char → List (List Char)
  | [] => if word.isEmpty then [] else [word.reverse]
  | c :: cs =>
    if isSpace c then
      if word.isEmpty then fieldsFrom [] cs else word.reverse :: fieldsFrom [] cs
    else fieldsFrom (c :: word) cs

/-- The maximal runs of characters of a text that are not blank. -/
def fields (s : String) : List String := (fieldsFrom [] s.toList).map String.ofList

/-- Whether two texts agree up to the case of ASCII letters. -/
def sameWord (a b : String) : Bool := a.map Char.toLower == b.map Char.toLower

/-- A text repeated a number of times. -/
def times (n : Nat) (s : String) : String := String.join (List.replicate n s)

/-- A text padded on the left to a width. -/
def padLeft (width : Nat) (fill : Char) (s : String) : String :=
  String.ofList (List.replicate (width - s.length) fill) ++ s

/-- A text padded on the right to a width. -/
def padRight (width : Nat) (fill : Char) (s : String) : String :=
  s ++ String.ofList (List.replicate (width - s.length) fill)

end Text
end BigScript
