import BigScript.Text.Basic

/-!
# Patterns

Regular expressions over characters, and the texts in which they are found.  Only whether a pattern
is found matters here, so the meaning of a pattern is the set of places at which a match that begins
at given places can end.
-/

namespace BigScript

/-- Properties by which classes name characters. -/
inductive CharProperty where
  | letter
  | capital
  | small
  | digit
  | punctuation
  | symbol
  | space
deriving DecidableEq, Repr

/-- Whether a character has a property.  Capitals are the letters with a lower case, small letters
those with an upper case. -/
def CharProperty.holds (property : CharProperty) (c : Char) : Bool :=
  match property with
  | .letter => Text.isLetter c
  | .capital => Text.isLetter c && Text.lowerChar c != c
  | .small => Text.isLetter c && Text.lowerChar c == c && Text.upperChar c != c
  | .digit => Text.isDigit c
  | .punctuation => Text.punctuation.contains c
  | .symbol => Text.symbols.contains c
  | .space => [0x20, 0xA0, 0x1680, 0x2028, 0x2029, 0x202F, 0x205F, 0x3000].contains c.toNat ||
      (0x2000 ≤ c.toNat && c.toNat ≤ 0x200A)

/-- One part of a class of characters. -/
inductive ClassPart where
  | ranges (ranges : List (Nat × Nat)) (negated : Bool)
  | property (property : CharProperty) (negated : Bool)
deriving DecidableEq, Repr

namespace ClassPart

/-- Whether a part holds a character. -/
def holds (c : Char) : ClassPart → Bool
  | .ranges spans negated =>
    (spans.any fun (first, last) => first ≤ c.toNat && c.toNat ≤ last) != negated
  | .property named negated => named.holds c != negated

end ClassPart

/-- A class of characters; `folded` classes do not tell upper from lower case. -/
structure CharClass where
  parts : List ClassPart
  negated : Bool := false
  folded : Bool := false
deriving DecidableEq, Repr

namespace CharClass

/-- Whether the parts of a class hold a character as it is. -/
def holdsPlain (set : CharClass) (c : Char) : Bool := set.parts.any (ClassPart.holds c)

/-- Letters that are variants of others: the small form of the letter, and its variant. -/
def letterVariants : List (Char × Char) :=
  [('k', '\u212A'), ('s', '\u017F'), ('å', '\u212B'), ('ß', '\u1E9E'), ('μ', '\u00B5'),
   ('β', '\u03D0'), ('ε', '\u03F5'), ('θ', '\u03D1'), ('θ', '\u03F4'), ('ι', '\u1FBE'),
   ('ι', '\u0345'), ('κ', '\u03F0'), ('π', '\u03D6'), ('ρ', '\u03F1'), ('σ', '\u03C2'),
   ('φ', '\u03D5'), ('ω', '\u2126'), ('ṡ', '\u1E9B')]

/-- The characters that differ from a character in case only, and the character itself. -/
def caseForms (c : Char) : List Char :=
  let small := Text.lowerChar (Text.upperChar c)
  [c, Text.lowerChar c, Text.upperChar c, Text.upperChar (Text.lowerChar c), small] ++
    (letterVariants.filter (·.1 == small)).map (·.2)

/-- Whether a class holds a character. -/
def holds (set : CharClass) (c : Char) : Bool :=
  let found := if set.folded then (caseForms c).any set.holdsPlain else set.holdsPlain c
  found != set.negated

/-- The class of one character. -/
def single (c : Char) (folded : Bool) : CharClass :=
  { parts := [.ranges [(c.toNat, c.toNat)] false], folded }

end CharClass

/-- Conditions on a place in a text. -/
inductive Anchor where
  | textStart
  | textEnd
  | lineStart
  | lineEnd
  | wordEdge
  | noWordEdge
deriving DecidableEq, Repr

/-- A regular expression. -/
inductive Pattern where
  | empty
  | char (set : CharClass)
  | anchor (anchor : Anchor)
  | sequence (first second : Pattern)
  | choice (first second : Pattern)
  /-- A number of repetitions from `least` to `most`. -/
  | repeated (body : Pattern) (least : Nat) (most : Option Nat)
deriving DecidableEq, Repr

namespace Pattern

/-- Characters of words. -/
def isWordChar (c : Char) : Bool := c.isAlphanum || c == '_'

/-- Whether a word character stands at a place. -/
def wordAt (text : Array Char) (i : Nat) : Bool := (text[i]?).any isWordChar

/-- Whether a condition holds at a place. -/
def anchored (text : Array Char) (i : Nat) : Anchor → Bool
  | .textStart => i == 0
  | .textEnd => i == text.size
  | .lineStart => i == 0 || text[i - 1]? == some '\n'
  | .lineEnd => i == text.size || text[i]? == some '\n'
  | .wordEdge => (0 < i && wordAt text (i - 1)) != wordAt text i
  | .noWordEdge => (0 < i && wordAt text (i - 1)) == wordAt text i

/-- Places without repetition. -/
def places (all : List Nat) : List Nat := all.eraseDups

/-- Applies a step a number of times. -/
def iterate (step : List Nat → List Nat) : Nat → List Nat → List Nat
  | 0, all => all
  | n + 1, all => iterate step n (step all)

/-- Applies a step up to a number of times, or until nothing new is reached. -/
def reach (step : List Nat → List Nat) : Nat → List Nat → List Nat → List Nat
  | 0, all, _ => all
  | n + 1, all, latest =>
    let new := (step latest).filter fun i => !all.contains i
    if new.isEmpty then all else reach step n (all ++ new) new

/-- The places at which a match can end that begins at one of the given places. -/
def ends (text : Array Char) : Pattern → List Nat → List Nat
  | .empty, all => all
  | .char set, all =>
    all.filterMap fun i => if (text[i]?).any set.holds then some (i + 1) else none
  | .anchor condition, all => all.filter fun i => anchored text i condition
  | .sequence first second, all => ends text second (ends text first all)
  | .choice first second, all => places (ends text first all ++ ends text second all)
  | .repeated body least most, all =>
    let begun := iterate (fun some => places (ends text body some)) least all
    let steps := match most with
      | some n => n - least
      | none => text.size + 1
    reach (fun some => places (ends text body some)) steps begun begun

/-- Whether a pattern is found in a text. -/
def foundIn (pattern : Pattern) (text : String) : Bool :=
  let chars := text.toList.toArray
  !(pattern.ends chars (List.range (chars.size + 1))).isEmpty

/-- The largest number of copies that nested repetitions ask for. -/
def copies : Pattern → Nat
  | .empty => 1
  | .char _ => 1
  | .anchor _ => 1
  | .sequence first second => max first.copies second.copies
  | .choice first second => max first.copies second.copies
  | .repeated body least most =>
    let count := match most with
      | some n => n
      | none => least
    body.copies * max 1 count

end Pattern
end BigScript
