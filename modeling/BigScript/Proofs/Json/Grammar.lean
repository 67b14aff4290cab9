import BigScript.Json.Read
import Mathlib.Data.List.TakeWhile

/-!
# The grammar of documents

What is a document, said of texts alone, from numbers to arrays and objects.  The values that documents
stand for do not matter here.

The reader keeps a number as it is written.  What it has read is a number by the grammar, and a number
by the grammar is read back as a whole wherever nothing follows that would continue it.

Documents are defined by the number of levels that they may have.  One level more allows brackets
around documents of the levels below, so that everything about documents is an induction on a number.
Where a document ends is not decided by the document alone, as a number could go on: `Stops` says that
no number does.
-/

namespace BigScript
namespace Json

/-! ## Numbers -/

/-- Digits, one at least. -/
structure IsDigits (cs : List Char) : Prop where
  nonempty : cs ≠ []
  all : ∀ c ∈ cs, isDigit c = true

/-- The whole part of a number: a zero, or digits that do not begin with one. -/
inductive IsWhole : List Char → Prop where
  | zero : IsWhole ['0']
  | digits {cs : List Char} (digits : IsDigits cs) (head : cs.head? ≠ some '0') : IsWhole cs

/-- The part of a number behind its whole part, if any: a point with digits. -/
inductive IsFraction : List Char → Prop where
  | absent : IsFraction []
  | point {cs : List Char} (digits : IsDigits cs) : IsFraction ('.' :: cs)

/-- The exponent of a number, if any. -/
inductive IsExponent : List Char → Prop where
  | absent : IsExponent []
  | unsigned {mark : Char} {cs : List Char} (marks : mark = 'e' ∨ mark = 'E') (digits : IsDigits cs) :
      IsExponent (mark :: cs)
  | signed {mark sign : Char} {cs : List Char} (marks : mark = 'e' ∨ mark = 'E')
      (signs : sign = '+' ∨ sign = '-') (digits : IsDigits cs) : IsExponent (mark :: sign :: cs)

/-- A number. -/
inductive IsNumber : List Char → Prop where
  | positive {whole fraction exponent : List Char} (isWhole : IsWhole whole)
      (isFraction : IsFraction fraction) (isExponent : IsExponent exponent) :
      IsNumber (whole ++ fraction ++ exponent)
  | negative {whole fraction exponent : List Char} (isWhole : IsWhole whole)
      (isFraction : IsFraction fraction) (isExponent : IsExponent exponent) :
      IsNumber ('-' :: (whole ++ fraction ++ exponent))

/-- Whether a character behind a number would continue it. -/
def continues (c : Char) : Bool := isDigit c || c == '.' || c == 'e' || c == 'E'

/-- Whether what follows a number does not continue it. -/
def Ends (rest : List Char) : Prop := ∀ c ∈ rest.head?, continues c = false

/-! ## What is read is a number -/

theorem isDigits_of_readDigits? {cs digits rest : List Char}
    (read : readDigits? cs = some (digits, rest)) : IsDigits digits := by
  unfold readDigits? at read
  dsimp only at read
  split at read
  · cases read
  · rename_i nonempty
    cases read
    refine ⟨fun empty => nonempty (List.isEmpty_iff.mpr empty), fun c member => ?_⟩
    exact List.mem_takeWhile_imp member

theorem isWhole_of_readWhole? {cs whole rest : List Char}
    (read : readWhole? cs = some (whole, rest)) : IsWhole whole := by
  unfold readWhole? at read
  split at read
  · cases read
    exact .zero
  · rename_i other
    refine .digits (isDigits_of_readDigits? read) fun zero => ?_
    unfold readDigits? at read
    dsimp only at read
    split at read
    · cases read
    · cases read
      cases cs with
      | nil => cases zero
      | cons c cs =>
        rw [List.takeWhile_cons] at zero
        split at zero
        · cases zero
          exact other cs rfl
        · cases zero

theorem isFraction_of_readFraction? {cs fraction rest : List Char}
    (read : readFraction? cs = some (fraction, rest)) : IsFraction fraction := by
  unfold readFraction? at read
  split at read
  · rcases Option.map_eq_some_iff.mp read with ⟨⟨digits, behind⟩, found, same⟩
    cases same
    exact .point (isDigits_of_readDigits? found)
  · cases read
    exact .absent

theorem isExponent_of_readExponent? {cs exponent rest : List Char}
    (read : readExponent? cs = some (exponent, rest)) : IsExponent exponent := by
  unfold readExponent? at read
  split at read
  · rename_i mark behind
    split at read
    · rename_i marked
      have marks : mark = 'e' ∨ mark = 'E' := by simpa using marked
      dsimp only at read
      rcases Option.map_eq_some_iff.mp read with ⟨⟨digits, after⟩, found, same⟩
      cases same
      have digits := isDigits_of_readDigits? found
      unfold readExponentSign
      split
      · exact .signed marks (.inl rfl) digits
      · exact .signed marks (.inr rfl) digits
      · exact .unsigned marks digits
    · cases read
      exact .absent
  · cases read
    exact .absent

theorem isNumber_of_readNumber? {cs number rest : List Char}
    (read : readNumber? cs = some (number, rest)) : IsNumber number := by
  unfold readNumber? at read
  rcases Option.bind_eq_some_iff.mp read with ⟨⟨whole, behind⟩, wholeRead, read⟩
  rcases Option.bind_eq_some_iff.mp read with ⟨⟨fraction, behind⟩, fractionRead, read⟩
  rcases Option.bind_eq_some_iff.mp read with ⟨⟨exponent, behind⟩, exponentRead, read⟩
  have isWhole := isWhole_of_readWhole? wholeRead
  have isFraction := isFraction_of_readFraction? fractionRead
  have isExponent := isExponent_of_readExponent? exponentRead
  dsimp only at read
  split at read
  · cases read
    exact .negative isWhole isFraction isExponent
  · cases read
    exact .positive isWhole isFraction isExponent

/-! ## A number is read back -/

theorem IsDigits.read {digits : List Char} (isDigits : IsDigits digits) {rest : List Char}
    (apart : ∀ c ∈ rest.head?, isDigit c = false) :
    readDigits? (digits ++ rest) = some (digits, rest) := by
  have none : rest.takeWhile isDigit = [] := by
    cases rest with
    | nil => rfl
    | cons c rest =>
      rw [List.takeWhile_cons, apart c rfl]
      rfl
  have all : (digits ++ rest).takeWhile isDigit = digits := by
    rw [List.takeWhile_append_of_pos isDigits.all, none, List.append_nil]
  unfold readDigits?
  dsimp only
  rw [all, List.isEmpty_eq_false_iff.mpr isDigits.nonempty, List.drop_left]
  rfl

/-- What follows the parts of a number continues none of them. -/
structure HaltsAt (whole fraction exponent : List Char) (c : Char) : Prop where
  digit : isDigit c = true → whole = ['0'] ∧ fraction = [] ∧ exponent = []
  point : c = '.' → fraction ≠ [] ∨ exponent ≠ []
  mark : c = 'e' ∨ c = 'E' → exponent ≠ []

section Parts

variable {whole fraction exponent rest : List Char}

theorem haltsAt_of_ends (whole fraction exponent : List Char) (ends : Ends rest) :
    ∀ c ∈ rest.head?, HaltsAt whole fraction exponent c := by
  intro c first
  have apart := ends c first
  simp only [continues, Bool.or_eq_false_iff, beq_eq_false_iff_ne] at apart
  rcases apart with ⟨⟨⟨noDigit, noPoint⟩, noMark⟩, noCapital⟩
  constructor
  · intro digit
    rw [noDigit] at digit
    cases digit
  · intro point
    exact absurd point noPoint
  · rintro (mark | mark)
    · exact absurd mark noMark
    · exact absurd mark noCapital

theorem readExponentSign_digits {digits : List Char} (isDigits : IsDigits digits) (rest : List Char) :
    readExponentSign (digits ++ rest) = ([], digits ++ rest) := by
  cases digits with
  | nil => exact absurd rfl isDigits.nonempty
  | cons c digits =>
    have digit := isDigits.all c List.mem_cons_self
    unfold readExponentSign
    split
    · rename_i same
      cases same
      cases digit
    · rename_i same
      cases same
      cases digit
    · rfl

theorem IsExponent.read (isExponent : IsExponent exponent)
    (halts : ∀ c ∈ rest.head?, HaltsAt whole fraction exponent c) :
    readExponent? (exponent ++ rest) = some (exponent, rest) := by
  have apart (present : exponent ≠ []) : ∀ c ∈ rest.head?, isDigit c = false := by
    intro c first
    exact Bool.eq_false_iff.mpr fun digit => present ((halts c first).digit digit).2.2
  cases isExponent with
  | absent =>
    cases rest with
    | nil => rfl
    | cons c rest =>
      have unmarked : ¬ (c == 'e' || c == 'E') = true := by
        intro mark
        exact (halts c rfl).mark (by simpa using mark) rfl
      rw [List.nil_append, readExponent?, if_neg unmarked]
  | @unsigned mark digits marks isDigits =>
    have marked : (mark == 'e' || mark == 'E') = true := by simpa using marks
    rw [List.cons_append, readExponent?, if_pos marked, readExponentSign_digits isDigits]
    dsimp only
    rw [isDigits.read (apart nofun)]
    rfl
  | @signed mark sign digits marks signs isDigits =>
    have marked : (mark == 'e' || mark == 'E') = true := by simpa using marks
    rw [List.cons_append, readExponent?, if_pos marked]
    rcases signs with rfl | rfl
    · rw [List.cons_append, readExponentSign]
      dsimp only
      rw [isDigits.read (apart nofun)]
      rfl
    · rw [List.cons_append, readExponentSign]
      dsimp only
      rw [isDigits.read (apart nofun)]
      rfl

/-- An exponent begins with its mark. -/
theorem IsExponent.head (isExponent : IsExponent exponent) (present : exponent ≠ []) :
    ∀ c ∈ (exponent ++ rest).head?, isDigit c = false ∧ c ≠ '.' := by
  cases isExponent with
  | absent => exact absurd rfl present
  | unsigned marks digits =>
    rintro _ ⟨⟩
    rcases marks with rfl | rfl <;> decide
  | signed marks signs digits =>
    rintro _ ⟨⟩
    rcases marks with rfl | rfl <;> decide

theorem IsFraction.read (isFraction : IsFraction fraction) (isExponent : IsExponent exponent)
    (halts : ∀ c ∈ rest.head?, HaltsAt whole fraction exponent c) :
    readFraction? (fraction ++ (exponent ++ rest)) = some (fraction, exponent ++ rest) := by
  cases isFraction with
  | absent =>
    have noPoint : ∀ c ∈ (exponent ++ rest).head?, c ≠ '.' := by
      intro c first
      by_cases absent : exponent = []
      · subst absent
        exact fun point => ((halts c first).point point).elim (absurd rfl) (absurd rfl)
      · exact (isExponent.head absent c first).2
    unfold readFraction?
    split
    · rename_i same
      rw [List.nil_append] at same
      rw [same] at noPoint
      exact absurd rfl (noPoint '.' rfl)
    · rfl
  | @point digits isDigits =>
    have apart : ∀ c ∈ (exponent ++ rest).head?, isDigit c = false := by
      intro c first
      by_cases absent : exponent = []
      · subst absent
        exact Bool.eq_false_iff.mpr fun digit => absurd ((halts c first).digit digit).2.1 nofun
      · exact (isExponent.head absent c first).1
    rw [List.cons_append, readFraction?, isDigits.read apart]
    rfl

theorem IsWhole.read (isWhole : IsWhole whole) (isFraction : IsFraction fraction)
    (isExponent : IsExponent exponent) (halts : ∀ c ∈ rest.head?, HaltsAt whole fraction exponent c) :
    readWhole? (whole ++ (fraction ++ (exponent ++ rest))) =
      some (whole, fraction ++ (exponent ++ rest)) := by
  cases isWhole with
  | zero => rfl
  | digits digits head =>
    have apart : ∀ c ∈ (fraction ++ (exponent ++ rest)).head?, isDigit c = false := by
      cases isFraction with
      | absent =>
        intro c first
        by_cases absent : exponent = []
        · subst absent
          refine Bool.eq_false_iff.mpr fun digit => head ?_
          rw [((halts c first).digit digit).1]
          rfl
        · exact (isExponent.head absent c first).1
      | point digits =>
        rintro _ ⟨⟩
        rfl
    unfold readWhole?
    split
    · rename_i same
      cases whole with
      | nil => exact absurd rfl digits.nonempty
      | cons c whole =>
        cases same
        exact absurd rfl head
    · exact digits.read apart

/-- The whole part of a number begins with a digit. -/
theorem IsWhole.head (isWhole : IsWhole whole) : ∃ c cs, whole = c :: cs ∧ isDigit c = true := by
  cases isWhole with
  | zero => exact ⟨'0', [], rfl, rfl⟩
  | digits digits head =>
    cases whole with
    | nil => exact absurd rfl digits.nonempty
    | cons c cs => exact ⟨c, cs, rfl, digits.all c List.mem_cons_self⟩

/-- Parts that nothing continues are read back, without a sign and with one. -/
theorem readNumber?_parts (isWhole : IsWhole whole) (isFraction : IsFraction fraction)
    (isExponent : IsExponent exponent) (halts : ∀ c ∈ rest.head?, HaltsAt whole fraction exponent c) :
    readNumber? (whole ++ fraction ++ exponent ++ rest) = some (whole ++ fraction ++ exponent, rest) ∧
      readNumber? ('-' :: (whole ++ fraction ++ exponent) ++ rest) =
        some ('-' :: (whole ++ fraction ++ exponent), rest) := by
  have wholeRead := isWhole.read isFraction isExponent halts
  have fractionRead := isFraction.read isExponent halts
  have exponentRead := isExponent.read halts
  constructor
  · rcases isWhole.head with ⟨c, cs, rfl, digit⟩
    unfold readNumber?
    split
    rename_i sign body split
    split at split
    · rename_i same
      cases same
      cases digit
    · cases split
      simp only [List.append_assoc, wholeRead, fractionRead, exponentRead, Option.bind_eq_bind,
        Option.bind_some, Option.pure_def, List.nil_append]
  · unfold readNumber?
    simp only [List.cons_append, List.append_assoc, wholeRead, fractionRead, exponentRead,
      Option.bind_eq_bind, Option.bind_some, Option.pure_def, List.nil_append]

end Parts

theorem IsNumber.head {number : List Char} (isNumber : IsNumber number) :
    ∃ c cs, number = c :: cs ∧ (c = '-' ∨ isDigit c = true) := by
  cases isNumber with
  | positive isWhole =>
    rcases isWhole.head with ⟨c, cs, rfl, digit⟩
    exact ⟨c, _, rfl, .inr digit⟩
  | negative => exact ⟨'-', _, rfl, .inl rfl⟩

/-- A number is read back as a whole wherever nothing follows that would continue it. -/
theorem IsNumber.read {number : List Char} (isNumber : IsNumber number) {rest : List Char}
    (ends : Ends rest) : readNumber? (number ++ rest) = some (number, rest) := by
  cases isNumber with
  | positive isWhole isFraction isExponent =>
    exact (readNumber?_parts isWhole isFraction isExponent (haltsAt_of_ends _ _ _ ends)).1
  | negative isWhole isFraction isExponent =>
    exact (readNumber?_parts isWhole isFraction isExponent (haltsAt_of_ends _ _ _ ends)).2

/-! ## Texts of documents -/

/-- Blanks between the parts of a document. -/
def Blank (cs : List Char) : Prop := ∀ c ∈ cs, isBlank c = true

/-- The digits of a code unit. -/
def IsHexDigit (c : Char) : Prop :=
  ('0' ≤ c ∧ c ≤ '9') ∨ ('a' ≤ c ∧ c ≤ 'f') ∨ ('A' ≤ c ∧ c ≤ 'F')

/-- What may stand between the quotes of a string. -/
inductive IsBody : List Char → Prop where
  | nil : IsBody []
  | plain {c : Char} {cs : List Char} (printable : 32 ≤ c.toNat) (noQuote : c ≠ '"')
      (noEscape : c ≠ '\\') (further : IsBody cs) : IsBody (c :: cs)
  | escape {e : Char} {cs : List Char} (short : e ∈ ['"', '\\', '/', 'b', 'f', 'n', 'r', 't'])
      (further : IsBody cs) : IsBody ('\\' :: e :: cs)
  | unit {a b c d : Char} {cs : List Char} (digits : ∀ digit ∈ [a, b, c, d], IsHexDigit digit)
      (further : IsBody cs) : IsBody ('\\' :: 'u' :: a :: b :: c :: d :: cs)

/-- A string with its quotes. -/
inductive IsString : List Char → Prop where
  | quoted {cs : List Char} (body : IsBody cs) : IsString ('"' :: (cs ++ ['"']))

/-- A document without arrays and objects. -/
inductive IsScalar : List Char → Prop where
  | word {cs : List Char} (known : cs ∈ ["null".toList, "true".toList, "false".toList]) : IsScalar cs
  | number {cs : List Char} (isNumber : IsNumber cs) : IsScalar cs
  | string {cs : List Char} (isString : IsString cs) : IsScalar cs

section Parts

variable (P : List Char → Prop)

/-- A text of some kind with blanks around it. -/
inductive Padded : List Char → Prop where
  | pad {before cs after : List Char} (front : Blank before) (inner : P cs) (back : Blank after) :
      Padded (before ++ cs ++ after)

/-- One or more texts of some kind with commas between them. -/
inductive Separated : List Char → Prop where
  | last {cs : List Char} (one : P cs) : Separated cs
  | next {cs rest : List Char} (one : P cs) (further : Separated rest) : Separated (cs ++ ',' :: rest)

/-- A name and a text of some kind, with a colon between them. -/
inductive Field : List Char → Prop where
  | named {name value : List Char} (isName : Padded IsString name) (isValue : Padded P value) :
      Field (name ++ ':' :: value)

/-- A document in which the items and the values of fields are texts of some kind. -/
inductive Nested : List Char → Prop where
  | scalar {cs : List Char} (isScalar : IsScalar cs) : Nested cs
  | emptyArray {gap : List Char} (blank : Blank gap) : Nested ('[' :: (gap ++ [']']))
  | array {cs : List Char} (items : Separated (Padded P) cs) : Nested ('[' :: (cs ++ [']']))
  | emptyObject {gap : List Char} (blank : Blank gap) : Nested ('\x7b' :: (gap ++ ['\x7d']))
  | object {cs : List Char} (fields : Separated (Field P) cs) : Nested ('\x7b' :: (cs ++ ['\x7d']))

end Parts

/-- A document with at most so many levels of arrays and objects. -/
def IsDocument : Nat → List Char → Prop
  | 0 => IsScalar
  | levels + 1 => Nested (IsDocument levels)

/-- No number that begins with a text goes on with what follows the text. -/
def Stops (text rest : List Char) : Prop :=
  ∀ c ∈ rest.head?, ∀ further, ¬ IsNumber (text ++ c :: further)

/-! ## Blanks -/

theorem blank_takeWhile (cs : List Char) : Blank (cs.takeWhile isBlank) :=
  fun _ member => List.mem_takeWhile_imp member

/-- Blanks are skipped, and nothing else is. -/
theorem exists_blank (cs : List Char) : ∃ gap, Blank gap ∧ cs = gap ++ skipBlanks cs :=
  ⟨cs.takeWhile isBlank, blank_takeWhile cs, List.takeWhile_append_dropWhile.symm⟩

theorem skipBlanks_append {gap : List Char} (blank : Blank gap) (cs : List Char) :
    skipBlanks (gap ++ cs) = skipBlanks cs := by
  unfold skipBlanks
  exact List.dropWhile_append_of_pos blank

theorem skipBlanks_skipBlanks (cs : List Char) : skipBlanks (skipBlanks cs) = skipBlanks cs := by
  rcases exists_blank cs with ⟨gap, blank, same⟩
  calc skipBlanks (skipBlanks cs) = skipBlanks (gap ++ skipBlanks cs) := (skipBlanks_append blank _).symm
    _ = skipBlanks cs := by rw [← same]

/-! ## Where a document ends -/

/-- A text that is read as a number in front of what follows, however that goes on, is not the
beginning of a longer number. -/
theorem stops_of_read {number rest : List Char}
    (read : ∀ c ∈ rest.head?, ∀ further,
      readNumber? (number ++ c :: further) = some (number, c :: further)) : Stops number rest := by
  intro c first further longer
  have nothing : Ends [] := nofun
  have whole := longer.read nothing
  rw [List.append_nil, read c first further] at whole
  have left := congrArg Prod.snd (Option.some.inj whole)
  cases left

theorem stops_of_ends {number rest : List Char} (isNumber : IsNumber number) (ends : Ends rest) :
    Stops number rest := by
  refine stops_of_read fun c first further => isNumber.read ?_
  rintro _ ⟨⟩
  exact ends c first

/-- What does not begin like a number stops everywhere. -/
theorem stops_of_head {c : Char} (cs rest : List Char) (noSign : c ≠ '-') (noDigit : isDigit c = false) :
    Stops (c :: cs) rest := by
  intro _ _ further isNumber
  rcases isNumber.head with ⟨first, _, same, sign | digit⟩
  · cases same
    exact noSign sign
  · cases same
    rw [noDigit] at digit
    cases digit

end Json
end BigScript
