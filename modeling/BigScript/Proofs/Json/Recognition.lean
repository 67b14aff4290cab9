import BigScript.Proofs.Json.RoundTrip

/-!
# The reader recognises documents

The reader takes the first document of a text and leaves the rest alone.  Both directions are proved
against the grammar: in front of what is left stands a document (`readsDocument`), and every document
that stands in front of something that does not continue it is read (`IsDocument.isRead`).

The first is an induction on the steps of the reader and the second one on the levels of the
document.  Together they leave no choice: the blanks, the document and the rest of a text are fixed
by what the text is.
-/

namespace BigScript
namespace Json

/-! ## Numbers -/

section Numbers

variable {cs digits whole fraction exponent number rest : List Char}

theorem drop_takeWhile (p : Char → Bool) (cs : List Char) :
    cs.drop (cs.takeWhile p).length = cs.dropWhile p :=
  calc
    cs.drop (cs.takeWhile p).length =
        (cs.takeWhile p ++ cs.dropWhile p).drop (cs.takeWhile p).length := by
      rw [List.takeWhile_append_dropWhile]
    _ = cs.dropWhile p := List.drop_left

theorem readDigits?_split (read : readDigits? cs = some (digits, rest)) :
    cs = digits ++ rest ∧ ∀ c ∈ rest.head?, isDigit c = false := by
  unfold readDigits? at read
  dsimp only at read
  split at read
  · cases read
  · cases read
    rw [drop_takeWhile]
    refine ⟨List.takeWhile_append_dropWhile.symm, fun c first => ?_⟩
    have stops := List.head?_dropWhile_not isDigit cs
    rw [first] at stops
    exact stops

theorem readWhole?_split (read : readWhole? cs = some (whole, rest)) :
    cs = whole ++ rest ∧ ∀ c ∈ rest.head?, isDigit c = true → whole = ['0'] := by
  unfold readWhole? at read
  split at read
  · cases read
    exact ⟨rfl, fun _ _ _ => rfl⟩
  · rcases readDigits?_split read with ⟨same, apart⟩
    refine ⟨same, fun c first digit => ?_⟩
    rw [apart c first] at digit
    cases digit

theorem readFraction?_split (read : readFraction? cs = some (fraction, rest)) :
    cs = fraction ++ rest ∧
      ∀ c ∈ rest.head?, (isDigit c = true → fraction = []) ∧ (c = '.' → fraction ≠ []) := by
  unfold readFraction? at read
  split at read
  · rcases Option.map_eq_some_iff.mp read with ⟨⟨digits, behind⟩, found, same⟩
    cases same
    rcases readDigits?_split found with ⟨rfl, apart⟩
    refine ⟨rfl, fun c first => ⟨fun digit => ?_, fun _ => nofun⟩⟩
    rw [apart c first] at digit
    cases digit
  · rename_i other
    cases read
    refine ⟨rfl, fun c first => ⟨fun _ => rfl, fun point => ?_⟩⟩
    rcases List.head?_eq_some_iff.mp first with ⟨behind, same⟩
    exact absurd (point ▸ same) (other behind)

theorem readExponentSign_split (cs : List Char) :
    cs = (readExponentSign cs).1 ++ (readExponentSign cs).2 := by
  unfold readExponentSign
  split <;> rfl

theorem readExponent?_split (read : readExponent? cs = some (exponent, rest)) :
    cs = exponent ++ rest ∧
      ∀ c ∈ rest.head?, (isDigit c = true → exponent = []) ∧ (c = 'e' ∨ c = 'E' → exponent ≠ []) := by
  unfold readExponent? at read
  split at read
  · rename_i mark behind
    split at read
    · dsimp only at read
      rcases Option.map_eq_some_iff.mp read with ⟨⟨digits, after⟩, found, same⟩
      cases same
      rcases readDigits?_split found with ⟨size, apart⟩
      constructor
      · conv_lhs => rw [readExponentSign_split behind, size]
        simp
      · refine fun c first => ⟨fun digit => ?_, fun _ => nofun⟩
        rw [apart c first] at digit
        cases digit
    · rename_i unmarked
      cases read
      refine ⟨rfl, ?_⟩
      rintro _ ⟨⟩
      refine ⟨fun _ => rfl, fun marks => absurd ?_ unmarked⟩
      simpa using marks
  · cases read
    exact ⟨rfl, nofun⟩

theorem readNumber?_signed (cs : List Char) :
    ∃ sign body, (sign = [] ∨ sign = ['-']) ∧ cs = sign ++ body ∧
      readNumber? cs = do
        let (whole, rest) ← readWhole? body
        let (fraction, rest) ← readFraction? rest
        let (exponent, rest) ← readExponent? rest
        return (sign ++ whole ++ fraction ++ exponent, rest) := by
  unfold readNumber?
  split
  rename_i sign body signed
  refine ⟨sign, body, ?_, ?_, rfl⟩
  all_goals split at signed <;> cases signed
  · exact .inr rfl
  · exact .inl rfl
  · rfl
  · rfl

/-- What is left behind a number does not continue it. -/
theorem readNumber?_split (read : readNumber? cs = some (number, rest)) :
    cs = number ++ rest ∧ Stops number rest := by
  rcases readNumber?_signed cs with ⟨sign, body, signs, rfl, signed⟩
  rw [signed] at read
  rcases Option.bind_eq_some_iff.mp read with ⟨⟨whole, behind⟩, wholeRead, read⟩
  rcases Option.bind_eq_some_iff.mp read with ⟨⟨fraction, after⟩, fractionRead, read⟩
  rcases Option.bind_eq_some_iff.mp read with ⟨⟨exponent, rest⟩, exponentRead, read⟩
  cases read
  have isWhole := isWhole_of_readWhole? wholeRead
  have isFraction := isFraction_of_readFraction? fractionRead
  have isExponent := isExponent_of_readExponent? exponentRead
  rcases readWhole?_split wholeRead with ⟨rfl, wholeEnds⟩
  rcases readFraction?_split fractionRead with ⟨rfl, fractionEnds⟩
  rcases readExponent?_split exponentRead with ⟨rfl, exponentEnds⟩
  refine ⟨by simp, stops_of_read fun c first further => ?_⟩
  have halts : HaltsAt whole fraction exponent c := by
    have ends := exponentEnds c first
    refine ⟨fun digit => ?_, fun point => ?_, ends.2⟩
    · obtain rfl := ends.1 digit
      obtain rfl := (fractionEnds c first).1 digit
      exact ⟨wholeEnds c first digit, rfl, rfl⟩
    · by_cases absent : exponent = []
      · subst absent
        exact .inl ((fractionEnds c first).2 point)
      · exact .inr absent
  have everywhere : ∀ next ∈ (c :: further).head?, HaltsAt whole fraction exponent next := by
    rintro _ ⟨⟩
    exact halts
  have parts := readNumber?_parts isWhole isFraction isExponent everywhere
  rcases signs with rfl | rfl
  · exact parts.1
  · exact parts.2

theorem IsDigits.concat {c : Char} (isDigits : IsDigits digits) (digit : isDigit c = true) :
    IsDigits (digits ++ [c]) where
  nonempty := List.concat_ne_nil c digits
  all other member := by
    rcases List.mem_append.mp member with inside | last
    · exact isDigits.all other inside
    · rw [List.mem_singleton.mp last]
      exact digit

theorem isDigits_zero : IsDigits ['0'] :=
  ⟨nofun, fun _ member => List.mem_singleton.mp member ▸ rfl⟩

/-- Where no parts go on with a character, it continues none of them. -/
theorem haltsAt_of_apart {c : Char} (isWhole : IsWhole whole) (isFraction : IsFraction fraction)
    (isExponent : IsExponent exponent)
    (apart : ∀ {w f e}, IsWhole w → IsFraction f → IsExponent e → ∀ further,
      w ++ f ++ e ≠ whole ++ fraction ++ exponent ++ c :: further) :
    HaltsAt whole fraction exponent c where
  digit digit := by
    -- The digit is put at the end of the last part that is there.
    cases isExponent with
    | unsigned marks digits =>
      exact absurd (by simp) (apart isWhole isFraction (.unsigned marks (digits.concat digit)) [])
    | signed marks signs digits =>
      exact absurd (by simp) (apart isWhole isFraction (.signed marks signs (digits.concat digit)) [])
    | absent =>
      cases isFraction with
      | point digits =>
        exact absurd (by simp) (apart isWhole (.point (digits.concat digit)) .absent [])
      | absent =>
        cases isWhole with
        | zero => exact ⟨rfl, rfl, rfl⟩
        | digits digits head =>
          have first : (whole ++ [c]).head? ≠ some '0' := by
            rwa [List.head?_append_of_ne_nil whole digits.nonempty]
          exact absurd (by simp) (apart (.digits (digits.concat digit) first) .absent .absent [])
  point := by
    rintro rfl
    by_contra none
    rw [not_or, not_not, not_not] at none
    rcases none with ⟨rfl, rfl⟩
    exact apart isWhole (.point isDigits_zero) .absent ['0'] (by simp)
  mark marks := by
    rintro rfl
    exact apart isWhole isFraction (.unsigned marks isDigits_zero) ['0'] (by simp)

/-- A number is read wherever it is not continued. -/
theorem IsNumber.read_of_stops (isNumber : IsNumber number) (stops : Stops number rest) :
    readNumber? (number ++ rest) = some (number, rest) := by
  cases isNumber with
  | positive isWhole isFraction isExponent =>
    refine (readNumber?_parts isWhole isFraction isExponent fun c first => ?_).1
    refine haltsAt_of_apart isWhole isFraction isExponent fun whole' fraction' exponent' further same => ?_
    exact stops c first further (same ▸ .positive whole' fraction' exponent')
  | negative isWhole isFraction isExponent =>
    refine (readNumber?_parts isWhole isFraction isExponent fun c first => ?_).2
    refine haltsAt_of_apart isWhole isFraction isExponent fun whole' fraction' exponent' further same => ?_
    refine stops c first further ?_
    rw [List.cons_append, ← same]
    exact .negative whole' fraction' exponent'

end Numbers
/-! ## Strings -/

section Strings

theorem isHexDigit_iff (c : Char) : IsHexDigit c ↔ ∃ value, hexValue? c = some value := by
  unfold IsHexDigit hexValue? isDigit
  simp only [Bool.and_eq_true, decide_eq_true_eq]
  split
  · next decimal => exact ⟨fun _ => ⟨_, rfl⟩, fun _ => .inl decimal⟩
  · next noDecimal =>
    split
    · next small => exact ⟨fun _ => ⟨_, rfl⟩, fun _ => .inr (.inl small)⟩
    · next noSmall =>
      split
      · next capital => exact ⟨fun _ => ⟨_, rfl⟩, fun _ => .inr (.inr capital)⟩
      · next noCapital =>
        refine ⟨?_, nofun⟩
        rintro (decimal | small | capital)
        · exact absurd decimal noDecimal
        · exact absurd small noSmall
        · exact absurd capital noCapital

/-- Four digits make a code unit, and nothing else does. -/
theorem isUnit_iff (a b c d : Char) :
    (∀ digit ∈ [a, b, c, d], IsHexDigit digit) ↔ ∃ unit, readUnit? [a, b, c, d] = some unit := by
  simp only [List.mem_cons, List.not_mem_nil, or_false, forall_eq_or_imp, forall_eq, isHexDigit_iff]
  constructor
  · rintro ⟨⟨w, first⟩, ⟨x, second⟩, ⟨y, third⟩, ⟨z, fourth⟩⟩
    refine ⟨(((w * 16 + x) * 16 + y) * 16 + z, []), ?_⟩
    rw [readUnit?, first, second, third, fourth]
    rfl
  · rintro ⟨unit, read⟩
    rw [readUnit?] at read
    rcases Option.bind_eq_some_iff.mp read with ⟨w, first, read⟩
    rcases Option.bind_eq_some_iff.mp read with ⟨x, second, read⟩
    rcases Option.bind_eq_some_iff.mp read with ⟨y, third, read⟩
    rcases Option.bind_eq_some_iff.mp read with ⟨z, fourth, read⟩
    exact ⟨⟨w, first⟩, ⟨x, second⟩, ⟨y, third⟩, ⟨z, fourth⟩⟩

theorem isShort_iff (e : Char) :
    e ∈ ['"', '\\', '/', 'b', 'f', 'n', 'r', 't'] ↔ ∃ c, shortEscape? e = some c := by
  unfold shortEscape?
  split <;> simp_all

/-- A second code unit is used only where there is one. -/
theorem unitChar_used {unit : Nat} {next : Option Nat} (used : (unitChar unit next).2 = true) :
    ∃ low, next = some low := by
  cases next with
  | some low => exact ⟨low, rfl⟩
  | none =>
    unfold unitChar at used
    split at used
    · cases used
    · split at used <;> cases used

theorem readString?_split {done cs text rest : List Char}
    (read : readString? done cs = some (text, rest)) :
    ∃ body, IsBody body ∧ cs = body ++ '"' :: rest := by
  fun_induction readString? done cs with
  | case1 => cases read
  | case2 =>
    cases read
    exact ⟨[], .nil, rfl⟩
  | case3 done a b c d behind further =>
    rcases Option.bind_eq_some_iff.mp read with ⟨⟨unit, behindUnit⟩, digits, read⟩
    have isUnit := (isUnit_iff a b c d).mpr ⟨_, digits⟩
    have both := further unit
    dsimp only at read
    split at read
    · rename_i a' b' c' d' after _
      rcases both with ⟨together, apart⟩
      split at read
      · next pair =>
        rcases unitChar_used pair with ⟨low, found⟩
        rcases Option.map_eq_some_iff.mp found with ⟨_, second, -⟩
        rcases together _ read with ⟨body, isBody, rfl⟩
        exact ⟨_, .unit isUnit (.unit ((isUnit_iff a' b' c' d').mpr ⟨_, second⟩) isBody), rfl⟩
      · rcases apart _ read with ⟨body, isBody, same⟩
        exact ⟨_, .unit isUnit isBody, by rw [same]; rfl⟩
    · next other =>
      split at both
      · exact absurd rfl (other _ _ _ _ _)
      · rcases both read with ⟨body, isBody, rfl⟩
        exact ⟨_, .unit isUnit isBody, rfl⟩
  | case4 done e behind other further =>
    rcases Option.bind_eq_some_iff.mp read with ⟨char, short, read⟩
    rcases further char read with ⟨body, isBody, rfl⟩
    exact ⟨'\\' :: e :: body, .escape ((isShort_iff e).mpr ⟨char, short⟩) isBody, rfl⟩
  | case5 => cases read
  | case6 done c behind noQuote noUnit noEscape plain further =>
    rcases further read with ⟨body, isBody, rfl⟩
    simp only [Bool.or_eq_true, decide_eq_true_eq, beq_iff_eq, not_or, Nat.not_lt] at plain
    exact ⟨c :: body, .plain plain.1 noQuote plain.2 isBody, rfl⟩

theorem readString?_short {e c : Char} (short : shortEscape? e = some c) (done rest : List Char) :
    readString? done ('\\' :: e :: rest) = readString? (c :: done) rest := by
  rw [readString?, short]
  · rfl
  · rintro _ _ _ _ _ rfl
    cases short

/-- What stands between the quotes of a string begins with a code unit only if it is written so. -/
theorem IsBody.behind_unit {cs rest after : List Char} {a b c d : Char} (isBody : IsBody cs)
    (begins : cs ++ '"' :: rest = '\\' :: 'u' :: a :: b :: c :: d :: after) :
    ∃ body, IsBody body ∧ body.length < cs.length ∧ after = body ++ '"' :: rest := by
  cases isBody with
  | nil => cases begins
  | plain _ _ noEscape => exact absurd (List.cons.inj begins).1 noEscape
  | @escape e _ short =>
    rw [(List.cons.inj (List.cons.inj begins).2).1] at short
    exact absurd short (by decide)
  | @unit _ _ _ _ body _ further =>
    cases begins
    exact ⟨body, further, by simp only [List.length_cons]; omega, rfl⟩

/-- Whatever may stand between quotes is read up to the closing one. -/
theorem IsBody.read {body : List Char} (isBody : IsBody body) (done rest : List Char) :
    ∃ text, readString? done (body ++ '"' :: rest) = some (text, rest) := by
  -- A pair of code units is read at once, so the induction is on the length.
  induction size : body.length using Nat.strong_induction_on generalizing body done with
  | _ n shorter =>
    subst size
    cases isBody with
    | nil => exact ⟨done.reverse, by rw [List.nil_append, readString?]⟩
    | plain printable noQuote noEscape further =>
      rw [List.cons_append, readString?_plain noQuote noEscape printable]
      exact shorter _ (Nat.lt_succ_self _) further _ rfl
    | @escape e _ short further =>
      rcases (isShort_iff e).mp short with ⟨c, found⟩
      rw [List.cons_append, List.cons_append, readString?_short found]
      exact shorter _ (Nat.lt_succ_of_lt (Nat.lt_succ_self _)) further _ rfl
    | @unit a b c d cs digits further =>
      have less : cs.length < ('\\' :: 'u' :: a :: b :: c :: d :: cs).length := by
        simp only [List.length_cons]
        omega
      rcases (isUnit_iff a b c d).mp digits with ⟨⟨unit, _⟩, found⟩
      simp only [List.cons_append]
      rw [readString?, found]
      dsimp only [Option.bind_eq_bind, Option.bind_some]
      split
      · next begins =>
        rcases further.behind_unit begins with ⟨behind, isBody, fewer, rfl⟩
        split
        · exact shorter _ (Nat.lt_trans fewer less) isBody _ rfl
        · rw [← begins]
          exact shorter _ less further _ rfl
      · exact shorter _ less further _ rfl

end Strings

/-! ## What is read is a document -/

theorem IsScalar.isDocument {cs : List Char} (isScalar : IsScalar cs) :
    (levels : Nat) → IsDocument levels cs
  | 0 => isScalar
  | _ + 1 => .scalar isScalar

section Lead

variable {P : List Char → Prop} {gap cs : List Char}

/-- Blanks in front of a text that has blanks around it belong to these. -/
theorem Padded.lead (blank : Blank gap) (padded : Padded P cs) : Padded P (gap ++ cs) := by
  rcases padded with ⟨front, inner, back⟩
  rw [← List.append_assoc, ← List.append_assoc]
  exact .pad (List.forall_mem_append.mpr ⟨blank, front⟩) inner back

theorem Field.lead (blank : Blank gap) (field : Field P cs) : Field P (gap ++ cs) := by
  rcases field with ⟨isName, isValue⟩
  rw [← List.append_assoc]
  exact .named (isName.lead blank) isValue

/-- What holds of a text with blanks in front holds of several with commas between them. -/
theorem Separated.lead (leads : ∀ {cs}, P cs → P (gap ++ cs)) (separated : Separated P cs) :
    Separated P (gap ++ cs) := by
  cases separated with
  | last one => exact .last (leads one)
  | next one further =>
    rw [← List.append_assoc]
    exact .next (leads one) further

/-- Blanks behind a text are skipped up to what ends it. -/
theorem split_of_skipBlanks {behind rest : List Char} {c : Char}
    (ends : skipBlanks behind = c :: rest) : ∃ gap, Blank gap ∧ behind = gap ++ c :: rest := by
  rcases exists_blank behind with ⟨gap, blank, same⟩
  exact ⟨gap, blank, ends ▸ same⟩

end Lead

/-- What the reader takes under a bound on its steps: blanks and a document, or what stands inside
brackets with the closing one. -/
structure ReadsDocument (steps : Nat) : Prop where
  value : ∀ {levels depth cs document rest}, depth + levels = deepest →
    readValue? steps depth cs = some (document, rest) →
      ∃ lead text, Blank lead ∧ cs = lead ++ text ++ rest ∧ IsDocument levels text ∧ Stops text rest
  object : ∀ {levels depth cs document rest}, depth + levels = deepest →
    readObject? steps depth cs = some (document, rest) →
      ∃ inside, cs = inside ++ '\x7d' :: rest ∧
        (Blank inside ∨ Separated (Field (IsDocument levels)) inside)
  fields : ∀ {levels depth done cs document rest}, depth + levels = deepest →
    readFields? steps depth done cs = some (document, rest) →
      ∃ inside, cs = inside ++ '\x7d' :: rest ∧ Separated (Field (IsDocument levels)) inside
  array : ∀ {levels depth cs document rest}, depth + levels = deepest →
    readArray? steps depth cs = some (document, rest) →
      ∃ inside, cs = inside ++ ']' :: rest ∧
        (Blank inside ∨ Separated (Padded (IsDocument levels)) inside)
  items : ∀ {levels depth done cs document rest}, depth + levels = deepest →
    readItems? steps depth done cs = some (document, rest) →
      ∃ inside, cs = inside ++ ']' :: rest ∧ Separated (Padded (IsDocument levels)) inside

theorem readWord?_split {word : String} {known document : Json} {cs rest : List Char}
    (read : readWord? word known cs = some (document, rest)) : cs = word.toList ++ rest := by
  rcases Option.map_eq_some_iff.mp read with ⟨behind, found, same⟩
  cases same
  exact Text.dropStart?_eq_some found

theorem isDocument_word {word : List Char}
    (known : word ∈ ["null".toList, "true".toList, "false".toList]) (levels : Nat) :
    IsDocument levels word := (IsScalar.word known).isDocument levels

namespace ReadsDocument

variable {steps levels depth : Nat} {done : List (String × Json)} {items : List Json}
  {cs rest : List Char} {document : Json} (reads : ReadsDocument steps)
include reads

/-- One step further a value is taken: the first character behind the blanks says which reader goes
on, and brackets leave one level less for what is inside. -/
theorem value_succ (room : depth + levels = deepest)
    (read : readValue? (steps + 1) depth cs = some (document, rest)) :
    ∃ text, skipBlanks cs = text ++ rest ∧ IsDocument levels text ∧ Stops text rest := by
  rw [readValue?] at read
  split at read
  · next inside begins =>
    split at read
    · rename_i less
      obtain ⟨below, rfl⟩ := Nat.exists_eq_add_of_le' (show 1 ≤ levels by omega)
      have room : depth + 1 + below = deepest := by omega
      rcases reads.object room read with ⟨inner, rfl, empty | fields⟩
      · exact ⟨_, by simp [begins], .emptyObject empty, stops_of_head _ _ (by decide) rfl⟩
      · exact ⟨_, by simp [begins], .object fields, stops_of_head _ _ (by decide) rfl⟩
    · cases read
  · next inside begins =>
    split at read
    · rename_i less
      obtain ⟨below, rfl⟩ := Nat.exists_eq_add_of_le' (show 1 ≤ levels by omega)
      have room : depth + 1 + below = deepest := by omega
      rcases reads.array room read with ⟨inner, rfl, empty | items⟩
      · exact ⟨_, by simp [begins], .emptyArray empty, stops_of_head _ _ (by decide) rfl⟩
      · exact ⟨_, by simp [begins], .array items, stops_of_head _ _ (by decide) rfl⟩
    · cases read
  · next inside begins =>
    rcases Option.map_eq_some_iff.mp read with ⟨⟨text, behind⟩, found, made⟩
    cases made
    rcases readString?_split found with ⟨body, isBody, rfl⟩
    have isString : IsScalar ('"' :: (body ++ ['"'])) := .string (.quoted isBody)
    exact ⟨_, by simp [begins], isString.isDocument levels, stops_of_head _ _ (by decide) rfl⟩
  · next inside begins =>
    have word := readWord?_split read
    exact ⟨"true".toList, by rw [begins, word]; rfl, isDocument_word (by decide) levels,
      stops_of_head _ _ (by decide) rfl⟩
  · next inside begins =>
    have word := readWord?_split read
    exact ⟨"false".toList, by rw [begins, word]; rfl, isDocument_word (by decide) levels,
      stops_of_head _ _ (by decide) rfl⟩
  · next inside begins =>
    have word := readWord?_split read
    exact ⟨"null".toList, by rw [begins, word]; rfl, isDocument_word (by decide) levels,
      stops_of_head _ _ (by decide) rfl⟩
  · rcases Option.map_eq_some_iff.mp read with ⟨⟨number, behind⟩, found, made⟩
    cases made
    have isNumber := isNumber_of_readNumber? found
    rcases readNumber?_split found with ⟨split, stops⟩
    exact ⟨number, split, (IsScalar.number isNumber).isDocument levels, stops⟩

theorem array_succ (room : depth + levels = deepest)
    (read : readArray? (steps + 1) depth cs = some (document, rest)) :
    ∃ inside, cs = inside ++ ']' :: rest ∧
      (Blank inside ∨ Separated (Padded (IsDocument levels)) inside) := by
  rcases exists_blank cs with ⟨lead, blank, same⟩
  rw [readArray?] at read
  split at read
  · next begins =>
    cases read
    exact ⟨lead, begins ▸ same, .inl blank⟩
  · rcases reads.items room read with ⟨inside, split, items⟩
    refine ⟨lead ++ inside, ?_, .inr (items.lead (Padded.lead blank))⟩
    rw [List.append_assoc, ← split]
    exact same

theorem object_succ (room : depth + levels = deepest)
    (read : readObject? (steps + 1) depth cs = some (document, rest)) :
    ∃ inside, cs = inside ++ '\x7d' :: rest ∧
      (Blank inside ∨ Separated (Field (IsDocument levels)) inside) := by
  rcases exists_blank cs with ⟨lead, blank, same⟩
  rw [readObject?] at read
  split at read
  · next begins =>
    cases read
    exact ⟨lead, begins ▸ same, .inl blank⟩
  · rcases reads.fields room read with ⟨inside, split, fields⟩
    refine ⟨lead ++ inside, ?_, .inr (fields.lead (Field.lead blank))⟩
    rw [List.append_assoc, ← split]
    exact same

theorem items_succ (room : depth + levels = deepest)
    (read : readItems? (steps + 1) depth items cs = some (document, rest)) :
    ∃ inside, cs = inside ++ ']' :: rest ∧ Separated (Padded (IsDocument levels)) inside := by
  rw [readItems?] at read
  rcases Option.bind_eq_some_iff.mp read with ⟨⟨item, behind⟩, found, onward⟩
  rcases reads.value room found with ⟨lead, text, front, rfl, isDocument, -⟩
  dsimp only at onward
  split at onward
  · next after ends =>
    rcases split_of_skipBlanks ends with ⟨gap, back, rfl⟩
    rcases reads.items room onward with ⟨inside, rfl, further⟩
    exact ⟨_, by simp, .next (.pad front isDocument back) further⟩
  · next after ends =>
    cases onward
    rcases split_of_skipBlanks ends with ⟨gap, back, rfl⟩
    exact ⟨_, by simp, .last (.pad front isDocument back)⟩
  · cases onward

theorem fields_succ (room : depth + levels = deepest)
    (read : readFields? (steps + 1) depth done cs = some (document, rest)) :
    ∃ inside, cs = inside ++ '\x7d' :: rest ∧ Separated (Field (IsDocument levels)) inside := by
  rw [readFields?] at read
  split at read
  · next begins =>
    rcases split_of_skipBlanks begins with ⟨lead, front, rfl⟩
    rcases Option.bind_eq_some_iff.mp read with ⟨⟨name, behind⟩, found, onward⟩
    rcases readString?_split found with ⟨body, isBody, rfl⟩
    dsimp only at onward
    split at onward
    · next colon =>
      rcases split_of_skipBlanks colon with ⟨gap, between, rfl⟩
      rcases Option.bind_eq_some_iff.mp onward with ⟨⟨value, behind⟩, found, last⟩
      rcases reads.value room found with ⟨pad, text, before, rfl, isDocument, -⟩
      have isName : Padded IsString (lead ++ '"' :: (body ++ ['"']) ++ gap) :=
        .pad front (.quoted isBody) between
      dsimp only at last
      split at last
      · next after ends =>
        rcases split_of_skipBlanks ends with ⟨tail, back, rfl⟩
        rcases reads.fields room last with ⟨inside, rfl, further⟩
        exact ⟨_, by simp, .next (.named isName (.pad before isDocument back)) further⟩
      · next after ends =>
        cases last
        rcases split_of_skipBlanks ends with ⟨tail, back, rfl⟩
        exact ⟨_, by simp, .last (.named isName (.pad before isDocument back))⟩
      · cases last
    · cases onward
  · cases read

end ReadsDocument

theorem readsDocument (steps : Nat) : ReadsDocument steps := by
  induction steps with
  | zero =>
    constructor
    all_goals
      intros
      rename_i read
      simp only [readValue?, readObject?, readFields?, readArray?, readItems?, reduceCtorEq] at read
  | succ steps ih =>
    refine ⟨fun {levels depth cs document rest} room read => ?value, ih.object_succ, ih.fields_succ,
      ih.array_succ, ih.items_succ⟩
    case value =>
      rcases exists_blank cs with ⟨lead, blank, same⟩
      rcases ih.value_succ room read with ⟨text, split, isDocument, stops⟩
      refine ⟨lead, text, blank, ?_, isDocument, stops⟩
      rw [List.append_assoc, ← split]
      exact same

/-! ## Every document is read -/

section Complete

variable {levels depth steps : Nat} {cs gap text rest : List Char}

/-- A document is read wherever nothing continues it. -/
def IsRead (levels : Nat) (text : List Char) : Prop :=
  ∀ {depth steps rest}, depth + levels ≤ deepest → 2 * text.length ≤ steps → Stops text rest →
    ∃ document, readValue? steps depth (text ++ rest) = some (document, rest)

theorem readValue?_blank (blank : Blank gap) (steps depth : Nat) (cs : List Char) :
    readValue? steps depth (gap ++ cs) = readValue? steps depth cs := by
  cases steps with
  | zero => rw [readValue?, readValue?]
  | succ steps => rw [readValue?, readValue?, skipBlanks_append blank]

theorem readItems?_skipBlanks (steps depth : Nat) (done : List Json) (cs : List Char) :
    readItems? steps depth done (skipBlanks cs) = readItems? steps depth done cs := by
  rcases exists_blank cs with ⟨gap, blank, same⟩
  cases steps with
  | zero => rw [readItems?, readItems?]
  | succ steps =>
    rw [readItems?, readItems?]
    conv_rhs => rw [same, readValue?_blank blank]

theorem readFields?_skipBlanks (steps depth : Nat) (done : List (String × Json)) (cs : List Char) :
    readFields? steps depth done (skipBlanks cs) = readFields? steps depth done cs := by
  cases steps with
  | zero => rw [readFields?, readFields?]
  | succ steps => rw [readFields?, readFields?, skipBlanks_skipBlanks]

theorem readValue?_word (known : text ∈ ["null".toList, "true".toList, "false".toList])
    (steps depth : Nat) (rest : List Char) :
    ∃ document, readValue? (steps + 1) depth (text ++ rest) = some (document, rest) := by
  simp only [List.mem_cons, List.not_mem_nil, or_false] at known
  rcases known with rfl | rfl | rfl
  · refine ⟨.null, ?_⟩
    change readValue? (steps + 1) depth ('n' :: 'u' :: 'l' :: 'l' :: rest) = _
    rw [readValue?, skipBlanks_cons rfl]
    rfl
  · refine ⟨.bool true, ?_⟩
    change readValue? (steps + 1) depth ('t' :: 'r' :: 'u' :: 'e' :: rest) = _
    rw [readValue?, skipBlanks_cons rfl]
    rfl
  · refine ⟨.bool false, ?_⟩
    change readValue? (steps + 1) depth ('f' :: 'a' :: 'l' :: 's' :: 'e' :: rest) = _
    rw [readValue?, skipBlanks_cons rfl]
    rfl

theorem IsScalar.ne_nil (isScalar : IsScalar text) : text ≠ [] := by
  cases isScalar with
  | word known =>
    rintro rfl
    exact absurd known (by decide)
  | number isNumber =>
    rcases isNumber.head with ⟨c, cs, rfl, -⟩
    exact List.cons_ne_nil c cs
  | string isString =>
    rcases isString with ⟨body⟩
    exact List.cons_ne_nil _ _

theorem IsScalar.isRead (isScalar : IsScalar text) (levels : Nat) : IsRead levels text := by
  intro depth steps rest _ enough stops
  have length := List.length_pos_iff.mpr isScalar.ne_nil
  obtain ⟨steps, rfl⟩ := Nat.exists_eq_add_of_le' (show 1 ≤ steps by omega)
  cases isScalar with
  | word known => exact readValue?_word known steps depth rest
  | number isNumber =>
    exact ⟨_, readValue?_number isNumber (isNumber.read_of_stops stops) steps depth⟩
  | string isString =>
    rcases isString with ⟨isBody⟩
    rcases isBody.read [] rest with ⟨value, read⟩
    refine ⟨.string (String.ofList value), ?_⟩
    rw [List.cons_append, List.append_assoc]
    exact readValue?_string read steps depth

theorem IsScalar.begins (isScalar : IsScalar text) :
    IsNumber text ∨ ∃ c ∈ ['n', 't', 'f', '"'], ∃ cs, text = c :: cs := by
  cases isScalar with
  | word known =>
    simp only [List.mem_cons, List.not_mem_nil, or_false] at known
    rcases known with rfl | rfl | rfl <;> exact .inr ⟨_, by decide, _, rfl⟩
  | number isNumber => exact .inl isNumber
  | string isString =>
    rcases isString with ⟨isBody⟩
    exact .inr ⟨_, by decide, _, rfl⟩

/-- The first character of a document tells what it is. -/
theorem IsDocument.begins (isDocument : IsDocument levels text) :
    IsNumber text ∨ ∃ c ∈ ['n', 't', 'f', '"', '[', '\x7b'], ∃ cs, text = c :: cs := by
  have wider {c : Char} (among : c ∈ ['n', 't', 'f', '"']) :
      c ∈ ['n', 't', 'f', '"', '[', '\x7b'] := List.mem_append_left ['[', '\x7b'] among
  cases levels with
  | zero => exact (IsScalar.begins isDocument).imp_right fun ⟨c, among, cs, same⟩ =>
      ⟨c, wider among, cs, same⟩
  | succ levels =>
    cases isDocument with
    | scalar isScalar => exact isScalar.begins.imp_right fun ⟨c, among, cs, same⟩ =>
        ⟨c, wider among, cs, same⟩
    | emptyArray | array | emptyObject | object => exact .inr ⟨_, by decide, _, rfl⟩

/-- What a document that is no number begins with is seen, closes no array and continues no number. -/
theorem apart_of_opens {c : Char} (among : c ∈ ['n', 't', 'f', '"', '[', '\x7b']) :
    isBlank c = false ∧ c ≠ ']' ∧ c ≠ '-' ∧ isDigit c = false := by
  simp only [List.mem_cons, List.not_mem_nil, or_false] at among
  rcases among with rfl | rfl | rfl | rfl | rfl | rfl <;> decide

theorem IsDocument.head (isDocument : IsDocument levels text) :
    ∃ c cs, text = c :: cs ∧ isBlank c = false ∧ c ≠ ']' := by
  rcases isDocument.begins with isNumber | ⟨c, among, cs, rfl⟩
  · rcases isNumber.head with ⟨c, cs, rfl, rfl | digit⟩
    · exact ⟨_, _, rfl, by decide⟩
    · refine ⟨c, cs, rfl, isBlank_of_isDigit digit, ?_⟩
      rintro rfl
      cases digit
  · rcases apart_of_opens among with ⟨seen, inside, -⟩
    exact ⟨c, cs, rfl, seen, inside⟩

/-- A document stops in front of every character that continues no number. -/
theorem IsDocument.stops (isDocument : IsDocument levels text) (ends : Ends rest) :
    Stops text rest := by
  rcases isDocument.begins with isNumber | ⟨c, among, cs, rfl⟩
  · exact stops_of_ends isNumber ends
  · rcases apart_of_opens among with ⟨-, -, unsigned, apart⟩
    exact stops_of_head cs rest unsigned apart

/-- Blanks continue no number. -/
theorem ends_of_blank {after : List Char} (blank : Blank after) (ends : Ends rest) :
    Ends (after ++ rest) := by
  cases after with
  | nil => exact ends
  | cons c after =>
    have visible := blank c List.mem_cons_self
    simp only [isBlank, Bool.or_eq_true, beq_iff_eq] at visible
    rintro _ ⟨⟩
    rcases visible with ((rfl | rfl) | rfl) | rfl <;> decide

/-- A document with blanks around it is read up to a character that ends it, and this is what comes
next. -/
theorem readValue?_padded {c : Char} (read : ∀ {text}, IsDocument levels text → IsRead levels text)
    (room : depth + levels ≤ deepest) (padded : Padded (IsDocument levels) cs)
    (enough : 2 * cs.length ≤ steps) (apart : continues c = false) (visible : isBlank c = false)
    (rest : List Char) :
    ∃ document behind, readValue? steps depth (cs ++ c :: rest) = some (document, behind) ∧
      skipBlanks behind = c :: rest := by
  rcases padded with @⟨before, text, after, front, isDocument, back⟩
  have ends : Ends (after ++ c :: rest) := ends_of_blank back (ends_of_symbol apart rest)
  have length : 2 * text.length ≤ steps := by
    rw [List.length_append, List.length_append] at enough
    omega
  rcases read isDocument room length (isDocument.stops ends) with ⟨document, found⟩
  refine ⟨document, after ++ c :: rest, ?_, ?_⟩
  · rw [List.append_assoc, List.append_assoc, readValue?_blank front, found]
  · rw [skipBlanks_append back, skipBlanks_cons visible]

/-- Items are read up to the end of their array. -/
theorem readItems?_separated (read : ∀ {text}, IsDocument levels text → IsRead levels text)
    (room : depth + levels ≤ deepest) (items : Separated (Padded (IsDocument levels)) cs)
    (done : List Json) (enough : 2 * cs.length < steps) (rest : List Char) :
    ∃ document, readItems? steps depth done (cs ++ ']' :: rest) = some (document, rest) := by
  induction items generalizing steps done with
  | last one =>
    obtain ⟨steps, rfl⟩ := Nat.exists_eq_add_of_le' (show 1 ≤ steps by omega)
    rcases readValue?_padded (c := ']') read room one (Nat.le_of_lt_succ enough) rfl rfl rest with
      ⟨document, behind, found, ends⟩
    rw [readItems?, found]
    dsimp only [Option.bind_eq_bind, Option.bind_some]
    rw [ends]
    exact ⟨_, rfl⟩
  | @next item others one further ih =>
    rw [List.length_append, List.length_cons] at enough
    obtain ⟨steps, rfl⟩ := Nat.exists_eq_add_of_le' (show 1 ≤ steps by omega)
    have first : 2 * item.length ≤ steps := by omega
    rcases readValue?_padded (c := ',') read room one first rfl rfl (others ++ ']' :: rest) with
      ⟨document, behind, found, ends⟩
    rw [List.append_assoc, List.cons_append, readItems?, found]
    dsimp only [Option.bind_eq_bind, Option.bind_some]
    rw [ends]
    exact ih (document :: done) (by omega)

/-- A name is read up to the colon behind it. -/
theorem readString?_padded {name : List Char} (padded : Padded IsString name) (rest : List Char) :
    ∃ inside text behind, skipBlanks (name ++ ':' :: rest) = '"' :: inside ∧
      readString? [] inside = some (text, behind) ∧ skipBlanks behind = ':' :: rest := by
  rcases padded with @⟨before, _, after, front, isString, back⟩
  rcases isString with @⟨body, isBody⟩
  rcases isBody.read [] (after ++ ':' :: rest) with ⟨text, read⟩
  refine ⟨body ++ '"' :: (after ++ ':' :: rest), text, after ++ ':' :: rest, ?_, read, ?_⟩
  · rw [List.append_assoc, List.append_assoc, skipBlanks_append front, List.cons_append,
      skipBlanks_cons rfl]
    simp
  · rw [skipBlanks_append back, skipBlanks_cons rfl]

/-- A field is read, and the character behind it decides how the object goes on. -/
theorem readFields?_named {c : Char} (read : ∀ {text}, IsDocument levels text → IsRead levels text)
    (room : depth + levels ≤ deepest) (field : Field (IsDocument levels) cs)
    (done : List (String × Json)) (enough : 2 * cs.length ≤ steps) (apart : continues c = false)
    (visible : isBlank c = false) (rest : List Char) :
    ∃ one, readFields? (steps + 1) depth done (cs ++ c :: rest) =
      match c :: rest with
      | ',' :: rest => readFields? steps depth (one :: done) rest
      | '\x7d' :: rest => some (.object (one :: done).reverse, rest)
      | _ => none := by
  rcases field with @⟨name, value, isName, isValue⟩
  rw [List.length_append, List.length_cons] at enough
  have valueEnough : 2 * value.length ≤ steps := by omega
  rcases readString?_padded isName (value ++ c :: rest) with
    ⟨inside, text, behindName, begins, named, colon⟩
  rcases readValue?_padded read room isValue valueEnough apart visible rest with
    ⟨document, behind, valued, ends⟩
  refine ⟨(String.ofList text, document), ?_⟩
  rw [List.append_assoc, List.cons_append, readFields?, begins]
  change (readString? [] inside >>= _) = _
  rw [named]
  dsimp only [Option.bind_eq_bind, Option.bind_some]
  rw [colon]
  change (readValue? steps depth (value ++ c :: rest) >>= _) = _
  rw [valued]
  dsimp only [Option.bind_eq_bind, Option.bind_some]
  exact ends ▸ rfl

/-- Fields are read up to the end of their object. -/
theorem readFields?_separated (read : ∀ {text}, IsDocument levels text → IsRead levels text)
    (room : depth + levels ≤ deepest) (fields : Separated (Field (IsDocument levels)) cs)
    (done : List (String × Json)) (enough : 2 * cs.length < steps) (rest : List Char) :
    ∃ document, readFields? steps depth done (cs ++ '\x7d' :: rest) = some (document, rest) := by
  induction fields generalizing steps done with
  | last one =>
    obtain ⟨steps, rfl⟩ := Nat.exists_eq_add_of_le' (show 1 ≤ steps by omega)
    rcases readFields?_named (c := '\x7d') read room one done (Nat.le_of_lt_succ enough) rfl rfl rest
      with ⟨field, found⟩
    exact ⟨_, found⟩
  | @next field others one further ih =>
    rw [List.length_append, List.length_cons] at enough
    obtain ⟨steps, rfl⟩ := Nat.exists_eq_add_of_le' (show 1 ≤ steps by omega)
    have first : 2 * field.length ≤ steps := by omega
    rcases readFields?_named (c := ',') read room one done first rfl rfl (others ++ '\x7d' :: rest)
      with ⟨named, found⟩
    rw [List.append_assoc, List.cons_append, found]
    exact ih (named :: done) (by omega)

/-- What decides whether brackets are empty: a text begins behind its blanks with a character that
does not close them. -/
def Begins (closer : Char) (cs : List Char) : Prop :=
  ∃ gap c behind, Blank gap ∧ cs = gap ++ c :: behind ∧ isBlank c = false ∧ c ≠ closer

theorem Padded.begins (padded : Padded (IsDocument levels) cs) : Begins ']' cs := by
  rcases padded with @⟨before, _, after, front, isDocument, _⟩
  rcases isDocument.head with ⟨c, text, rfl, visible, other⟩
  exact ⟨before, c, text ++ after, front, by simp, visible, other⟩

theorem Field.begins {P : List Char → Prop} (field : Field P cs) : Begins '\x7d' cs := by
  rcases field with ⟨@⟨before, _, after, front, ⟨_⟩, _⟩, _⟩
  exact ⟨before, '"', _, front, by simp; rfl, rfl, by decide⟩

/-- What is separated begins as its parts do. -/
theorem Separated.begins {P : List Char → Prop} {closer : Char} (separated : Separated P cs)
    (begins : ∀ {cs}, P cs → Begins closer cs) (rest : List Char) :
    ∃ c behind, skipBlanks (cs ++ rest) = c :: behind ∧ c ≠ closer := by
  have first {one : List Char} (is : P one) (more : List Char) :
      ∃ c behind, skipBlanks (one ++ more) = c :: behind ∧ c ≠ closer := by
    rcases begins is with ⟨gap, c, behind, blank, rfl, visible, other⟩
    refine ⟨c, behind ++ more, ?_, other⟩
    rw [List.append_assoc, skipBlanks_append blank, List.cons_append, skipBlanks_cons visible]
  cases separated with
  | last one => exact first one rest
  | next one further =>
    rw [List.append_assoc]
    exact first one _

theorem readArray?_inside (read : ∀ {text}, IsDocument levels text → IsRead levels text)
    (room : depth + levels ≤ deepest) (inside : Blank cs ∨ Separated (Padded (IsDocument levels)) cs)
    (enough : 2 * cs.length < steps) (rest : List Char) :
    ∃ document, readArray? (steps + 1) depth (cs ++ ']' :: rest) = some (document, rest) := by
  rw [readArray?]
  rcases inside with blank | items
  · rw [skipBlanks_append blank, skipBlanks_cons rfl]
    exact ⟨_, rfl⟩
  · have found := readItems?_separated read room items [] enough rest
    rcases items.begins Padded.begins (']' :: rest) with ⟨c, behind, begins, other⟩
    rw [← readItems?_skipBlanks, begins] at found
    rw [begins]
    split
    · next closes =>
      cases closes
      exact absurd rfl other
    · exact found

theorem readObject?_inside (read : ∀ {text}, IsDocument levels text → IsRead levels text)
    (room : depth + levels ≤ deepest) (inside : Blank cs ∨ Separated (Field (IsDocument levels)) cs)
    (enough : 2 * cs.length < steps) (rest : List Char) :
    ∃ document, readObject? (steps + 1) depth (cs ++ '\x7d' :: rest) = some (document, rest) := by
  rw [readObject?]
  rcases inside with blank | fields
  · rw [skipBlanks_append blank, skipBlanks_cons rfl]
    exact ⟨_, rfl⟩
  · have found := readFields?_separated read room fields [] enough rest
    rcases fields.begins Field.begins ('\x7d' :: rest) with ⟨c, behind, begins, other⟩
    rw [← readFields?_skipBlanks, begins] at found
    rw [begins]
    split
    · next closes =>
      cases closes
      exact absurd rfl other
    · exact found

/-- Every document is read wherever nothing continues it, if it is not nested too deep for the
place. -/
theorem IsDocument.isRead (isDocument : IsDocument levels text) : IsRead levels text := by
  induction levels generalizing text with
  | zero => exact IsScalar.isRead isDocument 0
  | succ levels ih =>
    intro depth steps rest room enough stops
    have deeper : depth + 1 + levels ≤ deepest := by omega
    have less : depth < deepest := by omega
    have array {cs : List Char} (inside : Blank cs ∨ Separated (Padded (IsDocument levels)) cs)
        (enough : 2 * ('[' :: (cs ++ [']'])).length ≤ steps) :
        ∃ document, readValue? steps depth ('[' :: (cs ++ [']']) ++ rest) = some (document, rest) := by
      rw [List.length_cons, List.length_append, List.length_singleton] at enough
      obtain ⟨steps, rfl⟩ := Nat.exists_eq_add_of_le' (show 2 ≤ steps by omega)
      have enough : 2 * cs.length < steps := by omega
      have found := readArray?_inside ih deeper inside enough rest
      rw [List.cons_append, List.append_assoc, readValue?, skipBlanks_cons rfl]
      change ∃ document, (if depth < deepest then readArray? _ _ _ else none) = _
      rwa [if_pos less]
    have object {cs : List Char} (inside : Blank cs ∨ Separated (Field (IsDocument levels)) cs)
        (enough : 2 * ('\x7b' :: (cs ++ ['\x7d'])).length ≤ steps) : ∃ document,
          readValue? steps depth ('\x7b' :: (cs ++ ['\x7d']) ++ rest) = some (document, rest) := by
      rw [List.length_cons, List.length_append, List.length_singleton] at enough
      obtain ⟨steps, rfl⟩ := Nat.exists_eq_add_of_le' (show 2 ≤ steps by omega)
      have enough : 2 * cs.length < steps := by omega
      have found := readObject?_inside ih deeper inside enough rest
      rw [List.cons_append, List.append_assoc, readValue?, skipBlanks_cons rfl]
      change ∃ document, (if depth < deepest then readObject? _ _ _ else none) = _
      rwa [if_pos less]
    cases isDocument with
    | scalar isScalar => exact isScalar.isRead _ room enough stops
    | emptyArray blank => exact array (.inl blank) enough
    | array items => exact array (.inr items) enough
    | emptyObject blank => exact object (.inl blank) enough
    | object fields => exact object (.inr fields) enough

end Complete

end Json
end BigScript
