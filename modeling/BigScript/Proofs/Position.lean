import BigScript.Proofs.ListStatement
import Mathlib

/-!
# Positions in lists

The positions of a list count from one.  A position is a text that is read as a double, and what
counts is the whole part of the number that this stands for.  `get from`, `list cut` and `list insert`
turn it into an index in the same way, so that `position_law` is one statement about all three: there is
an element at the position or the list ends before it.

The whole part is computed with 64 bits.  Up to there each of them does what the position says; from
there on a position counts as the first one, in lists of any length (`hugePosition_isFirst`).
-/

namespace BigScript

open Machine Statement

/-! ## Whole parts -/

namespace Number

/-- The number that a double stands for, if it is finite. -/
def rational? (x : Float) : Option ℚ :=
  match shape x with
  | .finite negative significand exponent =>
    some ((if negative then -1 else 1) * (significand * 2 ^ exponent))
  | _ => none

/-- A binary fraction as a quotient of whole numbers. -/
theorem scaled_eq_div (significand : Nat) (exponent : Int) :
    (significand : ℚ) * 2 ^ exponent =
      (significand * twoTo exponent.toNat : Nat) / (twoTo (-exponent).toNat : Nat) := by
  have powers (n : Nat) : ((twoTo n : Nat) : ℚ) = 2 ^ n := Nat.cast_pow 2 n
  rcases Int.le_total 0 exponent with up | down
  · obtain ⟨n, rfl⟩ := Int.eq_ofNat_of_zero_le up
    have none : (-(n : Int)).toNat = 0 := by omega
    rw [Nat.cast_mul, powers, powers, none, pow_zero, div_one, Int.toNat_natCast, zpow_natCast]
  · obtain ⟨n, rfl⟩ := Int.exists_eq_neg_ofNat down
    have none : (-(n : Int)).toNat = 0 := by omega
    rw [Nat.cast_mul, powers, powers, none, pow_zero, mul_one, Int.neg_neg, Int.toNat_natCast,
      zpow_neg, zpow_natCast, div_eq_mul_inv]

/-- The whole part of a number that is not below one is found if it fits in 64 bits. -/
theorem toInt64_of_rational? {x : Float} {p : ℚ} (stands : rational? x = some p) (least : 1 ≤ p) :
    toInt64 x = if ⌊p⌋₊ < twoTo 63 then (⌊p⌋₊ : Int) else leastInt64 := by
  unfold rational? at stands
  unfold toInt64
  cases parts : shape x with
  | undefined | infinite =>
      rw [parts] at stands
      cases stands
  | finite negative significand exponent =>
      rw [parts] at stands
      cases stands
      have magnitude : (0 : ℚ) ≤ significand * 2 ^ exponent :=
        mul_nonneg (Nat.cast_nonneg _) (zpow_nonneg (by norm_num) _)
      cases negative with
      | true =>
          rw [if_pos rfl] at least
          linarith
      | false =>
          have whole : ⌊(significand : ℚ) * 2 ^ exponent⌋₊ =
              significand * twoTo exponent.toNat / twoTo (-exponent).toNat := by
            rw [scaled_eq_div, Nat.floor_div_eq_div]
          rw [if_neg Bool.false_ne_true, one_mul, whole]
          dsimp only
          generalize significand * twoTo exponent.toNat / twoTo (-exponent).toNat = size
          rw [if_neg Bool.false_ne_true]
          have lower : leastInt64 ≤ (size : Int) := by
            unfold leastInt64
            omega
          simp only [lower, true_and, Nat.cast_lt]

end Number

namespace Value

/-- A position text is read as a number that is not below one, and this is its whole part. -/
def StandsFor (position : String) (k : Nat) : Prop :=
  ∃ x p, Number.parse? position = some x ∧ Number.rational? x = some p ∧ 1 ≤ p ∧ ⌊p⌋₊ = k

/-- What a position stands for can be computed from the parts of the double that it is read as. -/
theorem StandsFor.of_shape {position : String} (significand : Nat) (exponent : Int)
    (parts : (Number.parse? position).map Number.shape = some (.finite false significand exponent))
    (least : Number.twoTo (-exponent).toNat ≤ significand * Number.twoTo exponent.toNat) :
    StandsFor position
      (significand * Number.twoTo exponent.toNat / Number.twoTo (-exponent).toNat) := by
  rcases Option.map_eq_some_iff.mp parts with ⟨x, read, shape⟩
  have value : Number.rational? x = some ((significand : ℚ) * 2 ^ exponent) := by
    rw [Number.rational?, shape]
    dsimp only
    rw [if_neg Bool.false_ne_true, one_mul]
  have denominator : (0 : ℚ) < (Number.twoTo (-exponent).toNat : Nat) :=
    Nat.cast_pos.mpr (Nat.two_pow_pos _)
  refine ⟨x, _, read, value, ?_, ?_⟩
  · rw [Number.scaled_eq_div, one_le_div denominator]
    exact Nat.cast_le.mpr least
  · rw [Number.scaled_eq_div, Nat.floor_div_eq_div]

/-- The position that a whole part is taken for: what does not fit in 64 bits counts as one. -/
def place (k : Nat) : Nat := if k < Number.twoTo 63 then k else 1

theorem StandsFor.index {position : String} {k : Nat} (stands : StandsFor position k) :
    Value.index position = place k - 1 := by
  rcases stands with ⟨x, p, read, value, least, rfl⟩
  rw [Value.index, Number.parseOrZero, read, Option.getD_some, Number.toInt64_of_rational? value least,
    place]
  split
  · omega
  · unfold Number.leastInt64
    omega

end Value

/-! ## What is done at a position -/

/-- A question for the element of a list at a position, without a conversion behind it:
`get from NAME @POSITION`. -/
structure AsksItem (toks : TokenStream) (i : Nat) (name : String) (nameEnd : Nat) (position : String)
    (last : Nat) (m read : Machine) : Prop where
  head : (toks.peek i).kind = .word .get
  line : toks.onLine i (i + 1) = true
  particle : (toks.peek (i + 1)).kind = .word .fromWord
  unconverted : Verb.asIndex? toks (i + 1) (i + 1) = none
  named : toks.bracedName (i + 2) = (name, nameEnd)
  readsPosition : ReadsAt toks name (nameEnd + 1) m position last read

theorem AsksItem.run {toks : TokenStream} {i nameEnd last : Nat} {name position : String}
    {m read : Machine} (asks : AsksItem toks i name nameEnd position last m read) (run : Runner) :
    (dispatch run toks i).run m =
      match Value.listItem? (read.getD name "[]") position with
      | some item => (finish toks last [item]).run read
      | none => (last, read) := by
  rw [dispatch_getFrom run asks.head asks.line asks.particle asks.unconverted]
  unfold Verb.getFrom
  rw [asks.named]
  dsimp only
  rw [Act.run_bind, asks.readsPosition.targetValue?_run]
  dsimp only
  rw [Act.run_bind, Act.run_get]
  dsimp only
  cases Value.listItem? (read.getD name "[]") position <;> rfl

/-! ### Two positions -/

/-- A machine with a list of two texts in a variable. -/
def twoTexts : Machine := (Machine.start {}).setGlobal "L" "[\"a\", \"b\"]"

/-- A question for the text at a position. -/
def getAt (position : String) : String :=
  "get from \x7bL\x7d @\"" ++ position ++ "\" & set as \x7bR\x7d"

/-- A statement that puts a text in front of the one at a position. -/
def insertAt (position : String) : String :=
  "list insert \"x\" @\"" ++ position ++ "\" @\x7bL\x7d"

/-- A position between the second text and the third, and one that does not fit in 64 bits. -/
def somePositions : List String := ["2.5", "9223372036854775808"]

theorem twoTexts_held :
    Json.readArrayText? (twoTexts.getD "L" "[]") = some [.string "a", .string "b"] := by
  have value : twoTexts.getD "L" "[]" = "[\"a\", \"b\"]" := by decide +kernel
  rw [value]
  cbv

theorem undollared : ∀ position ∈ somePositions, '$' ∉ position.toList := by decide

/-- How the two statements are scanned, whichever the position is. -/
theorem somePositions_scanned : ∀ position ∈ somePositions,
    let asked := scan (getAt position)
    let edited := scan (insertAt position)
    (((asked.peek 0).kind = .word .get ∧ asked.onLine 0 1 = true ∧
        (asked.peek 1).kind = .word .fromWord ∧ Verb.asIndex? asked 1 1 = none ∧
        asked.bracedName 2 = ("L", 4)) ∧
      (asked.peek 5).isSymbol .at = true ∧
        (asked.peek 4).column + (asked.peek 4).width < (asked.peek 5).column ∧
        (asked.peek 6).line = (asked.peek 5).line ∧
        (asked.peek 6).column = (asked.peek 5).column + 1 ∧
        (asked.peek 6).kind = .text ∧ (asked.peek 6).content = position) ∧
    ((edited.peek 0).kind = .word .list ∧ (edited.peek 1).kind = .word .insert ∧
        (edited.peek 2).kind = .text ∧ (edited.peek 2).content = "x" ∧
        Verb.skipPositionWords edited 3 = 3) ∧
      ((edited.peek 3).isSymbol .at = true ∧
        (edited.peek 2).column + (edited.peek 2).width < (edited.peek 3).column ∧
        (edited.peek 4).line = (edited.peek 3).line ∧
        (edited.peek 4).column = (edited.peek 3).column + 1 ∧
        (edited.peek 4).kind = .text ∧ (edited.peek 4).content = position) ∧
      edited.Target 5 "L" 8 := by
  decide +kernel

theorem getAt_asks {position : String} (among : position ∈ somePositions) :
    AsksItem (scan (getAt position)) 0 "L" 4 position 6 twoTexts twoTexts := by
  rcases (somePositions_scanned position among).left with
    ⟨⟨head, same, particle, unconverted, named⟩, sign, gap, line, attached, quoted, content⟩
  have plain : '$' ∉ ((scan (getAt position)).peek 6).content.toList :=
    content.symm ▸ undollared position among
  have reads := ReadsAt.literal sign gap line attached quoted plain "L" twoTexts
  rw [content] at reads
  exact ⟨head, same, particle, unconverted, named, reads⟩

theorem insertAt_edits {position : String} (among : position ∈ somePositions) :
    EditsList (scan (insertAt position)) 0 "L" twoTexts (.insert "x" position) 8 twoTexts := by
  rcases (somePositions_scanned position among).right with
    ⟨⟨head, action, quotedItem, item, behind⟩, ⟨sign, gap, line, attached, quoted, content⟩,
      target⟩
  have plain : '$' ∉ ((scan (insertAt position)).peek 4).content.toList :=
    content.symm ▸ undollared position among
  have readsItem := Reads.literal quotedItem (item ▸ by decide) "L" twoTexts
  have readsPosition := ReadsAt.literal sign gap line attached quoted plain "L" twoTexts
  rw [item] at readsItem
  rw [content] at readsPosition
  have afterWords : ReadsAt (scan (insertAt position)) "L"
      (Verb.skipPositionWords (scan (insertAt position)) 3) twoTexts position 4 twoTexts := by
    rwa [behind]
  exact .insert head action readsItem afterWords target

/-! ## One law for all -/

/-- What the statements do that take a position: `get from` answers with a text, and `list cut` and
`list insert` leave a list in the variable. -/
structure ActsAt (name position : String) (m : Machine) (answer : String) (cut : List Json)
    (inserted : String → List Json) : Prop where
  get : ∀ {run toks i nameEnd last read}, AsksItem toks i name nameEnd position last m read →
    (dispatch run toks i).run m = (finish toks last [answer]).run read
  cut : ∀ {run toks i last read}, EditsList toks i name m (.cut position) last read →
    ((dispatch run toks i).run m).2.HoldsList name cut
  insert : ∀ {run toks i item last read}, EditsList toks i name m (.insert item position) last read →
    ((dispatch run toks i).run m).2.HoldsList name (inserted item)

section Law

variable {name position : String} {k : Nat} {m : Machine} {items : List Json}

/-- All of them go by one index. -/
theorem actsAt_index (plain : Plain name) (shown : m.isHidden name = false)
    (held : Json.readArrayText? (m.getD name "[]") = some items) (position : String) :
    ActsAt name position m (((items[Value.index position]?).map Json.render).getD Value.nothing)
      (items.eraseIdx (Value.index position)) fun item =>
        items.take (Value.index position) ++ .string item :: items.drop (Value.index position) where
  get := by
    intro run toks i nameEnd last read asks
    have kept : read.getD name "[]" = m.getD name "[]" := by
      rw [getD, asks.readsPosition.get? plain, ← getD]
    have item : Value.listItem? (read.getD name "[]") position =
        some (((items[Value.index position]?).map Json.render).getD Value.nothing) := by
      rw [kept]
      unfold Value.listItem?
      rw [held]
      rfl
    rw [asks.run, item]
  cut edits := (edits.relists plain shown _).list items held
  insert edits := (edits.relists plain shown _).list items held

/-- What is done at a position of a list that counts from one. -/
structure PositionLaw (name position : String) (k : Nat) (items : List Json) (m : Machine) : Prop where
  /-- Where there is an element at the position, it is answered with, taken out, or put behind the
  new one. -/
  within : ∀ before element behind, items = before ++ element :: behind → before.length + 1 = k →
    ActsAt name position m element.render (before ++ behind) fun item =>
      before ++ .string item :: element :: behind
  /-- Where the list ends before the position, there is nothing to answer with or to take out, and
  what is put in becomes the last element. -/
  beyond : items.length < k →
    ActsAt name position m Value.nothing items fun item => items ++ [.string item]

/-- Whole parts are positions up to 64 bits, and count as the first position from there on. -/
theorem position_law (stands : Value.StandsFor position k) (plain : Plain name)
    (shown : m.isHidden name = false)
    (held : Json.readArrayText? (m.getD name "[]") = some items) :
    PositionLaw name position (Value.place k) items m := by
  have acts := actsAt_index plain shown held position
  rw [stands.index] at acts
  refine ⟨fun before element behind split here => ?_, fun ends => ?_⟩
  · have index : Value.place k - 1 = before.length := by omega
    rw [index, split, List.getElem?_append_right (Nat.le_refl _), Nat.sub_self,
      List.eraseIdx_append_of_length_le (Nat.le_refl _), Nat.sub_self, List.take_left,
      List.drop_left] at acts
    exact acts
  · have behind : items.length ≤ Value.place k - 1 := by omega
    rw [List.getElem?_eq_none behind, List.eraseIdx_of_length_le behind,
      List.take_of_length_le behind, List.drop_of_length_le behind] at acts
    exact acts

end Law

/-- At the position of two and a half is the second text. -/
theorem position_law_half :
    Value.StandsFor "2.5" 2 ∧
      Json.readArrayText? (twoTexts.getD "L" "[]") = some [.string "a", .string "b"] ∧
      ((dispatch idle (scan (getAt "2.5")) 0).run twoTexts).2.get? "R" = some "b" ∧
      ((dispatch idle (scan (insertAt "2.5")) 0).run twoTexts).2.HoldsList "L"
        [.string "a", .string "x", .string "b"] := by
  have plain : Plain "L" := by decide +kernel
  have stands : Value.StandsFor "2.5" 2 :=
    .of_shape 5629499534213120 (-51) (by decide +kernel) (by decide)
  have law := position_law stands plain rfl twoTexts_held
  have acts := law.within [.string "a"] (.string "b") [] rfl rfl
  refine ⟨stands, twoTexts_held, ?_, acts.insert (insertAt_edits (by decide))⟩
  rw [acts.get (getAt_asks (by decide))]
  decide +kernel

/-- A position that does not fit in 64 bits is behind every list, and it counts as the first. -/
theorem hugePosition_isFirst :
    Value.StandsFor "9223372036854775808" (Number.twoTo 63) ∧
      ((dispatch idle (scan (getAt "9223372036854775808")) 0).run twoTexts).2.get? "R" = some "a" ∧
      ((dispatch idle (scan (insertAt "9223372036854775808")) 0).run twoTexts).2.HoldsList "L"
        [.string "x", .string "a", .string "b"] := by
  have plain : Plain "L" := by decide +kernel
  have acts := actsAt_index plain rfl twoTexts_held "9223372036854775808"
  have stands : Value.StandsFor "9223372036854775808" (Number.twoTo 63) :=
    .of_shape 4503599627370496 11 (by decide +kernel) (by decide)
  have first : Value.index "9223372036854775808" = 0 := by decide +kernel
  rw [first] at acts
  refine ⟨stands, ?_, acts.insert (insertAt_edits (by decide))⟩
  rw [acts.get (getAt_asks (by decide))]
  decide +kernel

end BigScript
