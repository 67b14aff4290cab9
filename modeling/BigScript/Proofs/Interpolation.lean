import BigScript.Proofs.Substitution
import Mathlib.Data.List.TakeWhile

/-!
# Replacing references

A text is split from left to right into escaped dollars, references in braces, references without
braces and single other characters.  `Splits` says which ways of splitting a text these rules allow,
without saying how one is found.  There is always exactly one, and a text with its references replaced
is what its parts become, put together in their order.

The rules overlap in appearance only.  A dollar in front of an open brace is no reference without
braces, since a brace belongs to no name; if the brace is not closed, the dollar is a character like any
other.  So is a backslash that no dollar follows, and so is a dot that no letter or digit follows: it
ends a name.
-/

namespace BigScript

namespace Segment

/-! ## Names -/

/-- Whether the first character of a text goes on with a name.  A dot does where a letter or digit
follows. -/
def Continues : List Char → Prop
  | [] => False
  | c :: cs =>
    isNameChar c ∨
      c = '.' ∧ ∃ next, cs.head? = some next ∧ (Text.isLetter next ∨ Text.isDigit next)

/-- Whether a name in front of the rest of a text ends only where it has to. -/
inductive Longest : List Char → List Char → Prop where
  | ends {behind : List Char} : ¬ Continues behind → Longest [] behind
  | goesOn {c : Char} {name behind : List Char} :
      Continues (c :: (name ++ behind)) → Longest name behind → Longest (c :: name) behind

/-- A brace goes on with no name. -/
theorem not_continues_brace (cs : List Char) : ¬ Continues ('{' :: cs) := by
  have other : isNameChar '{' = false := by decide +kernel
  simp [Continues, other]

theorem nameOf_of_continues {c : Char} {cs : List Char} (goesOn : Continues (c :: cs)) :
    nameOf (c :: cs) = c :: nameOf cs := by
  rw [nameOf.eq_def]
  dsimp only
  rcases goesOn with named | ⟨rfl, next, here, follows⟩
  · rw [if_pos named]
  · cases cs with
    | nil => cases here
    | cons other cs =>
        cases here
        simp [follows]

theorem nameOf_of_ends {cs : List Char} (ends : ¬ Continues cs) : nameOf cs = [] := by
  fun_cases nameOf cs with
  | case1 => rfl
  | case2 c cs named => exact absurd (.inl named) ends
  | case3 c other next cs dotted =>
      rw [Bool.and_eq_true, beq_iff_eq, Bool.or_eq_true] at dotted
      exact absurd (.inr ⟨dotted.1, next, rfl, dotted.2⟩) ends
  | case4 => rfl
  | case5 => rfl

/-- What is read is the longest name. -/
theorem nameOf_longest (cs : List Char) :
    ∃ behind, cs = nameOf cs ++ behind ∧ Longest (nameOf cs) behind := by
  induction cs with
  | nil => exact ⟨[], rfl, .ends id⟩
  | cons c cs ih =>
      by_cases goesOn : Continues (c :: cs)
      · rcases ih with ⟨behind, whole, longest⟩
        rw [nameOf_of_continues goesOn]
        exact ⟨behind, congrArg (c :: ·) whole, .goesOn (whole ▸ goesOn) longest⟩
      · rw [nameOf_of_ends goesOn]
        exact ⟨c :: cs, rfl, .ends goesOn⟩

/-- The longest name is the one that is read. -/
theorem Longest.nameOf {name behind : List Char} (longest : Longest name behind) :
    nameOf (name ++ behind) = name := by
  induction longest with
  | ends ends => exact nameOf_of_ends ends
  | @goesOn c name behind goesOn _ ih => rw [List.cons_append, nameOf_of_continues goesOn, ih]

/-- A name does not begin with a brace. -/
theorem Longest.ne_brace {c : Char} {name behind : List Char} (longest : Longest (c :: name) behind) :
    c ≠ '{' := by
  cases longest with
  | goesOn goesOn _ => exact fun brace => not_continues_brace _ (brace ▸ goesOn)

/-! ## Parts -/

/-- Whether a segment of more than one character may stand in front of the rest of a text. -/
def Marks : Segment → List Char → Prop
  | .escaped, _ => True
  | .braced name, _ => '}' ∉ name
  | .bare name, behind => name ≠ [] ∧ Longest name behind
  | .plain _, _ => False

/-- The ways of splitting a text from left to right. -/
inductive Splits : List Char → List Segment → Prop where
  | done : Splits [] []
  | marked {segment : Segment} {behind : List Char} {parts : List Segment} :
      Marks segment behind → Splits behind parts →
        Splits (segment.written ++ behind) (segment :: parts)
  | single {c : Char} {behind : List Char} {parts : List Segment} :
      (∀ segment rest, Marks segment rest → segment.written ++ rest ≠ c :: behind) →
        Splits behind parts → Splits (c :: behind) (.plain c :: parts)

/-- The name of a closed reference ends at the first brace that closes. -/
theorem takeWhile_closing {name : List Char} (closed : '}' ∉ name) (behind : List Char) :
    (name ++ '}' :: behind).takeWhile (· != '}') = name := by
  have inside : ∀ c ∈ name, (c != '}') = true := fun c member =>
    bne_iff_ne.mpr fun brace => closed (brace ▸ member)
  rw [List.takeWhile_append_of_pos inside]
  exact List.append_nil name

theorem first_brace (rest : List Char) :
    first '$' ('{' :: rest) =
      if (rest.takeWhile (· != '}')).length < rest.length then .braced (rest.takeWhile (· != '}'))
      else .plain '$' := rfl

theorem first_dollar {cs : List Char} (noBrace : cs.head? ≠ some '{') :
    first '$' cs = if (nameOf cs).isEmpty then .plain '$' else .bare (nameOf cs) := by
  rw [first.eq_def]
  dsimp only
  rw [if_neg (by simp), if_pos (beq_self_eq_true '$')]
  split
  · exact absurd rfl noBrace
  · rfl

theorem first_other {c : Char} {cs : List Char} (noEscape : ¬ (c = '\\' ∧ cs.head? = some '$'))
    (noDollar : c ≠ '$') : first c cs = .plain c := by
  rw [first.eq_def, if_neg (by simpa using noEscape), if_neg (by simpa using noDollar)]

/-- A segment that may stand in front of a text is the one that is read there. -/
theorem first_of_marks {segment : Segment} {behind cs : List Char} {c : Char}
    (marks : Marks segment behind) (whole : segment.written ++ behind = c :: cs) :
    first c cs = segment := by
  cases segment with
  | plain => exact marks.elim
  | escaped =>
      cases whole
      rfl
  | braced name =>
      have ends := takeWhile_closing marks behind
      have shorter : name.length < (name ++ '}' :: behind).length := by
        simp only [List.length_append, List.length_cons]
        omega
      rw [show (braced name).written ++ behind = '$' :: '{' :: (name ++ '}' :: behind) by
        simp [written]] at whole
      cases whole
      rw [first_brace, ends, if_pos shorter]
  | bare name =>
      rcases marks with ⟨named, longest⟩
      cases whole
      cases name with
      | nil => exact absurd rfl named
      | cons d name =>
          have noBrace : (d :: name ++ behind).head? ≠ some '{' := fun brace =>
            longest.ne_brace (Option.some.inj brace)
          refine (first_dollar noBrace).trans ?_
          rw [longest.nameOf]
          rfl

/-- A segment that is read in front of a text may stand there, or it is a single character. -/
theorem marks_of_first (c : Char) (cs : List Char) :
    (∃ behind, Marks (first c cs) behind ∧ (first c cs).written ++ behind = c :: cs) ∨
      first c cs = .plain c := by
  by_cases escaped : c = '\\' ∧ cs.head? = some '$'
  · rcases escaped with ⟨rfl, dollar⟩
    rcases List.head?_eq_some_iff.mp dollar with ⟨behind, rfl⟩
    exact .inl ⟨behind, trivial, rfl⟩
  by_cases dollar : c = '$'
  swap
  · exact .inr (first_other escaped dollar)
  cases dollar
  by_cases brace : cs.head? = some '{'
  · rcases List.head?_eq_some_iff.mp brace with ⟨rest, rfl⟩
    rw [first_brace]
    split
    case isTrue closed =>
      rcases takeWhile_closed closed with ⟨behind, whole⟩
      refine .inl ⟨behind, ?_, ?_⟩
      · exact fun inside => absurd (List.mem_takeWhile_imp inside) (by decide)
      · rw [show ∀ name, (braced name).written ++ behind = '$' :: '{' :: (name ++ '}' :: behind) by
          simp [written], ← whole]
    case isFalse => exact .inr rfl
  · rw [first_dollar brace]
    split
    case isTrue => exact .inr rfl
    case isFalse named =>
      rcases nameOf_longest cs with ⟨behind, whole, longest⟩
      exact .inl ⟨behind, ⟨by simpa using named, longest⟩, congrArg ('$' :: ·) whole.symm⟩

/-- What a segment leaves of a text. -/
theorem drop_of_written {c : Char} {cs behind : List Char}
    (whole : (first c cs).written ++ behind = c :: cs) :
    cs.drop ((first c cs).written.length - 1) = behind :=
  (List.append_cancel_left (whole.trans (first_written c cs))).symm

/-- What is read from left to right is a way of splitting the text. -/
theorem splits_split (cs : List Char) : Splits cs (split cs) := by
  fun_induction split cs with
  | case1 => exact .done
  | case2 c cs segment ih =>
      rcases marks_of_first c cs with ⟨behind, marks, whole⟩ | single
      · rw [drop_of_written whole] at ih ⊢
        rw [← whole]
        exact .marked marks ih
      · -- Whatever else might stand here would have been read.
        have none : ∀ other rest, Marks other rest → other.written ++ rest ≠ c :: cs := by
          intro other rest marks whole
          have same := (first_of_marks marks whole).symm.trans single
          rw [same] at marks
          exact marks
        rw [show segment = .plain c from single] at ih ⊢
        exact .single none ih

/-- There is no other way of splitting it. -/
theorem Splits.eq_split {cs : List Char} {parts : List Segment} (splits : Splits cs parts) :
    parts = split cs := by
  induction splits with
  | done => rw [split]
  | @marked segment behind parts marks _ ih =>
      cases whole : segment.written ++ behind with
      | nil => cases segment <;> cases whole
      | cons c cs =>
          have read := first_of_marks marks whole
          rw [← read] at whole
          rw [split_cons, drop_of_written whole, read, ih]
  | @single c behind parts none _ ih =>
      rcases marks_of_first c behind with ⟨rest, marks, whole⟩ | single
      · exact absurd whole (none _ _ marks)
      · rw [split_cons, single, ih]
        rfl

theorem splits_unique (cs : List Char) : ∃! parts, Splits cs parts :=
  ⟨split cs, splits_split cs, fun _ splits => splits.eq_split⟩

/-- The parts behind some parts of a text are a way of splitting what is left of it. -/
theorem Splits.behind {cs : List Char} {before after : List Segment}
    (splits : Splits cs (before ++ after)) :
    ∃ rest, cs = before.flatMap written ++ rest ∧ Splits rest after := by
  induction before generalizing cs with
  | nil => exact ⟨cs, rfl, splits⟩
  | cons part before ih =>
      rw [List.cons_append] at splits
      cases splits with
      | marked _ inner =>
          rcases ih inner with ⟨rest, whole, last⟩
          exact ⟨rest, by rw [whole, List.flatMap_cons, List.append_assoc], last⟩
      | single _ inner =>
          rcases ih inner with ⟨rest, whole, last⟩
          exact ⟨rest, congrArg _ whole, last⟩

/-- An escaped dollar is a part of a text only if it is written there. -/
theorem Splits.escaped_infix {cs : List Char} {parts : List Segment} (splits : Splits cs parts)
    (member : .escaped ∈ parts) : ['\\', '$'] <:+: cs := by
  rcases List.append_of_mem member with ⟨before, after, rfl⟩
  rcases splits.behind with ⟨rest, whole, last⟩
  cases last with
  | @marked _ behind =>
      refine ⟨before.flatMap written, behind, ?_⟩
      rw [whole, List.append_assoc]
      rfl

end Segment

open Segment

/-! ## The law -/

/-- What comes out of a text when its references are replaced. -/
structure InterpolationLaw (m : Machine) (text : String) : Prop where
  /-- There is exactly one way of splitting the text. -/
  splits : ∃! parts, Splits text.toList parts
  /-- What comes out is what the parts become, one after the other. -/
  pass : ∀ parts, Splits text.toList parts →
    (m.interpolate text).toList = parts.flatMap fun part => (part.resolve m.get?).toList
  /-- An escaped dollar becomes a dollar. -/
  dollar : resolve m.get? .escaped = "$"
  /-- A reference to a name with a value becomes the value. -/
  value : ∀ (part : Segment) (name value : String), part.name? = some name → m.get? name = some value →
    part.resolve m.get? = value
  /-- A reference to a name without a value stays as it is written, and so does a character. -/
  written : ∀ part : Segment, part ≠ .escaped → (∀ name, part.name? = some name → m.get? name = none) →
    (part.resolve m.get?).toList = part.written
  /-- A text without escaped dollars stays as it is if no name that it refers to has a value. -/
  unchanged : ¬ ['\\', '$'] <:+: text.toList →
    (∀ parts, Splits text.toList parts → ∀ part ∈ parts, ∀ name, part.name? = some name →
      m.get? name = none) → m.interpolate text = text
  /-- Behind a value the pass goes on with what is written behind the reference. -/
  onward : ∀ before part after name value, Splits text.toList (before ++ part :: after) →
    part.name? = some name → m.get? name = some value → ∃ rest,
      text.toList = before.flatMap Segment.written ++ part.written ++ rest ∧
        (m.interpolate text).toList =
          (before.flatMap fun part => (part.resolve m.get?).toList) ++ value.toList ++
            (m.interpolate (String.ofList rest)).toList

theorem toList_interpolate_of_splits (m : Machine) {text : String} {parts : List Segment}
    (splits : Splits text.toList parts) :
    (m.interpolate text).toList = parts.flatMap fun part => (part.resolve m.get?).toList := by
  rw [splits.eq_split]
  exact toList_interpolate m.get? text

/-- References are replaced in a single pass from left to right. -/
theorem interpolation_law (m : Machine) (text : String) : InterpolationLaw m text where
  splits := splits_unique text.toList
  pass _ splits := toList_interpolate_of_splits m splits
  dollar := rfl
  value _ _ _ refers found := resolve_of_value refers found
  written _ unescaped unknown := resolve_of_none unescaped unknown
  unchanged noEscape unknown := by
    have splits := splits_split text.toList
    refine interpolate_eq_self (fun escaped => noEscape (splits.escaped_infix escaped)) ?_
    intro name member
    rcases List.mem_filterMap.mp member with ⟨part, inside, refers⟩
    exact unknown _ splits part inside name refers
  onward before part after name value splits refers found := by
    have whole := toList_interpolate_of_splits m splits
    rw [List.append_cons] at splits
    rcases splits.behind with ⟨rest, written, last⟩
    rw [← String.toList_ofList (l := rest)] at last
    refine ⟨rest, ?_, ?_⟩
    · rw [written, List.flatMap_append, List.flatMap_singleton]
    · rw [whole, toList_interpolate_of_splits m last, List.flatMap_append, List.flatMap_cons,
        resolve_of_value refers found, List.append_assoc]

/-- A backslash that no dollar follows, a dot at the end of a name and a brace that is not closed. -/
example : split "\\n $User.name. $\x7bName".toList =
    [.plain '\\', .plain 'n', .plain ' ', .bare "User.name".toList, .plain '.', .plain ' ',
      .plain '$', .plain '\x7b', .plain 'N', .plain 'a', .plain 'm', .plain 'e'] := by
  decide +kernel

end BigScript
