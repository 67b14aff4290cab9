import BigScript.Proofs.Layout
import BigScript.Proofs.Nesting
import Mathlib.Data.List.Basic
import Mathlib.Logic.Function.Basic

/-!
# How often references are replaced

A text that is written in a script may refer to variables.  Replacing its references is one pass over
its segments: a reference becomes the value of its name, and the value is not looked at again.  What
comes out depends on the variables that the text refers to and on no others.

Operands are read in two ways.  `Operand.value` makes one pass.  `Operand.text`, through which most
verbs read their operands, makes another one over what comes out of the first.  A text in the script is
replaced twice there, so the values of its variables are scanned for references too, and so is the
dollar that an escaped dollar has become.  `substitution_law` says what each of the two readers depends
on, and when they agree.
-/

namespace BigScript

namespace Segment

/-- The name that a segment refers to. -/
def name? : Segment → Option String
  | .escaped => none
  | .braced name => some (String.ofList name)
  | .bare name => some (String.ofList name)
  | .plain _ => none

theorem resolve_congr {value? other? : String → Option String} (segment : Segment)
    (same : ∀ name, segment.name? = some name → value? name = other? name) :
    segment.resolve value? = segment.resolve other? := by
  cases segment with
  | escaped | plain => rfl
  | braced name | bare name =>
      dsimp only [resolve]
      rw [same _ rfl]

/-- A reference with a value becomes the value. -/
theorem resolve_of_value {value? : String → Option String} {segment : Segment} {name value : String}
    (refers : segment.name? = some name) (found : value? name = some value) :
    segment.resolve value? = value := by
  cases segment with
  | escaped | plain => cases refers
  | braced | bare =>
      cases refers
      dsimp only [resolve]
      rw [found]
      rfl

/-- A reference without a value stays as it is written. -/
theorem resolve_of_none {value? : String → Option String} {segment : Segment}
    (unescaped : segment ≠ .escaped)
    (unknown : ∀ name, segment.name? = some name → value? name = none) :
    (segment.resolve value?).toList = segment.written := by
  cases segment with
  | escaped => exact absurd rfl unescaped
  | plain c => exact String.toList_singleton c
  | braced name | bare name =>
      dsimp only [resolve, written]
      rw [unknown _ rfl, Option.getD_none, String.toList_ofList]

/-! ## The segments of a text -/

theorem split_cons (c : Char) (cs : List Char) :
    split (c :: cs) = first c cs :: split (cs.drop ((first c cs).written.length - 1)) := by
  rw [split]

theorem nameOf_isPrefix (cs : List Char) : nameOf cs <+: cs := by
  fun_induction nameOf cs with
  | case1 => exact List.nil_prefix
  | case2 c cs named ih => exact (List.prefix_cons_inj c).mpr ih
  | case3 c next cs other dotted ih => exact (List.prefix_cons_inj c).mpr ih
  | case4 => exact List.nil_prefix
  | case5 => exact List.nil_prefix

theorem takeWhile_closed {brace : Char} {cs : List Char}
    (closed : (cs.takeWhile (· != brace)).length < cs.length) :
    ∃ behind, cs = cs.takeWhile (· != brace) ++ brace :: behind := by
  have parts := List.takeWhile_append_dropWhile (p := (· != brace)) (l := cs)
  cases rest : cs.dropWhile (· != brace) with
  | nil =>
      rw [rest, List.append_nil] at parts
      rw [parts] at closed
      exact absurd closed (Nat.lt_irrefl _)
  | cons first behind =>
      have stop := List.head_dropWhile_not (l := cs) (· != brace) (by rw [rest]; nofun)
      simp only [rest, List.head_cons, bne_eq_false_iff_eq] at stop
      rw [rest, stop] at parts
      exact ⟨behind, parts.symm⟩

theorem braced_written (name behind : List Char) :
    '$' :: '{' :: (name ++ '}' :: behind) = (braced name).written ++
      ('{' :: (name ++ '}' :: behind)).drop ((braced name).written.length - 1) := by
  simp [written]

theorem bare_written (name behind : List Char) :
    '$' :: (name ++ behind) =
      (bare name).written ++ (name ++ behind).drop ((bare name).written.length - 1) := by
  simp [written]

/-- A segment stands at the front of the text that it was read from. -/
theorem first_written (c : Char) (cs : List Char) :
    c :: cs = (first c cs).written ++ cs.drop ((first c cs).written.length - 1) := by
  unfold first
  split
  case isTrue escaped =>
    rw [Bool.and_eq_true, beq_iff_eq, beq_iff_eq] at escaped
    cases cs with
    | nil => cases escaped.2
    | cons next cs =>
        cases escaped.1
        cases escaped.2
        rfl
  case isFalse unescaped =>
    split
    case isFalse => rfl
    case isTrue dollar =>
      cases eq_of_beq dollar
      split
      · rename_i rest
        dsimp only
        split
        · rename_i closed
          -- The name ends before the text does, so there is a brace behind it.
          rcases takeWhile_closed closed with ⟨behind, whole⟩
          have parts := braced_written (rest.takeWhile (· != '}')) behind
          rwa [← whole] at parts
        · rfl
      · dsimp only
        split
        · rfl
        · rcases nameOf_isPrefix cs with ⟨behind, whole⟩
          have parts := bare_written (nameOf cs) behind
          rwa [whole] at parts

/-- The segments of a text are written one after the other. -/
theorem split_written (cs : List Char) : (split cs).flatMap written = cs := by
  fun_induction split cs with
  | case1 => rfl
  | case2 c cs segment ih =>
      rw [List.flatMap_cons, ih]
      exact (first_written c cs).symm

/-- A text without a dollar has no references. -/
theorem split_of_plain {cs : List Char} (plain : '$' ∉ cs) : split cs = cs.map .plain := by
  induction cs with
  | nil => rw [split]; rfl
  | cons c cs ih =>
      have here : c ≠ '$' := fun dollar => plain (dollar ▸ List.mem_cons_self)
      have rest : '$' ∉ cs := fun member => plain (List.mem_cons_of_mem _ member)
      have head : cs.head? ≠ some '$' := fun dollar => rest (List.mem_of_head? dollar)
      have one : first c cs = .plain c := by
        unfold first
        rw [beq_eq_false_iff_ne.mpr head, Bool.and_false, beq_eq_false_iff_ne.mpr here]
        rfl
      rw [split_cons, one, List.map_cons]
      exact congrArg (Segment.plain c :: ·) (ih rest)

end Segment

open Segment

/-! ## One pass -/

/-- The names that a text refers to. -/
def references (text : String) : List String := (split text.toList).filterMap Segment.name?

section Pass

variable {value? other? : String → Option String} {text : String}

theorem foldl_resolve (parts : List Segment) (before : String) :
    (parts.foldl (fun result part => result ++ part.resolve value?) before).toList =
      before.toList ++ parts.flatMap fun part => (part.resolve value?).toList := by
  induction parts generalizing before with
  | nil => exact (List.append_nil _).symm
  | cons part parts ih =>
      rw [List.foldl_cons, ih, String.toList_append, List.flatMap_cons, List.append_assoc]

theorem interpolate_of_plain (value? : String → Option String) {text : String}
    (plain : '$' ∉ text.toList) : interpolate value? text = text := by
  have absent : ¬ text.contains '$' = true := by
    rwa [String.contains_char_eq, decide_eq_true_iff]
  rw [interpolate, if_neg absent]

/-- A text with its references replaced consists of what its segments become, whether it has a dollar
or not. -/
theorem toList_interpolate (value? : String → Option String) (text : String) :
    (interpolate value? text).toList =
      (split text.toList).flatMap fun part => (part.resolve value?).toList := by
  unfold interpolate
  split
  · exact foldl_resolve _ _
  · rename_i plain
    rw [String.contains_char_eq, decide_eq_true_iff] at plain
    have alone : ∀ c, (resolve value? (.plain c)).toList = [c] := String.toList_singleton
    rw [split_of_plain plain, List.flatMap_map]
    simp only [alone, List.flatMap_singleton']

/-- What a text becomes depends on the variables that it refers to, and on no others. -/
theorem interpolate_congr (same : ∀ name ∈ references text, value? name = other? name) :
    interpolate value? text = interpolate other? text := by
  rw [← String.toList_inj, toList_interpolate, toList_interpolate]
  refine List.flatMap_congr fun part member => ?_
  have agrees : ∀ name, part.name? = some name → value? name = other? name := fun name refers =>
    same name (List.mem_filterMap.mpr ⟨part, member, refers⟩)
  rw [part.resolve_congr agrees]

/-- A text stays as it is if it has no escaped dollar and none of its references has a value. -/
theorem interpolate_eq_self (unescaped : .escaped ∉ split text.toList)
    (unknown : ∀ name ∈ references text, value? name = none) : interpolate value? text = text := by
  rw [← String.toList_inj, toList_interpolate]
  refine Eq.trans (List.flatMap_congr fun part member => ?_) (split_written text.toList)
  refine resolve_of_none (fun escaped => unescaped (escaped ▸ member)) fun name refers => ?_
  exact unknown name (List.mem_filterMap.mpr ⟨part, member, refers⟩)

/-- The value of a reference is put into the text as it is. -/
theorem length_le_interpolate {name value : String} (refers : name ∈ references text)
    (found : value? name = some value) : value.length ≤ (interpolate value? text).length := by
  rcases List.mem_filterMap.mp refers with ⟨part, member, named⟩
  rcases List.append_of_mem member with ⟨before, after, whole⟩
  have parts : (interpolate value? text).toList =
      (before.flatMap fun part => (part.resolve value?).toList) ++ (value.toList ++
        after.flatMap fun part => (part.resolve value?).toList) := by
    rw [toList_interpolate, whole, List.flatMap_append, List.flatMap_cons,
      resolve_of_value named found]
  rw [← String.length_toList, ← String.length_toList, parts, List.length_append, List.length_append]
  omega

/-- A second pass depends on what the first one depends on and on nothing else, if what comes out of
the first one refers to no other variables; and only then. -/
theorem interpolate_twice_iff (value? : String → Option String) (text : String) :
    (∀ other? : String → Option String, (∀ name ∈ references text, other? name = value? name) →
      interpolate other? (interpolate other? text) = interpolate value? (interpolate value? text)) ↔
    references (interpolate value? text) ⊆ references text := by
  constructor
  · intro depends name refers
    by_contra apart
    -- A variable of its own is given a value that is longer than everything that came out before.
    let long := interpolate value? (interpolate value? text) ++ "!"
    let other? := Function.update value? name (some long)
    have agrees : ∀ used ∈ references text, other? used = value? used := by
      intro used member
      have different : used ≠ name := fun same => apart (same ▸ member)
      exact Function.update_of_ne different _ _
    have found : other? name = some long := Function.update_self name _ _
    have bound := length_le_interpolate refers found
    have once : interpolate other? text = interpolate value? text := interpolate_congr agrees
    have same := depends other? agrees
    rw [once] at same
    rw [same, String.length_append] at bound
    exact absurd bound (Nat.not_succ_le_self _)
  · intro inside other? agrees
    have once : interpolate other? text = interpolate value? text := interpolate_congr agrees
    rw [once]
    exact interpolate_congr fun name refers => agrees name (inside refers)

end Pass

/-! ## Operands -/

/-- Whether two machines have the same values for the variables that a text refers to. -/
def Agree (m other : Machine) (text : String) : Prop :=
  ∀ name ∈ references text, m.get? name = other.get? name

instance (m other : Machine) (text : String) : Decidable (Agree m other text) :=
  inferInstanceAs (Decidable (∀ name ∈ references text, m.get? name = other.get? name))

/-- A value begins where no sign for a target stands in front of it. -/
theorem TokenStream.skipAts_of_apart {toks : TokenStream} {i : Nat}
    (apart : ((toks.peek i).isSymbol .at || (toks.peek i).isWord .atWord) = false) :
    toks.skipAts i = i := by
  unfold skipAts
  split
  · next inside =>
      rw [peek_of_lt (Nat.lt_of_succ_lt inside)] at apart
      rw [if_neg (Bool.eq_false_iff.mp apart)]
  · rfl

namespace Operand

variable {toks : TokenStream} {i : Nat} {literal : String}

theorem valueAt_literal (written : (toks.peek i).lexeme = .text literal) (m : Machine) :
    (valueAt toks i).run m = ((m.interpolate literal, i), m) := by
  have kind : (toks.peek i).kind = .text := congrArg Lexeme.kind written
  have noWord : ∀ word, (toks.peek i).isWord word = false := fun word => by
    rw [Token.isWord, kind]
    rfl
  have noSymbol : ∀ symbol, (toks.peek i).isSymbol symbol = false := fun symbol => by
    rw [Token.isSymbol, kind]
    rfl
  have noWarp : toks.opensWarp i = false := by
    rw [TokenStream.opensWarp, written]
    exact Bool.and_false _
  have noSolve : toks.opensSolve i = false := by
    rw [TokenStream.opensSolve, noWord]
    rfl
  unfold valueAt
  rw [Act.run_bind, Act.run_get]
  dsimp only
  rw [noWord, noSymbol, noSymbol, noWarp, noSolve, written]
  rfl

theorem value_literal (written : (toks.peek (toks.skipAts i)).lexeme = .text literal) (m : Machine) :
    (value toks i).run m = ((m.interpolate literal, toks.skipAts i), m) := valueAt_literal written m

theorem text_literal (written : (toks.peek (toks.skipAts i)).lexeme = .text literal) (m : Machine) :
    (text toks i).run m = ((m.interpolate (m.interpolate literal), toks.skipAts i), m) := by
  unfold text
  rw [Act.run_bind, value_literal written]
  rfl

/-- A string without references is read as it is written. -/
theorem text_quoted (quoted : (toks.peek i).kind = .text) (plain : '$' ∉ (toks.peek i).content.toList)
    (m : Machine) : (text toks i).run m = (((toks.peek i).content, i), m) := by
  have apart : toks.skipAts i = i := by
    apply TokenStream.skipAts_of_apart
    rw [Token.isSymbol, Token.isWord, quoted]
    rfl
  have same : m.interpolate (toks.peek i).content = (toks.peek i).content :=
    interpolate_of_plain m.get? plain
  rw [text_literal (apart.symm ▸ Token.lexeme_of_text quoted), apart, same, same]

end Operand

/-! ## The law -/

/-- What becomes of a text in a script that stands at an index as an operand. -/
structure SubstitutionLaw (toks : TokenStream) (i : Nat) (literal : String) : Prop where
  /-- Reading its value makes one pass. -/
  once : ∀ m, (Operand.value toks i).run m = ((m.interpolate literal, toks.skipAts i), m)
  /-- Reading it as a text makes two. -/
  twice : ∀ m, (Operand.text toks i).run m =
    ((m.interpolate (m.interpolate literal), toks.skipAts i), m)
  /-- Its value depends on the variables that it refers to. -/
  value : ∀ m other, Agree m other literal →
    ((Operand.value toks i).run m).1 = ((Operand.value toks i).run other).1
  /-- Read as a text, it depends on these and on those that its value refers to. -/
  text : ∀ m other, Agree m other literal → Agree m other (m.interpolate literal) →
    ((Operand.text toks i).run m).1 = ((Operand.text toks i).run other).1
  /-- It depends on nothing else if, and only if, its value refers to no other variables. -/
  nothingElse : ∀ value? : String → Option String,
    (∀ other? : String → Option String, (∀ name ∈ references literal, other? name = value? name) →
      interpolate other? (interpolate other? literal) =
        interpolate value? (interpolate value? literal)) ↔
    references (interpolate value? literal) ⊆ references literal
  /-- Both readers agree if its value has no escaped dollar and refers to nothing that has a value. -/
  verbatim : ∀ m, .escaped ∉ split (m.interpolate literal).toList →
    (∀ name ∈ references (m.interpolate literal), m.get? name = none) →
      (Operand.text toks i).run m = (Operand.value toks i).run m

theorem substitution_law {toks : TokenStream} {i : Nat} {literal : String}
    (written : (toks.peek (toks.skipAts i)).lexeme = .text literal) :
    SubstitutionLaw toks i literal := by
  have once := Operand.value_literal written
  have twice := Operand.text_literal written
  refine ⟨once, twice, ?value, ?text, fun value? => interpolate_twice_iff value? literal, ?verbatim⟩
  case value =>
    intro m other agrees
    have same : m.interpolate literal = other.interpolate literal := interpolate_congr agrees
    rw [once, once, same]
  case text =>
    intro m other agrees further
    have same : m.interpolate literal = other.interpolate literal := interpolate_congr agrees
    have again : m.interpolate (m.interpolate literal) = other.interpolate (m.interpolate literal) :=
      interpolate_congr further
    rw [twice, twice, again, same]
  case verbatim =>
    intro m unescaped unknown
    have still : m.interpolate (m.interpolate literal) = m.interpolate literal :=
      interpolate_eq_self unescaped unknown
    rw [twice, once, still]

/-- A script that prints a text and answers with it. -/
def greeting : String :=
  "print \"\\$Secret is $RequestBody\"\nreply with \"\\$Secret is $RequestBody\""

/-- The text in it. -/
def greetingText : String := "\\$Secret is $RequestBody"

/-- A request whose body looks like a reference, and a variable that the script does not refer to. -/
def requested (secret : String) : Machine :=
  .start { globals := .ofList [("RequestBody", "$Secret"), ("Secret", secret)] }

theorem greeting_literal : ((scan greeting).peek ((scan greeting).skipAts 4)).lexeme =
    .text greetingText := by
  have scanned : ((scan greeting).peek ((scan greeting).skipAts 4)).kind = .text ∧
      ((scan greeting).peek ((scan greeting).skipAts 4)).content = greetingText := by
    decide +kernel
  exact (Token.lexeme_of_text scanned.1).trans (congrArg Lexeme.text scanned.2)

theorem substitution_law_greeting :
    ((scan greeting).peek ((scan greeting).skipAts 4)).lexeme = .text greetingText ∧
      SubstitutionLaw (scan greeting) 4 greetingText :=
  ⟨greeting_literal, substitution_law greeting_literal⟩

/-- The text refers to the body of the request and to nothing else. -/
example : references greetingText = ["RequestBody"] := by decide +kernel

/-- What the verb answers with is not decided by the variables that the text refers to: the body of
the request is read as a reference, and so is the dollar that was escaped. -/
theorem greeting_readsTwice :
    ¬ ∀ toks i literal, (TokenStream.peek toks (toks.skipAts i)).lexeme = .text literal →
      ∀ m other, Agree m other literal →
        ((Operand.text toks i).run m).1 = ((Operand.text toks i).run other).1 := by
  intro claim
  have agrees : Agree (requested "1") (requested "2") greetingText := by decide +kernel
  have first : ∀ secret ∈ ["1", "2"],
      ((requested secret).interpolate greetingText).toList = "$Secret is $Secret".toList := by
    simp only [Machine.interpolate, toList_interpolate]
    decide +kernel
  have second : ∀ secret ∈ ["1", "2"], ((requested secret).interpolate "$Secret is $Secret").toList =
      (secret ++ " is " ++ secret).toList := by
    simp only [Machine.interpolate, toList_interpolate]
    decide +kernel
  have answers : ∀ secret ∈ ["1", "2"],
      ((Operand.text (scan greeting) 4).run (requested secret)).1.1 = secret ++ " is " ++ secret := by
    intro secret member
    rw [Operand.text_literal greeting_literal, String.toList_inj.mp (first secret member)]
    exact String.toList_inj.mp (second secret member)
  have same := claim (scan greeting) 4 greetingText greeting_literal _ _ agrees
  have texts := congrArg Prod.fst same
  rw [answers "1" (by decide), answers "2" (by decide)] at texts
  exact absurd texts (by decide)

end BigScript
