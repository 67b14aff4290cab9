import BigScript.Markup.Selector
import Mathlib.Data.List.Chain
import Mathlib.Data.List.Induction
import Mathlib.Data.List.Infix

/-!
# The element that a selector names

A page may hold the same element twice, so an element is told by its place: which of the outermost
nodes it is in, which of the nodes in that one, and so on.  The elements around it stand at the
beginnings of its place, and the places of a page come in lexicographic order.

`Names` says what it means that a selector names the element at a place: every step has an element of
its own, and these lie within each other.  It chooses the elements freely.  The search goes outward
from the element and tries each one that fits, with it and without it; `holdsAround_iff` says that it
succeeds exactly if there is a choice.  `search_law` puts the walk through the page on top of this: what
is found is the first element that the selector names.
-/

namespace BigScript
namespace Markup

/-! ## Places -/

/-- Where a node stands in a page, or in another node. -/
abbrev Place := List Nat

/-- What comes earlier in a page: an element comes before all that is in it, and this before the node
behind the element. -/
def Before (place other : Place) : Prop := List.Lex (· < ·) place other

theorem before_asymm {place other : Place} (earlier : Before place other) : ¬ Before other place := by
  intro later
  induction earlier with
  | nil => cases later
  | cons _ ih =>
    cases later with
    | cons later => exact ih later
    | rel less => exact absurd less (Nat.lt_irrefl _)
  | rel less =>
    cases later with
    | cons => exact absurd less (Nat.lt_irrefl _)
    | rel more => exact absurd more (Nat.lt_asymm less)

/-- Whether what stands at one place is around what stands at another. -/
def Inside (inner outer : Place) : Prop := outer <+: inner ∧ outer ≠ inner

namespace Node

/-- The nodes in a node. -/
def children : Node → List Node
  | .element _ _ children => children
  | _ => []

/-- An element without what it contains. -/
def frame? : Node → Option Frame
  | .element name attributes _ => some ⟨name, attributes⟩
  | _ => none

/-- The node at a place in a node. -/
def at? (node : Node) : Place → Option Node
  | [] => some node
  | k :: place => node.children[k]?.bind fun child => child.at? place

/-- The elements that lead from a node to a place in it, the innermost first. -/
def framesTo (node : Node) : Place → List Frame
  | [] => []
  | k :: place => (node.children[k]?.elim [] fun child => child.framesTo place) ++ node.frame?.toList

variable {node child : Node} {k : Nat}

theorem at?_append (node : Node) (outer inner : Place) :
    node.at? (outer ++ inner) = (node.at? outer).bind fun middle => middle.at? inner := by
  induction outer generalizing node with
  | nil => rfl
  | cons k outer ih =>
    rw [List.cons_append, at?, at?]
    cases node.children[k]? with
    | none => rfl
    | some child => exact ih child

/-- Only elements contain nodes. -/
theorem frame?_of_child (there : node.children[k]? = some child) :
    ∃ frame, node.frame? = some frame := by
  cases node with
  | text | comment => cases there
  | element name attributes children => exact ⟨_, rfl⟩

/-- The elements on the way to a node in an element: the element itself comes first. -/
theorem framesTo_snoc {frame : Frame} {middle : Node} {outer : Place} (led : node.at? outer = some middle)
    (framed : middle.frame? = some frame) (there : middle.children[k]? = some child) :
    node.framesTo (outer ++ [k]) = frame :: node.framesTo outer := by
  induction outer generalizing node with
  | nil =>
    cases led
    rw [List.nil_append, framesTo, framesTo, framed, there]
    rfl
  | cons j outer ih =>
    rw [at?] at led
    rcases Option.bind_eq_some_iff.mp led with ⟨next, found, led⟩
    rw [List.cons_append, framesTo, framesTo, found]
    dsimp only [Option.elim]
    rw [ih led, List.cons_append]

end Node

/-- The node at a place of a page. -/
def nodeAt? (page : List Node) : Place → Option Node
  | [] => none
  | k :: place => page[k]?.bind fun node => node.at? place

/-- The elements around a place of a page, the innermost first. -/
def framesAround (page : List Node) : Place → List Frame
  | [] => []
  | k :: place => page[k]?.elim [] fun node => node.framesTo place

variable {page : List Node} {place outer : Place} {node : Node} {k : Nat}

/-- A node of a page is an outermost one, or the element around it is in the page. -/
theorem nodeAt?_snoc (there : nodeAt? page (outer ++ [k]) = some node) :
    outer = [] ∧ framesAround page (outer ++ [k]) = [] ∨
      ∃ element frame, nodeAt? page outer = some element ∧ element.frame? = some frame ∧
        framesAround page (outer ++ [k]) = frame :: framesAround page outer := by
  cases outer with
  | nil =>
    refine .inl ⟨rfl, ?_⟩
    rw [List.nil_append, framesAround]
    cases page[k]? <;> rfl
  | cons j outer =>
    rw [List.cons_append, nodeAt?] at there
    rcases Option.bind_eq_some_iff.mp there with ⟨first, found, led⟩
    rw [Node.at?_append] at led
    rcases Option.bind_eq_some_iff.mp led with ⟨middle, led, last⟩
    rw [Node.at?] at last
    rcases Option.bind_eq_some_iff.mp last with ⟨child, inside, -⟩
    rcases Node.frame?_of_child inside with ⟨frame, framed⟩
    refine .inr ⟨middle, frame, ?_, framed, ?_⟩
    · rw [nodeAt?, found]
      exact led
    · rw [List.cons_append, framesAround, framesAround, found]
      exact Node.framesTo_snoc led framed inside

/-! ## What steps ask for -/

/-- Whether an element is what a step asks for.  An empty tag, an asterisk and an empty id ask for
nothing; of classes all have to be there, and of attributes too, each with the value asked for. -/
structure Step.Fits (step : Step) (frame : Frame) : Prop where
  tag : step.tag = "" ∨ step.tag = "*" ∨ step.tag = frame.name
  id : step.id = "" ∨ (frame.attributes.lookup "id").getD "" = step.id
  classes : ∀ asked ∈ step.classes,
    asked ∈ Text.fields ((frame.attributes.lookup "class").getD "")
  attributes : ∀ test ∈ step.attributes, ∃ found, frame.attributes.lookup test.name = some found ∧
    ∀ value, test.value = some value → found = value

theorem AttributeTest.passes_iff (test : AttributeTest) (attributes : Attributes) :
    (match attributes.lookup test.name with
      | none => false
      | some found => test.value.all (· == found)) = true ↔
    ∃ found, attributes.lookup test.name = some found ∧
      ∀ value, test.value = some value → found = value := by
  cases attributes.lookup test.name with
  | none => simp
  | some found => cases test.value <;> simp [eq_comm (a := found)]

theorem Step.holds_iff (step : Step) (frame : Frame) :
    step.holds frame.name frame.attributes = true ↔ step.Fits frame := by
  simp only [Step.holds, Bool.and_eq_true, Bool.or_eq_true, String.isEmpty_iff, beq_iff_eq,
    List.all_eq_true, List.contains_iff_mem, or_assoc]
  constructor
  · rintro ⟨⟨⟨tag, id⟩, classes⟩, attributes⟩
    exact ⟨tag, id, classes, fun test member => (test.passes_iff _).mp (attributes test member)⟩
  · rintro ⟨tag, id, classes, attributes⟩
    exact ⟨⟨⟨tag, id⟩, classes⟩, fun test member => (test.passes_iff _).mpr (attributes test member)⟩

/-- Whether an element that a step asks for stands at a place. -/
def FitsAt (page : List Node) (step : Step) (place : Place) : Prop :=
  ∃ node frame, nodeAt? page place = some node ∧ node.frame? = some frame ∧ step.Fits frame

/-- Whether a selector names the element at a place: the element fits the last step, and for the steps
before it, going backwards, there are elements that fit them, each around the one before. -/
def Names (page : List Node) (selector : Selector) (place : Place) : Prop :=
  ∃ around : List Place, List.Forall₂ (FitsAt page) selector (place :: around) ∧
    List.IsChain Inside (place :: around)

/-! ## Looking outward -/

theorem inside_snoc {other : Place} :
    Inside (outer ++ [k]) other ↔ other = outer ∨ Inside outer other := by
  unfold Inside
  rw [List.prefix_concat_iff]
  constructor
  · rintro ⟨rfl | within, apart⟩
    · exact absurd rfl apart
    · by_cases same : other = outer
      · exact .inl same
      · exact .inr ⟨within, same⟩
  · have shorter {first : Place} (within : first <+: outer) : first ≠ outer ++ [k] := by
      intro same
      have length := within.length_le
      rw [same, List.length_append] at length
      exact absurd length (Nat.not_succ_le_self _)
    rintro (rfl | ⟨within, -⟩)
    · exact ⟨.inr (List.prefix_refl other), shorter (List.prefix_refl other)⟩
    · exact ⟨.inr within, shorter within⟩

/-- The search outward from a node finds elements for some steps exactly if some can be chosen that lie
around the node and around each other. -/
theorem holdsAround_iff (steps : Selector) (there : nodeAt? page place = some node) :
    Selector.holdsAround steps (framesAround page place) = true ↔
      ∃ around : List Place, List.Forall₂ (FitsAt page) steps around ∧
        List.IsChain Inside (place :: around) := by
  induction place using List.reverseRecOn generalizing node steps with
  | nil => cases there
  | append_singleton outer k ih =>
    cases steps with
    | nil =>
      rw [Selector.holdsAround]
      exact iff_of_true rfl ⟨[], .nil, .singleton _⟩
    | cons step steps =>
      rcases nodeAt?_snoc there with ⟨rfl, none⟩ | ⟨element, frame, found, framed, frames⟩
      · rw [none, Selector.holdsAround]
        refine iff_of_false Bool.false_ne_true ?_
        rintro ⟨_, fits, chain⟩
        cases fits with
        | cons first rest =>
          rcases first with ⟨_, _, found, -⟩
          rcases inside_snoc.mp (List.isChain_cons_cons.mp chain).1 with rfl | ⟨within, apart⟩
          · cases found
          · exact apart (List.prefix_nil.mp within)
      · rw [frames, Selector.holdsAround, Bool.or_eq_true, Bool.and_eq_true, Step.holds_iff,
          ih steps found, ih (step :: steps) found]
        constructor
        · rintro (⟨fits, around, others, chain⟩ | ⟨around, others, chain⟩)
          · exact ⟨outer :: around, .cons ⟨element, frame, found, framed, fits⟩ others,
              .cons_cons (inside_snoc.mpr (.inl rfl)) chain⟩
          · cases others with
            | cons first rest =>
              rcases List.isChain_cons_cons.mp chain with ⟨within, chain⟩
              exact ⟨_, .cons first rest, .cons_cons (inside_snoc.mpr (.inr within)) chain⟩
        · rintro ⟨_, others, whole⟩
          cases others with
          | cons first rest =>
            rcases List.isChain_cons_cons.mp whole with ⟨within, chain⟩
            rcases inside_snoc.mp within with rfl | within
            · rcases first with ⟨same, other, here, frameHere, fits⟩
              cases found.symm.trans here
              cases framed.symm.trans frameHere
              exact .inl ⟨fits, _, rest, chain⟩
            · exact .inr ⟨_, .cons first rest, .cons_cons within chain⟩

/-! ## Walking through the page -/

section Walk

variable (last : Step) (others : Selector)

/-- Whether the search takes the node at a place in a node that lies within some elements. -/
def Node.Answers (around : List Frame) (node : Node) (place : Place) : Prop :=
  ∃ target frame, node.at? place = some target ∧ target.frame? = some frame ∧
    last.holds frame.name frame.attributes = true ∧
    Selector.holdsAround others (node.framesTo place ++ around) = true

/-- Whether the search takes the node at a place of some nodes that lie within some elements. -/
def AnswersIn (around : List Frame) (nodes : List Node) : Place → Prop
  | [] => False
  | k :: place => ∃ node, nodes[k]? = some node ∧ node.Answers last others around place

/-- A node is found if it is the value of the first place of a kind, and none if there is no such
place. -/
def IsFirst (hit : Place → Prop) (value? : Place → Option Node) : Option Node → Prop
  | none => ∀ place, ¬ hit place
  | some node => ∃ place, value? place = some node ∧ hit place ∧
      ∀ other, hit other → other ≠ place → Before place other

namespace IsFirst

variable {hit : Place → Prop} {value? : Place → Option Node} {found : Option Node}

theorem eq_none_iff (first : IsFirst hit value? found) : found = none ↔ ∀ place, ¬ hit place := by
  cases found with
  | none => exact iff_of_true rfl first
  | some node =>
    rcases first with ⟨place, -, taken, -⟩
    exact iff_of_false nofun fun none => none place taken

/-- There is only one first place, so that its value is determined. -/
theorem eq_some_iff (first : IsFirst hit value? found) (node : Node) :
    found = some node ↔ ∃ place, value? place = some node ∧ hit place ∧
      ∀ other, hit other → other ≠ place → Before place other := by
  cases found with
  | none =>
    refine iff_of_false nofun ?_
    rintro ⟨place, -, taken, -⟩
    exact first place taken
  | some found =>
    constructor
    · intro same
      cases same
      exact first
    · rintro ⟨place, there, taken, least⟩
      rcases first with ⟨other, otherThere, otherTaken, otherLeast⟩
      by_cases same : other = place
      · subst same
        exact otherThere.symm.trans there
      · have earlier := otherLeast place taken (Ne.symm same)
        exact absurd earlier (before_asymm (least other otherTaken same))

end IsFirst

variable {last others} {around : List Frame}

/-- What is taken in an element is the element itself or something among its children. -/
theorem Node.answers_cons {name : String} {attributes : Attributes} {children : List Node} :
    (Node.element name attributes children).Answers last others around (k :: place) ↔
      AnswersIn last others (⟨name, attributes⟩ :: around) children (k :: place) := by
  unfold Answers AnswersIn
  constructor
  · rintro ⟨target, frame, found, framed, fits, enclosed⟩
    rw [at?] at found
    rcases Option.bind_eq_some_iff.mp found with ⟨child, there, found⟩
    rw [framesTo, there, List.append_assoc] at enclosed
    exact ⟨child, there, target, frame, found, framed, fits, enclosed⟩
  · rintro ⟨child, there, target, frame, found, framed, fits, enclosed⟩
    refine ⟨target, frame, ?_, framed, fits, ?_⟩
    · change children[k]?.bind _ = some target
      rw [there]
      exact found
    · change Selector.holdsAround others ((children[k]?.elim [] _ ++ [_]) ++ around) = true
      rw [there, List.append_assoc]
      exact enclosed

/-- Nothing is taken in what is no element. -/
theorem Node.not_answers (plain : node.frame? = none) :
    ¬ node.Answers last others around place := by
  rintro ⟨target, frame, found, framed, -⟩
  cases place with
  | nil =>
    cases found
    cases plain.symm.trans framed
  | cons k place =>
    rw [at?] at found
    rcases Option.bind_eq_some_iff.mp found with ⟨child, there, -⟩
    rcases frame?_of_child there with ⟨outside, element⟩
    cases plain.symm.trans element

theorem not_answersIn_nil : ¬ AnswersIn last others around [] place := by
  cases place with
  | nil => exact id
  | cons k place =>
    rintro ⟨node, there, -⟩
    cases there

/-- What is taken in some nodes is taken in the first one or in the others. -/
theorem answersIn_cons {rest : List Node} :
    AnswersIn last others around (node :: rest) place ↔
      (∃ inner, place = 0 :: inner ∧ node.Answers last others around inner) ∨
        ∃ k inner, place = (k + 1) :: inner ∧ AnswersIn last others around rest (k :: inner) := by
  cases place with
  | nil => simp [AnswersIn]
  | cons k place => cases k <;> simp [AnswersIn]

end Walk

namespace Selector

variable (last : Step) (others : Selector)

mutual

/-- What is found in a node is the first thing that is taken there. -/
theorem find?_isFirst (around : List Frame) : (node : Node) →
    IsFirst (node.Answers last others around) node.at? (find? (last :: others) around node)
  | .text _ => fun _ => Node.not_answers rfl
  | .comment _ => fun _ => Node.not_answers rfl
  | .element name attributes children => by
    rw [find?]
    split
    · next taken =>
      rw [Bool.and_eq_true] at taken
      refine ⟨[], rfl, ⟨_, ⟨name, attributes⟩, rfl, rfl, taken⟩, ?_⟩
      intro other _ apart
      cases other with
      | nil => exact absurd rfl apart
      | cons k other => exact .nil
    · next left =>
      have outside : ¬ (Node.element name attributes children).Answers last others around [] := by
        rintro ⟨_, _, found, framed, taken⟩
        cases found
        cases framed
        exact left (Bool.and_eq_true_iff.mpr taken)
      have first := findIn?_isFirst (⟨name, attributes⟩ :: around) children
      revert first
      cases findIn? (last :: others) (⟨name, attributes⟩ :: around) children with
      | none =>
        intro none place answers
        cases place with
        | nil => exact outside answers
        | cons k place => exact none _ (Node.answers_cons.mp answers)
      | some found =>
        rintro ⟨place, there, answers, least⟩
        cases place with
        | nil => cases there
        | cons k place =>
          refine ⟨k :: place, there, Node.answers_cons.mpr answers, ?_⟩
          intro other taken apart
          cases other with
          | nil => exact absurd taken outside
          | cons j other => exact least _ (Node.answers_cons.mp taken) apart

/-- What is found in some nodes is the first thing that is taken there. -/
theorem findIn?_isFirst (around : List Frame) : (nodes : List Node) →
    IsFirst (AnswersIn last others around nodes) (nodeAt? nodes)
      (findIn? (last :: others) around nodes)
  | [] => fun _ => not_answersIn_nil
  | node :: rest => by
    rw [findIn?]
    have first := find?_isFirst around node
    revert first
    cases find? (last :: others) around node with
    | some found =>
      rintro ⟨place, there, answers, least⟩
      refine ⟨0 :: place, there, answersIn_cons.mpr (.inl ⟨place, rfl, answers⟩), ?_⟩
      intro other hit apart
      rcases answersIn_cons.mp hit with ⟨inner, rfl, taken⟩ | ⟨k, inner, rfl, -⟩
      · exact .cons (least inner taken fun same => apart (same ▸ rfl))
      · exact .rel (Nat.succ_pos k)
    | none =>
      intro none
      dsimp only
      have later := findIn?_isFirst around rest
      revert later
      cases findIn? (last :: others) around rest with
      | none =>
        intro noneLater place answers
        rcases answersIn_cons.mp answers with ⟨inner, -, answers⟩ | ⟨k, inner, -, answers⟩
        · exact none inner answers
        · exact noneLater _ answers
      | some found =>
        rintro ⟨place, there, answers, least⟩
        cases place with
        | nil => cases there
        | cons k place =>
          refine ⟨(k + 1) :: place, there, answersIn_cons.mpr (.inr ⟨k, place, rfl, answers⟩), ?_⟩
          intro other hit apart
          rcases answersIn_cons.mp hit with ⟨inner, -, taken⟩ | ⟨j, inner, rfl, taken⟩
          · exact absurd taken (none inner)
          · cases least _ taken fun same => apart (by cases same; rfl) with
            | cons within => exact .cons within
            | rel less => exact .rel (Nat.succ_lt_succ less)

end

/-- A selector without steps finds nothing. -/
theorem findIn?_nil (around : List Frame) (nodes : List Node) : findIn? [] around nodes = none := by
  induction nodes with
  | nil => rw [findIn?]
  | cons node rest ih =>
    have nothing : find? [] around node = none := by cases node <;> rw [find?]
    rw [findIn?, nothing]
    exact ih

end Selector

/-- The search takes what the selector names. -/
theorem answersIn_iff (last : Step) (others : Selector) (page : List Node) (place : Place) :
    AnswersIn last others [] page place ↔ Names page (last :: others) place := by
  have parts : AnswersIn last others [] page place ↔ FitsAt page last place ∧
      Selector.holdsAround others (framesAround page place) = true := by
    cases place with
    | nil =>
      refine iff_of_false id ?_
      rintro ⟨⟨_, _, none, -⟩, -⟩
      cases none
    | cons k place =>
      rw [AnswersIn, FitsAt, nodeAt?, framesAround]
      cases page[k]? with
      | none =>
        refine iff_of_false ?_ ?_
        · rintro ⟨_, none, -⟩
          cases none
        · rintro ⟨⟨_, _, none, -⟩, -⟩
          cases none
      | some node =>
        constructor
        · rintro ⟨_, same, target, frame, found, framed, fits, enclosed⟩
          cases same
          rw [List.append_nil] at enclosed
          exact ⟨⟨target, frame, found, framed, (last.holds_iff frame).mp fits⟩, enclosed⟩
        · rintro ⟨⟨target, frame, found, framed, fits⟩, enclosed⟩
          refine ⟨node, rfl, target, frame, found, framed, (last.holds_iff frame).mpr fits, ?_⟩
          rwa [List.append_nil]
  rw [parts, Names]
  constructor
  · rintro ⟨fits, enclosed⟩
    rcases id fits with ⟨node, -, there, -⟩
    rcases (holdsAround_iff others there).mp enclosed with ⟨around, rest, chain⟩
    exact ⟨around, .cons fits rest, chain⟩
  · rintro ⟨around, fits, chain⟩
    cases fits with
    | cons fits rest =>
      rcases id fits with ⟨node, -, there, -⟩
      exact ⟨fits, (holdsAround_iff others there).mpr ⟨around, rest, chain⟩⟩

/-- What a selector finds in a page. -/
structure SearchLaw (page : List Node) (selector : Selector) : Prop where
  /-- A node is found exactly if it is the first one that the selector names. -/
  found : ∀ node, selector.findIn? [] page = some node ↔
    ∃ place, nodeAt? page place = some node ∧ Names page selector place ∧
      ∀ other, Names page selector other → other ≠ place → Before place other
  /-- Nothing is found exactly if it names none. -/
  none : selector.findIn? [] page = none ↔ ∀ place, ¬ Names page selector place

theorem search_law (page : List Node) (selector : Selector) : SearchLaw page selector := by
  cases selector with
  | nil =>
    have nothing : Selector.findIn? [] [] page = none := Selector.findIn?_nil [] page
    have unnamed (place : Place) : ¬ Names page [] place := by
      rintro ⟨around, fits, -⟩
      cases fits
    constructor
    · intro node
      rw [nothing]
      refine iff_of_false nofun ?_
      rintro ⟨place, -, named, -⟩
      exact unnamed place named
    · exact iff_of_true nothing unnamed
  | cons last others =>
    have same : AnswersIn last others [] page = Names page (last :: others) :=
      funext fun place => propext (answersIn_iff last others page place)
    have first := Selector.findIn?_isFirst last others [] page
    rw [same] at first
    exact ⟨first.eq_some_iff, first.eq_none_iff⟩

end Markup
end BigScript
