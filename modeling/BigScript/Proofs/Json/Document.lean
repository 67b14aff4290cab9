import BigScript.Proofs.Json.Grammar
import Mathlib.Order.Defs.LinearOrder
import Mathlib.Data.String.Basic

/-!
# Documents that have been read

What the reader answers with is not any document: its numbers are numbers by the grammar, and it nests
no deeper than the reader allows.  This is `Legible`.  Putting a document in order keeps it legible,
and what is in order already stays as it is.

Both are inductive in the document, so that what holds of all legible documents is proved along the
way in which they are legible.
-/

namespace BigScript
namespace Json

/-- Whether a document may stand at a depth of nesting, and its numbers are numbers. -/
inductive Legible : Nat → Json → Prop where
  | null (depth : Nat) : Legible depth .null
  | bool (depth : Nat) (value : Bool) : Legible depth (.bool value)
  | number (depth : Nat) {written : String} (isNumber : IsNumber written.toList) :
      Legible depth (.number written)
  | string (depth : Nat) (value : String) : Legible depth (.string value)
  | array {depth : Nat} {items : List Json} (room : depth < deepest)
      (inner : ∀ item ∈ items, Legible (depth + 1) item) : Legible depth (.array items)
  | object {depth : Nat} {fields : List (String × Json)} (room : depth < deepest)
      (inner : ∀ field ∈ fields, Legible (depth + 1) field.2) : Legible depth (.object fields)

/-- Fields in the order of their names, each name once. -/
def Sorted (fields : List (String × Json)) : Prop := fields.Pairwise fun one other => one.1 < other.1

/-- Whether the fields of every object of a document are in order. -/
inductive InOrder : Json → Prop where
  | null : InOrder .null
  | bool (value : Bool) : InOrder (.bool value)
  | number (written : String) : InOrder (.number written)
  | string (value : String) : InOrder (.string value)
  | array {items : List Json} (inner : ∀ item ∈ items, InOrder item) : InOrder (.array items)
  | object {fields : List (String × Json)} (sorted : Sorted fields)
      (inner : ∀ field ∈ fields, InOrder field.2) : InOrder (.object fields)

/-! ## What is read is legible -/

/-- What the reader answers with under a bound on its steps is legible, if what it has read so far
is. -/
structure ReadsLegible (steps : Nat) : Prop where
  value : ∀ {depth cs document rest}, readValue? steps depth cs = some (document, rest) →
    Legible depth document
  object : ∀ {depth cs document rest}, depth < deepest →
    readObject? steps (depth + 1) cs = some (document, rest) → Legible depth document
  fields : ∀ {depth done cs document rest}, depth < deepest →
    (∀ field ∈ done, Legible (depth + 1) field.2) →
      readFields? steps (depth + 1) done cs = some (document, rest) → Legible depth document
  array : ∀ {depth cs document rest}, depth < deepest →
    readArray? steps (depth + 1) cs = some (document, rest) → Legible depth document
  items : ∀ {depth done cs document rest}, depth < deepest →
    (∀ item ∈ done, Legible (depth + 1) item) →
      readItems? steps (depth + 1) done cs = some (document, rest) → Legible depth document

theorem legible_of_readWord? {depth : Nat} {word : String} {known document : Json}
    {cs rest : List Char} (legible : Legible depth known)
    (read : readWord? word known cs = some (document, rest)) : Legible depth document := by
  rcases Option.map_eq_some_iff.mp read with ⟨behind, -, same⟩
  cases same
  exact legible

theorem readsLegible (steps : Nat) : ReadsLegible steps := by
  induction steps with
  | zero =>
    constructor
    all_goals
      intros
      rename_i read
      simp only [readValue?, readObject?, readFields?, readArray?, readItems?, reduceCtorEq] at read
  | succ steps ih =>
    refine ⟨?value, ?object, ?fields, ?array, ?items⟩
    case value =>
      intro depth cs document rest read
      rw [readValue?] at read
      split at read
      · split at read
        · rename_i room
          exact ih.object room read
        · cases read
      · split at read
        · rename_i room
          exact ih.array room read
        · cases read
      · rcases Option.map_eq_some_iff.mp read with ⟨⟨text, behind⟩, -, same⟩
        cases same
        exact .string depth _
      · exact legible_of_readWord? (.bool depth true) read
      · exact legible_of_readWord? (.bool depth false) read
      · exact legible_of_readWord? (.null depth) read
      · rcases Option.map_eq_some_iff.mp read with ⟨⟨number, behind⟩, found, same⟩
        cases same
        refine .number depth ?_
        rw [String.toList_ofList]
        exact isNumber_of_readNumber? found
    case object =>
      intro depth cs document rest room read
      rw [readObject?] at read
      split at read
      · cases read
        exact .object room fun _ member => absurd member List.not_mem_nil
      · exact ih.fields room (fun _ member => absurd member List.not_mem_nil) read
    case fields =>
      intro depth done cs document rest room legible read
      rw [readFields?] at read
      split at read
      · rcases Option.bind_eq_some_iff.mp read with ⟨⟨name, behind⟩, -, read⟩
        dsimp only at read
        split at read
        · rcases Option.bind_eq_some_iff.mp read with ⟨⟨value, behind⟩, found, read⟩
          dsimp only at read
          have all : ∀ field ∈ (String.ofList name, value) :: done, Legible (depth + 1) field.2 :=
            List.forall_mem_cons.mpr ⟨ih.value found, legible⟩
          split at read
          · exact ih.fields room all read
          · cases read
            exact .object room fun field member => all field (List.mem_reverse.mp member)
          · cases read
        · cases read
      · cases read
    case array =>
      intro depth cs document rest room read
      rw [readArray?] at read
      split at read
      · cases read
        exact .array room fun _ member => absurd member List.not_mem_nil
      · exact ih.items room (fun _ member => absurd member List.not_mem_nil) read
    case items =>
      intro depth done cs document rest room legible read
      rw [readItems?] at read
      rcases Option.bind_eq_some_iff.mp read with ⟨⟨item, behind⟩, found, read⟩
      dsimp only at read
      have all : ∀ other ∈ item :: done, Legible (depth + 1) other :=
        List.forall_mem_cons.mpr ⟨ih.value found, legible⟩
      split at read
      · exact ih.items room all read
      · cases read
        exact .array room fun other member => all other (List.mem_reverse.mp member)
      · cases read

/-! ## Putting fields among others -/

theorem mem_putField {name : String} {value : Json} {fields : List (String × Json)}
    {field : String × Json} (member : field ∈ putField name value fields) :
    field = (name, value) ∨ field ∈ fields := by
  induction fields with
  | nil => exact .inl (List.mem_singleton.mp member)
  | cons other rest ih =>
    rcases other with ⟨key, v⟩
    rw [putField] at member
    split at member
    · exact (List.mem_cons.mp member).imp_right (List.mem_cons_of_mem _)
    · split at member
      · exact List.mem_cons.mp member
      · rcases List.mem_cons.mp member with rfl | member
        · exact .inr List.mem_cons_self
        · exact (ih member).imp_right (List.mem_cons_of_mem _)

theorem putField_sorted {fields : List (String × Json)} (sorted : Sorted fields) (name : String)
    (value : Json) : Sorted (putField name value fields) := by
  induction fields with
  | nil => exact List.pairwise_singleton _ _
  | cons other rest ih =>
    rcases other with ⟨key, v⟩
    rcases List.pairwise_cons.mp sorted with ⟨least, others⟩
    rw [putField]
    split
    · rename_i same
      obtain rfl := eq_of_beq same
      exact List.pairwise_cons.mpr ⟨least, others⟩
    · rename_i apart
      split
      · rename_i less
        refine List.pairwise_cons.mpr ⟨fun field member => ?_, sorted⟩
        rcases List.mem_cons.mp member with rfl | member
        · exact less
        · exact lt_trans less (least field member)
      · rename_i notLess
        refine List.pairwise_cons.mpr ⟨fun field member => ?_, ih others⟩
        rcases mem_putField member with rfl | member
        · have other : name ≠ key := fun same => apart (beq_iff_eq.mpr same)
          exact lt_of_le_of_ne (not_lt.mp notLess) other.symm
        · exact least field member

/-- A field behind all others is put at the end. -/
theorem putField_last {fields : List (String × Json)} {name : String} (value : Json)
    (behind : ∀ field ∈ fields, field.1 < name) :
    putField name value fields = fields ++ [(name, value)] := by
  induction fields with
  | nil => rfl
  | cons other rest ih =>
    rcases other with ⟨key, v⟩
    have less : key < name := behind (key, v) List.mem_cons_self
    rw [putField, if_neg, if_neg (lt_asymm less), ih fun field member =>
      behind field (List.mem_cons_of_mem _ member)]
    · rfl
    · exact fun same => lt_irrefl key (eq_of_beq same ▸ less)

/-! ## Putting a document in order -/

theorem mem_orderedItems {items : List Json} {item : Json} (member : item ∈ orderedItems items) :
    ∃ before ∈ items, item = ordered before := by
  induction items with
  | nil => exact absurd member List.not_mem_nil
  | cons first rest ih =>
    rw [orderedItems] at member
    rcases List.mem_cons.mp member with rfl | member
    · exact ⟨first, List.mem_cons_self, rfl⟩
    · exact (ih member).imp fun before found => ⟨List.mem_cons_of_mem _ found.1, found.2⟩

theorem mem_orderedFields {fields done : List (String × Json)} {field : String × Json}
    (member : field ∈ orderedFields done fields) :
    field ∈ done ∨ ∃ before ∈ fields, field = (before.1, ordered before.2) := by
  induction fields generalizing done with
  | nil => exact .inl member
  | cons first rest ih =>
    rcases first with ⟨name, value⟩
    rw [orderedFields] at member
    rcases ih member with put | ⟨before, there, same⟩
    · rcases mem_putField put with rfl | early
      · exact .inr ⟨(name, value), List.mem_cons_self, rfl⟩
      · exact .inl early
    · exact .inr ⟨before, List.mem_cons_of_mem _ there, same⟩

theorem orderedFields_sorted {done : List (String × Json)} (sorted : Sorted done)
    (fields : List (String × Json)) : Sorted (orderedFields done fields) := by
  induction fields generalizing done with
  | nil => exact sorted
  | cons first rest ih =>
    rcases first with ⟨name, value⟩
    exact ih (putField_sorted sorted name (ordered value))

/-- Putting a document in order keeps it legible. -/
theorem Legible.ordered {depth : Nat} {document : Json} (legible : Legible depth document) :
    Legible depth document.ordered ∧ InOrder document.ordered := by
  induction legible with
  | null depth => exact ⟨.null depth, .null⟩
  | bool depth value => exact ⟨.bool depth value, .bool value⟩
  | number depth isNumber => exact ⟨.number depth isNumber, .number _⟩
  | string depth value => exact ⟨.string depth value, .string value⟩
  | array room inner ih =>
    rw [Json.ordered]
    refine ⟨.array room fun item member => ?_, .array fun item member => ?_⟩
    · rcases mem_orderedItems member with ⟨before, there, rfl⟩
      exact (ih before there).1
    · rcases mem_orderedItems member with ⟨before, there, rfl⟩
      exact (ih before there).2
  | object room inner ih =>
    rw [Json.ordered]
    have source {field : String × Json} {fields : List (String × Json)}
        (member : field ∈ orderedFields [] fields) :
        ∃ before ∈ fields, field = (before.1, Json.ordered before.2) :=
      (mem_orderedFields member).resolve_left List.not_mem_nil
    refine ⟨.object room fun field member => ?_,
      .object (orderedFields_sorted .nil _) fun field member => ?_⟩
    · rcases source member with ⟨before, there, rfl⟩
      exact (ih before there).1
    · rcases source member with ⟨before, there, rfl⟩
      exact (ih before there).2

theorem orderedItems_eq_self {items : List Json} (same : ∀ item ∈ items, ordered item = item) :
    orderedItems items = items := by
  induction items with
  | nil => rfl
  | cons first rest ih =>
    rw [orderedItems, same first List.mem_cons_self, ih fun item member =>
      same item (List.mem_cons_of_mem _ member)]

theorem orderedFields_eq_append {done fields : List (String × Json)} (sorted : Sorted (done ++ fields))
    (same : ∀ field ∈ fields, ordered field.2 = field.2) :
    orderedFields done fields = done ++ fields := by
  induction fields generalizing done with
  | nil => exact (List.append_nil done).symm
  | cons first rest ih =>
    rcases first with ⟨name, value⟩
    have behind : ∀ field ∈ done, field.1 < name := fun field member =>
      (List.pairwise_append.mp sorted).2.2 field member (name, value) List.mem_cons_self
    have kept : ordered value = value := same (name, value) List.mem_cons_self
    rw [orderedFields, kept, putField_last value behind]
    rw [ih (by rwa [List.append_assoc]) fun field member => same field (List.mem_cons_of_mem _ member),
      List.append_assoc]
    rfl

/-- A document in order stays as it is. -/
theorem InOrder.ordered {document : Json} (inOrder : InOrder document) :
    document.ordered = document := by
  induction inOrder with
  | null | bool | number | string => rfl
  | array inner ih => rw [Json.ordered, orderedItems_eq_self ih]
  | @object fields sorted inner ih =>
    have sorted : Sorted ([] ++ fields) := sorted
    rw [Json.ordered, orderedFields_eq_append sorted ih, List.nil_append]

end Json
end BigScript
