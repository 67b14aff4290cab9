import BigScript.Proofs.Json.RoundTrip
import BigScript.Value
import Mathlib.Logic.Function.Basic

/-!
# What a map holds

A map is a text, and every change of it reads the whole text, changes its fields and writes all of
them again.  Seen from outside it is a function from names to documents: `held?` is that function, and
the three ways in which fields are changed are `Edit`s of it.

`rewrites` says that a text that was changed and written again holds what the edit makes of what the
text held before.  Whatever is held under another name, nested documents and the spelling of numbers
included, is among what stays the same.
-/

namespace BigScript
namespace Json

theorem field?_cons (key name : String) (value : Json) (rest : List (String × Json)) :
    field? key ((name, value) :: rest) = if key = name then some value else field? key rest := by
  rw [field?, List.lookup_cons]
  by_cases same : key = name
  · simp [same]
  · rw [beq_eq_false_iff_ne.mpr same, if_neg same]
    rfl

/-- In a map each field is found under its name. -/
theorem field?_of_mem {fields : List (String × Json)} (sorted : Sorted fields) {name : String}
    {value : Json} (member : (name, value) ∈ fields) : field? name fields = some value := by
  induction fields with
  | nil => cases member
  | cons first rest ih =>
      rcases first with ⟨other, found⟩
      rcases List.pairwise_cons.mp sorted with ⟨least, sorted⟩
      rw [field?_cons]
      rcases List.mem_cons.mp member with same | further
      · cases same
        rw [if_pos rfl]
      · rw [if_neg (ne_of_gt (least _ further)), ih sorted further]

theorem field?_putField (key name : String) (value : Json) (fields : List (String × Json)) :
    field? key (putField name value fields) =
      if key = name then some value else field? key fields := by
  induction fields with
  | nil => rw [putField, field?_cons]
  | cons first rest ih =>
      rcases first with ⟨other, found⟩
      rw [putField]
      split
      · next same =>
          rw [← eq_of_beq same, field?_cons, field?_cons]
          split <;> rfl
      · next apart =>
          split
          · rw [field?_cons]
          · rw [field?_cons, ih, field?_cons]
            by_cases first : key = other
            · have different : key ≠ name := fun same => apart (by simp [← same, first])
              simp [first, first ▸ different]
            · simp [first]

theorem field?_dropField (key name : String) (fields : List (String × Json)) :
    field? key (dropField name fields) = if key = name then none else field? key fields := by
  induction fields with
  | nil => split <;> rfl
  | cons first rest ih =>
      rcases first with ⟨other, found⟩
      rw [dropField] at ih ⊢
      by_cases same : other = name
      · rw [List.filter_cons_of_neg (by simp [same]), ih, field?_cons, same]
        split <;> rfl
      · rw [List.filter_cons_of_pos (by simp [same]), field?_cons, ih, field?_cons]
        split
        · next here => rw [if_neg (here ▸ same)]
        · rfl

theorem field?_eq_none {key : String} {fields : List (String × Json)}
    (absent : ∀ field ∈ fields, field.1 ≠ key) : field? key fields = none := by
  induction fields with
  | nil => rfl
  | cons first rest ih =>
      rcases first with ⟨other, found⟩
      rw [List.forall_mem_cons] at absent
      rw [field?_cons, if_neg absent.1.symm, ih absent.2]

theorem field?_mergeFields (key : String) (fields : List (String × Json))
    {others : List (String × Json)} (sorted : Sorted others) :
    field? key (mergeFields fields others) = (field? key others).or (field? key fields) := by
  induction others generalizing fields with
  | nil => rfl
  | cons first rest ih =>
      rcases first with ⟨name, value⟩
      rcases List.pairwise_cons.mp sorted with ⟨least, sorted⟩
      rw [mergeFields, List.foldl_cons]
      change field? key (mergeFields (putField name value fields) rest) = _
      rw [ih _ sorted, field?_putField, field?_cons]
      split
      · next same =>
          have absent : field? key rest = none :=
            field?_eq_none fun field member => by
              rw [same]
              exact ne_of_gt (least field member)
          rw [absent, Option.none_or, Option.some_or]
      · rfl

end Json

namespace Value

/-- What a text holds under each name, if it is a map. -/
def held? (raw : String) : Option (String → Option Json) :=
  (Json.readObjectText? raw).map fun fields name => Json.field? name fields

theorem held?_of_read {raw : String} {fields : List (String × Json)}
    (read : Json.readObjectText? raw = some fields) :
    held? raw = some fun name => Json.field? name fields := by
  rw [held?, read, Option.map_some]

theorem held?_eq_none {raw : String} : held? raw = none ↔ Json.readObjectText? raw = none :=
  Option.map_eq_none_iff

/-- A field of a map text is the text of what the map holds under its name. -/
theorem field?_eq (raw name : String) :
    field? raw name = (held? raw).bind fun held => (held name).map Json.render := by
  unfold field? held?
  cases Json.readObjectText? raw with
  | none => rfl
  | some fields =>
      change ((Json.field? name fields).bind fun value => some value.render) =
        (Json.field? name fields).map Json.render
      cases Json.field? name fields <;> rfl

end Value

/-- A change of what a map holds. -/
inductive Edit where
  /-- A name is given a string. -/
  | put (name text : String)
  /-- A name is taken out. -/
  | drop (name : String)
  /-- What another map holds is put in; what is no map changes nothing. -/
  | merge (others : Option (String → Option Json))

namespace Edit

/-- What is held after a change. -/
def apply : Edit → (String → Option Json) → String → Option Json
  | put name text, held => Function.update held name (some (.string text))
  | drop name, held => Function.update held name none
  | merge none, held => held
  | merge (some others), held => fun name => (others name).or (held name)

/-- Whether a change can touch what is held under a name. -/
def Touches : Edit → String → Prop
  | put name _, key => key = name
  | drop name, key => key = name
  | merge others, key => ∃ held, others = some held ∧ held key ≠ none

/-- What is held after one change after another. -/
def applyAll (edits : List Edit) (held : String → Option Json) : String → Option Json :=
  edits.foldl (fun held edit => edit.apply held) held

theorem applyAll_append (edits more : List Edit) (held : String → Option Json) :
    applyAll (edits ++ more) held = applyAll more (applyAll edits held) :=
  List.foldl_append

theorem apply_untouched {edit : Edit} {key : String} (apart : ¬ edit.Touches key)
    (held : String → Option Json) : edit.apply held key = held key := by
  cases edit with
  | put name text => exact Function.update_of_ne apart _ held
  | drop name => exact Function.update_of_ne apart _ held
  | merge others =>
      cases others with
      | none => rfl
      | some others =>
          have absent : others key = none := by
            by_contra found
            exact apart ⟨others, rfl, found⟩
          change (others key).or (held key) = held key
          rw [absent, Option.none_or]

/-- What no change touches stays as it is. -/
theorem applyAll_untouched {edits : List Edit} {key : String}
    (apart : ∀ edit ∈ edits, ¬ edit.Touches key) (held : String → Option Json) :
    applyAll edits held key = held key := by
  induction edits generalizing held with
  | nil => rfl
  | cons first rest ih =>
      rw [List.forall_mem_cons] at apart
      rw [applyAll, List.foldl_cons]
      exact (ih apart.2 _).trans (apply_untouched apart.1 held)

end Edit

namespace Value

/-- A map text whose fields were changed, and the edit that this is. -/
inductive Rewrites (fields : List (String × Json)) : Edit → List (String × Json) → Prop where
  | put (name text : String) : Rewrites fields (.put name text) (Json.putField name (.string text) fields)
  | drop (name : String) : Rewrites fields (.drop name) (Json.dropField name fields)
  | merge {source : String} {others : List (String × Json)}
      (read : Json.readObjectText? source = some others) :
      Rewrites fields (.merge (held? source)) (Json.mergeFields fields others)

theorem held?_write {fields : List (String × Json)} (settled : Json.SettledFields fields) :
    held? (Json.write (.object fields)) = some fun name => Json.field? name fields :=
  held?_of_read (Json.settledFields_iff.mp settled).readObjectText?

/-- A settled map stays settled when it is changed. -/
theorem Rewrites.settled {fields changed : List (String × Json)} {edit : Edit}
    (rewrites : Rewrites fields edit changed) (settled : Json.SettledFields fields) :
    Json.SettledFields changed := by
  cases rewrites with
  | put name text => exact settled.put name (.string 1 text) (.string text)
  | drop name => exact settled.drop name
  | merge other =>
      have further := Json.settledFields_iff.mpr (Json.settled_of_readObjectText? other)
      exact settled.merge further.legible further.inOrder

/-- A map that was read, changed and written again holds what the edit makes of what it held. -/
theorem Rewrites.held? {raw : String} {fields changed : List (String × Json)} {edit : Edit}
    (read : Json.readObjectText? raw = some fields) (rewrites : Rewrites fields edit changed) :
    Value.held? (Json.write (.object changed)) = (Value.held? raw).map edit.apply := by
  have settled : Json.SettledFields fields :=
    Json.settledFields_iff.mpr (Json.settled_of_readObjectText? read)
  rw [held?_of_read read, Option.map_some, held?_write (rewrites.settled settled)]
  congr 1
  funext key
  cases rewrites with
  | put name text => rw [Json.field?_putField, Edit.apply, Function.update_apply]
  | drop name => rw [Json.field?_dropField, Edit.apply, Function.update_apply]
  | @merge source others other =>
      have further : Json.SettledFields others :=
        Json.settledFields_iff.mpr (Json.settled_of_readObjectText? other)
      rw [held?_of_read other, Json.field?_mergeFields key fields further.sorted, Edit.apply]

end Value
end BigScript
