import BigScript.Proofs.MapStatement

/-!
# Statements on lists

A list is changed by `list add`, `list remove`, `list cut`, `list sort` and `list insert`.  Each of
these reads its operands first and the list behind them, changes the items and writes the whole list
again; a text that is no list is left alone.  `ListEdit` is a change of the items, `EditsList` says
which change a statement is, and `EditsList.relists` that it is this change and no more.

A position stands behind an at sign and is read as a text, with its references replaced once more than
those of an item.  What the position means is left open here.
-/

namespace BigScript

open Machine Statement

/-! ## Changes of lists -/

/-- A change of the items of a list. -/
inductive ListEdit where
  /-- An item is put at the end. -/
  | add (item : String)
  /-- The items that are a text are taken out. -/
  | remove (item : String)
  /-- The item at a position is taken out. -/
  | cut (position : String)
  /-- The items are put in the order of their texts. -/
  | sort
  /-- An item is put in front of the one at a position. -/
  | insert (item position : String)

namespace ListEdit

/-- The items after a change. -/
def apply : ListEdit → List Json → List Json
  | add item, items => items ++ [.string item]
  | remove item, items => items.filter fun element => !Verb.isText item element
  | cut position, items => Verb.cutAt (Value.index position) items
  | sort, items => Verb.sorted items
  | insert item position, items => Verb.insertAt (Value.index position) (.string item) items

/-- A change brings nothing new into a list but strings. -/
theorem among (edit : ListEdit) {items : List Json} {item : Json} (member : item ∈ edit.apply items) :
    item ∈ items ∨ ∃ text, item = .string text := by
  cases edit with
  | add text =>
      exact (List.mem_append.mp member).imp_right fun last => ⟨text, List.mem_singleton.mp last⟩
  | remove text => exact .inl (List.mem_of_mem_filter member)
  | cut position => exact .inl (List.mem_of_mem_eraseIdx member)
  | sort => exact .inl (List.mem_mergeSort.mp member)
  | insert text position =>
      rcases List.mem_append.mp member with before | behind
      · exact .inl (List.mem_of_mem_take before)
      · rcases List.mem_cons.mp behind with same | behind
        · exact .inr ⟨text, same⟩
        · exact .inl (List.mem_of_mem_drop behind)

/-- A list that was read, changed and written is read back. -/
theorem readArrayText?_write (edit : ListEdit) {raw : String} {items : List Json}
    (read : Json.readArrayText? raw = some items) :
    Json.readArrayText? (Json.write (.array (edit.apply items))) = some (edit.apply items) :=
  (Json.settled_of_items (Json.settled_of_readArrayText? read) fun _ => edit.among).readArrayText?

end ListEdit

namespace Machine

variable {name : String} {m before after : Machine} {change : List Json → List Json}

/-- Changes the items of the list in a variable; a value that is no list stays as it is. -/
def relist (name : String) (change : List Json → List Json) (m : Machine) : Machine :=
  match Json.readArrayText? (m.getD name "[]") with
  | some items => m.assign name (Json.write (.array (change items)))
  | none => m

/-- A variable holds a list with the given items. -/
def HoldsList (m : Machine) (name : String) (items : List Json) : Prop :=
  ∃ raw, m.get? name = some raw ∧ Json.readArrayText? raw = some items

/-- The list in a variable was changed.  A variable without a value counts as an empty list; a value
that is no list stays as it is, and so do the other variables but the one for bugs. -/
structure Relists (name : String) (edit : ListEdit) (before after : Machine) : Prop where
  list : ∀ items, Json.readArrayText? (before.getD name "[]") = some items →
    after.HoldsList name (edit.apply items)
  rejected : Json.readArrayText? (before.getD name "[]") = none → after.get? name = before.get? name
  others : ∀ other, other ≠ name → other ≠ "BugType" →
    after.globals.valueOf? other = before.globals.valueOf? other

section Behind

variable {read : Machine} (plain : Plain name) (shown : m.isHidden name = false)
  (unbound : Unbound m read) (kept : read.get? name = m.get? name)
include plain shown unbound kept

/-- The list is read and written behind a computation. -/
theorem get?_relist {items : List Json} (held : Json.readArrayText? (m.getD name "[]") = some items) :
    (read.relist name change).get? name = some (Json.write (.array (change items))) := by
  have value : read.getD name "[]" = m.getD name "[]" := by rw [getD, kept, ← getD]
  have shown : read.isHidden name = false := by rwa [isHidden, unbound.locals, ← isHidden]
  rw [relist, value, held]
  exact plain.get?_of_binds (plain.binds _ read) shown

theorem Relists.of_relist (edit : ListEdit) : Relists name edit m (read.relist name edit.apply) := by
  refine ⟨fun items held => ?_, fun rejected => ?_, fun other apart noBug => ?_⟩
  · exact ⟨_, get?_relist plain shown unbound kept held, edit.readArrayText?_write held⟩
  · have value : read.getD name "[]" = m.getD name "[]" := by rw [getD, kept, ← getD]
    rw [relist, value, rejected]
    exact kept
  · rw [← unbound.globals other noBug, relist]
    split
    · exact (plain.binds _ read).others apart
    · rfl

end Behind

end Machine

/-! ## Operands -/

/-- A text is read behind an at sign.  Where the list is in the variable for bugs, no bug is raised. -/
structure ReadsAt (toks : TokenStream) (name : String) (j : Nat) (m : Machine) (text : String)
    (last : Nat) (after : Machine) : Prop where
  sign : (toks.peek j).isSymbol .at = true
  gap : 0 < j → (toks.peek (j - 1)).line = (toks.peek j).line →
    (toks.peek (j - 1)).column + (toks.peek (j - 1)).width < (toks.peek j).column
  line : (toks.peek (j + 1)).line = (toks.peek j).line
  attached : (toks.peek (j + 1)).column = (toks.peek j).column + 1
  value : (Operand.text toks (j + 1)).run m = ((text, last), after)
  calm : name = "BugType" → after.raises = m.raises

namespace ReadsAt

variable {toks : TokenStream} {name text : String} {j last : Nat} {m after : Machine}

/-- A string without references is read as it is written. -/
theorem literal (sign : (toks.peek j).isSymbol .at = true)
    (gap : (toks.peek (j - 1)).column + (toks.peek (j - 1)).width < (toks.peek j).column)
    (line : (toks.peek (j + 1)).line = (toks.peek j).line)
    (attached : (toks.peek (j + 1)).column = (toks.peek j).column + 1)
    (quoted : (toks.peek (j + 1)).kind = .text) (plain : '$' ∉ (toks.peek (j + 1)).content.toList)
    (name : String) (m : Machine) :
    ReadsAt toks name j m (toks.peek (j + 1)).content (j + 1) m where
  sign := sign
  gap _ _ := gap
  line := line
  attached := attached
  value := Operand.text_quoted quoted plain m
  calm _ := rfl

theorem targetValue?_run (reads : ReadsAt toks name j m text last after) :
    (Results.targetValue? toks j).run m = (some (text, last), after) := by
  have spaced := TokenStream.checkAt_run reads.gap reads.line reads.attached m
  unfold Results.targetValue?
  rw [if_pos reads.sign, Act.run_bind, spaced]
  dsimp only
  rw [if_pos rfl, Act.run_bind, reads.value]
  rfl

theorem unbound (reads : ReadsAt toks name j m text last after) : Unbound m after := by
  have unbound := (Operand.text_computes toks (j + 1)).unbound m
  rwa [reads.value] at unbound

theorem get? (reads : ReadsAt toks name j m text last after) (plain : Plain name) :
    after.get? name = m.get? name :=
  (Operand.text_computes toks (j + 1)).get? (congrArg Prod.snd reads.value) plain reads.calm

end ReadsAt

theorem Unbound.refl (m : Machine) : Unbound m m := ⟨fun _ _ => rfl, rfl⟩

theorem Unbound.trans {before between after : Machine} (first : Unbound before between)
    (second : Unbound between after) : Unbound before after where
  globals name noBug := (second.globals name noBug).trans (first.globals name noBug)
  rest := by
    rw [second.rest, first.rest]

/-! ## Statements -/

/-- The statements that change a list: the change, the last token, and the machine behind the
operands. -/
inductive EditsList (toks : TokenStream) (i : Nat) (name : String) (m : Machine) :
    ListEdit → Nat → Machine → Prop where
  | add {item : String} {itemEnd last : Nat} {read : Machine}
      (head : (toks.peek i).kind = .word .list) (action : (toks.peek (i + 1)).kind = .word .add)
      (readsItem : Reads toks name (i + 2) m item itemEnd read)
      (target : toks.Target
        (if (toks.peek (itemEnd + 1)).isWord .to then itemEnd + 2 else itemEnd + 1) name last) :
      EditsList toks i name m (.add item) last read
  | remove {item : String} {itemEnd last : Nat} {read : Machine}
      (head : (toks.peek i).kind = .word .list) (action : (toks.peek (i + 1)).kind = .word .remove)
      (readsItem : Reads toks name (i + 2) m item itemEnd read)
      (target : toks.Target
        (if (toks.peek (itemEnd + 1)).isWord .fromWord then itemEnd + 2 else itemEnd + 1) name last) :
      EditsList toks i name m (.remove item) last read
  | cut {position : String} {positionEnd last : Nat} {read : Machine}
      (head : (toks.peek i).kind = .word .list) (action : (toks.peek (i + 1)).kind = .word .cut)
      (readsPosition : ReadsAt toks name (i + 2) m position positionEnd read)
      (target : toks.Target (positionEnd + 1) name last) :
      EditsList toks i name m (.cut position) last read
  | sort {last : Nat}
      (head : (toks.peek i).kind = .word .list) (action : (toks.peek (i + 1)).kind = .word .sort)
      (target : toks.Target (i + 2) name last) : EditsList toks i name m .sort last m
  | insert {item position : String} {itemEnd positionEnd last : Nat} {between read : Machine}
      (head : (toks.peek i).kind = .word .list) (action : (toks.peek (i + 1)).kind = .word .insert)
      (readsItem : Reads toks name (i + 2) m item itemEnd between)
      (readsPosition : ReadsAt toks name (Verb.skipPositionWords toks (itemEnd + 1)) between position
        positionEnd read)
      (target : toks.Target (positionEnd + 1) name last) :
      EditsList toks i name m (.insert item position) last read

namespace Verb

theorem updateList_run (name : String) (change : List Json → List Json) (m : Machine) :
    (updateList name change).run m = ((), m.relist name change) := by
  unfold updateList relist
  rw [Act.run_bind, Act.run_get]
  dsimp only
  cases Json.readArrayText? (m.getD name "[]") <;> rfl

variable {toks : TokenStream} {i last : Nat} {name item position : String} {m read : Machine}

theorem itemAndTarget?_run {particle : Keyword} {itemEnd : Nat}
    (readsItem : Reads toks name i m item itemEnd read)
    (target : toks.Target
      (if (toks.peek (itemEnd + 1)).isWord particle then itemEnd + 2 else itemEnd + 1) name last) :
    (itemAndTarget? particle toks i).run m = (some (item, name, last), read) := by
  unfold itemAndTarget?
  rw [Act.run_bind, readsItem.value]
  dsimp only
  rw [Act.run_bind, target.targetName?_run]
  rfl

theorem positionAndTarget?_run {positionEnd : Nat}
    (readsPosition : ReadsAt toks name i m position positionEnd read)
    (target : toks.Target (positionEnd + 1) name last) :
    (positionAndTarget? toks i).run m = (some (position, name, last), read) := by
  unfold positionAndTarget?
  rw [Act.run_bind, readsPosition.targetValue?_run]
  dsimp only
  rw [Act.run_bind, target.targetName?_run]
  rfl

end Verb

theorem Statement.dispatch_list {toks : TokenStream} {i : Nat} (run : Runner)
    (head : (toks.peek i).kind = .word .list) : dispatch run toks i = Verb.list toks i := by
  unfold dispatch
  rw [head]
  rfl

/-- A question for an element of a list, without a conversion behind it. -/
theorem Statement.dispatch_getFrom {toks : TokenStream} {i : Nat} (run : Runner)
    (head : (toks.peek i).kind = .word .get) (line : toks.onLine i (i + 1) = true)
    (particle : (toks.peek (i + 1)).kind = .word .fromWord)
    (unconverted : Verb.asIndex? toks (i + 1) (i + 1) = none) :
    dispatch run toks i = Verb.getFrom toks i (i + 1) := by
  have other (word : String) : (toks.peek (i + 1)).isName word = false := by
    rw [Token.isName, particle]
    rfl
  have noLength : (toks.peek (i + 1)).isWord .len = false := by
    rw [Token.isWord, particle]
    rfl
  unfold dispatch
  rw [head]
  change Verb.getValue toks i = _
  unfold Verb.getValue
  dsimp only
  rw [line, other, other, other, noLength, unconverted]
  unfold Verb.getWord
  rw [Token.lexeme_of_word particle]
  rfl

namespace EditsList

variable {toks : TokenStream} {i last : Nat} {name : String} {m read : Machine} {edit : ListEdit}

/-- A statement on a list reads its operands and changes the list. -/
theorem run (edits : EditsList toks i name m edit last read) (run : Runner) :
    (dispatch run toks i).run m = (last, read.relist name edit.apply) := by
  cases edits with
  | add head action readsItem target | remove head action readsItem target =>
      rw [dispatch_list run head]
      unfold Verb.list
      rw [Token.lexeme_of_word action]
      dsimp only
      rw [Act.run_bind, Verb.itemAndTarget?_run readsItem target]
      dsimp only
      rw [Act.run_bind, Verb.updateList_run]
      rfl
  | cut head action readsPosition target =>
      rw [dispatch_list run head]
      unfold Verb.list
      rw [Token.lexeme_of_word action]
      dsimp only
      rw [Act.run_bind, Verb.positionAndTarget?_run readsPosition target]
      dsimp only
      rw [Act.run_bind, Verb.updateList_run]
      rfl
  | sort head action target =>
      rw [dispatch_list run head]
      unfold Verb.list
      rw [Token.lexeme_of_word action]
      dsimp only
      rw [Act.run_bind, target.targetName?_run]
      dsimp only
      rw [Act.run_bind, Verb.updateList_run]
      rfl
  | insert head action readsItem readsPosition target =>
      rw [dispatch_list run head]
      unfold Verb.list
      rw [Token.lexeme_of_word action]
      dsimp only
      rw [Act.run_bind, readsItem.value]
      dsimp only
      rw [Act.run_bind, Verb.positionAndTarget?_run readsPosition target]
      dsimp only
      rw [Act.run_bind, Verb.updateList_run]
      rfl

theorem unbound (edits : EditsList toks i name m edit last read) : Unbound m read := by
  cases edits with
  | add _ _ readsItem | remove _ _ readsItem => exact readsItem.unbound
  | cut _ _ readsPosition => exact readsPosition.unbound
  | sort => exact .refl m
  | insert _ _ readsItem readsPosition => exact readsItem.unbound.trans readsPosition.unbound

theorem get? (edits : EditsList toks i name m edit last read) (plain : Plain name) :
    read.get? name = m.get? name := by
  cases edits with
  | add _ _ readsItem | remove _ _ readsItem => exact readsItem.get? plain
  | cut _ _ readsPosition => exact readsPosition.get? plain
  | sort => rfl
  | insert _ _ readsItem readsPosition =>
      exact (readsPosition.get? plain).trans (readsItem.get? plain)

/-- A statement on a list writes the changed items. -/
theorem writes (edits : EditsList toks i name m edit last read) (plain : Plain name)
    (shown : m.isHidden name = false) {items : List Json}
    (held : Json.readArrayText? (m.getD name "[]") = some items) (run : Runner) :
    ((dispatch run toks i).run m).2.get? name = some (Json.write (.array (edit.apply items))) := by
  rw [edits.run run]
  exact get?_relist plain shown edits.unbound (edits.get? plain) held

/-- What a statement does to the list in a variable is its change. -/
theorem relists (edits : EditsList toks i name m edit last read) (plain : Plain name)
    (shown : m.isHidden name = false) (run : Runner) :
    Relists name edit m ((dispatch run toks i).run m).2 := by
  rw [edits.run run]
  exact .of_relist plain shown edits.unbound (edits.get? plain) edit

end EditsList

/-! ## Taking out what is a text -/

theorem Verb.isText_iff (text : String) (element : Json) :
    isText text element = true ↔ element = .string text := by
  cases element <;> simp [isText]

theorem filter_eq_iff {α : Type} {p q : α → Bool} {items : List α} :
    items.filter p = items.filter q ↔ ∀ item ∈ items, p item = q item := by
  refine ⟨fun same item member => ?_, List.filter_congr⟩
  have both := congrArg (item ∈ ·) same
  simp only [List.mem_filter, member, true_and, eq_iff_iff] at both
  exact Bool.eq_iff_iff.mpr both

/-- What `list remove` leaves of the items of a list. -/
structure RemovalLaw (name item : String) (items : List Json) (before after : Machine) : Prop where
  /-- The strings that are the item are taken out and the other elements are left in their order. -/
  left : after.HoldsList name (items.filter fun element => !Verb.isText item element)
  /-- No element with another text is taken out. -/
  kept : (items.filter fun element => element.render != item).Sublist
    (items.filter fun element => !Verb.isText item element)
  /-- The elements with another text are all that is left if, and only if, no element is a number, a
  truth value or a nested document with that text. -/
  byText : (items.filter fun element => !Verb.isText item element) =
      (items.filter fun element => element.render != item) ↔
    ∀ element ∈ items, element.render = item → element = .string item
  /-- The other variables keep their values. -/
  others : ∀ other, other ≠ name → other ≠ "BugType" →
    after.globals.valueOf? other = before.globals.valueOf? other

theorem removal_law {toks : TokenStream} {i last : Nat} {name item : String} {m read : Machine}
    {items : List Json} (edits : EditsList toks i name m (.remove item) last read)
    (plain : Plain name) (shown : m.isHidden name = false)
    (held : Json.readArrayText? (m.getD name "[]") = some items) (run : Runner) :
    RemovalLaw name item items m ((dispatch run toks i).run m).2 := by
  have relists := edits.relists plain shown run
  refine ⟨relists.list items held, List.monotone_filter_right items fun element other => ?_, ?_,
    relists.others⟩
  · rw [Bool.not_eq_true', Bool.eq_false_iff, Ne, Verb.isText_iff]
    rintro rfl
    exact absurd other (by simp [Json.render])
  · rw [filter_eq_iff]
    refine forall₂_congr fun element _ => ?_
    have text : element = .string item → element.render = item := fun same => by rw [same, Json.render]
    rw [Bool.eq_iff_iff, Bool.not_eq_true', Bool.eq_false_iff, Ne, Verb.isText_iff, bne_iff_ne,
      not_iff_not]
    exact ⟨fun same => same.mpr, fun other => ⟨text, other⟩⟩

/-- A list of strings and a number. -/
def mixedList : String := "[\"b\", 1, \"a\", \"b\"]"

/-- Both strings are taken out of it. -/
theorem removal_law_mixed :
    let m := (Machine.start {}).setGlobal "L" mixedList
    let toks := scan "list remove \"b\" from @\x7bL\x7d"
    (∃ last read, EditsList toks 0 "L" m (.remove "b") last read) ∧
      Json.readArrayText? (m.getD "L" "[]") =
        some [.string "b", .number "1", .string "a", .string "b"] ∧
      ((dispatch idle toks 0).run m).2.HoldsList "L" [.number "1", .string "a"] := by
  intro m toks
  have ⟨⟨head, action, quoted, content, particle⟩, target, plain, value⟩ :
      ((toks.peek 0).kind = .word .list ∧ (toks.peek 1).kind = .word .remove ∧
        (toks.peek 2).kind = .text ∧ (toks.peek 2).content = "b" ∧
        (toks.peek 3).isWord .fromWord = true) ∧
      toks.Target 4 "L" 7 ∧ Plain "L" ∧ m.getD "L" "[]" = mixedList := by
    decide +kernel
  have readsItem := Reads.literal quoted (content ▸ by decide) "L" m
  rw [content] at readsItem
  have edits : EditsList toks 0 "L" m (.remove "b") 7 m := by
    refine .remove head action readsItem ?_
    rw [if_pos particle]
    exact target
  have held : Json.readArrayText? (m.getD "L" "[]") =
      some [.string "b", .number "1", .string "a", .string "b"] := by
    rw [value]
    cbv
  exact ⟨⟨7, m, edits⟩, held, (removal_law edits plain rfl held idle).left⟩

/-- A number is not taken out of a list, although its text is that of the item. -/
theorem removedNumber_stays :
    let m := (Machine.start {}).setGlobal "L" "[1, 2]"
    let after := ((dispatch idle (scan "list remove 1 from @\x7bL\x7d") 0).run m).2
    after.get? "L" = some "[1,2]" ∧ Value.listItem? "[1,2]" "1" = some "1" := by
  decide +kernel

end BigScript
