import BigScript.Machine.Interpolate
import BigScript.Machine.Scope

/-!
# Binding a name

A value that is assigned to a name goes to one place: among the globals at top level and for names
that always belong there, and else into the innermost frame.  `Binds` says so, and that nothing else
is changed.  What the name answers with afterwards is a second question.  A name can be a reading of
the clock, a field of a map, or a spelling of the name of the result, and a name that always belongs
to the globals can be hidden by a parameter; every other name answers with its new value.
-/

namespace BigScript

namespace Text

theorem dropStart?_append (start rest : List Char) : dropStart? start (start ++ rest) = some rest := by
  induction start with
  | nil => rfl
  | cons c start ih =>
      rw [List.cons_append, dropStart?, beq_self_eq_true, if_pos rfl]
      exact ih

theorem cutChars_absent {mark : Char} {cs : List Char} (absent : mark ∉ cs) :
    cutChars [mark] cs = none := by
  induction cs with
  | nil => rfl
  | cons c cs ih =>
      rw [List.mem_cons, not_or] at absent
      have here : dropStart? [mark] (c :: cs) = none := by
        simp only [dropStart?, beq_iff_eq, absent.1, if_false]
      rw [cutChars, here, ih absent.2]
      rfl

theorem split_dot {name : String} (absent : '.' ∉ name.toList) : split "." name = [name] := by
  have whole : splitChars ['.'] name.toList = [name.toList] := by
    rw [splitChars, cutChars_absent absent]
  change (splitChars ['.'] name.toList).map String.ofList = [name]
  rw [whole, List.map_singleton, String.ofList_toList]

theorem cutChars_append {mark : Char} {before : List Char} (absent : mark ∉ before)
    (after : List Char) : cutChars [mark] (before ++ mark :: after) = some (before, after) := by
  induction before with
  | nil =>
      rw [List.nil_append, cutChars, dropStart?, if_pos (beq_self_eq_true mark)]
      rfl
  | cons c cs ih =>
      rw [List.mem_cons, not_or] at absent
      have here : dropStart? [mark] (c :: (cs ++ mark :: after)) = none := by
        simp only [dropStart?, beq_iff_eq, absent.1, if_false]
      rw [List.cons_append, cutChars, here, ih absent.2]
      rfl

theorem split_dotted {first second : String} (firstWhole : '.' ∉ first.toList)
    (secondWhole : '.' ∉ second.toList) :
    split "." (first ++ "." ++ second) = [first, second] := by
  have parts : splitChars ['.'] (first.toList ++ '.' :: second.toList) =
      [first.toList, second.toList] := by
    rw [splitChars, cutChars_append firstWhole]
    dsimp only
    rw [dif_neg (List.cons_ne_nil _ _), splitChars, cutChars_absent secondWhole]
  have whole : (first ++ "." ++ second).toList = first.toList ++ '.' :: second.toList := by
    rw [String.toList_append, String.toList_append, List.append_assoc]
    rfl
  change (splitChars ['.'] (first ++ "." ++ second).toList).map String.ofList = _
  rw [whole, parts]
  simp only [List.map_cons, List.map_nil, String.ofList_toList]

/-- Beyond the letter Z there is no capital letter. -/
theorem isUpper_of_lt {c : Char} (beyond : 90 < c.toNat) : c.isUpper = false := by
  have far : ¬ (c.val ≥ 'A'.val ∧ c.val ≤ 'Z'.val) := fun among =>
    absurd beyond (Nat.not_lt.mpr among.2)
  exact decide_eq_false far

/-- A letter in lower case is no capital letter. -/
theorem lowerChar_isUpper (c : Char) : (lowerChar c).isUpper = false := by
  unfold lowerChar
  split
  · next ascii =>
      have known : ∀ code < 128, (Char.ofNat code).toLower.isUpper = false := by decide
      rw [← Char.ofNat_toNat c]
      exact known c.toNat ascii
  · next beyond =>
      unfold mapCase
      split
      · next run found =>
          have above : ∀ run ∈ lowerRuns, (90 : Int) < run.first + run.distance := by
            decide +kernel
          have covered := List.find?_some found
          have moved := above run (List.mem_of_find?_eq_some found)
          simp only [CaseRun.covers, Bool.and_eq_true, decide_eq_true_eq] at covered
          generalize target : Int.toNat (c.toNat + run.distance) = code
          have far : 90 < code := by omega
          by_cases valid : code.isValidChar
          · have whole : Char.ofNat code = Char.ofNatAux code valid := dif_pos valid
            rw [whole]
            exact isUpper_of_lt far
          · have none : Char.ofNat code = Char.ofNat 0 := dif_neg valid
            rw [none]
            rfl
      · exact isUpper_of_lt (by omega)

/-- A text with a capital letter is no text in lower case. -/
theorem lower_ne_of_capital (name : String) {text : String}
    (capital : text.toList.any Char.isUpper = true) : lower name ≠ text := by
  rintro rfl
  rw [lower, String.toList_map, List.any_map] at capital
  rcases List.any_eq_true.mp capital with ⟨c, -, upper⟩
  rw [Function.comp, lowerChar_isUpper] at upper
  cases upper

theorem lower_ne_bugType (name : String) : lower name ≠ "BugType" :=
  lower_ne_of_capital name (by decide)

end Text

namespace TokenStream

variable {toks : TokenStream} {i : Nat} {name : String}

/-- A name is written in braces at an index. -/
structure Braced (toks : TokenStream) (i : Nat) (name : String) : Prop where
  opens : (toks.peek i).isSymbol .leftBrace = true
  spelled : (toks.peek (i + 1)).rawName = name
  closes : (toks.peek (i + 2)).isSymbol .rightBrace = true

instance : Decidable (toks.Braced i name) :=
  decidable_of_iff ((toks.peek i).isSymbol .leftBrace = true ∧
      (toks.peek (i + 1)).rawName = name ∧ (toks.peek (i + 2)).isSymbol .rightBrace = true)
    ⟨fun ⟨opens, spelled, closes⟩ => ⟨opens, spelled, closes⟩,
      fun braced => ⟨braced.opens, braced.spelled, braced.closes⟩⟩

theorem Braced.bracedName (braced : toks.Braced i name) : toks.bracedName i = (name, i + 2) := by
  rw [TokenStream.bracedName, if_pos braced.opens, braced.spelled]
  exact if_pos braced.closes

end TokenStream

namespace Machine

variable {name value : String} {m before after : Machine}

/-! ## Where a value goes -/

theorem watch_eq (name value : String) (m : Machine) :
    m.watch name value = { m with log := (m.watch name value).log } := by
  unfold watch
  split
  · split <;> rfl
  · rfl

/-- Whether a variable is bound among the globals. -/
def isShared (m : Machine) (name : String) : Bool := m.locals.isEmpty || isGlobalName name

/-- A name is bound where it belongs, and nothing else is changed but the log. -/
structure Binds (name value : String) (before after : Machine) : Prop where
  globals : after.globals =
    if before.isShared name then before.globals.set name value else before.globals
  locals : after.locals =
    if before.isShared name then before.locals
    else before.locals.modifyHead fun frame => frame.set name value
  rest : after = { before with log := after.log, locals := after.locals, globals := after.globals }

theorem assign_binds (name value : String) (m : Machine) :
    Binds (storedName name) value m (m.assign name value) := by
  have watched := m.watch_eq (storedName name) value
  cases frames : m.locals with
  | nil =>
      have shared : m.isShared (storedName name) = true := by rw [isShared, frames]; rfl
      have assigned : m.assign name value = (m.watch (storedName name) value).setGlobal
          (storedName name) value := by
        rw [assign, watched, frames]
      rw [assigned, watched]
      constructor <;> simp only [shared, if_true, setGlobal]
  | cons frame rest =>
      by_cases always : isGlobalName (storedName name) = true
      · have shared : m.isShared (storedName name) = true := by rw [isShared, always, Bool.or_true]
        have assigned : m.assign name value = (m.watch (storedName name) value).setGlobal
            (storedName name) value := by
          rw [assign, watched, frames]
          exact if_pos always
        rw [assigned, watched]
        constructor <;> simp only [shared, if_true, setGlobal]
      · have alone : m.isShared (storedName name) = false := by
          rw [isShared, frames, Bool.eq_false_iff.mpr always]
          rfl
        have assigned : m.assign name value = { m.watch (storedName name) value with
            locals := frame.set (storedName name) value :: rest } := by
          rw [assign, watched, frames]
          exact if_neg always
        rw [assigned, watched]
        constructor <;>
          simp only [alone, frames, List.modifyHead_cons, Bool.false_eq_true, if_false]

/-- Whether a local variable stands in front of a name that always belongs to the globals. -/
def isHidden (m : Machine) (name : String) : Bool :=
  isGlobalName name && (localValue? name m.locals).isSome

namespace Binds

/-- Every other global variable keeps its value. -/
theorem others (binds : Binds name value before after) {other : String} (different : other ≠ name) :
    after.globals.valueOf? other = before.globals.valueOf? other := by
  rw [binds.globals]
  split
  · exact before.globals.valueOf?_set_of_ne different value
  · rfl

/-- At top level a variable is bound among the globals. -/
theorem top (binds : Binds name value before after) (top : before.locals = []) :
    after.locals = [] ∧ after.globals = before.globals.set name value := by
  have shared : before.isShared name = true := by
    rw [isShared, top]
    rfl
  rw [binds.locals, binds.globals, if_pos shared, if_pos shared]
  exact ⟨top, rfl⟩

/-- A name that no local variable hides is stored with its new value. -/
theorem stored? (binds : Binds name value before after) (shown : before.isHidden name = false) :
    after.stored? name = some value := by
  rw [Machine.stored?, binds.locals, binds.globals]
  by_cases shared : before.isShared name = true
  · rw [if_pos shared, if_pos shared, Bindings.find?_set_self]
    have unseen : localValue? name before.locals = none := by
      cases frames : before.locals with
      | nil => rfl
      | cons frame rest =>
          have always : isGlobalName name = true := by
            rw [isShared, frames] at shared
            exact shared
          rw [isHidden, always, Bool.true_and, Option.isSome_eq_false_iff,
            Option.isNone_iff_eq_none, frames] at shown
          exact shown
    rw [unseen, Option.none_or]
  · rw [if_neg shared, if_neg shared]
    cases frames : before.locals with
    | nil =>
        rw [isShared, frames] at shared
        exact absurd rfl shared
    | cons frame rest =>
        rw [List.modifyHead_cons, localValue?, Bindings.find?_set_self, Option.some_or,
          Option.some_or]

end Binds

/-! ## Names that answer with what they are bound to -/

/-- The names of the clock and the pointer, in lower case. -/
def readings : List String := ["bigtick", "bigdelta", "mousex", "mousey", "dragx", "dragy"]

theorem reading?_of_unread (unread : Text.lower name ∉ readings) (m : Machine) :
    m.reading? name = none := by
  simp only [readings, List.mem_cons, List.not_mem_nil, or_false, not_or] at unread
  rcases unread with ⟨notTick, notDelta, notX, notY, notDragX, notDragY⟩
  unfold reading?
  split <;> first | contradiction | rfl

/-- No reading has a dot in its name. -/
theorem unread_of_dot (dotted : '.' ∈ name.toList) : Text.lower name ∉ readings := by
  have undotted : ∀ reading ∈ readings, '.' ∉ reading.toList := by decide
  intro read
  apply undotted _ read
  rw [Text.lower, String.toList_map]
  exact List.mem_map_of_mem dotted

/-- A name that is no reading and no field of a map answers with what is stored under it. -/
theorem get?_eq_stored? (m : Machine) (unread : Text.lower name ∉ readings)
    (undotted : '.' ∉ name.toList) : m.get? name = m.stored? name := by
  have apart : m.field? name = none := by rw [field?, Text.split_dot undotted]
  rw [get?, reading?_of_unread unread, apart, Option.none_or, Option.none_or]

/-- A name that stands for a variable: it is no reading, no field of a map, and no other spelling of
the name of the result. -/
structure Plain (name : String) : Prop where
  named : name ≠ ""
  unread : Text.lower name ∉ readings
  undotted : '.' ∉ name.toList
  own : storedName name = name

namespace Plain

instance : Decidable (Plain name) :=
  decidable_of_iff
    (name ≠ "" ∧ Text.lower name ∉ readings ∧ '.' ∉ name.toList ∧ storedName name = name)
    ⟨fun known => ⟨known.1, known.2.1, known.2.2.1, known.2.2.2⟩,
      fun plain => ⟨plain.named, plain.unread, plain.undotted, plain.own⟩⟩

theorem get? (plain : Plain name) (m : Machine) : m.get? name = m.stored? name :=
  m.get?_eq_stored? plain.unread plain.undotted

/-- At top level a variable answers with what the globals hold under its spelling. -/
theorem get?_of_global (plain : Plain name) (top : m.locals = [])
    (found : m.globals.valueOf? name = some value) : m.get? name = some value := by
  rw [plain.get?, stored?, top, Bindings.find?, found]
  rfl

/-- A field of a map answers with what the map holds. -/
theorem get?_field (plain : Plain name) {field raw : String} (named : field ≠ "")
    (undotted : '.' ∉ field.toList) (found : m.get? name = some raw)
    (holds : Value.field? raw field = some value) :
    m.get? (name ++ "." ++ field) = some value := by
  have dotted : '.' ∈ (name ++ "." ++ field).toList := by
    simp only [String.toList_append, List.mem_append]
    exact .inl (.inr (by decide))
  have filled {text : String} (named : text ≠ "") : text.isEmpty = false := by
    rwa [← Bool.not_eq_true, String.isEmpty_iff]
  have object : m.plain? name = some raw := by
    rw [Machine.plain?, reading?_of_unread plain.unread, Option.none_or, ← plain.get?, found]
  have answer : m.field? (name ++ "." ++ field) = some value := by
    rw [Machine.field?, Text.split_dotted plain.undotted undotted]
    dsimp only
    rw [filled plain.named, filled named, object]
    exact holds
  rw [Machine.get?, reading?_of_unread (unread_of_dot dotted), answer]
  rfl

theorem binds (plain : Plain name) (value : String) (m : Machine) :
    Binds name value m (m.assign name value) := by
  have stored := assign_binds name value m
  rwa [plain.own] at stored

/-- A variable answers with the value it is bound to, unless a local variable hides it. -/
theorem get?_of_binds (plain : Plain name) (binds : Binds name value before after)
    (shown : before.isHidden name = false) : after.get? name = some value := by
  rw [plain.get?, binds.stored? shown]

end Plain

end Machine
end BigScript
