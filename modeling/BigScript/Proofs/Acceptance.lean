import BigScript.Proofs.Json.Recognition
import BigScript.Proofs.ListStatement

/-!
# Texts that are accepted as documents

A text is one document if blanks and a document are all that is in it.  `unpack` and the statements on
lists and maps accept more: any text that begins with a document and goes on in a way that does not
continue it.  `Leaves` says which texts these are and what stands behind the document.

`unpack` hands on the whole text.  A statement that changes a list or a map writes what it has read, so
that the text behind the document is gone afterwards.  What is written is always one document.
-/

namespace BigScript

namespace Json

/-- A text is a document with blanks around it. -/
def OneDocument (raw : String) : Prop := Padded (IsDocument deepest) raw.toList

/-- A text begins with a document, behind blanks, that what is left of the text does not continue. -/
def Leaves (raw : String) (rest : List Char) : Prop :=
  ∃ lead text, Blank lead ∧ raw.toList = lead ++ text ++ rest ∧ IsDocument deepest text ∧ Stops text rest

variable {raw : String} {rest : List Char}

/-- What the reader leaves of a text is what stands behind its first document. -/
theorem readPrefix?_iff :
    (∃ document, readPrefix? raw = some (document, rest)) ↔ Leaves raw rest := by
  unfold readPrefix?
  dsimp only
  constructor
  · rintro ⟨document, read⟩
    exact (readsDocument _).value (Nat.zero_add deepest) read
  · rintro ⟨lead, text, blank, split, isDocument, stops⟩
    have enough : 2 * text.length ≤ 2 * raw.toList.length + 2 := by
      rw [split, List.length_append, List.length_append]
      omega
    rcases isDocument.isRead (Nat.le_of_eq (Nat.zero_add deepest)) enough stops with ⟨document, read⟩
    refine ⟨document, ?_⟩
    generalize 2 * raw.toList.length + 2 = steps at read
    rw [split, List.append_assoc, readValue?_blank blank, read]

theorem isSome_read?_iff : (read? raw).isSome = true ↔ ∃ rest, Leaves raw rest := by
  rw [read?, readWritten?, Option.isSome_map, Option.isSome_map, Option.isSome_iff_exists]
  constructor
  · rintro ⟨⟨document, rest⟩, read⟩
    exact ⟨rest, readPrefix?_iff.mp ⟨document, read⟩⟩
  · rintro ⟨rest, leaves⟩
    rcases readPrefix?_iff.mpr leaves with ⟨document, read⟩
    exact ⟨(document, rest), read⟩

/-- There is one way in which a text begins with a document that is not continued. -/
theorem Leaves.unique {other : List Char} (leaves : Leaves raw rest) (again : Leaves raw other) :
    other = rest := by
  rcases readPrefix?_iff.mpr leaves with ⟨document, read⟩
  rcases readPrefix?_iff.mpr again with ⟨_, readAgain⟩
  rw [read] at readAgain
  exact congrArg Prod.snd (Option.some.inj readAgain).symm

/-- A text is one document if, and only if, it begins with one and only blanks are left. -/
theorem oneDocument_iff : OneDocument raw ↔ ∃ rest, Leaves raw rest ∧ Blank rest := by
  constructor
  · intro padded
    unfold OneDocument at padded
    generalize chars : raw.toList = cs at padded
    rcases padded with @⟨lead, text, rest, front, isDocument, back⟩
    have ends : Ends rest := by
      have nothing : Ends [] := nofun
      simpa using ends_of_blank back nothing
    exact ⟨rest, ⟨lead, text, front, chars, isDocument, isDocument.stops ends⟩, back⟩
  · rintro ⟨rest, ⟨lead, text, front, split, isDocument, -⟩, back⟩
    rw [OneDocument, split]
    exact .pad front isDocument back

/-- To be accepted is to be one document, except where something else than blanks is left. -/
theorem accepted_iff_oneDocument_iff :
    ((read? raw).isSome = true ↔ OneDocument raw) ↔ ∀ rest, Leaves raw rest → Blank rest := by
  rw [isSome_read?_iff, oneDocument_iff]
  constructor
  · intro same rest leaves
    rcases same.mp ⟨rest, leaves⟩ with ⟨other, again, blank⟩
    rwa [leaves.unique again] at blank
  · intro blank
    exact ⟨fun ⟨rest, leaves⟩ => ⟨rest, leaves, blank rest leaves⟩,
      fun ⟨rest, leaves, _⟩ => ⟨rest, leaves⟩⟩

/-- What is written of a document that was read is one document. -/
theorem oneDocument_write {document : Json} (settled : Settled document) :
    OneDocument (write document) :=
  oneDocument_iff.mpr ⟨[], readPrefix?_iff.mp ⟨document, settled.readPrefix?⟩, nofun⟩

/-- The items of a list are those of the array that its text begins with. -/
theorem readArrayText?_iff {items : List Json} :
    readArrayText? raw = some items ↔
      ∃ written rest, readPrefix? raw = some (.array written, rest) ∧ items = orderedItems written := by
  unfold readArrayText? read? readWritten?
  rw [Option.map_map]
  cases readPrefix? raw with
  | none => simp
  | some found =>
      rcases found with ⟨document, rest⟩
      cases document <;> simp [ordered, eq_comm]

/-- The fields of a map are those of the object that its text begins with. -/
theorem readObjectText?_iff {fields : List (String × Json)} :
    readObjectText? raw = some fields ↔
      ∃ written rest, readPrefix? raw = some (.object written, rest) ∧
        fields = orderedFields [] written := by
  unfold readObjectText? read? readWritten?
  rw [Option.map_map]
  cases readPrefix? raw with
  | none => simp
  | some found =>
      rcases found with ⟨document, rest⟩
      cases document <;> simp [ordered, eq_comm]

end Json

open Machine Statement

/-! ## Checking a text -/

/-- A text is checked and handed on: `unpack TEXT as map`. -/
structure Unpacks (toks : TokenStream) (i : Nat) (m : Machine) (text : String) (last : Nat)
    (read : Machine) : Prop where
  head : (toks.peek i).kind = .word .unpack
  value : (Operand.text toks (i + 1)).run m = ((text, last), read)
  particle : (toks.peek (last + 1)).isWord .asWord = true
  kind : (toks.peek (last + 2)).isWord .map = true

theorem Unpacks.run {toks : TokenStream} {i last : Nat} {text : String} {m read : Machine}
    (unpacks : Unpacks toks i m text last read) (run : Runner) :
    (dispatch run toks i).run m =
      if (Json.read? text).isSome then (finish toks (last + 2) [text]).run read
      else (finish toks (last + 2) [Verb.emptyMap]).run
        (read.raiseBug "Unpack Error: Invalid JSON String") := by
  have unpack : dispatch run toks i = Verb.unpack toks i := by
    unfold dispatch
    rw [unpacks.head]
    rfl
  rw [unpack]
  unfold Verb.unpack
  rw [Act.run_bind, unpacks.value]
  dsimp only
  rw [unpacks.particle, unpacks.kind, Bool.and_self, if_pos rfl]
  split <;> rfl

/-! ## Changing a value -/

namespace Machine

variable {name raw : String} {m after : Machine} {written : List (String × Json)} {rest : List Char}

/-- A map that is changed is written as one document, whatever stood behind it. -/
theorem oneDocument_of_outcome (plain : Plain name) (top : m.locals = []) {default : String}
    {edit : Edit} {change : List (String × Json) → List (String × Json)}
    (rewrites : ∀ fields, Value.Rewrites fields edit (change fields))
    (found : m.get? name = some raw) (read : Json.readPrefix? raw = some (.object written, rest))
    (outcome : after = match Json.readObjectText? (m.getD name default) with
      | some fields => m.assign name (Json.write (.object (change fields)))
      | none => m) :
    ∃ now, after.get? name = some now ∧ Json.OneDocument now := by
  have fields := Json.readObjectText?_iff.mpr ⟨written, rest, read, rfl⟩
  have shown : m.isHidden name = false := by
    rw [isHidden, top]
    exact Bool.and_false _
  have settled := Json.settledFields_iff.mpr (Json.settled_of_readObjectText? fields)
  rw [getD, found, Option.getD_some, fields] at outcome
  subst outcome
  refine ⟨_, plain.get?_of_binds (plain.binds _ m) shown, ?_⟩
  exact Json.oneDocument_write (Json.settledFields_iff.mp ((rewrites _).settled settled))

end Machine

/-- A statement on a map that begins with an object leaves one document in the variable.  Only where
the other map of a `map merge` is none, it leaves the text as it is. -/
theorem EditsMap.oneDocument {toks : TokenStream} {i : Nat} {name raw : String} {m : Machine}
    {edit : Edit} {written : List (String × Json)} {rest : List Char}
    (edits : EditsMap toks i name m edit) (plain : Plain name) (top : m.locals = [])
    (found : m.get? name = some raw) (read : Json.readPrefix? raw = some (.object written, rest))
    (run : Runner) :
    ∃ now, ((dispatch run toks i).run m).2.get? name = some now ∧
      (Json.OneDocument now ∨ edit = .merge none ∧ now = raw) := by
  suffices (edit = .merge none ∧ ((dispatch run toks i).run m).2.get? name = some raw) ∨
      ∃ now, ((dispatch run toks i).run m).2.get? name = some now ∧ Json.OneDocument now by
    rcases this with ⟨idle, kept⟩ | ⟨now, shown, one⟩
    · exact ⟨raw, kept, .inr ⟨idle, rfl⟩⟩
    · exact ⟨now, shown, .inl one⟩
  cases edits with
  | @set key text _ _ _ between behind head action readsKey particle readsText target =>
      have kept := (readsText.get? plain).trans ((readsKey.get? plain).trans found)
      have bottom : behind.locals = [] :=
        readsText.unbound.locals.trans (readsKey.unbound.locals.trans top)
      right
      rw [dispatch_map run head, Verb.map_set action readsKey particle readsText target,
        Verb.updateMap_run]
      exact oneDocument_of_outcome plain bottom (fun _ => .put key text) kept read rfl
  | @remove key _ _ behind head action readsKey target =>
      have bottom : behind.locals = [] := readsKey.unbound.locals.trans top
      right
      rw [dispatch_map run head, Verb.map_remove action readsKey target, Verb.updateMap_run]
      exact oneDocument_of_outcome plain bottom (fun _ => .drop key)
        ((readsKey.get? plain).trans found) read rfl
  | @merge source _ _ head action named target =>
      rw [dispatch_map run head, Verb.map_merge action named target]
      cases other : Json.readObjectText? (m.getD source Verb.emptyMap) with
      | none => exact .inl ⟨congrArg Edit.merge (Value.held?_eq_none.mpr other), found⟩
      | some fields =>
          right
          dsimp only
          rw [Verb.updateMap_run]
          exact oneDocument_of_outcome plain top (fun _ => .merge other) found read rfl
  | field other assigns =>
      right
      rw [dispatch_assigns run other assigns.assigns]
      exact oneDocument_of_outcome plain top (fun _ => .put _ _) found read
        (congrArg Prod.snd (assignAt_field assigns))
  | wordField assigning head assigns =>
      right
      rw [dispatch_assignWord run assigning head, assignWord_run assigns.assigns]
      dsimp only
      rw [assignAt_field assigns]
      dsimp only
      split
      · contradiction
      · exact oneDocument_of_outcome plain top (fun _ => .put _ _) found read rfl

/-- A statement on a list that begins with an array leaves one document in the variable, with the
changed items of the array. -/
theorem EditsList.oneDocument {toks : TokenStream} {i last : Nat} {name raw : String}
    {m behind : Machine} {edit : ListEdit} {written : List Json} {rest : List Char}
    (edits : EditsList toks i name m edit last behind) (plain : Plain name)
    (shown : m.isHidden name = false) (found : m.get? name = some raw)
    (read : Json.readPrefix? raw = some (.array written, rest)) (run : Runner) :
    ∃ now, ((dispatch run toks i).run m).2.get? name = some now ∧
      now = Json.write (.array (edit.apply (Json.orderedItems written))) ∧ Json.OneDocument now := by
  have items : Json.readArrayText? (m.getD name "[]") = some (Json.orderedItems written) := by
    rw [getD, found, Option.getD_some]
    exact Json.readArrayText?_iff.mpr ⟨written, rest, read, rfl⟩
  have settled := Json.settled_of_items (Json.settled_of_readArrayText? items) fun _ => edit.among
  exact ⟨_, edits.writes plain shown items run, rfl, Json.oneDocument_write settled⟩

/-! ## The law -/

/-- Whether a text is accepted as a document, and what becomes of it. -/
structure AcceptanceLaw (raw : String) : Prop where
  /-- The reader finds a document in the text if, and only if, the text begins with one that is not
  continued by what stands behind it. -/
  accepts : (Json.read? raw).isSome = true ↔ ∃ rest, Json.Leaves raw rest
  /-- What it leaves is what stands behind the document, and the text decides what that is. -/
  leaves : ∀ rest, (∃ document, Json.readPrefix? raw = some (document, rest)) ↔ Json.Leaves raw rest
  /-- The text is one document if, and only if, it is accepted and only blanks are left. -/
  whole : Json.OneDocument raw ↔ ∃ rest, Json.Leaves raw rest ∧ Json.Blank rest
  /-- To be accepted is to be one document, except where something else than blanks is left. -/
  meets : ((Json.read? raw).isSome = true ↔ Json.OneDocument raw) ↔
    ∀ rest, Json.Leaves raw rest → Json.Blank rest
  /-- `unpack` hands on what is accepted, with all that is left behind the document, and raises no
  bug. -/
  unpacks : ∀ {run toks i m last read}, Unpacks toks i m raw last read →
    (∃ rest, Json.Leaves raw rest) → (dispatch run toks i).run m = (finish toks (last + 2) [raw]).run read
  /-- Every other text raises the bug, and what is handed on is an empty map. -/
  refuses : ∀ {run toks i m last} {read : Machine}, Unpacks toks i m raw last read →
    (¬ ∃ rest, Json.Leaves raw rest) →
      (dispatch run toks i).run m = (finish toks (last + 2) [Verb.emptyMap]).run
        (read.raiseBug "Unpack Error: Invalid JSON String")
  /-- A statement on a list that begins with an array writes one document made of the changed items,
  and nothing of what was left behind the array. -/
  list : ∀ {run toks i name edit last written rest} {m read : Machine},
    EditsList toks i name m edit last read → Plain name → m.isHidden name = false →
      m.get? name = some raw → Json.readPrefix? raw = some (.array written, rest) →
        ∃ now, ((dispatch run toks i).run m).2.get? name = some now ∧
          now = Json.write (.array (edit.apply (Json.orderedItems written))) ∧ Json.OneDocument now
  /-- A statement on a map that begins with an object writes one document, and nothing of what was
  left behind the object; it writes nothing where it puts in what is no map. -/
  map : ∀ {run toks i name edit written rest} {m : Machine}, EditsMap toks i name m edit →
    Plain name → m.locals = [] → m.get? name = some raw →
      Json.readPrefix? raw = some (.object written, rest) →
        ∃ now, ((dispatch run toks i).run m).2.get? name = some now ∧
          (Json.OneDocument now ∨ edit = .merge none ∧ now = raw)
  /-- A text that does not begin with an array is left alone by the statements on lists. -/
  noList : ∀ {run toks i name edit last} {m read : Machine},
    EditsList toks i name m edit last read → Plain name → m.isHidden name = false →
      m.get? name = some raw → (∀ written rest, Json.readPrefix? raw ≠ some (.array written, rest)) →
        ((dispatch run toks i).run m).2.get? name = some raw
  /-- A text that does not begin with an object is left alone by the statements on maps. -/
  noMap : ∀ {run toks i name edit} {m : Machine}, EditsMap toks i name m edit → Plain name →
    m.locals = [] → m.get? name = some raw →
      (∀ written rest, Json.readPrefix? raw ≠ some (.object written, rest)) →
        ((dispatch run toks i).run m).2.get? name = some raw

theorem acceptance_law (raw : String) : AcceptanceLaw raw where
  accepts := Json.isSome_read?_iff
  leaves _ := Json.readPrefix?_iff
  whole := Json.oneDocument_iff
  meets := Json.accepted_iff_oneDocument_iff
  unpacks unpacks leaves := by
    rw [unpacks.run, if_pos (Json.isSome_read?_iff.mpr leaves)]
  refuses unpacks other := by
    rw [unpacks.run, if_neg (mt Json.isSome_read?_iff.mp other)]
  list edits plain shown found read := edits.oneDocument plain shown found read _
  map edits plain top found read := edits.oneDocument plain top found read _
  noList := by
    intro run toks i name edit last m read edits plain shown found other
    refine ((edits.relists plain shown run).rejected ?_).trans found
    rw [getD, found, Option.getD_some, Option.eq_none_iff_forall_ne_some]
    intro items array
    rcases Json.readArrayText?_iff.mp array with ⟨written, rest, read, -⟩
    exact other written rest read
  noMap := by
    intro run toks i name edit m edits plain top found other
    have rejected : Json.readObjectText? raw = none := by
      rw [Option.eq_none_iff_forall_ne_some]
      intro fields object
      rcases Json.readObjectText?_iff.mp object with ⟨written, rest, read, -⟩
      exact other written rest read
    rcases (edits.edited plain top run).held raw found with ⟨now, shown, -, kept⟩
    rw [shown, kept (Value.held?_eq_none.mpr rejected)]

/-- A list with a text behind it is no document, but it is accepted as one.  The statement that finds
nothing to take out of it takes the text behind it away. -/
theorem behindDocument_isDropped :
    let m := (Machine.start {}).setGlobal "L" "[1] 2"
    ¬ Json.OneDocument "[1] 2" ∧ (Json.read? "[1] 2").isSome = true ∧
      m.get? "L" = some "[1] 2" ∧
        ((dispatch idle (scan "list remove 9 from @\x7bL\x7d") 0).run m).2.get? "L" = some "[1]" := by
  refine ⟨fun one => ?_, by decide +kernel⟩
  have left : (Json.readPrefix? "[1] 2").map Prod.snd = some [' ', '2'] := by decide +kernel
  rcases Option.map_eq_some_iff.mp left with ⟨⟨document, _⟩, read, rfl⟩
  rcases Json.oneDocument_iff.mp one with ⟨rest, leaves, blank⟩
  rw [← leaves.unique (Json.readPrefix?_iff.mp ⟨document, read⟩)] at blank
  exact absurd (blank '2' (by simp)) (by decide)

end BigScript
