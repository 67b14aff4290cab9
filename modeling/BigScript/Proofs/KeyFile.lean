import BigScript.Proofs.FilePlace
import BigScript.Proofs.Acceptance

/-!
# Statements on key files

`dbig set` and `dbig remove` change what is kept under one key of a file, and `dbig get` and
`dbig check` answer for one.  What a key file keeps is seen here as a function from keys to values: a
statement changes it at its key, and a sequence of statements is the changes one after the other.  The
rows of the file, with their positions, do not come up in `keyFile_law`.

Which values a text is kept as is decided by its first character and by a reader that stops behind the
first document.  So a text that begins with an array and goes on behind it is kept as the array alone
(`behindArray_isLost`).
-/

namespace BigScript

open Machine Statement

/-! ## Rows -/

namespace Ledger

variable (ledger : Ledger) (key other : String) (values : List String)

theorem get_remove : (ledger.remove key).get other = if other = key then [] else ledger.get other := by
  unfold get remove
  rw [List.filter_filter]
  by_cases same : other = key
  · have none : (ledger.rows.filter fun row => row.name == other && row.name != key) = [] := by
      refine List.filter_eq_nil_iff.mpr fun row _ => ?_
      rw [same]
      simp
    rw [if_pos same, none, List.mergeSort_nil, List.map_nil]
  · have all : (ledger.rows.filter fun row => row.name == other && row.name != key) =
        ledger.rows.filter fun row => row.name == other := by
      refine List.filter_congr fun row _ => ?_
      by_cases here : row.name = other
      · simp [here, same]
      · simp [here]
    rw [if_neg same, all]

/-- The rows for a key come in the order of their positions, and have its values. -/
theorem get_rowsFor : Ledger.get ⟨rowsFor key values⟩ key = values := by
  have named : (rowsFor key values).filter (·.name == key) = rowsFor key values := by
    refine List.filter_eq_self.mpr fun row member => ?_
    rcases List.mem_mapIdx.mp member with ⟨position, inside, rfl⟩
    exact beq_self_eq_true key
  have sorted : (rowsFor key values).Pairwise fun a b => decide (a.position ≤ b.position) = true := by
    refine List.pairwise_iff_getElem.mpr fun first second _ _ before => ?_
    simpa [rowsFor] using Nat.le_of_lt before
  unfold get
  rw [named, List.mergeSort_of_pairwise sorted]
  refine List.ext_getElem (by simp [rowsFor]) fun position _ _ => ?_
  simp [rowsFor]

theorem get_set :
    (ledger.set key values).get other = if other = key then values else ledger.get other := by
  by_cases same : other = key
  · have none : (ledger.remove key).rows.filter (·.name == key) = [] := by
      refine List.filter_eq_nil_iff.mpr fun row member => ?_
      have apart := (List.mem_filter.mp member).2
      simpa using apart
    have added := get_rowsFor key values
    rw [if_pos same, same]
    unfold get at added ⊢
    unfold set
    rwa [List.filter_append, none, List.nil_append]
  · have none : (rowsFor key values).filter (·.name == other) = [] := by
      refine List.filter_eq_nil_iff.mpr fun row member => ?_
      rcases List.mem_mapIdx.mp member with ⟨position, inside, rfl⟩
      exact beq_eq_false_iff_ne.mpr (Ne.symm same) ▸ Bool.false_ne_true
    have kept := get_remove ledger key other
    rw [if_neg same] at kept
    rw [if_neg same, ← kept]
    unfold get set
    rw [List.filter_append, none, List.append_nil]

theorem holds_none : ledger.holds key none = !(ledger.get key).isEmpty := by
  have sorted : (ledger.get key).isEmpty = (ledger.rows.filter (·.name == key)).isEmpty := by
    rw [get, List.isEmpty_map, Bool.eq_iff_iff, List.isEmpty_iff_length_eq_zero, List.length_mergeSort,
      List.isEmpty_iff_length_eq_zero]
  rw [sorted, Bool.eq_iff_iff]
  simp [holds]

end Ledger

/-! ## Edits -/

/-- What a statement does to a key file. -/
inductive KeyEdit where
  /-- A text is kept under a key, as a list where the statement says so. -/
  | set (key : String) (explicit : Bool) (raw : String)
  /-- What is kept under a key is dropped. -/
  | remove (key : String)

namespace KeyEdit

/-- The key under which something changes. -/
def key : KeyEdit → String
  | set key .. | remove key => key

/-- The values under the key afterwards. -/
def values : KeyEdit → List String
  | set _ explicit raw => Verb.storedValues explicit raw
  | remove _ => []

/-- The values under all keys after an edit. -/
def apply (edit : KeyEdit) (kept : String → List String) : String → List String := fun other =>
  if other = edit.key then edit.values else kept other

/-- The values under all keys after edits, the first of which comes first. -/
def applyAll (edits : List KeyEdit) (kept : String → List String) : String → List String :=
  edits.foldl (fun kept edit => edit.apply kept) kept

/-- The rows after an edit. -/
def rows (edit : KeyEdit) (ledger : Ledger) : Ledger :=
  match edit with
  | set key explicit raw => ledger.set key (Verb.storedValues explicit raw)
  | remove key => ledger.remove key

theorem get_rows (edit : KeyEdit) (ledger : Ledger) :
    (edit.rows ledger).get = edit.apply ledger.get := by
  funext other
  cases edit with
  | set key explicit raw => exact ledger.get_set key other _
  | remove key => exact ledger.get_remove key other

variable {edits earlier later : List KeyEdit} {edit : KeyEdit} {kept : String → List String}
  {key : String}

theorem applyAll_append (kept : String → List String) :
    applyAll (earlier ++ later) kept = applyAll later (applyAll earlier kept) :=
  List.foldl_append

theorem applyAll_untouched (apart : ∀ edit ∈ edits, edit.key ≠ key) :
    applyAll edits kept key = kept key := by
  induction edits generalizing kept with
  | nil => rfl
  | cons edit edits ih =>
    rcases List.forall_mem_cons.mp apart with ⟨first, others⟩
    change applyAll edits (edit.apply kept) key = kept key
    rw [ih others, apply, if_neg (Ne.symm first)]

/-- The last edit of a key says what is kept under it. -/
theorem applyAll_last (apart : ∀ other ∈ later, other.key ≠ edit.key) :
    applyAll (earlier ++ edit :: later) kept edit.key = edit.values := by
  rw [applyAll_append]
  change applyAll later (edit.apply _) edit.key = edit.values
  rw [applyAll_untouched apart, apply, if_pos rfl]

end KeyEdit

/-! ## What a text is kept as -/

namespace Json

variable {raw : String} {document : Json} {rest : List Char}

theorem array_of_readItems? {steps depth : Nat} {done : List Json} {cs : List Char}
    (read : readItems? steps depth done cs = some (document, rest)) :
    ∃ items, document = .array items := by
  induction steps generalizing done cs with
  | zero =>
    unfold readItems? at read
    cases read
  | succ steps ih =>
    unfold readItems? at read
    rcases Option.bind_eq_some_iff.mp read with ⟨⟨item, behind⟩, -, further⟩
    dsimp only at further
    split at further
    · exact ih further
    · cases further
      exact ⟨_, rfl⟩
    · cases further

theorem array_of_readArray? {steps depth : Nat} {cs : List Char}
    (read : readArray? steps depth cs = some (document, rest)) : ∃ items, document = .array items := by
  unfold readArray? at read
  split at read
  · cases read
  · split at read
    · cases read
      exact ⟨[], rfl⟩
    · exact array_of_readItems? read

/-- A document that begins with a bracket is an array. -/
theorem array_of_bracket (bracket : Text.startsWith raw "[" = true)
    (read : readPrefix? raw = some (document, rest)) : ∃ items, document = .array items := by
  rcases Option.isSome_iff_exists.mp bracket with ⟨behind, found⟩
  have text : raw.toList = '[' :: behind := Text.dropStart?_eq_some found
  have opens (steps : Nat) : readValue? (steps + 1) 0 ('[' :: behind) = readArray? steps 1 behind := by
    unfold readValue?
    exact if_pos (by decide)
  unfold readPrefix? at read
  rw [text, opens] at read
  exact array_of_readArray? read

end Json

/-- The values that a text is kept as. -/
structure Stores (explicit : Bool) (raw : String) (values : List String) : Prop where
  /-- A text that is in its entirety an array is kept as the texts of its elements in their order. -/
  whole : Json.OneDocument raw → Text.startsWith raw "[" = true →
    ∃ items, Json.readArrayText? raw = some items ∧ values = items.map Json.render
  /-- A text that does not begin with an array is kept as it is. -/
  noArray : (∀ written rest, Json.readPrefix? raw ≠ some (.array written, rest)) → values = [raw]
  /-- So is a text that begins with something else than a bracket, unless a list is asked for. -/
  noBracket : Text.startsWith raw "[" = false → explicit = false → values = [raw]
  /-- What stands behind the array that a text begins with is lost. -/
  begun : ∀ written rest, Json.readPrefix? raw = some (.array written, rest) →
    Text.startsWith raw "[" = true ∨ explicit = true →
      values = (Json.orderedItems written).map Json.render

namespace Verb

variable {explicit : Bool} {raw : String}

theorem storedValues_array {items : List Json} (array : Json.readArrayText? raw = some items)
    (list : Text.startsWith raw "[" = true ∨ explicit = true) :
    storedValues explicit raw = items.map Json.render := by
  have asked : (explicit || Text.startsWith raw "[") = true := by
    rw [Bool.or_eq_true]
    exact list.symm
  rw [storedValues, if_pos asked, array]

theorem storedValues_stores (explicit : Bool) (raw : String) :
    Stores explicit raw (storedValues explicit raw) where
  whole := by
    intro one bracket
    rcases Json.oneDocument_iff.mp one with ⟨rest, leaves, -⟩
    rcases Json.readPrefix?_iff.mpr leaves with ⟨document, read⟩
    rcases Json.array_of_bracket bracket read with ⟨written, rfl⟩
    have array := Json.readArrayText?_iff.mpr ⟨written, rest, read, rfl⟩
    exact ⟨_, array, storedValues_array array (.inl bracket)⟩
  noArray := by
    intro other
    have none : Json.readArrayText? raw = none := by
      rw [Option.eq_none_iff_forall_ne_some]
      intro items array
      rcases Json.readArrayText?_iff.mp array with ⟨written, rest, read, -⟩
      exact other written rest read
    rw [storedValues, none]
    split <;> rfl
  noBracket := by
    intro other plain
    rw [storedValues, other, plain]
    rfl
  begun written rest read list :=
    storedValues_array (Json.readArrayText?_iff.mpr ⟨written, rest, read, rfl⟩) list

/-! ## Opening and saving -/

variable {m : Machine} {path : String} {place : FilePlace} {ledger : Ledger}

theorem openKeys?_run (leads : m.files.KeyPath path place)
    (keys : m.files.keysAt? place = some ledger) :
    (openKeys? path).run m = (some ledger, { m with files := m.files.openedKeys place }) := by
  have write := leads.write keys (.ledger {})
  have content := leads.content keys
  unfold openKeys?
  rw [Act.run_bind, Act.run_get]
  dsimp only
  rw [content, write]
  unfold FileTree.keysAt? at keys
  unfold FileTree.openedKeys
  rcases found : m.files.find? place with _ | (_ | (text | kept | _))
  · rw [found] at keys
    cases keys
    rfl
  · rw [found] at keys
    cases keys
  · rw [found] at keys
    by_cases empty : text = ""
    · subst empty
      cases keys
      rfl
    · exact absurd keys (by simp [empty])
  · rw [found] at keys
    cases keys
    rfl
  · rw [found] at keys
    cases keys

theorem saveKeys_run (leads : m.files.KeyPath path place)
    (keys : m.files.keysAt? place = some ledger) (now : Ledger) :
    (saveKeys path now).run m = ((), { m with files := m.files.put place (.file (.ledger now)) }) := by
  unfold saveKeys
  rw [Act.run_bind, Act.run_get]
  dsimp only
  rw [leads.write keys]
  rfl

theorem keyFile?_run {toks : TokenStream} {j last : Nat} {read : Machine}
    (reads : ReadsAt toks "" j m path last read) (ending : Text.endsWith path keyFileEnding = true)
    (loud : Bool) : (keyFile? loud toks j).run m = (some (path, last), read) := by
  unfold keyFile?
  rw [Act.run_bind, reads.targetValue?_run]
  dsimp only
  rw [if_pos ending]
  rfl

end Verb

/-! ## Statements -/

theorem Unbound.files {before after : Machine} (unbound : Unbound before after) :
    after.files = before.files := by
  rw [unbound.rest]

/-- A text operand leaves the files alone. -/
theorem Operand.text_files {toks : TokenStream} {i : Nat} {m after : Machine} {read : String × Nat}
    (ran : (Operand.text toks i).run m = (read, after)) : after.files = m.files := by
  have unbound := (Operand.text_computes toks i).unbound m
  rw [ran] at unbound
  exact unbound.files

/-- The statements that change a key file: `dbig set KEY as [list] TEXT @PATH` and
`dbig remove KEY @PATH`.  No variable is watched while the path is read. -/
inductive EditsKeys (toks : TokenStream) (i : Nat) (place : FilePlace) (m : Machine) :
    KeyEdit → Nat → Machine → Prop where
  | set {key raw path : String} {keyEnd rawEnd last : Nat} {first second read : Machine}
      (head : (toks.peek i).kind = .word .dbig) (action : (toks.peek (i + 1)).kind = .word .set)
      (readsKey : (Operand.text toks (i + 2)).run m = ((key, keyEnd), first))
      (particle : (toks.peek (keyEnd + 1)).isWord .asWord = true)
      (readsText : (Operand.text toks
        (if (toks.peek (keyEnd + 2)).isWord .list then keyEnd + 3 else keyEnd + 2)).run first =
          ((raw, rawEnd), second))
      (readsPath : ReadsAt toks "" (rawEnd + 1) second path last read)
      (leads : m.files.KeyPath path place) :
      EditsKeys toks i place m (.set key ((toks.peek (keyEnd + 2)).isWord .list) raw) last read
  | remove {key path : String} {keyEnd last : Nat} {first read : Machine}
      (head : (toks.peek i).kind = .word .dbig) (action : (toks.peek (i + 1)).kind = .word .remove)
      (readsKey : (Operand.text toks (i + 2)).run m = ((key, keyEnd), first))
      (readsPath : ReadsAt toks "" (keyEnd + 1) first path last read)
      (leads : m.files.KeyPath path place) : EditsKeys toks i place m (.remove key) last read

theorem dispatch_dbig {toks : TokenStream} {i : Nat} (run : Runner)
    (head : (toks.peek i).kind = .word .dbig) : dispatch run toks i = Verb.dbig toks i := by
  unfold dispatch
  rw [head]
  rfl

namespace EditsKeys

variable {toks : TokenStream} {i last : Nat} {place : FilePlace} {m read : Machine} {edit : KeyEdit}
  {ledger : Ledger}

theorem alone (edits : EditsKeys toks i place m edit last read) : nested? toks i m = none := by
  unfold nested?
  cases edits with
  | set head | remove head => rw [head]

/-- The operands are read without a change of the files. -/
theorem files (edits : EditsKeys toks i place m edit last read) : read.files = m.files := by
  cases edits with
  | set _ _ readsKey _ readsText readsPath =>
    rw [readsPath.unbound.files, Operand.text_files readsText, Operand.text_files readsKey]
  | remove _ _ readsKey readsPath => rw [readsPath.unbound.files, Operand.text_files readsKey]

/-- A statement that changes a key file opens it and puts the changed rows in its place. -/
theorem run (edits : EditsKeys toks i place m edit last read)
    (keys : m.files.keysAt? place = some ledger) (run : Runner) :
    (dispatch run toks i).run m = (last, { read with
      files := (m.files.openedKeys place).put place (.file (.ledger (edit.rows ledger))) }) := by
  have same := edits.files
  cases edits with
  | @set key raw path _ _ _ _ _ _ head action readsKey particle readsText readsPath leads =>
    rw [dispatch_dbig run head]
    unfold Verb.dbig
    rw [Token.lexeme_of_word action]
    dsimp only
    unfold Verb.keySet
    rw [Act.run_bind, readsKey]
    dsimp only
    rw [if_pos particle, Act.run_bind, readsText]
    dsimp only
    rw [Act.run_bind, Verb.keyFile?_run readsPath leads.ending]
    dsimp only
    rw [Act.run_bind, Verb.openKeys?_run (same ▸ leads) (same ▸ keys), same]
    dsimp only
    rw [Act.run_bind, Verb.saveKeys_run (leads.opened keys) (FileTree.keysAt?_opened keys)]
    rfl
  | @remove key path _ _ _ _ head action readsKey readsPath leads =>
    rw [dispatch_dbig run head]
    unfold Verb.dbig
    rw [Token.lexeme_of_word action]
    dsimp only
    unfold Verb.keyRemove
    rw [Act.run_bind, readsKey]
    dsimp only
    rw [Act.run_bind, Verb.keyFile?_run readsPath leads.ending]
    dsimp only
    rw [Act.run_bind, Verb.openKeys?_run (same ▸ leads) (same ▸ keys), same]
    dsimp only
    rw [Act.run_bind, Verb.saveKeys_run (leads.opened keys) (FileTree.keysAt?_opened keys)]
    rfl

end EditsKeys

/-! ## Questions -/

/-- A question for a key of a key file: `dbig get KEY @PATH` or `dbig check KEY @PATH`. -/
structure AsksKeys (toks : TokenStream) (i : Nat) (action : Keyword) (key : String) (place : FilePlace)
    (last : Nat) (m read : Machine) : Prop where
  head : (toks.peek i).kind = .word .dbig
  acts : (toks.peek (i + 1)).kind = .word action
  operands : ∃ keyEnd path between, (Operand.text toks (i + 2)).run m = ((key, keyEnd), between) ∧
    ReadsAt toks "" (keyEnd + 1) between path last read ∧ m.files.KeyPath path place ∧
      (action = Keyword.check → (toks.peek (i + 2)).isWord .keys = false ∧
        (toks.peek (keyEnd + 1)).isWord .of = false)

/-- A key file answers questions as the values that are kept under its keys.  Where it is asked for a
key, these values or the answer to whether there is one are what the tail of the statement gets. -/
structure KeysAnswer (m : Machine) (place : FilePlace) (kept : String → List String) : Prop where
  get : ∀ {run toks i key last read}, AsksKeys toks i .get key place last m read →
    (dispatch run toks i).run m = (finish toks last (kept key)).run
      { read with files := m.files.openedKeys place }
  check : ∀ {run toks i key last read}, AsksKeys toks i .check key place last m read →
    (dispatch run toks i).run m = (finish toks last [Value.ofBool !(kept key).isEmpty]).run
      { read with files := m.files.openedKeys place }

theorem keysAnswer_of_keysAt? {m : Machine} {place : FilePlace} {ledger : Ledger}
    (keys : m.files.keysAt? place = some ledger) : KeysAnswer m place ledger.get where
  get := by
    intro run toks i key last read asks
    rcases asks.operands with ⟨keyEnd, path, between, readsKey, readsPath, leads, -⟩
    have same : read.files = m.files := by
      rw [readsPath.unbound.files, Operand.text_files readsKey]
    rw [dispatch_dbig run asks.head]
    unfold Verb.dbig
    rw [Token.lexeme_of_word asks.acts]
    dsimp only
    unfold Verb.keyGet
    rw [Act.run_bind, readsKey]
    dsimp only
    rw [Act.run_bind, Verb.keyFile?_run readsPath leads.ending]
    dsimp only
    rw [Act.run_bind, Verb.openKeys?_run (same ▸ leads) (same ▸ keys), same]
  check := by
    intro run toks i key last read asks
    rcases asks.operands with ⟨keyEnd, path, between, readsKey, readsPath, leads, single⟩
    rcases single rfl with ⟨noKeys, noPart⟩
    have same : read.files = m.files := by
      rw [readsPath.unbound.files, Operand.text_files readsKey]
    rw [dispatch_dbig run asks.head]
    unfold Verb.dbig
    rw [Token.lexeme_of_word asks.acts]
    dsimp only
    unfold Verb.keyCheck
    rw [if_neg (noKeys ▸ Bool.false_ne_true), Act.run_bind, readsKey]
    dsimp only
    rw [if_neg (noPart ▸ Bool.false_ne_true), Act.run_bind, Act.run_pure]
    dsimp only
    rw [Act.run_bind, Verb.keyFile?_run readsPath leads.ending]
    dsimp only
    rw [Act.run_bind, Verb.openKeys?_run (same ▸ leads) (same ▸ keys), same]
    dsimp only
    rw [Ledger.holds_none]

/-! ## Sequences of statements -/

/-- The statements that a walk carries out one after the other are edits of a key file, or leave all
files as they are. -/
inductive KeyRun (toks : TokenStream) (place : FilePlace) : Spot → List KeyEdit → Spot → Prop where
  | none {spot : Spot} : KeyRun toks place spot [] spot
  | edit {i stop : Nat} {m ready read : Machine} {edit : KeyEdit} {edits : List KeyEdit}
      {next last : Spot} (arrived : m.arrive toks i = .ready ready)
      (first : EditsKeys toks i place ready edit stop read) (stride : Stride toks (i, m) next)
      (rest : KeyRun toks place next edits last) : KeyRun toks place (i, m) (edit :: edits) last
  | other {spot next last : Spot} {edits : List KeyEdit} (stride : Stride toks spot next)
      (kept : next.2.files = spot.2.files) (rest : KeyRun toks place next edits last) :
      KeyRun toks place spot edits last

/-- A key file was edited: it keeps what the edits make of what it kept.  All other files are left
alone, and every path leads to where it led. -/
structure KeysEdited (place : FilePlace) (edits : List KeyEdit) (before after : FileTree) : Prop where
  keys : ∀ ledger, before.keysAt? place = some ledger →
    ∃ now, after.keysAt? place = some now ∧ now.get = KeyEdit.applyAll edits ledger.get
  others : ∀ ledger, before.keysAt? place = some ledger →
    ∀ other, other ≠ place → after.find? other = before.find? other
  leads : ∀ ledger, before.keysAt? place = some ledger →
    ∀ path other, before.locate path = .ok other → after.locate path = .ok other

namespace KeysEdited

variable {place : FilePlace} {edits more : List KeyEdit} {before between after tree : FileTree}

theorem refl (tree : FileTree) : KeysEdited place [] tree tree where
  keys ledger keys := ⟨ledger, keys, rfl⟩
  others _ _ _ _ := rfl
  leads _ _ _ _ led := led

theorem trans (first : KeysEdited place edits before between)
    (second : KeysEdited place more between after) : KeysEdited place (edits ++ more) before after where
  keys ledger keys := by
    rcases first.keys ledger keys with ⟨mid, found, made⟩
    rcases second.keys mid found with ⟨now, shown, further⟩
    exact ⟨now, shown, by rw [further, made, KeyEdit.applyAll_append]⟩
  others ledger keys other apart := by
    rcases first.keys ledger keys with ⟨mid, found, -⟩
    exact (second.others mid found other apart).trans (first.others ledger keys other apart)
  leads ledger keys path other led := by
    rcases first.keys ledger keys with ⟨mid, found, -⟩
    exact second.leads mid found path other (first.leads ledger keys path other led)

end KeysEdited

/-- What a statement does to the files is its edit. -/
theorem EditsKeys.edited {toks : TokenStream} {i last : Nat} {place : FilePlace} {m read : Machine}
    {edit : KeyEdit} (edits : EditsKeys toks i place m edit last read) {ledger : Ledger}
    (found : m.files.keysAt? place = some ledger) (run : Runner) :
    KeysEdited place [edit] m.files ((dispatch run toks i).run m).2.files := by
  have named := FileTree.place_ne_nil found
  have opened := FileTree.keysAt?_opened found
  rw [edits.run found run]
  refine ⟨fun other keys => ?_, fun _ keys other apart => ?_, fun _ keys path other led => ?_⟩
  · cases found.symm.trans keys
    exact ⟨edit.rows ledger, FileTree.keysAt?_put named _, edit.get_rows ledger⟩
  · exact (by rw [FileTree.find?_put named, if_neg apart, FileTree.find?_opened keys apart])
  · exact FileTree.locate_put named (FileTree.no_folder opened) (FileTree.locate_opened keys led)

/-- Nothing happens to the files on the way to a statement. -/
theorem ready_files {toks : TokenStream} {i : Nat} {m ready : Machine}
    (arrived : m.arrive toks i = .ready ready) : ready.files = m.files := by
  have arrival := arrives toks i m
  rw [arrived] at arrival
  cases arrival with
  | begins =>
    rw [begun_eq]

/-- The key file keeps what all the edits make of what it kept. -/
theorem KeyRun.edited {toks : TokenStream} {place : FilePlace} {spot last : Spot}
    {edits : List KeyEdit} (ran : KeyRun toks place spot edits last) {ledger : Ledger}
    (found : spot.2.files.keysAt? place = some ledger) :
    KeysEdited place edits spot.2.files last.2.files := by
  induction ran generalizing ledger with
  | none => exact .refl _
  | @edit i stop m ready read edit edits next last arrived first stride _ ih =>
    have same := ready_files arrived
    have done := first.edited (same.symm ▸ found) idle
    -- The statement runs alone, so that the stride is its own.
    have here : next = _ := stride.unique (.alone arrived first.alone)
    rw [same] at done
    rcases done.keys ledger found with ⟨now, shown, -⟩
    rw [here] at ih
    exact done.trans (ih shown)
  | other stride kept _ ih =>
    have further := ih (kept.symm ▸ found)
    rwa [kept] at further

/-- What a key file answers behind a sequence of statements. -/
structure KeyFileLaw (place : FilePlace) (edits : List KeyEdit) (ledger : Ledger)
    (before after : FileTree) : Prop where
  /-- It answers as the values under its keys would that were changed in the same way, as long as
  nothing else is done to the files. -/
  answers : ∀ asked : Machine, asked.files = after →
    KeysAnswer asked place (KeyEdit.applyAll edits ledger.get)
  /-- The last edit of a key says which values these are. -/
  last : ∀ earlier edit later, edits = earlier ++ edit :: later →
    (∀ other ∈ later, other.key ≠ edit.key) →
      KeyEdit.applyAll edits ledger.get edit.key = edit.values
  /-- The values of a text are the elements of an array or the text itself. -/
  values : ∀ key explicit raw, Stores explicit raw (KeyEdit.set key explicit raw).values
  /-- A key that no edit is about keeps its values. -/
  untouched : ∀ key, (∀ edit ∈ edits, edit.key ≠ key) →
    KeyEdit.applyAll edits ledger.get key = ledger.get key
  /-- The other files are left alone. -/
  others : ∀ other, other ≠ place → after.find? other = before.find? other
  /-- Every path leads to where it led. -/
  leads : ∀ path other, before.locate path = .ok other → after.locate path = .ok other

theorem keyFile_law {toks : TokenStream} {place : FilePlace} {spot last : Spot} {edits : List KeyEdit}
    (ran : KeyRun toks place spot edits last) {ledger : Ledger}
    (found : spot.2.files.keysAt? place = some ledger) :
    KeyFileLaw place edits ledger spot.2.files last.2.files := by
  have edited := ran.edited found
  rcases edited.keys ledger found with ⟨now, shown, kept⟩
  refine ⟨fun asked same => ?_, fun earlier edit later split apart => ?_, fun _ explicit raw => ?_,
    fun key apart => KeyEdit.applyAll_untouched apart, edited.others ledger found,
    edited.leads ledger found⟩
  · rw [← kept]
    exact keysAnswer_of_keysAt? (same.symm ▸ shown)
  · rw [split]
    exact KeyEdit.applyAll_last apart
  · exact Verb.storedValues_stores explicit raw

/-- A string is a path behind an at sign. -/
structure QuotedPath (toks : TokenStream) (j : Nat) (path : String) : Prop where
  sign : (toks.peek j).isSymbol .at = true
  gap : (toks.peek (j - 1)).column + (toks.peek (j - 1)).width < (toks.peek j).column
  line : (toks.peek (j + 1)).line = (toks.peek j).line
  attached : (toks.peek (j + 1)).column = (toks.peek j).column + 1
  quoted : (toks.peek (j + 1)).kind = .text
  content : (toks.peek (j + 1)).content = path

theorem quotedPath_iff {toks : TokenStream} {j : Nat} {path : String} :
    QuotedPath toks j path ↔ (toks.peek j).isSymbol .at = true ∧
      (toks.peek (j - 1)).column + (toks.peek (j - 1)).width < (toks.peek j).column ∧
      (toks.peek (j + 1)).line = (toks.peek j).line ∧
      (toks.peek (j + 1)).column = (toks.peek j).column + 1 ∧
      (toks.peek (j + 1)).kind = .text ∧ (toks.peek (j + 1)).content = path := by
  constructor
  · rintro ⟨sign, gap, line, attached, quoted, content⟩
    exact ⟨sign, gap, line, attached, quoted, content⟩
  · rintro ⟨sign, gap, line, attached, quoted, content⟩
    exact ⟨sign, gap, line, attached, quoted, content⟩

instance (toks : TokenStream) (j : Nat) (path : String) : Decidable (QuotedPath toks j path) :=
  decidable_of_iff' _ quotedPath_iff

theorem QuotedPath.reads {toks : TokenStream} {j : Nat} {path : String} (there : QuotedPath toks j path)
    (plain : '$' ∉ path.toList) (m : Machine) : ReadsAt toks "" j m path (j + 1) m := by
  have reads := ReadsAt.literal there.sign there.gap there.line there.attached there.quoted
    (there.content ▸ plain) "" m
  rwa [there.content] at reads

/-- A source begins by keeping a string under a key of the file `s.dbig`. -/
structure SetsFirst (toks : TokenStream) (key raw : String) : Prop where
  head : (toks.peek 0).kind = .word .dbig
  action : (toks.peek 1).kind = .word .set
  quotedKey : (toks.peek 2).kind = .text ∧ (toks.peek 2).content = key
  particle : (toks.peek 3).isWord .asWord = true
  noList : (toks.peek 4).isWord .list = false
  quotedText : (toks.peek 4).kind = .text ∧ (toks.peek 4).content = raw
  path : QuotedPath toks 5 "s.dbig"

instance (toks : TokenStream) (key raw : String) : Decidable (SetsFirst toks key raw) :=
  decidable_of_iff (((toks.peek 0).kind = .word .dbig ∧ (toks.peek 1).kind = .word .set) ∧
      ((toks.peek 2).kind = .text ∧ (toks.peek 2).content = key) ∧
        (toks.peek 3).isWord .asWord = true ∧ (toks.peek 4).isWord .list = false ∧
          ((toks.peek 4).kind = .text ∧ (toks.peek 4).content = raw) ∧ QuotedPath toks 5 "s.dbig")
    ⟨fun ⟨⟨head, action⟩, quotedKey, particle, noList, quotedText, path⟩ =>
      ⟨head, action, quotedKey, particle, noList, quotedText, path⟩,
      fun sets => ⟨⟨sets.head, sets.action⟩, sets.quotedKey, sets.particle, sets.noList,
        sets.quotedText, sets.path⟩⟩

theorem SetsFirst.edits {toks : TokenStream} {key raw : String} {m : Machine}
    (sets : SetsFirst toks key raw) (plainKey : '$' ∉ key.toList) (plainText : '$' ∉ raw.toList)
    (led : m.files.locate "s.dbig" = .ok ["s.dbig"]) :
    EditsKeys toks 0 ["s.dbig"] m (.set key false raw) 6 m := by
  have readsKey := Operand.text_quoted sets.quotedKey.1 (sets.quotedKey.2 ▸ plainKey) m
  have readsText := Operand.text_quoted sets.quotedText.1 (sets.quotedText.2 ▸ plainText) m
  rw [sets.quotedKey.2] at readsKey
  rw [sets.quotedText.2] at readsText
  have edits := EditsKeys.set sets.head sets.action readsKey sets.particle (by rwa [sets.noList])
    (sets.path.reads (by decide) m) ⟨by decide, led⟩
  rwa [sets.noList] at edits

/-- A list is kept under one key, and another key is dropped. -/
def setAndRemove : String :=
  "dbig set \"k\" as \"[1, 2]\" @\"s.dbig\"\ndbig remove \"j\" @\"s.dbig\""

/-- The two statements are edits of a key file that is not there yet. -/
theorem setAndRemove_run : ∃ last, KeyRun (scan setAndRemove) ["s.dbig"] (0, .start {})
    [.set "k" false "[1, 2]", .remove "j"] last := by
  let toks := scan setAndRemove
  let m := Machine.start {}
  let ready := m.begun (toks.peek 0)
  let after : Machine := { ready with
    files := (ready.files.openedKeys ["s.dbig"]).put ["s.dbig"]
      (.file (.ledger (KeyEdit.rows (.set "k" false "[1, 2]") {}))) }
  let again := after.begun (toks.peek 7)
  have ⟨sets, unfinished, ⟨headDrop, actionDrop, quotedDrop, keyDrop⟩, path⟩ :
      SetsFirst toks "k" "[1, 2]" ∧ (toks.peek 7).isFinish = false ∧
        ((toks.peek 7).kind = .word .dbig ∧ (toks.peek 8).kind = .word .remove ∧
          (toks.peek 9).kind = .text ∧ (toks.peek 9).content = "j") ∧
        QuotedPath toks 10 "s.dbig" := by
    decide +kernel
  have going : m.Going := ⟨rfl, rfl, rfl, rfl⟩
  have first : m.arrive toks 0 = .ready ready := going.arrive (by rw [Token.isFinish, sets.head]; rfl)
  have untouched : ready.files = {} := ready_files first
  have keys : ready.files.keysAt? ["s.dbig"] = some {} := by
    rw [untouched]
    decide
  have led : ready.files.locate "s.dbig" = .ok ["s.dbig"] := by
    rw [untouched]
    decide +kernel
  have set := sets.edits (by decide) (by decide) led
  have done : (dispatch idle toks 0).run ready = (6, after) := set.run keys idle
  have goingReady := going.begun (toks.peek 0)
  have goingAfter : after.Going :=
    ⟨goingReady.unstopped, goingReady.uncancelled, goingReady.untimed, goingReady.fine⟩
  have second : after.arrive toks 7 = .ready again := goingAfter.arrive unfinished
  have drop : EditsKeys toks 7 ["s.dbig"] again (.remove "j") 11 again := by
    have readsKey := Operand.text_quoted quotedDrop (keyDrop ▸ by decide) again
    rw [keyDrop] at readsKey
    refine .remove headDrop actionDrop readsKey (path.reads (by decide) again) ⟨by decide, ?_⟩
    rw [ready_files second]
    exact FileTree.locate_put (by decide) (FileTree.no_folder (FileTree.keysAt?_opened keys))
      (FileTree.locate_opened keys led)
  have firstStride : Stride toks (0, m) _ := .alone first set.alone
  have secondStride : Stride toks (7, after) _ := .alone second drop.alone
  rw [done] at firstStride
  exact ⟨_, .edit first set firstStride (.edit second drop secondStride .none)⟩

/-- Behind them the list is found under its key as its two elements, and nothing under the other. -/
theorem keyFile_law_setAndRemove :
    ∃ last, KeyRun (scan setAndRemove) ["s.dbig"] (0, .start {})
        [.set "k" false "[1, 2]", .remove "j"] last ∧
      ∃ kept, KeysAnswer last.2 ["s.dbig"] kept ∧ kept "k" = ["1", "2"] ∧ kept "j" = [] := by
  rcases setAndRemove_run with ⟨last, ran⟩
  have found : (Machine.start {}).files.keysAt? ["s.dbig"] = some {} := by decide
  have law := keyFile_law ran found
  refine ⟨last, ran, _, law.answers last.2 rfl, ?_, ?_⟩
  · have kept := law.last [] (.set "k" false "[1, 2]") [.remove "j"] rfl (by decide)
    have values : Verb.storedValues false "[1, 2]" = ["1", "2"] := by decide +kernel
    exact kept.trans values
  · exact law.last [.set "k" false "[1, 2]"] (.remove "j") [] rfl (by decide)

/-- A text that begins with an array and goes on behind it. -/
def arrayAndMore : String := "dbig set \"k\" as \"[1] x\" @\"s.dbig\""

/-- The text is no array, but only the array is kept. -/
theorem behindArray_isLost :
    ¬ Json.OneDocument "[1] x" ∧ ∃ now, now.get "k" = ["1"] ∧
      ((dispatch idle (scan arrayAndMore) 0).run (.start {})).2.files.keysAt? ["s.dbig"] =
        some now := by
  let toks := scan arrayAndMore
  have sets : SetsFirst toks "k" "[1] x" := by decide +kernel
  have keys : (Machine.start {}).files.keysAt? ["s.dbig"] = some {} := by decide
  have set := sets.edits (m := .start {}) (by decide) (by decide) (by decide +kernel)
  constructor
  · intro one
    have left : (Json.readPrefix? "[1] x").map Prod.snd = some [' ', 'x'] := by decide +kernel
    rcases Option.map_eq_some_iff.mp left with ⟨⟨document, _⟩, read, rfl⟩
    rcases Json.oneDocument_iff.mp one with ⟨rest, leaves, blank⟩
    rw [← leaves.unique (Json.readPrefix?_iff.mp ⟨document, read⟩)] at blank
    exact absurd (blank 'x' (by simp)) (by decide)
  · rcases (set.edited keys idle).keys _ keys with ⟨now, shown, kept⟩
    refine ⟨now, ?_, shown⟩
    have values : Verb.storedValues false "[1] x" = ["1"] := by decide +kernel
    rw [kept]
    exact values

end BigScript
