import BigScript.Proofs.KeyFile

/-!
# Copies of files

`copy file` finds the file it reads, empties the file it writes and carries the content over only then.
So what becomes of the two files depends on how their paths are related.  Two paths that lead to
different places do not get in each other's way, however they are written: the source keeps what it
holds, and the target holds the same if nothing went wrong.  Two paths that lead to one file empty it,
and nothing is said about that.

`Copied` lists what a copy can be.  `CopyLaw` says what follows for the statement: which files change,
which do not, and exactly when the source loses what it held.
-/

namespace BigScript

open Statement

namespace FileTree

variable {tree before between after : FileTree} {source target path : String}
  {place destination other : FilePlace} {node : Node} {content earlier : Content}

/-! ## Paths that lead to files -/

theorem lookup_eq_ok :
    tree.lookup path = .ok (place, node) ↔
      tree.locate path = .ok place ∧ tree.find? place = some node := by
  unfold lookup
  cases led : tree.locate path with
  | error problem => simp [bind, Except.bind]
  | ok there =>
    cases found : tree.find? there with
    | none =>
      simp only [bind, Except.bind, found]
      constructor
      · intro none
        cases none
      · rintro ⟨same, holds⟩
        cases same
        cases found.symm.trans holds
    | some held =>
      simp only [bind, Except.bind, found, Except.ok.injEq, Prod.mk.injEq]
      constructor
      · rintro ⟨rfl, rfl⟩
        exact ⟨rfl, found⟩
      · rintro ⟨rfl, holds⟩
        exact ⟨rfl, Option.some.inj (found.symm.trans holds)⟩

/-- A path without a slash at its end is left as it is. -/
theorem unslashed_of_plain (plain : Text.endsWith path "/" = false) : unslashed path = path := by
  have kept : Text.dropRightWhile (· == '/') path.toList = path.toList := by
    have apart : (Text.dropStart? ['/'] path.toList.reverse).isSome = false := plain
    unfold Text.dropRightWhile
    cases backwards : path.toList.reverse with
    | nil => rw [← List.reverse_reverse path.toList, backwards]; rfl
    | cons c front =>
      rw [backwards, Text.dropStart?] at apart
      have other : (c == '/') = false := by
        rw [beq_eq_false_iff_ne]
        rintro rfl
        cases apart
      rw [List.dropWhile_cons, other, if_neg Bool.false_ne_true, ← backwards, List.reverse_reverse]
  rw [unslashed, kept, String.ofList_toList]

theorem writable_eq_ok :
    tree.writable path = .ok place ↔
      Text.endsWith path "/" = false ∧ tree.locate path = .ok place ∧
        tree.find? place ≠ some .folder := by
  unfold writable
  cases slashed : Text.endsWith path "/" with
  | true =>
    cases tree.locate (unslashed path) <;> simp [bind, Except.bind]
  | false =>
    rw [unslashed_of_plain slashed]
    cases led : tree.locate path with
    | error problem => simp [bind, Except.bind]
    | ok there =>
      simp only [bind, Except.bind, Bool.false_eq_true, if_false, true_and]
      split
      · next folder =>
        constructor
        · intro none
          cases none
        · rintro ⟨same, file⟩
          cases same
          exact absurd folder file
      · next file =>
        constructor
        · rintro ⟨⟩
          exact ⟨rfl, file⟩
        · rintro ⟨⟨⟩, -⟩
          rfl

/-- What a path leads to is read there, whatever else is in the tree. -/
theorem content_of_find? (led : tree.locate path = .ok place) :
    tree.content path = match tree.find? place with
      | some (.file content) => .ok content
      | some .folder => .error .isFolder
      | none => .error .missing := by
  unfold FileTree.content lookup
  rw [led]
  cases found : tree.find? place with
  | none => simp [bind, Except.bind, found]
  | some node => cases node <;> simp [bind, Except.bind, found]

/-! ## Writing over a file -/

/-- A file was written at a place, and nothing else has changed. -/
structure Overwritten (before after : FileTree) (place : FilePlace) (content : Content) : Prop where
  here : after.find? place = some (.file content)
  others : ∀ other, other ≠ place → after.find? other = before.find? other
  leads : ∀ path other, before.locate path = .ok other → after.locate path = .ok other

/-- Of two files written at one place the later one counts. -/
theorem Overwritten.again (first : Overwritten before between place earlier)
    (second : Overwritten between after place content) : Overwritten before after place content where
  here := second.here
  others other apart := (second.others other apart).trans (first.others other apart)
  leads path other led := second.leads path other (first.leads path other led)

theorem Overwritten.content_of_led (written : Overwritten before after place content)
    (led : before.locate path = .ok place) : after.content path = .ok content := by
  rw [content_of_find? (written.leads path place led), written.here]

theorem Overwritten.content_of_ne (written : Overwritten before after place content)
    (led : before.locate path = .ok other) (apart : other ≠ place) :
    after.content path = before.content path := by
  rw [content_of_find? (written.leads path other led), written.others other apart,
    content_of_find? led]

/-! ## Copies -/

/-- What a copy can be.  In the last two cases the source is a file and the target can be written. -/
inductive Copied (tree : FileTree) (source target : String) : FileTree × Option String → Prop where
  | unread {problem : FileProblem} (missing : tree.lookup source = .error problem) :
      Copied tree source target (tree, some (problem.during "open" source))
  | unwritten {problem : FileProblem} (refused : tree.writable target = .error problem) :
      Copied tree source target (tree, some (problem.during "open" target))
  | folder {place destination : FilePlace} (after : FileTree) (problem : String)
      (found : tree.lookup source = .ok (place, .folder))
      (writes : tree.writable target = .ok destination)
      (emptied : Overwritten tree after destination (.text "")) :
      Copied tree source target (after, some problem)
  | itself {place : FilePlace} {content : Content} (after : FileTree)
      (found : tree.lookup source = .ok (place, .file content))
      (writes : tree.writable target = .ok place)
      (emptied : Overwritten tree after place (.text "")) : Copied tree source target (after, none)
  | file {place destination : FilePlace} {content : Content} (after : FileTree)
      (found : tree.lookup source = .ok (place, .file content))
      (writes : tree.writable target = .ok destination) (apart : place ≠ destination)
      (written : Overwritten tree after destination content) :
      Copied tree source target (after, none)

/-- What becomes of the files of a copy, where `wrong` says whether something went wrong. -/
structure CopyLaw (source target : String) (before after : FileTree) (wrong : Prop) : Prop where
  /-- The source loses what it held if it is its own target, and only then. -/
  kept : after.content source = before.content source ↔
    ∀ place content, before.lookup source = .ok (place, .file content) →
      before.writable target = .ok place → content = .text ""
  /-- If something went wrong, it keeps what it held. -/
  refused : wrong → after.content source = before.content source
  /-- Nothing went wrong if the source is a file and the target can be written, and only then. -/
  carried : ¬ wrong ↔ ∃ place content destination,
    before.lookup source = .ok (place, .file content) ∧ before.writable target = .ok destination
  /-- Both files hold then what the source held, if they are two. -/
  copied : ∀ place content destination, before.lookup source = .ok (place, .file content) →
    before.writable target = .ok destination → place ≠ destination →
      after.content source = .ok content ∧ after.content target = .ok content
  /-- One file holds nothing afterwards. -/
  emptied : ∀ place content, before.lookup source = .ok (place, .file content) →
    before.writable target = .ok place → after.content source = .ok (.text "")
  /-- No other file changes. -/
  others : ∀ other, before.writable target ≠ .ok other → after.find? other = before.find? other
  /-- Every path leads to where it led. -/
  leads : ∀ path other, before.locate path = .ok other → after.locate path = .ok other

theorem Copied.law {outcome : FileTree × Option String} (copied : Copied tree source target outcome) :
    CopyLaw source target tree outcome.1 (outcome.2 ≠ none) := by
  cases copied with
  | unread missing =>
    -- Every part of the law that is about a source cites it, and there is none.
    have none {place node} : tree.lookup source ≠ .ok (place, node) := by simp [missing]
    exact {
      kept := ⟨fun _ place content found => absurd found none, fun _ => rfl⟩
      refused := fun _ => rfl
      carried := ⟨fun right => absurd nofun right, fun ⟨place, content, _, found, _⟩ => absurd found none⟩
      copied := fun place content _ found => absurd found none
      emptied := fun place content found => absurd found none
      others := fun _ _ => rfl
      leads := fun _ _ led => led }
  | unwritten refused =>
    have none {place} : tree.writable target ≠ .ok place := by simp [refused]
    exact {
      kept := ⟨fun _ place content _ writes => absurd writes none, fun _ => rfl⟩
      refused := fun _ => rfl
      carried := ⟨fun right => absurd nofun right, fun ⟨_, _, destination, _, writes⟩ => absurd writes none⟩
      copied := fun _ _ destination _ writes => absurd writes none
      emptied := fun place _ _ writes => absurd writes none
      others := fun _ _ => rfl
      leads := fun _ _ led => led }
  | @folder place destination after problem found writes emptied =>
    have ⟨led, held⟩ := lookup_eq_ok.mp found
    have apart : place ≠ destination := by
      rintro rfl
      exact (writable_eq_ok.mp writes).2.2 held
    have noFile {other content} : tree.lookup source ≠ .ok (other, .file content) := by simp [found]
    have same : after.content source = tree.content source := emptied.content_of_ne led apart
    exact {
      kept := ⟨fun _ place content found => absurd found noFile, fun _ => same⟩
      refused := fun _ => same
      carried := ⟨fun right => absurd nofun right, fun ⟨place, content, _, found, _⟩ => absurd found noFile⟩
      copied := fun place content _ found => absurd found noFile
      emptied := fun place content found => absurd found noFile
      others := fun other elsewhere => emptied.others other (by rintro rfl; exact elsewhere writes)
      leads := emptied.leads }
  | @itself _ content after found writes emptied =>
    have ⟨led, held⟩ := lookup_eq_ok.mp found
    have empty : after.content source = .ok (.text "") := emptied.content_of_led led
    have before : tree.content source = .ok content := by rw [content_of_find? led, held]
    exact {
      kept := by
        rw [empty, before]
        constructor
        · intro same place' content' found' _
          cases found.symm.trans found'
          exact (Except.ok.inj same).symm
        · intro none
          rw [none _ content found writes]
      refused := fun wrong => absurd rfl wrong
      carried := ⟨fun _ => ⟨_, content, _, found, writes⟩, fun _ wrong => wrong rfl⟩
      copied := by
        intro place' content' destination found' writes' apart
        cases found.symm.trans found'
        cases writes.symm.trans writes'
        exact absurd rfl apart
      emptied := fun _ _ _ _ => empty
      others := fun other elsewhere => emptied.others other (by rintro rfl; exact elsewhere writes)
      leads := emptied.leads }
  | @file _ _ content after found writes apart written =>
    have ⟨led, held⟩ := lookup_eq_ok.mp found
    have there := (writable_eq_ok.mp writes).2.1
    have same : after.content source = tree.content source := written.content_of_ne led apart
    have before : tree.content source = .ok content := by rw [content_of_find? led, held]
    exact {
      kept := by
        refine ⟨fun _ place' content' found' writes' => ?_, fun _ => same⟩
        cases found.symm.trans found'
        cases writes.symm.trans writes'
        exact absurd rfl apart
      refused := fun wrong => absurd rfl wrong
      carried := ⟨fun _ => ⟨_, content, _, found, writes⟩, fun _ wrong => wrong rfl⟩
      copied := by
        intro place' content' destination' found' writes' _
        cases found.symm.trans found'
        cases writes.symm.trans writes'
        exact ⟨same.trans before, written.content_of_led there⟩
      emptied := by
        intro place' content' found' writes'
        cases found.symm.trans found'
        cases writes.symm.trans writes'
        exact absurd rfl apart
      others := fun other elsewhere => written.others other (by rintro rfl; exact elsewhere writes)
      leads := written.leads }

end FileTree

/-! ## The statement -/

/-- The statement `copy file @SOURCE to @TARGET`.  No variable is watched while the paths are read. -/
structure CopiesFile (toks : TokenStream) (i : Nat) (source target : String) (last : Nat)
    (m read : Machine) : Prop where
  head : (toks.peek i).kind = .word .copy
  noun : (toks.peek (i + 1)).isWord .file = true
  paths : ∃ sourceEnd between, ReadsAt toks "" (i + 2) m source sourceEnd between ∧
    (toks.peek (sourceEnd + 1)).isWord .to = true ∧
      ReadsAt toks "" (sourceEnd + 2) between target last read

namespace CopiesFile

variable {toks : TokenStream} {i last : Nat} {source target : String} {m read : Machine}

/-- The paths are read without a change of the files. -/
theorem files (copies : CopiesFile toks i source target last m read) : read.files = m.files := by
  rcases copies.paths with ⟨_, _, readsSource, -, readsTarget⟩
  rw [readsTarget.unbound.files, readsSource.unbound.files]

theorem sourceAndTarget?_run (copies : CopiesFile toks i source target last m read) :
    (Verb.sourceAndTarget? toks (i + 1)).run m = (some (source, target, last), read) := by
  rcases copies.paths with ⟨_, _, readsSource, particle, readsTarget⟩
  unfold Verb.sourceAndTarget?
  rw [if_pos copies.noun, Act.run_bind, readsSource.targetValue?_run]
  dsimp only
  rw [if_pos particle, Act.run_bind, readsTarget.targetValue?_run]
  rfl

theorem dispatch_copy (copies : CopiesFile toks i source target last m read) (run : Runner) :
    dispatch run toks i = Verb.copyFile toks i := by
  unfold dispatch
  rw [copies.head]
  rfl

/-- The statement puts the copied files in place, and raises a bug if something went wrong. -/
theorem run (copies : CopiesFile toks i source target last m read) (run : Runner) :
    (dispatch run toks i).run m =
      (last, match (m.files.copy source target).2 with
        | none => { read with files := (m.files.copy source target).1 }
        | some problem => Machine.raiseBug ("Copy Error: " ++ problem)
            { read with files := (m.files.copy source target).1 }) := by
  rw [copies.dispatch_copy]
  unfold Verb.copyFile
  rw [Act.run_bind, copies.sourceAndTarget?_run]
  dsimp only
  rw [Act.run_bind, Act.run_get, copies.files]
  generalize m.files.copy source target = outcome
  rcases outcome with ⟨files, _ | problem⟩ <;> rfl

end CopiesFile

/-- The statement `copy file @"SOURCE" to @"TARGET"`, in whose strings no variable is named. -/
def QuotedCopy (toks : TokenStream) (i : Nat) (source target : String) : Prop :=
  ((toks.peek i).kind = .word .copy ∧ (toks.peek (i + 1)).isWord .file = true) ∧
    (QuotedPath toks (i + 2) source ∧ '$' ∉ source.toList) ∧
      (toks.peek (i + 4)).isWord .to = true ∧ QuotedPath toks (i + 5) target ∧ '$' ∉ target.toList

instance (toks : TokenStream) (i : Nat) (source target : String) :
    Decidable (QuotedCopy toks i source target) :=
  inferInstanceAs (Decidable (_ ∧ _))

/-- Two strings behind at signs are read as the paths that they are. -/
theorem QuotedCopy.copies {toks : TokenStream} {i : Nat} {source target : String}
    (quoted : QuotedCopy toks i source target) (m : Machine) :
    CopiesFile toks i source target (i + 6) m m := by
  rcases quoted with ⟨⟨head, noun⟩, ⟨first, plainSource⟩, particle, second, plainTarget⟩
  exact ⟨head, noun, i + 3, m, first.reads plainSource m, particle, second.reads plainTarget m⟩

end BigScript
