import BigScript.Proofs.ListStatement
import BigScript.Proofs.Target.Sign

/-!
# Statements with a target

The statements that are meant for a target behind an at sign have many forms: operands and words stand
in front of the sign, and some come to a second one.  `Signs.ofStatement` says for each of them to
which signs it comes and what it has read by then; it does not look at what the statement is for.

Each form heeds its signs (`TakesTarget.heeds_dispatch`), because it reads to its last sign before it
acts.  `rejection_law` says what this comes to.  At a misplaced sign one line is printed, nothing else
is changed, the rest of the statement's line is given up, and the walk goes on behind it.  Nothing else
that these statements print has an at sign in it, so that `Signs.ofStatement` leaves out no sign.
-/

namespace BigScript

open Machine Statement

/-! ## Where the signs are -/

namespace Signs

variable (toks : TokenStream) (i : Nat)

/-- Behind an item, with an optional word between them. -/
def item (particle : Keyword) (j : Nat) : Signs :=
  .behind (Operand.value toks j) fun last =>
    .sign toks (if (toks.peek (last + 1)).isWord particle then last + 2 else last + 1)

/-- In front of a position and behind it. -/
def position (j : Nat) : Signs := .target toks j fun last => .sign toks (last + 1)

/-- Behind a text. -/
def text (j : Nat) : Signs := .behind (Operand.text toks j) fun last => .sign toks (last + 1)

/-- `list add X to @L`, `list remove X from @L`, `list cut @N @L`, `list sort @L`,
`list insert X at @N @L` and `list folder @PATH`. -/
def list : Signs :=
  match (toks.peek (i + 1)).lexeme with
  | .word .add => item toks .to (i + 2)
  | .word .remove => item toks .fromWord (i + 2)
  | .word .cut => position toks (i + 2)
  | .word .insert =>
    behind (Operand.value toks (i + 2)) fun last =>
      position toks (Verb.skipPositionWords toks (last + 1))
  | .word .sort | .word .folder => sign toks (i + 2)
  | _ => none

/-- `map set KEY as X @M`. -/
def mapSet : Signs :=
  behind (Operand.value toks (i + 2)) fun last =>
    if (toks.peek (last + 1)).isWord .asWord then
      behind (Operand.value toks (last + 2)) fun last => sign toks (last + 1)
    else none

/-- `map set`, `map remove KEY from @M` and `map merge M @N`. -/
def map : Signs :=
  match (toks.peek (i + 1)).lexeme with
  | .word .set => mapSet toks i
  | .word .remove => item toks .fromWord (i + 2)
  | .word .merge => sign toks ((toks.bracedName (i + 2)).2 + 1)
  | _ => none

/-- `replace A with B @T`. -/
def replace : Signs :=
  behind (Operand.text toks (i + 1)) fun last =>
    if (toks.peek (last + 1)).isWord .withWord then text toks (last + 2) else none

/-- `create folder X @PATH` and `create file X @PATH`. -/
def create : Signs :=
  if (toks.peek (i + 1)).isWord .folder || (toks.peek (i + 1)).isWord .file then text toks (i + 2)
  else none

/-- `delete file @PATH`. -/
def delete : Signs := if (toks.peek (i + 1)).isWord .file then sign toks (i + 2) else none

/-- `copy file @PATH to @PATH`, and `move` likewise. -/
def paths : Signs :=
  if (toks.peek (i + 1)).isWord .file then
    target toks (i + 2) fun last =>
      if (toks.peek (last + 1)).isWord .to then sign toks (last + 2) else none
  else none

/-- `look for X .. @SOURCE`. -/
def look : Signs :=
  let first := if (toks.peek (i + 1)).isWord .forWord then i + 2 else i + 1
  let j := (Verb.lookWords toks false first).2
  sign toks (j + Verb.selectorRun toks i j)

/-- `dbig set KEY as [list] X @PATH`. -/
def keySet : Signs :=
  behind (Operand.text toks (i + 2)) fun last =>
    if (toks.peek (last + 1)).isWord .asWord then
      text toks (if (toks.peek (last + 2)).isWord .list then last + 3 else last + 2)
    else none

/-- `dbig check keys value < X @PATH` and `dbig check [X of] KEY @PATH`. -/
def keyCheck : Signs :=
  if (toks.peek (i + 2)).isWord .keys then
    if (toks.peek (i + 3)).isWord .value then text toks (i + 5) else none
  else
    behind (Operand.text toks (i + 2)) fun last =>
      if (toks.peek (last + 1)).isWord .of then text toks (last + 2) else sign toks (last + 1)

/-- `dbig get KEY @PATH`, `dbig set`, `dbig remove KEY @PATH` and `dbig check`. -/
def dbig : Signs :=
  match (toks.peek (i + 1)).lexeme with
  | .word .get | .word .remove => text toks (i + 2)
  | .word .set => keySet toks i
  | .word .check => keyCheck toks i
  | _ => none

/-- The signs a statement comes to; `get from L @N` is the only form of `get` with one. -/
def ofStatement : Signs :=
  match (toks.peek i).kind with
  | .word .list => list toks i
  | .word .map => map toks i
  | .word .get => sign toks ((toks.bracedName (i + 2)).2 + 1)
  | .word .replace => replace toks i
  | .word .bmath => behind (Operand.value toks (i + 1)) fun last => sign toks (last + 1)
  | .word .write => text toks (i + 1)
  | .word .add => text toks (i + 1)
  | .word .create => create toks i
  | .word .delete => delete toks i
  | .word .copy => paths toks i
  | .word .move => paths toks i
  | .word .look => look toks i
  | .word .dbig => dbig toks i
  | _ => none

end Signs

/-! ## What is done behind the signs -/

section Mute

variable (toks : TokenStream)

theorem Machine.assign_output (name value : String) (m : Machine) :
    (m.assign name value).output = m.output := by
  unfold assign
  dsimp only
  rw [m.watch_eq]
  split
  · split <;> rfl
  · rfl

theorem Machine.assign_mute (name value : String) : Mute (modify (assign name value) : Act Unit) :=
  .modify (assign_output name value)

theorem Results.bindNames_mute (line : Nat) (results : List String) (j : Nat) :
    Mute (bindNames toks line results j) := by
  unfold bindNames
  split
  · refine .ite ?_ (.pure _)
    exact (Machine.assign_mute _ _).bind fun _ =>
      bindNames_mute line (results.drop 1) ((toks.bracedName j).2 + 1)
  · exact .pure _
termination_by toks.size - j
decreasing_by
  have := toks.le_bracedName j
  omega

theorem Statement.finish_mute (last : Nat) (results : List String) :
    Mute (finish toks last results) := by
  refine .ite (.ite ?_ ?_) (.pure _)
  · exact (Machine.assign_mute _ _).bind fun _ => .pure _
  · exact (Results.bindNames_mute toks _ _ _).bind fun _ => .pure _

theorem Statement.raise_mute (message : String) : Mute (raise message) := .modify fun _ => rfl

theorem Statement.printLine_mute {line : String} (signless : '@' ∉ line.toList) :
    Mute (printLine line) := by
  refine fun m => ⟨line ++ "\n", ?_, rfl⟩
  rw [String.toList_append, List.mem_append, not_or]
  exact ⟨signless, by decide⟩

namespace Verb

theorem setFiles_mute (files : FileTree) : Mute (setFiles files) := .modify fun _ => rfl

theorem updateList_mute (name : String) (change : List Json → List Json) :
    Mute (updateList name change) := by
  refine .look fun m => ?_
  split
  · exact Machine.assign_mute _ _
  · exact .pure _

theorem updateMap_mute (name : String) (change : List (String × Json) → List (String × Json)) :
    Mute (updateMap name change) := by
  refine .look fun m => ?_
  split
  · exact Machine.assign_mute _ _
  · exact .pure _

theorem keyOfMap?_computes (i : Nat) : Computes (keyOfMap? toks i) :=
  (Operand.value_computes toks i).bind fun _ => .ite (.pure _) (.pure _)

theorem replaceInFile_mute (old new path : String) : Mute (replaceInFile old new path) := by
  refine .look fun m => ?_
  dsimp only
  split
  · exact raise_mute _
  · split
    · exact setFiles_mute _
    · exact raise_mute _

theorem lookJson_mute (source key : String) : Mute (lookJson source key) := by
  unfold lookJson
  split
  · exact .pure _
  · exact (printLine_mute (by decide)).bind fun _ => .pure _

theorem pickOut_mute (json : Bool) (source selector : String) :
    Mute (pickOut json source selector) :=
  .ite (.pure _) (.ite (lookJson_mute source selector) (.pure _))

theorem openKeys?_mute (path : String) : Mute (openKeys? path) := by
  refine .look fun m => ?_
  dsimp only
  split
  · exact .pure _
  · split
    · exact (setFiles_mute _).bind fun _ => .pure _
    · exact (raise_mute _).bind fun _ => .pure _
  · exact (raise_mute _).bind fun _ => .pure _
  · split
    · exact (setFiles_mute _).bind fun _ => .pure _
    · exact (raise_mute _).bind fun _ => .pure _

theorem saveKeys_mute (path : String) (ledger : Ledger) : Mute (saveKeys path ledger) :=
  .look fun _ => setFiles_mute _

theorem changeKeys_mute (file : String) (change : Ledger → Ledger) (last : Nat) :
    Mute (do
      match ← openKeys? file with
      | some ledger => saveKeys file (change ledger)
      | none => pure ()
      return last : Act Nat) := by
  refine (openKeys?_mute file).bind fun ledger => ?_
  split
  · exact (saveKeys_mute _ _).bind fun _ => .pure _
  · exact (Mute.pure _).bind fun _ => .pure _

theorem readKeys_mute (file : String) (read : Ledger → List String) (last : Nat) :
    Mute (do
      match ← openKeys? file with
      | some ledger => finish toks last (read ledger)
      | none => return last : Act Nat) := by
  refine (openKeys?_mute file).bind fun ledger => ?_
  split
  · exact finish_mute toks _ _
  · exact .pure _

end Verb
end Mute

/-! ## Every statement heeds its signs -/

namespace Verb

variable (toks : TokenStream) (i : Nat)

theorem heeds_itemAndTarget? (particle : Keyword) :
    Heeds toks (.item toks particle i) none (itemAndTarget? particle toks i) :=
  .behind (Operand.value_computes toks i) fun _ => .bind (.targetName? toks _) rfl fun _ => .pure _

theorem heeds_positionAndTarget? :
    Heeds toks (.position toks i) none (positionAndTarget? toks i) :=
  .target rfl fun _ => .bind (.targetName? toks _) rfl fun _ => .pure _

theorem heeds_listFolder : Heeds toks (.sign toks (i + 2)) (toks.lineEnd i) (listFolder toks i) := by
  refine .bind (.targetValue? toks (i + 2)) rfl fun path => .look fun m => ?_
  split
  · exact (raise_mute _).bind fun _ => finish_mute toks _ _
  · exact finish_mute toks _ _

theorem heeds_list : Heeds toks (.list toks i) (toks.lineEnd i) (list toks i) := by
  unfold Signs.list list
  generalize (toks.peek (i + 1)).lexeme = action
  split
  · exact .bind (heeds_itemAndTarget? toks _ _) rfl fun _ =>
      (updateList_mute _ _).bind fun _ => .pure _
  · exact .bind (heeds_itemAndTarget? toks _ _) rfl fun _ =>
      (updateList_mute _ _).bind fun _ => .pure _
  · exact .bind (heeds_positionAndTarget? toks _) rfl fun _ =>
      (updateList_mute _ _).bind fun _ => .pure _
  · exact .behind (Operand.value_computes toks _) fun _ =>
      .bind (heeds_positionAndTarget? toks _) rfl fun _ =>
        (updateList_mute _ _).bind fun _ => .pure _
  · exact .bind (.targetName? toks _) rfl fun _ => (updateList_mute _ _).bind fun _ => .pure _
  · exact heeds_listFolder toks i
  · -- No other word begins a statement on lists.
    split
    iterate 6 contradiction
    exact .of_mute (.pure _)

theorem heeds_mapSet : Heeds toks (.mapSet toks i) (toks.lineEnd i) (mapSet toks i) := by
  refine .behind (Operand.value_computes toks _) fun key => .ite ?_ (.of_mute (.pure _))
  refine .behind (Operand.value_computes toks _) fun value => ?_
  exact .bind (.targetName? toks _) rfl fun _ => (updateMap_mute _ _).bind fun _ => .pure _

theorem heeds_mapMerge :
    Heeds toks (.sign toks ((toks.bracedName (i + 2)).2 + 1)) (toks.lineEnd i)
      (mapMerge toks i) := by
  refine .bind (.targetName? toks _) rfl fun target => .look fun m => ?_
  split
  · exact (updateMap_mute _ _).bind fun _ => .pure _
  · exact .pure _

theorem heeds_map : Heeds toks (.map toks i) (toks.lineEnd i) (map toks i) := by
  unfold Signs.map map
  generalize (toks.peek (i + 1)).lexeme = action
  split
  · exact heeds_mapSet toks i
  · exact .bind (heeds_itemAndTarget? toks _ _) rfl fun _ =>
      (updateMap_mute _ _).bind fun _ => .pure _
  · exact heeds_mapMerge toks i
  · -- What is left comes to no sign: it asks for a field, or it is no statement on maps.
    split
    · contradiction
    · refine .of_mute ((Mute.of_computes (keyOfMap?_computes toks _)).bind fun key => ?_)
      split
      · exact .pure _
      · exact .look fun m => .ite (finish_mute toks _ _) (.pure _)
    · refine .of_mute ((Mute.of_computes (keyOfMap?_computes toks _)).bind fun key => ?_)
      split
      · exact .pure _
      · exact .look fun m => finish_mute toks _ _
    · contradiction
    · contradiction
    · exact .of_mute (.pure _)

theorem heeds_replace : Heeds toks (.replace toks i) (toks.lineEnd i) (replace toks i) := by
  refine .behind (Operand.text_computes toks _) fun old => .ite ?_ (.of_mute (.pure _))
  refine .behind (Operand.text_computes toks _) fun new => .bind (.targetName? toks _) rfl fun _ => ?_
  refine .ite ((Mute.modify fun m => m.assign_output _ _).bind fun _ => .pure _) ?_
  split
  · exact .look fun m => (replaceInFile_mute _ _ _).bind fun _ => .pure _
  · exact (replaceInFile_mute _ _ _).bind fun _ => .pure _

theorem heeds_findPattern : Heeds toks
    (.behind (Operand.value toks (i + 1)) fun last => .sign toks (last + 1)) (toks.lineEnd i)
    (findPattern toks i) :=
  .behind (Operand.value_computes toks _) fun _ =>
    .bind (.targetValue? toks _) rfl fun _ => finish_mute toks _ _

theorem heeds_writeFile (adding : Bool) :
    Heeds toks (.text toks (i + 1)) (toks.lineEnd i) (writeFile adding toks i) := by
  refine .behind (Operand.text_computes toks _) fun content =>
    .bind (.targetValue? toks _) rfl fun path => .look fun m => ?_
  dsimp only
  split
  · exact (setFiles_mute _).bind fun _ => .pure _
  · exact (raise_mute _).bind fun _ => .pure _

theorem heeds_create : Heeds toks (.create toks i) (toks.lineEnd i) (create toks i) := by
  refine .ite ?_ (.of_mute (.pure _))
  refine .behind (Operand.text_computes toks _) fun name =>
    .bind (.targetValue? toks _) rfl fun folder => .look fun m => .ite ?_ ?_
  · split
    · exact (setFiles_mute _).bind fun _ => .pure _
    · exact (raise_mute _).bind fun _ => .pure _
  · split
    · exact (setFiles_mute _).bind fun _ => .pure _
    · exact (raise_mute _).bind fun _ => .pure _

theorem heeds_delete : Heeds toks (.delete toks i) (toks.lineEnd i) (delete toks i) := by
  refine .ite (.bind (.targetValue? toks _) rfl fun path => .look fun m => ?_) (.of_mute (.pure _))
  split
  · exact (setFiles_mute _).bind fun _ => .pure _
  · exact (raise_mute _).bind fun _ => .pure _

theorem heeds_sourceAndTarget? :
    Heeds toks (.paths toks i) none (sourceAndTarget? toks (i + 1)) :=
  .ite (.target rfl fun _ => .ite (.bind (.targetValue? toks _) rfl fun _ => .pure _)
    (.of_mute (.pure _))) (.of_mute (.pure _))

theorem heeds_copyFile : Heeds toks (.paths toks i) (toks.lineEnd i) (copyFile toks i) := by
  refine .bind (heeds_sourceAndTarget? toks i) rfl fun paths => .look fun m =>
    (setFiles_mute _).bind fun _ => ?_
  split
  · exact (raise_mute _).bind fun _ => .pure _
  · exact .pure _

theorem heeds_moveFile : Heeds toks (.paths toks i) (toks.lineEnd i) (moveFile toks i) := by
  refine .bind (heeds_sourceAndTarget? toks i) rfl fun paths => .look fun m => ?_
  split
  · exact (setFiles_mute _).bind fun _ => .pure _
  · exact (raise_mute _).bind fun _ => .pure _

theorem heeds_getFrom :
    Heeds toks (.sign toks ((toks.bracedName (i + 2)).2 + 1)) (toks.lineEnd i)
      (getFrom toks i (i + 1)) := by
  refine .bind (.targetValue? toks _) rfl fun position => .look fun m => ?_
  split
  · exact finish_mute toks _ _
  · exact .pure _

theorem heeds_look : Heeds toks (.look toks i) (toks.lineEnd i) (look toks i) :=
  .look fun _ => .bind (.targetValue? toks _) rfl fun _ =>
    (Mute.mapM (pickOut_mute _ _) _).bind fun _ => finish_mute toks _ _

theorem heeds_keyFile? (loud : Bool) (j : Nat) :
    Heeds toks (.sign toks j) none (keyFile? loud toks j) :=
  .bind (.targetValue? toks j) rfl fun _ =>
    .ite (.pure _) (.ite ((printLine_mute (by decide)).bind fun _ => .pure _) (.pure _))

theorem heeds_keySet : Heeds toks (.keySet toks i) (toks.lineEnd i) (keySet toks i) := by
  refine .behind (Operand.text_computes toks _) fun key => .ite ?_ (.of_mute (.pure _))
  exact .behind (Operand.text_computes toks _) fun raw =>
    .bind (heeds_keyFile? toks true _) rfl fun _ => changeKeys_mute _ _ _

theorem heeds_keyRemove : Heeds toks (.text toks (i + 2)) (toks.lineEnd i) (keyRemove toks i) :=
  .behind (Operand.text_computes toks _) fun _ =>
    .bind (heeds_keyFile? toks true _) rfl fun _ => changeKeys_mute _ _ _

theorem heeds_keyGet : Heeds toks (.text toks (i + 2)) (toks.lineEnd i) (keyGet toks i) :=
  .behind (Operand.text_computes toks _) fun _ =>
    .bind (heeds_keyFile? toks true _) rfl fun _ => readKeys_mute toks _ _ _

theorem heeds_keyCheck : Heeds toks (.keyCheck toks i) (toks.lineEnd i) (keyCheck toks i) := by
  refine .ite (.ite ?_ (.of_mute (.pure _)))
    (.behind (Operand.text_computes toks _) fun item => .ite ?_ (.supply ?_))
  · exact .behind (Operand.text_computes toks _) fun _ =>
      .bind (heeds_keyFile? toks false _) rfl fun _ => readKeys_mute toks _ _ _
  · exact .behind (Operand.text_computes toks _) fun _ =>
      .supply (.bind (heeds_keyFile? toks false _) rfl fun _ => readKeys_mute toks _ _ _)
  · exact .bind (heeds_keyFile? toks false _) rfl fun _ => readKeys_mute toks _ _ _

theorem heeds_dbig : Heeds toks (.dbig toks i) (toks.lineEnd i) (dbig toks i) := by
  unfold Signs.dbig dbig
  generalize (toks.peek (i + 1)).lexeme = action
  split
  · exact heeds_keyGet toks i
  · exact heeds_keyRemove toks i
  · exact heeds_keySet toks i
  · exact heeds_keyCheck toks i
  · split
    iterate 4 contradiction
    exact .of_mute (.pure _)

end Verb

/-! ## The law -/

/-- The words that begin a statement with a target. -/
def targetWords : List Keyword :=
  [.list, .map, .replace, .bmath, .write, .add, .create, .delete, .copy, .move, .look, .dbig]

/-- A statement that is meant for a target.  Of the forms of `get` it is the question for an element of
a list, without a conversion behind it. -/
inductive TakesTarget (toks : TokenStream) (i : Nat) : Prop where
  | word {word : Keyword} (member : word ∈ targetWords) (head : (toks.peek i).kind = .word word)
  | get (head : (toks.peek i).kind = .word .get) (line : toks.onLine i (i + 1) = true)
      (particle : (toks.peek (i + 1)).kind = .word .fromWord)
      (unconverted : Verb.asIndex? toks (i + 1) (i + 1) = none)

variable {toks : TokenStream} {i : Nat}

theorem TakesTarget.heeds_dispatch (takes : TakesTarget toks i) (run : Runner) :
    Heeds toks (.ofStatement toks i) (toks.lineEnd i) (dispatch run toks i) := by
  cases takes with
  | word member head =>
      unfold Signs.ofStatement dispatch
      rw [head]
      simp only [targetWords, List.mem_cons, List.not_mem_nil, or_false] at member
      rcases member with rfl | rfl | rfl | rfl | rfl | rfl | rfl | rfl | rfl | rfl | rfl | rfl
      · exact Verb.heeds_list toks i
      · exact Verb.heeds_map toks i
      · exact Verb.heeds_replace toks i
      · exact Verb.heeds_findPattern toks i
      · exact Verb.heeds_writeFile toks i false
      · exact Verb.heeds_writeFile toks i true
      · exact Verb.heeds_create toks i
      · exact Verb.heeds_delete toks i
      · exact Verb.heeds_copyFile toks i
      · exact Verb.heeds_moveFile toks i
      · exact Verb.heeds_look toks i
      · exact Verb.heeds_dbig toks i
  | get head line particle unconverted =>
      unfold Signs.ofStatement
      rw [dispatch_getFrom run head line particle unconverted, head]
      exact Verb.heeds_getFrom toks i

/-- A statement with a target runs no other tokens. -/
theorem TakesTarget.alone (takes : TakesTarget toks i) (m : Machine) : nested? toks i m = none := by
  unfold nested?
  cases takes with
  | word member head =>
      rw [head]
      simp only [targetWords, List.mem_cons, List.not_mem_nil, or_false] at member
      rcases member with rfl | rfl | rfl | rfl | rfl | rfl | rfl | rfl | rfl | rfl | rfl | rfl <;> rfl
  | get head => rw [head]

/-- The tokens up to the end of a line are on it. -/
theorem TokenStream.line_of_lineRun (toks : TokenStream) (line i : Nat) {j : Nat} (after : i ≤ j)
    (before : j < i + toks.lineRun line i) : (toks.peek j).line = line := by
  have inside := toks.lineRun_within line i (j - i) (by omega)
  rw [Nat.add_sub_cancel' after] at inside
  exact inside.2

/-- A statement prints a line and is over with the line it stands on.  Besides that it turns the machine
`m` into `read` and does nothing more. -/
structure Refuses (toks : TokenStream) (i : Nat) (m read : Machine) (line : String) : Prop where
  result : ∀ run, (dispatch run toks i).run m = (toks.lineEnd i, read.print (line ++ "\n"))
  oneLine : '\n' ∉ line.toList
  /-- The walk goes on behind the line. -/
  goesOn : ∀ (before : Machine) (steps : Nat), before.arrive toks i = .ready m →
    before.exec (steps + 1) toks i =
      (read.print (line ++ "\n")).exec steps toks (toks.lineEnd i + 1)

/-- The law of a statement with a target. -/
structure RejectionLaw (toks : TokenStream) (i : Nat) (m : Machine) : Prop where
  /-- The check of a sign fails if the sign is misplaced. -/
  checked : ∀ k read, ((Results.checkAt toks k).run read).1 = false ↔ ∃ line, toks.Misplaced k line
  /-- At a misplaced sign the statement refuses with the line about the sign.  What it has done by then
  is to read operands: if they have raised no bug, this is nothing. -/
  refused : ∀ {k : Nat} {read : Machine} {line : String}, Signs.ofStatement toks i m k read →
    toks.Misplaced k line → Refuses toks i m read line ∧ (read.raises = m.raises → read = m)
  /-- If no sign is misplaced that it comes to, it prints no such line. -/
  spared : (∀ k read, Signs.ofStatement toks i m k read → toks.Placed k) →
    ∀ run, Signless m ((dispatch run toks i).run m).2
  /-- The tokens that a refusal gives up are those on the line of the statement. -/
  line : ∀ j, i < j → j ≤ toks.lineEnd i → (toks.peek j).line = (toks.peek i).line
  nextLine : (toks.peek (toks.lineEnd i + 1)).isFinish = true ∨
    (toks.peek (toks.lineEnd i + 1)).line ≠ (toks.peek i).line

theorem rejection_law (takes : TakesTarget toks i) (m : Machine) : RejectionLaw toks i m where
  checked k read := TokenStream.checkAt_eq_false_iff toks k read
  refused {k read line} comes misplaced := by
    have result (run : Runner) := (takes.heeds_dispatch run).refuses comes misplaced
    constructor
    · refine ⟨result, misplaced.oneLine, fun before steps arrived => ?_⟩
      rw [exec_succ, arrived]
      dsimp only
      rw [takes.alone m]
      dsimp only
      rw [result]
    · intro calm
      rcases (takes.heeds_dispatch idle).computes comes with ⟨times, shown⟩
      rw [shown] at calm ⊢
      exact m.divided_unraised times calm
  spared placed run := (takes.heeds_dispatch run).spared placed
  line j behind within := by
    unfold TokenStream.lineEnd at within
    exact toks.line_of_lineRun _ (i + 1) behind (by omega)
  nextLine := toks.lineEnd_stop i

/-- A copy whose second path is not set off from the word in front of it. -/
def crowdedCopy : String := "copy file @\"a.txt\" to@\"b.txt\""

theorem rejection_law_crowdedCopy :
    TakesTarget (scan crowdedCopy) 0 ∧
      Signs.ofStatement (scan crowdedCopy) 0 (.start {}) 5 (.start {}) ∧
      (dispatch idle (scan crowdedCopy) 0).run (.start {}) =
        (6, (Machine.start {}).print "Big Error: Missing space before '@'! (Line 1)\n") := by
  let toks := scan crowdedCopy
  let m := Machine.start {}
  have ⟨⟨head, file⟩, ⟨sign, gap, line, attached⟩, ⟨quoted, path⟩,
      ⟨particle, nextSign, sameLine, close⟩, place, ends⟩ :
      ((toks.peek 0).kind = .word .copy ∧ (toks.peek 1).isWord .file = true) ∧
        ((toks.peek 2).isSymbol .at = true ∧
          (toks.peek 1).column + (toks.peek 1).width < (toks.peek 2).column ∧
          (toks.peek 3).line = (toks.peek 2).line ∧
          (toks.peek 3).column = (toks.peek 2).column + 1) ∧
        ((toks.peek 3).kind = .text ∧ (toks.peek 3).content = "a.txt") ∧
        ((toks.peek 4).isWord .to = true ∧ (toks.peek 5).isSymbol .at = true ∧
          (toks.peek 4).line = (toks.peek 5).line ∧
          (toks.peek 5).column ≤ (toks.peek 4).column + (toks.peek 4).width) ∧
        (toks.peek 5).line = 1 ∧ toks.lineEnd 0 = 6 := by
    decide +kernel
  have takes : TakesTarget toks 0 := .word (by decide) head
  have crowded : toks.Misplaced 5 _ := .crowded (by decide) sameLine close
  have read : (Operand.text toks 3).run m = (((toks.peek 3).content, 3), m) :=
    Operand.text_quoted quoted (by rw [path]; decide) m
  have comes : Signs.ofStatement toks 0 m 5 m := by
    unfold Signs.ofStatement
    rw [head]
    dsimp only
    unfold Signs.paths
    rw [if_pos file]
    refine .inr ⟨sign, TokenStream.placed_of_attached gap line attached, ?_⟩
    unfold Signs.behind
    rw [read]
    dsimp only
    rw [if_pos particle]
    exact ⟨nextSign, rfl, rfl⟩
  refine ⟨takes, comes, ?_⟩
  have refuses := ((rejection_law takes m).refused comes crowded).1
  rw [refuses.result idle, ends, place]
  rfl

end BigScript
