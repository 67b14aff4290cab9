import BigScript.Proofs.Service.Attendance
import BigScript.Proofs.Service.Revision

/-!
# Which revision an execution runs

To begin an execution a client takes three steps: it looks the script up, it has the record of the
execution made, and it reads the source to run.  Each step is indivisible, but between them other
clients may change the catalog.  The record is made under the name of the script, with the revision
that is current at that moment.  The source is read through the script that was looked up first, and
that is not a copy: as long as it stands in the catalog, whoever replaces its source changes what the
client reads.

So the source need not be the one that is stored under the recorded revision.  `revision_law` says
exactly when it is: the script must not be deleted before the record is made, and its source must not
be replaced between then and the reading, as long as the script stands in the catalog.
-/

namespace BigScript
namespace Service

/-- A script that a client has looked up: one that stands in the catalog under a name, or one that
has been removed from it since, as it was then. -/
inductive Held where
  | standing (name : String)
  | removed (script : Script)

namespace Held

/-- What the client sees of it. -/
def contents? (catalog : Catalog) : Held → Option Script
  | .standing name => catalog.script? name
  | .removed script => some script

/-- What becomes of it by an operation.  Removing it from the catalog leaves it to those who hold
it; what is created later under its name is another script. -/
def step (catalog : Catalog) (operation : Operation) : Held → Held
  | .removed script => .removed script
  | .standing name =>
    if operation.removes name then
      match catalog.script? name with
      | some script => .removed script
      | none => .standing name
    else .standing name

/-- What becomes of it by operations in their order. -/
def through (catalog : Catalog) : List Operation → Held → Held
  | [], held => held
  | operation :: rest, held => through (operation.run catalog) rest (held.step catalog operation)

theorem through_removed (catalog : Catalog) (operations : List Operation) (script : Script) :
    through catalog operations (.removed script) = .removed script := by
  induction operations generalizing catalog with
  | nil => rfl
  | cons operation rest ih => exact ih _

/-- A deletion leaves a script to those who hold it. -/
theorem through_of_removes {catalog : Catalog} {operation : Operation} {name : String}
    {script : Script} (removes : operation.removes name = true)
    (found : catalog.script? name = some script) (rest : List Operation) :
    through catalog (operation :: rest) (.standing name) = .removed script := by
  have held : (standing name).step catalog operation = .removed script := by
    unfold step
    dsimp only
    rw [if_pos removes, found]
  rw [through, held, through_removed]

theorem through_of_stays {operation : Operation} {name : String}
    (stays : operation.removes name = false) (catalog : Catalog) (rest : List Operation) :
    through catalog (operation :: rest) (.standing name) =
      through (operation.run catalog) rest (.standing name) := by
  have held : (standing name).step catalog operation = .standing name := by
    unfold step
    dsimp only
    rw [stays, if_neg Bool.false_ne_true]
  rw [through, held]

end Held

/-- The three steps by which a client begins an execution, and what others do before, between and
after them. -/
structure Interleaving where
  name : String
  args : List String
  now : Moment
  id : String
  /-- What has been done to the catalog before the script is looked up. -/
  before : List Operation
  /-- What is done between looking it up and making the record. -/
  between : List Operation
  /-- What is done between making the record and reading the source. -/
  later : List Operation

namespace Interleaving

/-- The catalog in which the script is looked up. -/
def looked (steps : Interleaving) : Catalog := ({} : Catalog).after steps.before

/-- The catalog in which the record is made. -/
def found (steps : Interleaving) : Catalog := steps.looked.after steps.between

/-- The record that is made and the script whose source is run, unless a lookup is refused. -/
def carryOut (steps : Interleaving) : Option (Execution × Script) := do
  let _ ← steps.looked.script? steps.name
  let held := Held.through steps.looked steps.between (.standing steps.name)
  let (execution, begun) ←
    (steps.found.begin steps.now steps.id steps.name steps.args).toOption
  let script ← (held.through begun steps.later).contents? (begun.after steps.later)
  return (execution, script)

/-- Everything that is done to the catalog. -/
def operations (steps : Interleaving) : List Operation :=
  steps.before ++ steps.between ++
    .begin steps.now steps.id steps.name steps.args :: steps.later

/-- Whether others leave the script alone while it matters. -/
structure Undisturbed (steps : Interleaving) : Prop where
  stands : ∀ operation ∈ steps.between, operation.removes steps.name = false
  unchanged : ∀ operation ∈ steps.later.takeWhile fun operation => !operation.removes steps.name,
    operation.rewrites steps.name = false

end Interleaving

/-! ## What is held -/

namespace Held

variable {catalog : Catalog} {name : String} {script : Script}

/-- A script that nobody deletes stays where it is; one that is deleted is held as it was, with a
revision that no script of that name will have again. -/
theorem through_between (numbered : catalog.Numbered) (operations : List Operation)
    (found : catalog.script? name = some script) :
    (through catalog operations (.standing name) = .standing name ∧
        (∀ operation ∈ operations, operation.removes name = false)) ∨
      ∃ old, through catalog operations (.standing name) = .removed old ∧
        (∃ operation ∈ operations, operation.removes name = true) ∧
        ∀ later, (catalog.after operations).script? name = some later →
          old.revision ≠ later.revision := by
  induction operations generalizing catalog script with
  | nil => exact .inl ⟨rfl, nofun⟩
  | cons operation rest ih =>
    have changes := operation.changes catalog
    have further := numbered.writes changes.writes
    rcases changes.known found with ⟨removes, -, gone⟩ | standing
    · refine .inr ⟨script, through_of_removes removes found rest,
        ⟨operation, List.mem_cons_self, removes⟩, ?_⟩
      intro later there same
      -- The script of that name is not among those that the deletion has left.
      rcases Catalog.mem_after rest (Catalog.script?_mem there) with kept | newer
      · have named := Catalog.script?_name there
        have missing := List.find?_eq_none.mp gone later kept
        exact missing (beq_iff_eq.mpr named)
      · have bound := numbered.bounded script (Catalog.script?_mem found)
        have grows := catalog.revisions_le_after [operation]
        change catalog.revisions ≤ (operation.run catalog).revisions at grows
        omega
    · have stays : operation.removes name = false ∧
          ∃ next, (operation.run catalog).script? name = some next := by
        rcases standing with ⟨stays, -, written, there, -⟩ | ⟨stays, -, there⟩
        · exact ⟨stays, written, there⟩
        · exact ⟨stays, script, there⟩
      rcases stays with ⟨stays, next, there⟩
      rw [through_of_stays stays]
      rcases ih further there with ⟨same, none⟩ | ⟨old, removed, ⟨deletion, member, removes⟩, apart⟩
      · exact .inl ⟨same, List.forall_mem_cons.mpr ⟨stays, none⟩⟩
      · exact .inr ⟨old, removed, ⟨deletion, List.mem_cons_of_mem _ member, removes⟩, apart⟩

/-- A script that stands in the catalog is read as it is, unless it is written again before it is
deleted; then it is read with a newer revision. -/
theorem contents_later (numbered : catalog.Numbered) (operations : List Operation)
    (found : catalog.script? name = some script) :
    ∃ read, (through catalog operations (.standing name)).contents? (catalog.after operations) =
        some read ∧ script.revision ≤ read.revision ∧
      ((∀ operation ∈ operations.takeWhile fun operation => !operation.removes name,
        operation.rewrites name = false) → read = script) ∧
      ((∃ operation ∈ operations.takeWhile fun operation => !operation.removes name,
        operation.rewrites name = true) → script.revision < read.revision) := by
  induction operations generalizing catalog script with
  | nil =>
    refine ⟨script, found, Nat.le_refl _, fun _ => rfl, ?_⟩
    rintro ⟨_, member, _⟩
    cases member
  | cons operation rest ih =>
    have changes := operation.changes catalog
    have further := numbered.writes changes.writes
    rw [List.takeWhile_cons]
    rcases changes.known found with ⟨removes, -, gone⟩ | ⟨stays, rewrites, written, there, newer⟩ |
      ⟨stays, leaves, there⟩
    · rw [through_of_removes removes found, removes]
      refine ⟨script, rfl, Nat.le_refl _, fun _ => rfl, ?_⟩
      rintro ⟨_, member, _⟩
      cases member
    · rw [through_of_stays stays, stays]
      have bound := numbered.bounded script (Catalog.script?_mem found)
      rcases ih further there with ⟨read, seen, order, -, -⟩
      refine ⟨read, seen, by omega, ?_, fun _ => by omega⟩
      intro unwritten
      have same := unwritten operation List.mem_cons_self
      rw [rewrites] at same
      cases same
    · rw [through_of_stays stays, stays]
      rcases ih further there with ⟨read, seen, order, unchanged, changed⟩
      refine ⟨read, seen, order, ?_, ?_⟩
      · intro unwritten
        exact unchanged fun other member => unwritten other (List.mem_cons_of_mem _ member)
      · rintro ⟨other, member, rewrites⟩
        rcases List.mem_cons.mp member with rfl | there
        · rw [leaves] at rewrites
          cases rewrites
        · exact changed ⟨other, there, rewrites⟩

end Held

/-! ## What a client runs -/

/-- What is known about a record that was made and the script whose source was run. -/
structure Interleaving.Verdict (steps : Interleaving) (execution : Execution) (script : Script) :
    Prop where
  /-- The revision of the record is the one that was current when the record was made, and the only
  source that was ever stored under it is the one of that moment. -/
  recorded : ∃ version, steps.found.script? steps.name = some version ∧
    execution.revision = version.revision ∧
    ∀ source, StoredUnder steps.operations execution.revision source ↔ source = version.source
  /-- That revision is read exactly where others leave the script alone. -/
  read : script.revision = execution.revision ↔ steps.Undisturbed
  stored : steps.Undisturbed → StoredUnder steps.operations execution.revision script.source

namespace Interleaving

variable {steps : Interleaving} {execution : Execution} {script version : Script}

theorem looked_numbered (steps : Interleaving) : steps.looked.Numbered :=
  Catalog.empty_numbered.after steps.before

theorem found_numbered (steps : Interleaving) : steps.found.Numbered :=
  steps.looked_numbered.after steps.between

/-- Making the record is no change to the scripts. -/
theorem numbered_of_begin {catalog begun : Catalog} {now : Moment} {id name : String}
    {args : List String} (numbered : catalog.Numbered)
    (made : catalog.begin now id name args = .ok (execution, begun)) : begun.Numbered := by
  rcases Catalog.begin_scripts made with ⟨scripts, revisions⟩
  refine numbered.writes (.keeps revisions ?_)
  intro script member
  exact scripts ▸ member

theorem script?_of_begin {catalog begun : Catalog} {now : Moment} {id name : String}
    {args : List String} (made : catalog.begin now id name args = .ok (execution, begun)) :
    begun.script? name = catalog.script? name := by
  unfold Catalog.script?
  rw [(Catalog.begin_scripts made).1]

theorem begin_of_script? {catalog : Catalog} {name : String}
    (found : catalog.script? name = some version) (now : Moment) (id : String)
    (args : List String) : ∃ execution begun,
      catalog.begin now id name args = .ok (execution, begun) ∧
        execution.revision = version.revision := by
  unfold Catalog.begin
  rw [found]
  exact ⟨_, _, rfl, rfl⟩

/-- The source of the moment at which the record is made is stored under the revision of that
moment, and no other source ever is. -/
theorem storedUnder_iff (found : steps.found.script? steps.name = some version) (source : String) :
    StoredUnder steps.operations version.revision source ↔ source = version.source := by
  have stored : StoredUnder steps.operations version.revision version.source := by
    refine ⟨(steps.before ++ steps.between).length, version, ?_, rfl, rfl⟩
    unfold operations
    rw [List.take_left, Catalog.after_append]
    exact Catalog.script?_mem found
  constructor
  · exact fun other => other.unique stored
  · rintro rfl
    exact stored

/-- The lookup and the record are all that can be refused. -/
theorem carryOut_of_found {first : Script} (looked : steps.looked.script? steps.name = some first)
    (found : steps.found.script? steps.name = some version) :
    ∃ execution script, steps.carryOut = some (execution, script) ∧
      execution.revision = version.revision ∧
      (script.revision = version.revision ↔ steps.Undisturbed) ∧
      (steps.Undisturbed → script = version) := by
  rcases begin_of_script? found steps.now steps.id steps.args with ⟨execution, begun, made, same⟩
  have result (script : Script)
      (read : ((Held.through steps.looked steps.between (.standing steps.name)).through begun
        steps.later).contents? (begun.after steps.later) = some script) :
      steps.carryOut = some (execution, script) := by
    unfold carryOut
    rw [looked, made]
    change (_ >>= fun script => some (execution, script)) = _
    rw [read]
    rfl
  have there : begun.script? steps.name = some version := (script?_of_begin made).trans found
  rcases Held.through_between steps.looked_numbered steps.between looked with
    ⟨held, stands⟩ | ⟨old, held, deleted, apart⟩
  · -- The script that was looked up still stands when the record is made.
    rw [held] at result
    rcases Held.contents_later (numbered_of_begin steps.found_numbered made) steps.later there with
      ⟨script, seen, -, unchanged, changed⟩
    refine ⟨execution, script, result script seen, same, ?_, ?_⟩
    · constructor
      · intro revision
        refine ⟨stands, ?_⟩
        intro operation member
        rw [← Bool.not_eq_true]
        intro rewrites
        have newer := changed ⟨operation, member, rewrites⟩
        omega
      · intro undisturbed
        rw [unchanged undisturbed.unchanged]
    · exact fun undisturbed => unchanged undisturbed.unchanged
  · -- It was deleted, and the record is about another script of that name.
    rw [held, Held.through_removed] at result
    have disturbed : ¬ steps.Undisturbed := by
      intro undisturbed
      rcases deleted with ⟨operation, member, removes⟩
      have stays := undisturbed.stands operation member
      rw [removes] at stays
      cases stays
    refine ⟨execution, old, result old rfl, same, ?_, fun fine => absurd fine disturbed⟩
    exact iff_of_false (apart version found) disturbed

theorem found_of_carryOut (ran : steps.carryOut = some (execution, script)) :
    (∃ first, steps.looked.script? steps.name = some first) ∧
      ∃ version, steps.found.script? steps.name = some version := by
  unfold carryOut at ran
  rcases Option.bind_eq_some_iff.mp ran with ⟨first, looked, further⟩
  rcases Option.bind_eq_some_iff.mp further with ⟨made, begun, -⟩
  refine ⟨⟨first, looked⟩, ?_⟩
  cases there : steps.found.script? steps.name with
  | some version => exact ⟨version, rfl⟩
  | none =>
    unfold Catalog.begin at begun
    rw [there] at begun
    cases begun

theorem verdict (ran : steps.carryOut = some (execution, script)) :
    steps.Verdict execution script := by
  rcases found_of_carryOut ran with ⟨⟨first, looked⟩, version, found⟩
  rcases carryOut_of_found looked found with ⟨record, read, result, same, revision, current⟩
  rw [ran] at result
  cases result
  refine ⟨⟨version, found, same, ?_⟩, ?_, ?_⟩
  · rw [same]
    exact storedUnder_iff found
  · rw [same]
    exact revision
  · intro undisturbed
    rw [same, current undisturbed]
    exact (storedUnder_iff found _).mpr rfl

end Interleaving

/-- What can be said about the revision of a record and the source that is run.

The source need not be the one that was stored under the revision of the record, and the law says
exactly when it may not be.  A server that takes the three steps at once keeps them together. -/
structure RevisionLaw (steps : Interleaving) : Prop where
  /-- The record is made, and a source is read, unless one of the two lookups is refused. -/
  carried : steps.carryOut.isSome = true ↔
    (steps.looked.script? steps.name).isSome = true ∧
      (steps.found.script? steps.name).isSome = true
  verdict : ∀ (execution : Execution) (script : Script),
    steps.carryOut = some (execution, script) → steps.Verdict execution script
  /-- Revisions are never given out twice. -/
  unique : ∀ (revision : Nat) (first second : String),
    StoredUnder steps.operations revision first → StoredUnder steps.operations revision second →
      first = second
  atonce : ∀ (server after : Server) (args : List String) (execution : Execution),
    server.launch steps.name args = .ok (execution, after) →
      ∃ script run, server.catalog.script? steps.name = some script ∧
        execution.revision = script.revision ∧ after.running = server.running ++ [run] ∧
        run.ending = ({ server.drawId.2 with catalog := after.catalog }.runSource script.source
          args []).1

theorem revision_law (steps : Interleaving) : RevisionLaw steps where
  carried := by
    constructor
    · intro some
      rcases Option.isSome_iff_exists.mp some with ⟨⟨execution, script⟩, ran⟩
      rcases Interleaving.found_of_carryOut ran with ⟨⟨first, looked⟩, version, found⟩
      rw [looked, found]
      exact ⟨rfl, rfl⟩
    · rintro ⟨one, other⟩
      rcases Option.isSome_iff_exists.mp one with ⟨first, looked⟩
      rcases Option.isSome_iff_exists.mp other with ⟨version, found⟩
      rcases Interleaving.carryOut_of_found looked found with ⟨execution, script, ran, -⟩
      rw [ran]
      rfl
  verdict := fun _ _ ran => Interleaving.verdict ran
  unique := fun _ _ _ one other => one.unique other
  atonce := by
    intro server after args execution launched
    unfold Server.launch at launched
    rcases Server.ok_of_bind launched with ⟨script, looked, begun⟩
    rcases Server.ok_of_bind begun with ⟨⟨record, catalog⟩, answer, rest⟩
    cases rest
    have found := Catalog.script?_of_script looked
    refine ⟨script, _, found, ?_, rfl, rfl⟩
    rw [Catalog.script?_name found] at answer
    rcases Interleaving.begin_of_script? found server.now server.drawId.1 args with
      ⟨execution, begun, made, same⟩
    obtain ⟨rfl, -⟩ := Prod.mk.inj (Except.ok.inj (made.symm.trans answer))
    exact same

/-- A script is looked up, another client deletes it and deploys another one under its name, and only
then the record is made. -/
def replaced : Interleaving where
  name := "a"
  args := []
  now := {}
  id := "0"
  before := [.put {} "a" "print 1"]
  between := [.delete "a", .put {} "a" "print 2"]
  later := []

theorem replaced_not_stored : ¬ ∀ (steps : Interleaving) (execution : Execution) (script : Script),
    steps.carryOut = some (execution, script) →
      StoredUnder steps.operations execution.revision script.source := by
  intro always
  have ran : replaced.carryOut = some (
      { id := "0", script := "a", args := [], revision := 2, started := {} },
      { name := "a", source := "print 1", revision := 1, created := {}, updated := {} }) := by
    decide
  have stored := always _ _ _ ran
  rcases (Interleaving.verdict ran).recorded with ⟨version, found, same, only⟩
  have wrong := (only _).mp stored
  have current : replaced.found.script? "a" = some
      { name := "a", source := "print 2", revision := 2, created := {}, updated := {} } := by
    decide
  obtain rfl := Option.some.inj (current.symm.trans found)
  exact absurd wrong (by decide)

/-- A script is looked up and the record is made, and then another client replaces the source before
it is read. -/
def rewritten : Interleaving where
  name := "a"
  args := []
  now := {}
  id := "0"
  before := [.put {} "a" "print 1"]
  between := []
  later := [.put {} "a" "print 2"]

theorem revision_law_rewritten : ∃ execution script,
    rewritten.carryOut = some (execution, script) ∧ execution.revision = 1 ∧
      script.source = "print 2" ∧ ¬ rewritten.Undisturbed := by
  have ran : rewritten.carryOut = some (
      { id := "0", script := "a", args := [], revision := 1, started := {} },
      { name := "a", source := "print 2", revision := 2, created := {}, updated := {} }) := by
    decide
  refine ⟨_, _, ran, rfl, rfl, ?_⟩
  rw [← ((revision_law rewritten).verdict _ _ ran).read]
  decide

end Service
end BigScript
