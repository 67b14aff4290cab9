import BigScript.Proofs.Service.Operation

/-!
# Revisions

Every source that is put into the catalog gets the next revision, so that a revision stands for one
source and is never given out again, not even under another name.  `Changes` says once what an
operation does to the scripts: nothing, it puts one, or it deletes one.

Creating a script is to see that the name is free and to put it.  Where something comes between the
two, the creation is a `put` at the moment at which it writes.
-/

namespace BigScript
namespace Service

namespace Operation

/-- Whether an operation replaces the source of the script of a name. -/
def rewrites (name : String) : Operation → Bool
  | .put _ other _ => other == name
  | _ => false

/-- Whether an operation removes the script of a name. -/
def removes (name : String) : Operation → Bool
  | .delete other => other == name
  | _ => false

end Operation

/-- Whether a source has been stored under a revision at some moment of a sequence of operations. -/
def StoredUnder (operations : List Operation) (revision : Nat) (source : String) : Prop :=
  ∃ position, ∃ script ∈ (({} : Catalog).after (operations.take position)).scripts,
    script.revision = revision ∧ script.source = source

/-! ## Revisions -/

/-- What an operation does to the scripts as a whole: it adds nothing, or it adds one script under the
next revision. -/
inductive Writes (before after : Catalog) : Prop where
  | keeps (revisions : after.revisions = before.revisions)
      (scripts : ∀ script ∈ after.scripts, script ∈ before.scripts)
  | writes {written : Script} (revision : written.revision = before.revisions + 1)
      (revisions : after.revisions = before.revisions + 1)
      (scripts : ∀ script ∈ after.scripts, script = written ∨ script ∈ before.scripts)

/-- Revisions are given out in order, and each of them once. -/
structure Catalog.Numbered (catalog : Catalog) : Prop where
  bounded : ∀ script ∈ catalog.scripts, script.revision ≤ catalog.revisions
  distinct : ∀ first ∈ catalog.scripts, ∀ second ∈ catalog.scripts,
    first.revision = second.revision → first = second

namespace Catalog

variable {catalog changed : Catalog} {name other : String} {script : Script}

theorem mem_placeScript {new script : Script} {scripts : List Script}
    (member : script ∈ placeScript new scripts) : script = new ∨ script ∈ scripts := by
  induction scripts with
  | nil => exact .inl (List.mem_singleton.mp member)
  | cons first rest ih =>
    unfold placeScript at member
    split at member
    · rcases List.mem_cons.mp member with here | there
      · exact .inl here
      · exact .inr (List.mem_cons_of_mem _ there)
    · split at member
      · exact List.mem_cons.mp member
      · rcases List.mem_cons.mp member with here | there
        · exact .inr (here ▸ List.mem_cons_self)
        · exact (ih there).imp_right (List.mem_cons_of_mem _)

theorem find?_placeScript (new : Script) (scripts : List Script) (name : String) :
    (placeScript new scripts).find? (·.name == name) =
      if new.name = name then some new else scripts.find? (·.name == name) := by
  induction scripts with
  | nil =>
    unfold placeScript
    rw [List.find?_cons]
    by_cases same : new.name = name
    · rw [if_pos same, beq_iff_eq.mpr same]
    · rw [if_neg same, beq_eq_false_iff_ne.mpr same]
  | cons first rest ih =>
    unfold placeScript
    by_cases same : new.name = name
    · rw [if_pos same] at ih ⊢
      split
      · rw [List.find?_cons, beq_iff_eq.mpr same]
      · rename_i apart
        split
        · rw [List.find?_cons, beq_iff_eq.mpr same]
        · rw [List.find?_cons, ih]
          have skipped : first.name ≠ name := by
            intro here
            exact apart (beq_iff_eq.mpr (same.trans here.symm))
          rw [beq_eq_false_iff_ne.mpr skipped]
    · rw [if_neg same] at ih ⊢
      split
      · rename_i here
        have skipped : first.name ≠ name := fun there => same ((eq_of_beq here).trans there)
        rw [List.find?_cons, List.find?_cons, beq_eq_false_iff_ne.mpr same,
          beq_eq_false_iff_ne.mpr skipped]
      · split
        · rw [List.find?_cons, beq_eq_false_iff_ne.mpr same]
        · rw [List.find?_cons, List.find?_cons, ih]

theorem script?_name (found : catalog.script? name = some script) : script.name = name := by
  have same := List.find?_some found
  exact eq_of_beq same

theorem script?_mem (found : catalog.script? name = some script) : script ∈ catalog.scripts :=
  List.mem_of_find?_eq_some found

theorem script?_of_script (found : catalog.script name = .ok script) :
    catalog.script? name = some script := by
  unfold Catalog.script at found
  split at found
  · rename_i there
    cases found
    exact there
  · cases found

theorem put_script? (catalog : Catalog) (now : Moment) (other source name : String) :
    (catalog.put now other source).2.2.script? name =
      if other = name then some (catalog.put now other source).1 else catalog.script? name :=
  find?_placeScript _ _ name

theorem delete_script? (answer : catalog.delete other = .ok changed) :
    changed.script? name = if other = name then none else catalog.script? name := by
  unfold delete at answer
  split at answer
  · cases answer
  · cases answer
    unfold script?
    rw [List.find?_filter]
    split
    · rename_i same
      refine List.find?_eq_none.mpr ?_
      intro script _ both
      rw [decide_eq_true_eq, bne_iff_ne] at both
      exact both.1 ((eq_of_beq both.2).trans same.symm)
    · rename_i apart
      congr 1
      funext script
      rw [Bool.eq_iff_iff, decide_eq_true_eq, bne_iff_ne]
      constructor
      · exact fun both => both.2
      · intro here
        exact ⟨fun there => apart (there.symm.trans (eq_of_beq here)), here⟩

theorem settle_scripts (catalog : Catalog) (now : Moment) (id : String) (outcome : Outcome) :
    (catalog.settle now id outcome).scripts = catalog.scripts ∧
      (catalog.settle now id outcome).revisions = catalog.revisions := ⟨rfl, rfl⟩

theorem finish_scripts {now : Moment} {id : String} {outcome : Outcome}
    (answer : catalog.finish now id outcome = .ok changed) :
    changed.scripts = catalog.scripts ∧ changed.revisions = catalog.revisions := by
  unfold finish at answer
  split at answer
  · cases answer
  · split at answer
    · cases answer
      exact settle_scripts catalog now id outcome
    · cases answer
      exact ⟨rfl, rfl⟩

theorem cancel_scripts {now : Moment} {id : String} (answer : catalog.cancel now id = .ok changed) :
    changed.scripts = catalog.scripts ∧ changed.revisions = catalog.revisions := by
  unfold cancel at answer
  split at answer
  · cases answer
  · split at answer
    · cases answer
      exact settle_scripts catalog now id .cancelled
    · cases answer

theorem begin_scripts {now : Moment} {id : String} {args : List String} {execution : Execution}
    (answer : catalog.begin now id name args = .ok (execution, changed)) :
    changed.scripts = catalog.scripts ∧ changed.revisions = catalog.revisions := by
  unfold begin at answer
  split at answer
  · cases answer
  · cases answer
    exact ⟨rfl, rfl⟩

/-- A deletion is refused only where there is nothing to delete. -/
theorem delete_refused {refusal : Refusal} (answer : catalog.delete name = .error refusal) :
    catalog.script? name = none := by
  unfold delete at answer
  cases here : catalog.script? name with
  | none => rfl
  | some script =>
    rw [here] at answer
    cases answer

end Catalog

/-- What an operation does to the scripts: nothing, it puts one, or it deletes one. -/
inductive Changes (before : Catalog) : Operation → Catalog → Prop where
  | keeps {operation : Operation} {after : Catalog} (scripts : after.scripts = before.scripts)
      (revisions : after.revisions = before.revisions)
      (idle : ∀ name, (before.script? name).isSome = true → operation.rewrites name = false ∧
        operation.removes name = false) : Changes before operation after
  | puts {operation : Operation} (now : Moment) (name source : String)
      (fresh : operation.rewrites name = true ∨ before.script? name = none)
      (others : ∀ other, other ≠ name → operation.rewrites other = false)
      (stays : ∀ other, operation.removes other = false) :
      Changes before operation (before.put now name source).2.2
  | deletes {name : String} {after : Catalog} (deleted : before.delete name = .ok after) :
      Changes before (.delete name) after

namespace Operation

theorem changes (catalog : Catalog) (operation : Operation) :
    Changes catalog operation (operation.run catalog) := by
  have idle {changed : Catalog} (plain : ∀ name, operation.rewrites name = false ∧
      operation.removes name = false)
      (same : changed.scripts = catalog.scripts ∧ changed.revisions = catalog.revisions) :
      Changes catalog operation changed := .keeps same.1 same.2 fun name _ => plain name
  cases answer : operation.apply catalog with
  | error refusal =>
    rw [run_of_error answer]
    refine .keeps rfl rfl ?_
    intro name known
    cases operation with
    | put now other source => cases answer
    | delete other =>
      refine ⟨rfl, beq_eq_false_iff_ne.mpr ?_⟩
      rintro rfl
      rw [Catalog.delete_refused answer] at known
      cases known
    | create | begin | complete | fail | cancel => exact ⟨rfl, rfl⟩
  | ok changed =>
    rw [run_of_ok answer]
    cases operation with
    | put now name source =>
      cases answer
      refine .puts now name source (.inl (beq_self_eq_true name)) ?_ fun _ => rfl
      intro other apart
      exact beq_eq_false_iff_ne.mpr apart.symm
    | create now name source =>
      rcases snd_of_map answer with ⟨script, created⟩
      unfold Catalog.create at created
      split at created
      · cases created
      · rename_i free
        cases created
        exact .puts now name source (.inr free) (fun _ _ => rfl) fun _ => rfl
    | delete name => exact .deletes answer
    | begin now id name args =>
      rcases snd_of_map answer with ⟨execution, begun⟩
      exact idle (fun _ => ⟨rfl, rfl⟩) (Catalog.begin_scripts begun)
    | complete now id output globals =>
      exact idle (fun _ => ⟨rfl, rfl⟩) (Catalog.finish_scripts answer)
    | fail now id output fault =>
      exact idle (fun _ => ⟨rfl, rfl⟩) (Catalog.finish_scripts answer)
    | cancel now id => exact idle (fun _ => ⟨rfl, rfl⟩) (Catalog.cancel_scripts answer)

end Operation

namespace Changes

variable {before after : Catalog} {operation : Operation} {name : String} {script : Script}

theorem delete_writes (deleted : before.delete name = .ok after) : Writes before after := by
  unfold Catalog.delete at deleted
  split at deleted
  · cases deleted
  · cases deleted
    exact .keeps rfl fun script member => (List.mem_filter.mp member).1

theorem writes (changes : Changes before operation after) : Writes before after := by
  cases changes with
  | keeps scripts revisions => exact .keeps revisions fun script member => scripts ▸ member
  | puts now name source =>
    have next : (before.put now name source).1.revision = before.revisions + 1 := rfl
    exact .writes next rfl fun script member => Catalog.mem_placeScript member
  | deletes deleted => exact delete_writes deleted

/-- What an operation does to a script that is there. -/
theorem known (changes : Changes before operation after)
    (found : before.script? name = some script) :
    (operation.removes name = true ∧ operation.rewrites name = false ∧
        after.script? name = none) ∨
      (operation.removes name = false ∧ operation.rewrites name = true ∧
        ∃ written, after.script? name = some written ∧
          written.revision = before.revisions + 1) ∨
      (operation.removes name = false ∧ operation.rewrites name = false ∧
        after.script? name = some script) := by
  cases changes with
  | keeps scripts revisions idle =>
    rcases idle name (by rw [found]; rfl) with ⟨unwritten, unremoved⟩
    refine .inr (.inr ⟨unremoved, unwritten, ?_⟩)
    rw [← found]
    unfold Catalog.script?
    rw [scripts]
  | puts now other source fresh others stays =>
    rw [before.put_script? now other source name]
    by_cases same : other = name
    · subst same
      rcases fresh with rewrites | free
      · exact .inr (.inl ⟨stays other, rewrites, _, if_pos rfl, rfl⟩)
      · rw [found] at free
        cases free
    · rw [if_neg same]
      exact .inr (.inr ⟨stays name, others name (Ne.symm same), found⟩)
  | @deletes other _ deleted =>
    rw [Catalog.delete_script? deleted]
    by_cases same : other = name
    · exact .inl ⟨beq_iff_eq.mpr same, rfl, if_pos same⟩
    · rw [if_neg same]
      exact .inr (.inr ⟨beq_eq_false_iff_ne.mpr same, rfl, found⟩)

end Changes

namespace Catalog

variable {catalog changed : Catalog} {script : Script}

theorem empty_numbered : ({} : Catalog).Numbered := ⟨nofun, nofun⟩

theorem Numbered.writes (numbered : catalog.Numbered) (writes : Writes catalog changed) :
    changed.Numbered := by
  cases writes with
  | keeps revisions scripts =>
    constructor
    · intro script member
      rw [revisions]
      exact numbered.bounded script (scripts script member)
    · intro first one second other
      exact numbered.distinct first (scripts first one) second (scripts second other)
  | @writes written revision revisions scripts =>
    have old {script : Script} (member : script ∈ catalog.scripts) :
        script.revision ≠ written.revision := by
      have bound := numbered.bounded script member
      omega
    constructor
    · intro script member
      rcases scripts script member with rfl | there
      · omega
      · have bound := numbered.bounded script there
        omega
    · intro first one second other same
      rcases scripts first one with rfl | firstOld
      · rcases scripts second other with rfl | secondOld
        · rfl
        · exact absurd same.symm (old secondOld)
      · rcases scripts second other with rfl | secondOld
        · exact absurd same (old firstOld)
        · exact numbered.distinct first firstOld second secondOld same

theorem Numbered.after (numbered : catalog.Numbered) (operations : List Operation) :
    (catalog.after operations).Numbered := by
  induction operations generalizing catalog with
  | nil => exact numbered
  | cons operation rest ih => exact ih (numbered.writes (operation.changes catalog).writes)

theorem revisions_le_after (catalog : Catalog) (operations : List Operation) :
    catalog.revisions ≤ (catalog.after operations).revisions := by
  induction operations generalizing catalog with
  | nil => exact Nat.le_refl _
  | cons operation rest ih =>
    refine Nat.le_trans ?_ (ih (operation.run catalog))
    cases (operation.changes catalog).writes with
    | keeps revisions => exact Nat.le_of_eq revisions.symm
    | writes revision revisions => omega

/-- A script that is there after some operations was there before, or it has a newer revision than
all there were. -/
theorem mem_after (operations : List Operation)
    (member : script ∈ (catalog.after operations).scripts) :
    script ∈ catalog.scripts ∨ catalog.revisions < script.revision := by
  induction operations generalizing catalog with
  | nil => exact .inl member
  | cons operation rest ih =>
    rcases ih member with there | newer
    · cases (operation.changes catalog).writes with
      | keeps revisions scripts => exact .inl (scripts script there)
      | writes revision revisions scripts =>
        rcases scripts script there with rfl | old
        · exact .inr (by omega)
        · exact .inl old
    · refine .inr (Nat.lt_of_le_of_lt ?_ newer)
      exact catalog.revisions_le_after [operation]

/-- A revision belongs to one script, at whatever moments it is seen. -/
theorem Numbered.same (numbered : catalog.Numbered) (operations : List Operation) {first : Script}
    (early : first ∈ catalog.scripts) {second : Script}
    (late : second ∈ (catalog.after operations).scripts)
    (revision : first.revision = second.revision) : first = second := by
  rcases mem_after operations late with there | newer
  · exact numbered.distinct first early second there revision
  · have bound := numbered.bounded first early
    omega

end Catalog

/-- Under a revision one source is stored, and never another. -/
theorem StoredUnder.unique {operations : List Operation} {revision : Nat} {first second : String}
    (one : StoredUnder operations revision first) (other : StoredUnder operations revision second) :
    first = second := by
  rcases one with ⟨early, script, member, rfl, rfl⟩
  rcases other with ⟨late, again, memberAgain, same, rfl⟩
  have numbered (position : Nat) := Catalog.empty_numbered.after (operations.take position)
  rcases Nat.le_total early late with order | order
  · rw [Catalog.after_take order] at memberAgain
    rw [(numbered early).same _ member memberAgain same.symm]
  · rw [Catalog.after_take order] at member
    rw [(numbered late).same _ memberAgain member same]

end Service
end BigScript
