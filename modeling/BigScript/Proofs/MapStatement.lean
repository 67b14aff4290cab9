import BigScript.Proofs.Assignment
import BigScript.Proofs.Json.Holding
import BigScript.Proofs.ResultTail
import BigScript.Proofs.SourceNesting
import BigScript.Proofs.Structured.Walk
import BigScript.Proofs.Substitution

/-!
# Statements on maps

A map is changed by `map set`, `map remove` and `map merge`, and by an assignment to one of its fields.
Each of these reads the text in a variable, changes the fields and writes the whole text again, or
leaves a text alone that is no map.  `EditsMap` says which edit a statement is, and `EditsMap.edited`
that it does this edit and no more.

From there the law of a sequence of statements is an induction on the sequence.  `map_law` does not
mention the text that a variable holds afterwards: the variable answers as the finite map would that
was edited in the same way.  What carries the induction is that a map that was written is read back as
it was, so that fields which nothing touches come through with their nested documents and the spelling
of their numbers.

The operands of the map statements are read like all others.  A field is different: what it is assigned
is read from one token, also where the value of a variable would be a formula
(`fieldOfFormula_takesWord`).
-/

namespace BigScript

open Machine Statement

namespace TokenStream

/-- A target at an at sign: there is a gap in front of the sign and none behind it, and then comes
the name of a variable, with the index of its last token. -/
structure Target (toks : TokenStream) (j : Nat) (name : String) (last : Nat) : Prop where
  sign : (toks.peek j).isSymbol .at = true
  gap : 0 < j → (toks.peek (j - 1)).line = (toks.peek j).line →
    (toks.peek (j - 1)).column + (toks.peek (j - 1)).width < (toks.peek j).column
  line : (toks.peek (j + 1)).line = (toks.peek j).line
  attached : (toks.peek (j + 1)).column = (toks.peek j).column + 1
  named : toks.bracedName (j + 1) = (name, last)

instance (toks : TokenStream) (j : Nat) (name : String) (last : Nat) :
    Decidable (toks.Target j name last) :=
  decidable_of_iff ((toks.peek j).isSymbol .at = true ∧
      (0 < j → (toks.peek (j - 1)).line = (toks.peek j).line →
        (toks.peek (j - 1)).column + (toks.peek (j - 1)).width < (toks.peek j).column) ∧
      (toks.peek (j + 1)).line = (toks.peek j).line ∧
        (toks.peek (j + 1)).column = (toks.peek j).column + 1 ∧
          toks.bracedName (j + 1) = (name, last))
    ⟨fun ⟨sign, gap, line, attached, named⟩ => ⟨sign, gap, line, attached, named⟩,
      fun ⟨sign, gap, line, attached, named⟩ => ⟨sign, gap, line, attached, named⟩⟩

/-- An at sign between a gap and what is attached to it is spaced as it has to be. -/
theorem checkAt_run {toks : TokenStream} {j : Nat}
    (gap : 0 < j → (toks.peek (j - 1)).line = (toks.peek j).line →
      (toks.peek (j - 1)).column + (toks.peek (j - 1)).width < (toks.peek j).column)
    (line : (toks.peek (j + 1)).line = (toks.peek j).line)
    (attached : (toks.peek (j + 1)).column = (toks.peek j).column + 1) (m : Machine) :
    (Results.checkAt toks j).run m = (true, m) := by
  have before : ¬ (0 < j && (toks.peek (j - 1)).line == (toks.peek j).line &&
      (toks.peek j).column ≤ (toks.peek (j - 1)).column + (toks.peek (j - 1)).width) = true := by
    simp only [Bool.and_eq_true, decide_eq_true_eq, beq_iff_eq, not_and, Nat.not_le, and_imp]
    exact gap
  have behind : ¬ ((toks.peek (j + 1)).line != (toks.peek j).line ||
      (toks.peek (j + 1)).column != (toks.peek j).column + 1) = true := by
    simp [line, attached]
  unfold Results.checkAt
  dsimp only
  rw [if_neg before, if_neg behind]
  rfl

theorem Target.targetName?_run {toks : TokenStream} {j last : Nat} {name : String}
    (target : toks.Target j name last) (m : Machine) :
    (Results.targetName? toks j).run m = (some (name, last), m) := by
  have spaced := checkAt_run target.gap target.line target.attached m
  unfold Results.targetName?
  rw [if_pos target.sign, Act.run_bind, spaced]
  dsimp only
  rw [if_pos rfl, target.named]
  rfl

end TokenStream

/-! ## One statement -/

namespace Machine

/-- The map in a global variable was edited: the variable holds what the edits make of what it held.  A
value that is no map stays as it is, and so do the other variables but the one for bugs. -/
structure Edited (name : String) (edits : List Edit) (before after : Machine) : Prop where
  top : before.locals = [] → after.locals = []
  held : ∀ raw, before.get? name = some raw →
    ∃ now, after.get? name = some now ∧
      Value.held? now = (Value.held? raw).map (Edit.applyAll edits) ∧
      (Value.held? raw = none → now = raw)
  others : ∀ other, other ≠ name → other ≠ "BugType" →
    after.globals.valueOf? other = before.globals.valueOf? other

namespace Edited

variable {name : String} {edits more : List Edit} {edit : Edit} {before between after m : Machine}

/-- Where the variable answers as before, it was edited in a way that changes nothing. -/
theorem of_kept (idle : ∀ held, Edit.applyAll edits held = held)
    (top : before.locals = [] → after.locals = []) (kept : after.get? name = before.get? name)
    (others : ∀ other, other ≠ "BugType" →
      after.globals.valueOf? other = before.globals.valueOf? other) :
    Edited name edits before after where
  top := top
  held := by
    intro raw found
    refine ⟨raw, kept.trans found, ?_, fun _ => rfl⟩
    rw [funext idle]
    exact Option.map_id'.symm
  others other _ noBug := others other noBug

theorem trans (first : Edited name edits before between) (second : Edited name more between after) :
    Edited name (edits ++ more) before after where
  top := second.top ∘ first.top
  held := by
    intro raw found
    rcases first.held raw found with ⟨mid, found, made, kept⟩
    rcases second.held mid found with ⟨now, found, further, stays⟩
    refine ⟨now, found, ?_, fun rejected => ?_⟩
    · rw [further, made, Option.map_map]
      congr 1
      funext held
      exact (Edit.applyAll_append edits more held).symm
    · rw [stays (by rw [made, rejected, Option.map_none]), kept rejected]
  others other apart noBug := (second.others other apart noBug).trans (first.others other apart noBug)

/-- A value is read as a map, its fields are changed, and the variable is bound to the new text. -/
theorem of_rewrites (plain : Plain name) (top : m.locals = []) {default : String}
    {change : List (String × Json) → List (String × Json)}
    (rewrites : ∀ fields, Value.Rewrites fields edit (change fields))
    (outcome : after = match Json.readObjectText? (m.getD name default) with
      | some fields => m.assign name (Json.write (.object (change fields)))
      | none => m) :
    Edited name [edit] m after where
  top _ := by
    rw [outcome]
    split
    · exact ((plain.binds _ m).top top).1
    · exact top
  held := by
    intro raw found
    rw [getD, found, Option.getD_some] at outcome
    cases read : Json.readObjectText? raw with
    | none =>
        rw [read] at outcome
        have rejected : Value.held? raw = none := Value.held?_eq_none.mpr read
        exact ⟨raw, outcome ▸ found, by rw [rejected, Option.map_none], fun _ => rfl⟩
    | some fields =>
        rw [read] at outcome
        have shown : m.isHidden name = false := by
          rw [isHidden, top]
          exact Bool.and_false _
        refine ⟨Json.write (.object (change fields)), ?_, (rewrites fields).held? read,
          fun rejected => ?_⟩
        · rw [outcome, plain.get?_of_binds (plain.binds _ m) shown]
        · rw [Value.held?_of_read read] at rejected
          cases rejected
  others := by
    intro other apart _
    rw [outcome]
    split
    · exact (plain.binds _ m).others apart
    · rfl

end Edited
end Machine

/-- A variable answers as before behind a computation, the one for bugs if no bug was raised. -/
theorem Computes.get? {α : Type} {act : Act α} (computes : Computes act) {m after : Machine}
    (ran : (act.run m).2 = after) {name : String} (plain : Plain name)
    (calm : name = "BugType" → after.raises = m.raises) : after.get? name = m.get? name := by
  subst ran
  by_cases bugs : name = "BugType"
  · rw [computes.unraised (calm bugs)]
  · exact (computes.unbound m).get? plain bugs

/-- An operand is read.  Where the map is in the variable for bugs, no bug is raised. -/
structure Reads (toks : TokenStream) (name : String) (i : Nat) (m : Machine) (text : String)
    (last : Nat) (after : Machine) : Prop where
  value : (Operand.value toks i).run m = ((text, last), after)
  calm : name = "BugType" → after.raises = m.raises

namespace Reads

variable {toks : TokenStream} {name text : String} {i last : Nat} {m after : Machine}

/-- A string without references is read as it is written. -/
theorem literal (quoted : (toks.peek i).kind = .text) (plain : '$' ∉ (toks.peek i).content.toList)
    (name : String) (m : Machine) : Reads toks name i m (toks.peek i).content i m where
  value := by
    have apart : toks.skipAts i = i := by
      apply TokenStream.skipAts_of_apart
      rw [Token.isSymbol, Token.isWord, quoted]
      rfl
    have written := Token.lexeme_of_text quoted
    rw [Operand.value_literal (apart.symm ▸ written), apart, Machine.interpolate,
      interpolate_of_plain _ plain]
  calm _ := rfl

theorem unbound (reads : Reads toks name i m text last after) : Unbound m after := by
  have unbound := (Operand.value_computes toks i).unbound m
  rwa [reads.value] at unbound

theorem get? (reads : Reads toks name i m text last after) (plain : Plain name) :
    after.get? name = m.get? name :=
  (Operand.value_computes toks i).get? (congrArg Prod.snd reads.value) plain reads.calm

theorem edited (reads : Reads toks name i m text last after) (plain : Plain name) :
    Edited name [] m after :=
  .of_kept (fun _ => rfl) reads.unbound.locals.trans (reads.get? plain) reads.unbound.globals

end Reads

namespace TokenStream

/-- A field of a map is assigned to at an index. -/
structure AssignsField (toks : TokenStream) (i : Nat) (name : String) : Prop where
  assigns : toks.isAssignment i = true
  dot : (toks.peek (i + 1)).isSymbol .dot = true
  named : (toks.peek i).rawName = name

/-- What an assignment to a field does: its value is read from one token. -/
def fieldEdit (toks : TokenStream) (i : Nat) (m : Machine) : Edit :=
  .put (toks.peek (i + 2)).rawName (m.interpolate (m.tokenValue (toks.peek (i + 4))))

end TokenStream

/-- The statements that change a map, and the edit that each of them is. -/
inductive EditsMap (toks : TokenStream) (i : Nat) (name : String) (m : Machine) : Edit → Prop where
  | set {key text : String} {keyEnd textEnd last : Nat} {between read : Machine}
      (head : (toks.peek i).kind = .word .map) (action : (toks.peek (i + 1)).kind = .word .set)
      (readsKey : Reads toks name (i + 2) m key keyEnd between)
      (particle : (toks.peek (keyEnd + 1)).isWord .asWord = true)
      (readsText : Reads toks name (keyEnd + 2) between text textEnd read)
      (target : toks.Target (textEnd + 1) name last) : EditsMap toks i name m (.put key text)
  | remove {key : String} {keyEnd last : Nat} {read : Machine}
      (head : (toks.peek i).kind = .word .map) (action : (toks.peek (i + 1)).kind = .word .remove)
      (readsKey : Reads toks name (i + 2) m key keyEnd read)
      (target : toks.Target
        (if (toks.peek (keyEnd + 1)).isWord .fromWord then keyEnd + 2 else keyEnd + 1) name last) :
      EditsMap toks i name m (.drop key)
  | merge {source : String} {sourceEnd last : Nat}
      (head : (toks.peek i).kind = .word .map) (action : (toks.peek (i + 1)).kind = .word .merge)
      (named : toks.bracedName (i + 2) = (source, sourceEnd))
      (target : toks.Target (sourceEnd + 1) name last) :
      EditsMap toks i name m (.merge (Value.held? (m.getD source Verb.emptyMap)))
  | field (other : (toks.peek i).kind.beginsStatement = false)
      (assigns : toks.AssignsField i name) : EditsMap toks i name m (toks.fieldEdit i m)
  | wordField {word : Keyword} (assigning : word = .set ∨ word = .update ∨ word = .global)
      (head : (toks.peek i).kind = .word word) (assigns : toks.AssignsField (i + 1) name) :
      EditsMap toks i name m (toks.fieldEdit (i + 1) m)

namespace Verb

theorem updateMap_run (name : String) (change : List (String × Json) → List (String × Json))
    (m : Machine) :
    (updateMap name change).run m =
      ((), match Json.readObjectText? (m.getD name emptyMap) with
        | some fields => m.assign name (Json.write (.object (change fields)))
        | none => m) := by
  unfold updateMap
  rw [Act.run_bind, Act.run_get]
  dsimp only
  cases Json.readObjectText? (m.getD name emptyMap) <;> rfl

variable {toks : TokenStream} {i keyEnd last : Nat} {name key : String} {m read : Machine}

theorem map_set {text : String} {textEnd : Nat} {between : Machine}
    (action : (toks.peek (i + 1)).kind = .word .set)
    (readsKey : Reads toks name (i + 2) m key keyEnd between)
    (particle : (toks.peek (keyEnd + 1)).isWord .asWord = true)
    (readsText : Reads toks name (keyEnd + 2) between text textEnd read)
    (target : toks.Target (textEnd + 1) name last) :
    ((map toks i).run m).2 = ((updateMap name (Json.putField key (.string text))).run read).2 := by
  unfold map
  rw [Token.lexeme_of_word action]
  dsimp only
  unfold mapSet
  rw [Act.run_bind, readsKey.value]
  dsimp only
  rw [if_pos particle, Act.run_bind, readsText.value]
  dsimp only
  rw [Act.run_bind, target.targetName?_run]
  rfl

theorem map_remove (action : (toks.peek (i + 1)).kind = .word .remove)
    (readsKey : Reads toks name (i + 2) m key keyEnd read)
    (target : toks.Target
      (if (toks.peek (keyEnd + 1)).isWord .fromWord then keyEnd + 2 else keyEnd + 1) name last) :
    ((map toks i).run m).2 = ((updateMap name (Json.dropField key)).run read).2 := by
  unfold map
  rw [Token.lexeme_of_word action]
  dsimp only
  unfold itemAndTarget?
  rw [Act.run_bind, Act.run_bind, readsKey.value]
  dsimp only
  rw [Act.run_bind, target.targetName?_run]
  rfl

theorem map_merge {source : String} {sourceEnd : Nat}
    (action : (toks.peek (i + 1)).kind = .word .merge)
    (named : toks.bracedName (i + 2) = (source, sourceEnd))
    (target : toks.Target (sourceEnd + 1) name last) :
    ((map toks i).run m).2 = match Json.readObjectText? (m.getD source emptyMap) with
      | some fields => ((updateMap name (Json.mergeFields · fields)).run m).2
      | none => m := by
  unfold map
  rw [Token.lexeme_of_word action]
  dsimp only
  unfold mapMerge
  rw [named]
  dsimp only
  rw [Act.run_bind, target.targetName?_run]
  dsimp only
  rw [Act.run_bind, Act.run_get]
  dsimp only
  cases Json.readObjectText? (m.getD source emptyMap) <;> rfl

end Verb

namespace Statement

variable {toks : TokenStream} {i : Nat} {name : String} {m : Machine}

theorem dispatch_map (run : Runner) (head : (toks.peek i).kind = .word .map) :
    dispatch run toks i = Verb.map toks i := by
  unfold dispatch
  rw [head]
  rfl

theorem assignAt_field (assigns : toks.AssignsField i name) :
    (assignAt toks i).run m =
      ((i + 4, none), match Json.readObjectText? (m.getD name "") with
        | some fields => m.assign name (Json.write (.object
            (Json.putField (toks.peek (i + 2)).rawName
              (.string (m.interpolate (m.tokenValue (toks.peek (i + 4))))) fields)))
        | none => m) := by
  unfold assignAt
  dsimp only
  rw [if_pos assigns.dot, Act.run_bind, Act.run_get, assigns.named]
  dsimp only
  unfold Value.withField?
  cases Json.readObjectText? (m.getD name "") <;> rfl

/-- An assignment to a field edits the map. -/
theorem assignAt_edited (assigns : toks.AssignsField i name) (plain : Plain name)
    (top : m.locals = []) :
    ((assignAt toks i).run m).1.2 = none ∧
      Edited name [toks.fieldEdit i m] m ((assignAt toks i).run m).2 := by
  rw [assignAt_field assigns]
  exact ⟨rfl, .of_rewrites plain top (fun _ => .put _ _) rfl⟩

end Statement

namespace EditsMap

variable {toks : TokenStream} {i : Nat} {name : String} {m : Machine} {edit : Edit}

/-- A statement that changes a map runs no other tokens. -/
theorem alone (edits : EditsMap toks i name m edit) : nested? toks i m = none := by
  unfold nested?
  cases edits with
  | set head | remove head | merge head => rw [head]
  | field other =>
      exact nested?_plain (.inr other)
  | wordField assigning head =>
      rw [head]
      rcases assigning with rfl | rfl | rfl <;> rfl

/-- What a statement does to the map in a variable is its edit. -/
theorem edited (edits : EditsMap toks i name m edit) (plain : Plain name) (top : m.locals = [])
    (run : Runner) : Edited name [edit] m ((dispatch run toks i).run m).2 := by
  cases edits with
  | @set key text _ _ _ _ _ head action readsKey particle readsText target =>
      have behind := (readsKey.edited plain).trans (readsText.edited plain)
      rw [dispatch_map run head, Verb.map_set action readsKey particle readsText target,
        Verb.updateMap_run]
      exact behind.trans (.of_rewrites plain (behind.top top) (fun _ => .put key text) rfl)
  | @remove key _ _ _ head action readsKey target =>
      have behind := readsKey.edited plain
      rw [dispatch_map run head, Verb.map_remove action readsKey target, Verb.updateMap_run]
      exact behind.trans (.of_rewrites plain (behind.top top) (fun _ => .drop key) rfl)
  | @merge source _ _ head action named target =>
      rw [dispatch_map run head, Verb.map_merge action named target]
      cases other : Json.readObjectText? (m.getD source Verb.emptyMap) with
      | none =>
          rw [Value.held?_eq_none.mpr other]
          exact .of_kept (fun _ => rfl) id rfl fun _ _ => rfl
      | some fields =>
          dsimp only
          rw [Verb.updateMap_run]
          exact .of_rewrites plain top (fun _ => .merge other) rfl
  | field other assigns =>
      rw [dispatch_assigns run other assigns.assigns]
      exact (assignAt_edited assigns plain top).2
  | wordField assigning head assigns =>
      rw [dispatch_assignWord run assigning head, assignWord_run assigns.assigns]
      rcases assignAt_edited assigns plain top with ⟨unnamed, edited⟩
      dsimp only
      rw [unnamed]
      split
      · contradiction
      · exact edited

end EditsMap

/-! ## Questions -/

/-- A question for a key of the map in a variable: `map get KEY of NAME` or `map check KEY of NAME`. -/
structure AsksMap (toks : TokenStream) (i : Nat) (action : Keyword) (key : String) (keyEnd : Nat)
    (name : String) (last : Nat) (m read : Machine) : Prop where
  head : (toks.peek i).kind = .word .map
  action : (toks.peek (i + 1)).kind = .word action
  readsKey : Reads toks name (i + 2) m key keyEnd read
  particle : (toks.peek (keyEnd + 1)).isWord .of = true
  named : toks.bracedName (keyEnd + 2) = (name, last)

/-- A variable answers questions as a map that holds the given documents.  Where it is asked for a key,
the rendered document or the answer to whether there is one is what the tail of the statement gets. -/
structure Answers (m : Machine) (name : String) (held : String → Option Json) : Prop where
  get : ∀ {run toks i key keyEnd last read}, AsksMap toks i .get key keyEnd name last m read →
    (dispatch run toks i).run m =
      (finish toks last [((held key).map Json.render).getD Value.nothing]).run read
  check : ∀ {run toks i key keyEnd last read}, AsksMap toks i .check key keyEnd name last m read →
    (dispatch run toks i).run m = (finish toks last [Value.ofBool (held key).isSome]).run read
  field : ∀ {field value}, field ≠ "" → '.' ∉ field.toList → held field = some value →
    m.get? (name ++ "." ++ field) = some value.render

theorem AsksMap.keyOfMap?_run {toks : TokenStream} {i keyEnd last : Nat} {action : Keyword}
    {key name : String} {m read : Machine} (asks : AsksMap toks i action key keyEnd name last m read) :
    (Verb.keyOfMap? toks (i + 2)).run m = (some (key, name, last), read) := by
  unfold Verb.keyOfMap?
  rw [Act.run_bind, asks.readsKey.value]
  dsimp only
  rw [if_pos asks.particle, asks.named]
  rfl

theorem AsksMap.getD_eq {toks : TokenStream} {i keyEnd last : Nat} {action : Keyword}
    {key name raw : String} {m read : Machine} (asks : AsksMap toks i action key keyEnd name last m read)
    (plain : Plain name) (found : m.get? name = some raw) : read.getD name Verb.emptyMap = raw := by
  rw [getD, asks.readsKey.get? plain, found, Option.getD_some]

/-- A variable that holds a map answers as the map. -/
theorem answers_of_held {name raw : String} {m : Machine} {held : String → Option Json}
    (plain : Plain name) (found : m.get? name = some raw) (holds : Value.held? raw = some held) :
    Answers m name held where
  get := by
    intro run toks i key keyEnd last read asks
    have legible : (Json.readObjectText? raw).isSome = true := by
      rw [Option.isSome_iff_ne_none, Ne, ← Value.held?_eq_none, holds]
      exact Option.some_ne_none held
    rw [dispatch_map run asks.head]
    unfold Verb.map
    rw [Token.lexeme_of_word asks.action]
    dsimp only
    rw [Act.run_bind, asks.keyOfMap?_run]
    dsimp only
    rw [Act.run_bind, Act.run_get]
    dsimp only
    rw [asks.getD_eq plain found, if_pos legible, Value.fieldOrNothing, Value.field?_eq, holds, Option.bind_some]
  check := by
    intro run toks i key keyEnd last read asks
    rw [dispatch_map run asks.head]
    unfold Verb.map
    rw [Token.lexeme_of_word asks.action]
    dsimp only
    rw [Act.run_bind, asks.keyOfMap?_run]
    dsimp only
    rw [Act.run_bind, Act.run_get]
    dsimp only
    rw [asks.getD_eq plain found, Value.field?_eq, holds, Option.bind_some, Option.isSome_map]
  field := by
    intro field value named undotted present
    apply plain.get?_field named undotted found
    rw [Value.field?_eq, holds, Option.bind_some, present, Option.map_some]

/-! ## Sequences of statements -/

/-- The statements that a walk carries out one after the other are edits of the map in a variable. -/
inductive EditRun (toks : TokenStream) (name : String) : Spot → List Edit → Spot → Prop where
  | none {spot : Spot} : EditRun toks name spot [] spot
  | edit {i : Nat} {m ready : Machine} {edit : Edit} {edits : List Edit} {next last : Spot}
      (arrived : m.arrive toks i = .ready ready) (first : EditsMap toks i name ready edit)
      (stride : Stride toks (i, m) next) (rest : EditRun toks name next edits last) :
      EditRun toks name (i, m) (edit :: edits) last

/-- Nothing is edited on the way to a statement. -/
theorem ready_edited {toks : TokenStream} {i : Nat} {m ready : Machine} {name : String}
    (arrived : m.arrive toks i = .ready ready) (plain : Plain name) : Edited name [] m ready := by
  have arrival := arrives toks i m
  rw [arrived] at arrival
  cases arrival with
  | begins =>
      rw [begun_eq]
      refine .of_kept (fun _ => rfl) id ?_ fun _ _ => rfl
      rw [plain.get?, plain.get?]
      rfl

/-- The map holds what all the edits make of what it held. -/
theorem EditRun.edited {toks : TokenStream} {name : String} {spot last : Spot} {edits : List Edit}
    (ran : EditRun toks name spot edits last) (plain : Plain name) (top : spot.2.locals = []) :
    Edited name edits spot.2 last.2 := by
  induction ran with
  | none => exact .of_kept (fun _ => rfl) id rfl fun _ _ => rfl
  | @edit i m ready edit edits next last arrived first stride _ ih =>
      -- Arriving edits nothing; then the statement runs alone, so that the stride is its own.
      have begun := ready_edited arrived plain
      have done := begun.trans (first.edited plain (begun.top top) idle)
      have here : next = _ := stride.unique (.alone arrived first.alone)
      rw [here] at ih
      exact done.trans (ih (done.top top))

/-- What becomes of a variable whose value is edited by a sequence of statements. -/
structure MapLaw (name raw : String) (edits : List Edit) (before after : Machine) : Prop where
  /-- A map answers as the finite map that was edited in the same way, as long as nothing else is
  bound to the variable. -/
  answers : ∀ held, Value.held? raw = some held →
    ∀ asked : Machine, asked.get? name = after.get? name →
      Answers asked name (Edit.applyAll edits held)
  /-- What no edit touches is rendered as before. -/
  untouched : ∀ key, (∀ edit ∈ edits, ¬ edit.Touches key) →
    ∃ now, after.get? name = some now ∧ Value.field? now key = Value.field? raw key
  /-- A value that is no map is left alone. -/
  rejected : Json.readObjectText? raw = none → after.get? name = some raw
  /-- The other variables keep their values. -/
  others : ∀ other, other ≠ name → other ≠ "BugType" →
    after.globals.valueOf? other = before.globals.valueOf? other

theorem map_law {toks : TokenStream} {name raw : String} {spot last : Spot} {edits : List Edit}
    (ran : EditRun toks name spot edits last) (plain : Plain name) (top : spot.2.locals = [])
    (found : spot.2.get? name = some raw) : MapLaw name raw edits spot.2 last.2 := by
  have edited := ran.edited plain top
  rcases edited.held raw found with ⟨now, shown, holds, kept⟩
  refine ⟨?_, ?_, fun rejected => ?_, edited.others⟩
  · intro held legible asked same
    rw [legible, Option.map_some] at holds
    exact answers_of_held plain (same.trans shown) holds
  · intro key apart
    refine ⟨now, shown, ?_⟩
    rw [Value.field?_eq, Value.field?_eq, holds]
    cases Value.held? raw with
    | none => rfl
    | some held =>
        rw [Option.map_some, Option.bind_some, Option.bind_some, Edit.applyAll_untouched apart]
  · rw [shown, kept (Value.held?_eq_none.mpr rejected)]

/-- One field is set to a string and one to a number. -/
def twoEdits : String := "map set \"b\" as \"x\" @{M}\nM.c = 7"

/-- A map of one number. -/
def oneNumber : String := "\x7b\"a\": 1.50\x7d"

/-- A machine with the map in a variable. -/
def oneVariable : Machine := .start { globals := .ofList [("M", oneNumber)] }

/-- The two statements are edits of a variable that holds the map. -/
theorem twoEdits_run : ∃ last,
    EditRun (scan twoEdits) "M" (0, oneVariable) [.put "b" "x", .put "c" "7"] last := by
  let toks := scan twoEdits
  let m := oneVariable
  let ready := m.begun (toks.peek 0)
  let done := (dispatch idle toks 0).run ready
  let again := done.2.begun (toks.peek 9)
  have ⟨⟨head, action, particle, quotedKey, key, quotedText, text⟩, target, ⟨place, unstopped,
      uncancelled, untimed, fine⟩, unfinished, other, assigns, dot, map, field, value⟩ :
      ((toks.peek 0).kind = .word .map ∧ (toks.peek 1).kind = .word .set ∧
        (toks.peek 3).isWord .asWord = true ∧ (toks.peek 2).kind = .text ∧
        (toks.peek 2).content = "b" ∧ (toks.peek 4).kind = .text ∧
        (toks.peek 4).content = "x") ∧
      toks.Target 5 "M" 8 ∧
      (done.1 + 1 = 9 ∧ done.2.isStopped = false ∧ done.2.cancelled = false ∧
        done.2.deadline = none ∧ done.2.bug = none) ∧
      (toks.peek 9).isFinish = false ∧ (toks.peek 9).kind.beginsStatement = false ∧
      toks.isAssignment 9 = true ∧ (toks.peek 10).isSymbol .dot = true ∧
      (toks.peek 9).rawName = "M" ∧ (toks.peek 11).rawName = "c" ∧
      again.tokenValue (toks.peek 13) = "7" := by
    decide +kernel
  have set : EditsMap toks 0 "M" ready (.put "b" "x") := by
    have readsKey := Reads.literal quotedKey (key ▸ by decide) "M" ready
    have readsText := Reads.literal quotedText (text ▸ by decide) "M" ready
    rw [key] at readsKey
    rw [text] at readsText
    exact .set head action readsKey particle readsText target
  have assign : EditsMap toks 9 "M" again (.put "c" "7") := by
    have edit := EditsMap.field (m := again) other ⟨assigns, dot, map⟩
    rw [TokenStream.fieldEdit, field, value, Machine.interpolate,
      interpolate_of_plain _ (by decide)] at edit
    exact edit
  have going : m.Going := ⟨rfl, rfl, rfl, rfl⟩
  have first : m.arrive toks 0 = .ready ready := going.arrive (by rw [Token.isFinish, head]; rfl)
  have second : done.2.arrive toks 9 = .ready again :=
    Going.arrive ⟨unstopped, uncancelled, untimed, fine⟩ unfinished
  let last := (dispatch idle toks 9).run again
  have firstStride : Stride toks (0, m) (done.1 + 1, done.2) := .alone first set.alone
  have secondStride : Stride toks (9, done.2) (last.1 + 1, last.2) := .alone second assign.alone
  rw [place] at firstStride
  exact ⟨_, .edit first set firstStride (.edit second assign secondStride .none)⟩

/-- Both fields are found behind the statements, and a third one keeps its spelling. -/
theorem map_law_twoEdits :
    ∃ last, EditRun (scan twoEdits) "M" (0, oneVariable) [.put "b" "x", .put "c" "7"] last ∧
      last.2.get? "M.b" = some "x" ∧ last.2.get? "M.c" = some "7" ∧
      ∃ now, last.2.get? "M" = some now ∧ Value.field? now "a" = some "1.50" := by
  have ⟨plain, found, legible, spelled⟩ : Plain "M" ∧ oneVariable.get? "M" = some oneNumber ∧
      (Value.held? oneNumber).isSome = true ∧ Value.field? oneNumber "a" = some "1.50" := by
    decide +kernel
  rcases Option.isSome_iff_exists.mp legible with ⟨held, holds⟩
  rcases twoEdits_run with ⟨last, ran⟩
  have law := map_law ran plain rfl found
  have answers := law.answers held holds last.2 rfl
  rcases law.untouched "a" (by simp [Edit.Touches]) with ⟨now, shown, kept⟩
  have b : Edit.applyAll [.put "b" "x", .put "c" "7"] held "b" = some (.string "x") := by
    simp [Edit.applyAll, Edit.apply]
  have c : Edit.applyAll [.put "b" "x", .put "c" "7"] held "c" = some (.string "7") := by
    simp [Edit.applyAll, Edit.apply]
  exact ⟨last, ran, answers.field (by decide) (by decide) b, answers.field (by decide) (by decide) c,
    now, shown, kept.trans spelled⟩

/-- A field that is assigned a formula in brackets. -/
def fieldOfFormula : String := "M.b = S[1 + 2]"

/-- The formula has the value three, and the field becomes the word that it begins with. -/
theorem fieldOfFormula_takesWord :
    ((Operand.assigned (scan fieldOfFormula) 4).run oneVariable).1.1 = "3" ∧
      ((dispatch idle (scan fieldOfFormula) 0).run oneVariable).2.get? "M.b" = some "solve" := by
  let toks := scan fieldOfFormula
  have ⟨⟨plain, found, legible⟩, formula, other, assigns, dot, map, field, value⟩ :
      (Plain "M" ∧ oneVariable.get? "M" = some oneNumber ∧
        (Value.held? oneNumber).isSome = true) ∧
      ((Operand.assigned toks 4).run oneVariable).1.1 = "3" ∧
      (toks.peek 0).kind.beginsStatement = false ∧ toks.isAssignment 0 = true ∧
      (toks.peek 1).isSymbol .dot = true ∧ (toks.peek 0).rawName = "M" ∧
      (toks.peek 2).rawName = "b" ∧ oneVariable.tokenValue (toks.peek 4) = "solve" := by
    decide +kernel
  rcases Option.isSome_iff_exists.mp legible with ⟨held, holds⟩
  have edit := EditsMap.field (m := oneVariable) other ⟨assigns, dot, map⟩
  rw [TokenStream.fieldEdit, field, value, Machine.interpolate,
    interpolate_of_plain _ (by decide)] at edit
  rcases (edit.edited plain rfl idle).held _ found with ⟨now, shown, made, -⟩
  rw [holds, Option.map_some] at made
  have b : Edit.applyAll [.put "b" "solve"] held "b" = some (.string "solve") := by
    simp [Edit.applyAll, Edit.apply]
  exact ⟨formula, (answers_of_held plain shown made).field (by decide) (by decide) b⟩

end BigScript
