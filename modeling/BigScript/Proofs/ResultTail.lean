import BigScript.Proofs.Layout
import BigScript.Proofs.Naming
import BigScript.Proofs.Nesting

/-!
# Results and the names that take them

Nearly every statement ends with its tail: `& set as {A} {B}` takes the results one by one, and
`& set as list {L}` takes all of them as a list.  The names of a tail are one token long or three, so
that the place of the next one depends on how the one before it is written, and the search for them
stops where the line does.

`NameList` says how names stand on a line without saying how they are looked for.  `bindNames_binds`
goes along such a list, name by name, and `tail_law` says what a tail of either form does at top
level, and that a statement without a tail leaves its results alone.
-/

namespace BigScript

open Machine

namespace TokenStream

/-- A name on a line, bare or in braces, with the index of its last token. -/
inductive NameAt (toks : TokenStream) (line : Nat) : Nat → String → Nat → Prop where
  | bare {j : Nat} (here : (toks.peek j).line = line)
      (word : (toks.peek j).kind = .name ∨ (toks.peek j).kind.isWord = true) :
      NameAt toks line j (toks.peek j).rawName j
  | braced {j : Nat} {name : String} (here : (toks.peek j).line = line)
      (braced : toks.Braced j name) : NameAt toks line j name (j + 2)

/-- Names one behind the other, up to the end of their line or another token that is no name. -/
inductive NameList (toks : TokenStream) (line : Nat) : Nat → List String → Nat → Prop where
  | none {j : Nat} (ends : (toks.peek j).line ≠ line ∨ Results.beginsName (toks.peek j) = false) :
      NameList toks line j [] j
  | name {j last stop : Nat} {name : String} {names : List String}
      (first : NameAt toks line j name last) (rest : NameList toks line (last + 1) names stop) :
      NameList toks line j (name :: names) stop

/-- The index of the word that a tail behind a token begins with; the ampersand in front of it may be
left out. -/
def tailStart (toks : TokenStream) (i : Nat) : Nat :=
  if (toks.peek (i + 1)).isSymbol .ampersand then i + 2 else i + 1

/-- Whether a tail takes the results of the statement that ends with a token. -/
def hasTail (toks : TokenStream) (i : Nat) : Bool :=
  (toks.peek (toks.tailStart i)).isWord .set && (toks.peek (toks.tailStart i + 1)).isWord .asWord

/-- Whether the tail takes the results as one list. -/
def takesList (toks : TokenStream) (i : Nat) : Bool :=
  (toks.peek (toks.tailStart i + 2)).isWord .list &&
    (toks.peek (toks.tailStart i + 2)).line == (toks.peek (toks.tailStart i)).line

variable {toks : TokenStream} {row i j last : Nat} {name : String}

namespace NameAt

theorem line (named : NameAt toks row j name last) : (toks.peek j).line = row := by
  cases named with
  | bare here | braced here => exact here

theorem begins (named : NameAt toks row j name last) :
    Results.beginsName (toks.peek j) = true := by
  cases named with
  | bare _ word => rcases word with word | word <;> simp [Results.beginsName, word]
  | braced _ braced => simp [Results.beginsName, braced.opens]

theorem bracedName (named : NameAt toks row j name last) : toks.bracedName j = (name, last) := by
  cases named with
  | bare _ word =>
      have unbraced : (toks.peek j).isSymbol .leftBrace = false := by
        rw [Token.isSymbol, beq_eq_false_iff_ne]
        intro same
        simp [same, Kind.isWord] at word
      rw [TokenStream.bracedName, if_neg (Bool.eq_false_iff.mp unbraced)]
  | braced _ braced => exact braced.bracedName

end NameAt
end TokenStream

/-- Names have taken results at top level, the first name the first result; what there is no result
for is bound to nothing.  Nothing else is changed but the log. -/
structure TakesAll (names results : List String) (before after : Machine) : Prop where
  taken : ∀ k name, names[k]? = some name →
    after.globals.valueOf? name = some (results.getD k Value.nothing)
  others : ∀ other ∉ names, after.globals.valueOf? other = before.globals.valueOf? other
  rest : after = { before with log := after.log, globals := after.globals }

namespace TakesAll

variable {name : String} {names results : List String} {before bound after : Machine}

theorem refl (results : List String) (m : Machine) : TakesAll [] results m m where
  taken _ _ named := by cases named
  others _ _ := rfl
  rest := rfl

/-- One name more in front. -/
theorem cons (top : before.locals = []) (fresh : name ∉ names)
    (binds : Binds name (results.headD Value.nothing) before bound)
    (takes : TakesAll names (results.drop 1) bound after) :
    TakesAll (name :: names) results before after where
  taken := by
    intro k other named
    cases k with
    | zero =>
        cases named
        rw [takes.others name fresh, (binds.top top).2, Bindings.valueOf?_set_self]
        cases results <;> rfl
    | succ k =>
        rw [takes.taken k other named]
        cases results <;> rfl
  others := by
    intro other absent
    rw [List.mem_cons, not_or] at absent
    rw [takes.others other absent.2, binds.others absent.1]
  rest := by
    have frames : bound.locals = before.locals := (binds.top top).1.trans top.symm
    have first := binds.rest
    rw [frames] at first
    rw [takes.rest, first]

end TakesAll

namespace Results

open TokenStream

variable {toks : TokenStream} {line i j stop : Nat} {names results : List String} {m : Machine}

theorem bindNames_ends
    (ends : (toks.peek j).line ≠ line ∨ beginsName (toks.peek j) = false) :
    (bindNames toks line results j).run m = (j, m) := by
  have other : ((toks.peek j).line == line && beginsName (toks.peek j)) = false := by
    rcases ends with elsewhere | nothing
    · rw [beq_eq_false_iff_ne.mpr elsewhere, Bool.false_and]
    · rw [nothing, Bool.and_false]
  unfold bindNames
  split
  · simp only [other, Bool.false_eq_true, if_false]
    rfl
  · rfl

theorem bindNames_name (here : (toks.peek j).line = line)
    (begins : beginsName (toks.peek j) = true) :
    (bindNames toks line results j).run m =
      (bindNames toks line (results.drop 1) ((toks.bracedName j).2 + 1)).run
        (m.assign (toks.bracedName j).1 (results.headD Value.nothing)) := by
  have inside : j < toks.size := by
    apply lt_of_not_finish
    rw [Token.isFinish, beq_eq_false_iff_ne]
    intro finished
    simp [beginsName, Token.isSymbol, finished, Kind.isWord] at begins
  have name : ((toks.peek j).line == line && beginsName (toks.peek j)) = true := by
    rw [here, begins, beq_self_eq_true, Bool.and_self]
  conv => lhs; unfold bindNames
  rw [dif_pos inside]
  dsimp only
  rw [if_pos name]
  rfl

/-- The names of a list take the results in order, each name whatever is left of them. -/
theorem bindNames_takes (listed : NameList toks line j names stop) (distinct : names.Nodup)
    (own : ∀ name ∈ names, storedName name = name) (top : m.locals = []) :
    ∃ after, (bindNames toks line results j).run m = (stop, after) ∧
      TakesAll names results m after := by
  induction listed generalizing results m with
  | none ends => exact ⟨m, bindNames_ends ends, .refl results m⟩
  | @name j last stop name names first _ ih =>
      rcases List.nodup_cons.mp distinct with ⟨fresh, distinct⟩
      rcases List.forall_mem_cons.mp own with ⟨here, own⟩
      have binds := assign_binds name (results.headD Value.nothing) m
      rw [here] at binds
      rcases ih distinct own (binds.top top).1 with ⟨after, runs, takes⟩
      refine ⟨after, ?_, takes.cons top fresh binds⟩
      rw [bindNames_name first.line first.begins, first.bracedName]
      exact runs

/-- A tail is looked for once, and its form is told by its first word. -/
theorem setAs_run (toks : TokenStream) (i : Nat) (results : List String) (m : Machine) :
    (setAs toks i results).run m =
      if toks.hasTail i then
        if toks.takesList i then
          let name := toks.bracedName (toks.tailStart i + 3)
          (name.2, m.assign name.1 (Json.writeStrings results))
        else
          let bound := (bindNames toks (toks.peek (toks.tailStart i)).line results
            (toks.tailStart i + 2)).run m
          (bound.1 - 1, bound.2)
      else (i, m) := by
  have written : setAs toks i results =
      if toks.hasTail i then
        if toks.takesList i then do
          modify (assign (toks.bracedName (toks.tailStart i + 3)).1 (Json.writeStrings results))
          return (toks.bracedName (toks.tailStart i + 3)).2
        else
          return (← bindNames toks (toks.peek (toks.tailStart i)).line results
            (toks.tailStart i + 2)) - 1
      else return i := rfl
  rw [written]
  cases toks.hasTail i with
  | false => rfl
  | true => cases toks.takesList i <;> rfl

/-- What becomes of the results of a statement that ends with the token at an index. -/
structure TailLaw (toks : TokenStream) (i : Nat) (results : List String) (m : Machine) : Prop where
  /-- At top level distinct names take the results in order, and the last token of the last name is
  the last one of the statement. -/
  names : ∀ names stop, toks.hasTail i = true → toks.takesList i = false →
    NameList toks (toks.peek (toks.tailStart i)).line (toks.tailStart i + 2) names stop →
    names.Nodup → (∀ name ∈ names, storedName name = name) → m.locals = [] →
      ∃ after, (setAs toks i results).run m = (stop - 1, after) ∧ TakesAll names results m after
  /-- A list takes all results, and nothing else is bound. -/
  list : ∀ line name last, toks.hasTail i = true → toks.takesList i = true →
    NameAt toks line (toks.tailStart i + 3) name last → storedName name = name → m.locals = [] →
      ∃ after, (setAs toks i results).run m = (last, after) ∧
        TakesAll [name] [Json.writeStrings results] m after
  /-- Without a tail nothing is done. -/
  absent : toks.hasTail i = false → (setAs toks i results).run m = (i, m)

theorem tail_law (toks : TokenStream) (i : Nat) (results : List String) (m : Machine) :
    TailLaw toks i results m where
  names := by
    intro names stop tail single listed distinct own top
    rcases bindNames_takes listed distinct own top with ⟨after, runs, takes⟩
    refine ⟨after, ?_, takes⟩
    rw [setAs_run, if_pos tail, if_neg (Bool.eq_false_iff.mp single), runs]
  list := by
    intro line name last tail whole named own top
    have binds := assign_binds name (Json.writeStrings results) m
    rw [own] at binds
    refine ⟨m.assign name (Json.writeStrings results), ?_,
      .cons top List.not_mem_nil binds (.refl _ _)⟩
    rw [setAs_run, if_pos tail, if_pos whole, named.bracedName]
  absent := by
    intro absent
    rw [setAs_run, if_neg (Bool.eq_false_iff.mp absent)]

/-- Three names for two results, and a list of both. -/
theorem tail_law_threeNames :
    (∃ after, (setAs (scan "run f & set as A {B} {C}") 1 ["1", "2"]).run (.start {}) = (11, after) ∧
      after.globals.valueOf? "A" = some "1" ∧ after.globals.valueOf? "B" = some "2" ∧
      after.globals.valueOf? "C" = some Value.nothing) ∧
    ∃ after, (setAs (scan "run f & set as list {L}") 1 ["1", "2"]).run (.start {}) = (8, after) ∧
      after.globals.valueOf? "L" = some "[\"1\",\"2\"]" := by
  constructor
  · let toks := scan "run f & set as A {B} {C}"
    have ⟨tail, single, line, bare, first, second, third, ends⟩ : toks.hasTail 1 = true ∧
        toks.takesList 1 = false ∧ (toks.peek (toks.tailStart 1)).line = 1 ∧
        toks.tailStart 1 + 2 = 5 ∧
        ((toks.peek 5).line = 1 ∧ (toks.peek 5).kind = .name ∧ (toks.peek 5).rawName = "A") ∧
        ((toks.peek 6).line = 1 ∧ (toks.peek 6).isSymbol .leftBrace = true ∧
          (toks.peek 7).rawName = "B" ∧ (toks.peek 8).isSymbol .rightBrace = true) ∧
        ((toks.peek 9).line = 1 ∧ (toks.peek 9).isSymbol .leftBrace = true ∧
          (toks.peek 10).rawName = "C" ∧ (toks.peek 11).isSymbol .rightBrace = true) ∧
        beginsName (toks.peek 12) = false := by
      decide +kernel
    have listed : NameList toks 1 5 ["A", "B", "C"] 12 :=
      .name (first.2.2 ▸ .bare first.1 (.inl first.2.1))
        (.name (.braced second.1 ⟨second.2.1, second.2.2.1, second.2.2.2⟩)
          (.name (.braced third.1 ⟨third.2.1, third.2.2.1, third.2.2.2⟩) (.none (.inr ends))))
    rw [← line, ← bare] at listed
    rcases (tail_law toks 1 ["1", "2"] (.start {})).names _ _ tail single listed (by decide)
      (by decide +kernel) rfl with ⟨after, runs, takes⟩
    exact ⟨after, runs, takes.taken 0 "A" rfl, takes.taken 1 "B" rfl, takes.taken 2 "C" rfl⟩
  · let toks := scan "run f & set as list {L}"
    have ⟨tail, whole, start, line, braced⟩ : toks.hasTail 1 = true ∧ toks.takesList 1 = true ∧
        toks.tailStart 1 + 3 = 6 ∧ (toks.peek 6).line = 1 ∧
        (toks.peek 6).isSymbol .leftBrace = true ∧ (toks.peek 7).rawName = "L" ∧
          (toks.peek 8).isSymbol .rightBrace = true := by
      decide +kernel
    have named : toks.NameAt 1 (toks.tailStart 1 + 3) "L" 8 := by
      rw [start]
      exact .braced line ⟨braced.1, braced.2.1, braced.2.2⟩
    rcases (tail_law toks 1 ["1", "2"] (.start {})).list 1 "L" 8 tail whole named
      (by decide +kernel) rfl with ⟨after, runs, takes⟩
    have written : Json.writeStrings ["1", "2"] = "[\"1\",\"2\"]" := by decide +kernel
    exact ⟨after, runs, written ▸ takes.taken 0 "L" rfl⟩

end Results
end BigScript
