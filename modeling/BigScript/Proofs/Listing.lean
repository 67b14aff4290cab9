import BigScript.Proofs.Definitions
import BigScript.Tool.Summary
import Mathlib.Data.List.Basic

/-!
# The functions a summary lists

A definition begins with three tokens: `start`, `doing` and a name.  The summary of a source looks at
two of them only, the last two, so it lists the name behind every `doing`, also behind the one that
closes a definition.  Tokens know nothing of line ends: the first word of the line below `end doing` is
such a name.

`neighbours_toList` turns the walk over pairs of tokens into one over indices.  Both lists of names are
then taken from the same indices, by a test that is stricter for the names that are defined, and
`ListingLaw` says by how much they differ.
-/

namespace BigScript
namespace Summary

/-- The pairs of neighbours, by the index of the first one. -/
theorem neighbours_eq (ts : List Token) :
    neighbours ts = (List.range ts.length).map fun k =>
      (ts[k]?.getD Token.absent, ts[k + 1]?.getD Token.absent) := by
  induction ts with
  | nil => rfl
  | cons t rest ih =>
    rw [List.length_cons, List.range_succ_eq_map, List.map_cons, List.map_map]
    cases rest with
    | nil => rfl
    | cons next rest =>
      rw [neighbours, ih]
      rfl

theorem neighbours_toList (toks : TokenStream) :
    neighbours toks.toList =
      (List.range toks.size).map fun k => (toks.peek k, toks.peek (k + 1)) := by
  have peeked (k : Nat) : toks.toList[k]?.getD Token.absent = toks.peek k := by
    rw [Array.getElem?_toList, TokenStream.peek, Array.getD_eq_getD_getElem?]
  simp only [neighbours_eq, peeked, Array.length_toList]

end Summary

namespace TokenStream

variable (toks : TokenStream)

/-- The name behind the word that opens and closes definitions. -/
def doingName? (k : Nat) : Option String :=
  match (toks.peek (k + 1)).lexeme with
  | .name name => if (toks.peek k).isWord .doing then some name else none
  | _ => none

/-- Whether the word that begins a block stands directly in front of an index. -/
def isStarted : (k : Nat) → Bool
  | 0 => false
  | i + 1 => (toks.peek i).isWord .start

/-- The name in the head of a definition, `start doing NAME`, that begins at an index. -/
def headName? (i : Nat) : Option String :=
  if (toks.peek i).isWord .start then toks.doingName? (i + 1) else none

/-- The names in the heads of all definitions, in order. -/
def headNames : List String := (List.range toks.size).filterMap toks.headName?

/-- Where the word of definitions has a name behind it. -/
def namedSpots : List Nat := (List.range toks.size).filter fun k => (toks.doingName? k).isSome

/-- Where such a name is in no head of a definition. -/
def straySpots : List Nat := toks.namedSpots.filter fun k => !toks.isStarted k

variable {toks} {i k : Nat} {name : String}

theorem doingName?_eq_some :
    toks.doingName? k = some name ↔
      (toks.peek k).isWord .doing = true ∧ (toks.peek (k + 1)).lexeme = .name name := by
  unfold doingName?
  split
  · next other named =>
    by_cases doing : (toks.peek k).isWord .doing = true
    · simp [doing, named]
    · simp [doing]
  · next unnamed =>
    constructor
    · intro none
      cases none
    · rintro ⟨-, named⟩
      exact absurd named (unnamed name)

theorem headName?_eq_some :
    toks.headName? i = some name ↔ (toks.peek i).isWord .start = true ∧
      (toks.peek (i + 1)).isWord .doing = true ∧ (toks.peek (i + 2)).lexeme = .name name := by
  rw [← doingName?_eq_some, headName?, Option.ite_none_right_eq_some]

theorem inside_of_doingName? (named : toks.doingName? k = some name) : k < toks.size := by
  have doing := eq_of_beq (doingName?_eq_some.mp named).1
  apply lt_of_not_finish
  rw [Token.isFinish, doing]
  rfl

theorem mem_namedSpots : k ∈ toks.namedSpots ↔ ∃ name, toks.doingName? k = some name := by
  rw [namedSpots, List.mem_filter, List.mem_range, Option.isSome_iff_exists]
  constructor
  · rintro ⟨-, named⟩
    exact named
  · rintro ⟨name, named⟩
    exact ⟨inside_of_doingName? named, name, named⟩

/-- Names behind the word of definitions, from a list of indices. -/
theorem filterMap_doingName? (indices : List Nat) :
    indices.filterMap toks.doingName? =
      (indices.filter fun k => (toks.doingName? k).isSome).filterMap toks.doingName? := by
  have same : (fun k => if (toks.doingName? k).isSome then toks.doingName? k else none) =
      toks.doingName? := by
    funext k
    cases toks.doingName? k <;> rfl
  rw [List.filterMap_filter, same]

/-- The names in heads are those behind the words of definitions that a start word is in front of. -/
theorem headNames_eq :
    toks.headNames = (toks.namedSpots.filter toks.isStarted).filterMap toks.doingName? := by
  have shifted : toks.headNames = (List.range (toks.size + 1)).filterMap fun k =>
      if toks.isStarted k then toks.doingName? k else none := by
    rw [List.range_succ_eq_map, List.filterMap_cons, List.filterMap_map]
    rfl
  have last : toks.doingName? toks.size = none := by
    rw [Option.eq_none_iff_forall_ne_some]
    intro name named
    exact absurd (inside_of_doingName? named) (Nat.lt_irrefl _)
  have ends : [toks.size].filterMap
      (fun k => if toks.isStarted k then toks.doingName? k else none) = [] := by
    rw [List.filterMap_cons, last, ite_self, List.filterMap_nil]
  rw [shifted, List.range_succ, List.filterMap_append, ends, List.append_nil,
    ← List.filterMap_filter, filterMap_doingName?, namedSpots, List.filter_filter,
    List.filter_filter]
  simp only [Bool.and_comm]

end TokenStream

/-- How the names that a summary lists are related to the definitions. -/
structure ListingLaw (toks : TokenStream) (listed : List String) : Prop where
  /-- Every name behind a word of definitions is listed, in order. -/
  names : listed = toks.namedSpots.filterMap toks.doingName?
  /-- So no name of a definition is missing. -/
  heads : toks.headNames.Sublist listed
  /-- There are as many names too many as there are such words without a start word in front. -/
  surplus : listed.length = toks.headNames.length + toks.straySpots.length
  /-- The list is right exactly if there is no such word. -/
  exact_iff : listed = toks.headNames ↔
    ∀ k name, toks.doingName? k = some name → toks.isStarted k = true
  /-- A name behind the words that close a definition is listed, and the list is wrong. -/
  closing : ∀ k name, (toks.peek k).isWord .endWord = true → toks.doingName? (k + 1) = some name →
    name ∈ listed ∧ listed ≠ toks.headNames
  /-- At the head of a definition a run defines a function of the name that is listed. -/
  defines : ∀ i name, toks.headName? i = some name → ∀ run m, ∃ procedure,
    procedure.name = name ∧ ((Statement.dispatch run toks i).run m).2 = m.define procedure

namespace Statement

variable {toks : TokenStream} {i : Nat} {name : String}

theorem dispatch_define (head : toks.headName? i = some name) (run : Runner) :
    dispatch run toks i = define toks i := by
  obtain ⟨starts, doing, -⟩ := TokenStream.headName?_eq_some.mp head
  have other : (toks.peek (i + 1)).isWord .loop = false := by
    rw [Token.isWord, beq_iff_eq] at doing
    rw [Token.isWord, doing]
    rfl
  have kind : (toks.peek i).kind = .word .start := by simpa [Token.isWord] using starts
  unfold dispatch
  rw [kind]
  change direct toks i = _
  unfold direct
  rw [kind]
  change start toks i = _
  unfold start
  dsimp only
  rw [other, if_neg Bool.false_ne_true, if_pos doing]

theorem definition_name (head : toks.headName? i = some name) : (definition toks i).name = name := by
  obtain ⟨-, -, named⟩ := TokenStream.headName?_eq_some.mp head
  have raw : (toks.peek (i + 2)).rawName = name := by rw [Token.rawName, named]
  exact raw

end Statement

theorem listing_law (source : String) :
    ListingLaw (scan source) (Summary.ofSource source).functions := by
  have names : (Summary.ofSource source).functions =
      (scan source).namedSpots.filterMap (scan source).doingName? := by
    change (Summary.neighbours (scan source).toList).filterMap _ = _
    rw [Summary.neighbours_toList, List.filterMap_map]
    exact TokenStream.filterMap_doingName? _
  rw [names]
  generalize scan source = toks
  have length (spots : List Nat) (named : ∀ k ∈ spots, k ∈ toks.namedSpots) :
      (spots.filterMap toks.doingName?).length = spots.length := by
    rw [List.length_filterMap_eq_countP, List.countP_eq_length]
    intro k spot
    rcases TokenStream.mem_namedSpots.mp (named k spot) with ⟨name, found⟩
    rw [found]
    rfl
  have heads : toks.headNames.Sublist (toks.namedSpots.filterMap toks.doingName?) := by
    rw [TokenStream.headNames_eq]
    exact List.filter_sublist.filterMap _
  have surplus : (toks.namedSpots.filterMap toks.doingName?).length =
      toks.headNames.length + toks.straySpots.length := by
    rw [TokenStream.headNames_eq, length _ fun _ spot => spot,
      length _ fun _ spot => (List.mem_filter.mp spot).1]
    exact List.length_eq_length_filter_add _
  have exact_iff : toks.namedSpots.filterMap toks.doingName? = toks.headNames ↔
      ∀ k name, toks.doingName? k = some name → toks.isStarted k = true := by
    have none : toks.straySpots = [] ↔
        ∀ k name, toks.doingName? k = some name → toks.isStarted k = true := by
      rw [TokenStream.straySpots, List.filter_eq_nil_iff]
      simp [TokenStream.mem_namedSpots]
    rw [← none]
    constructor
    · intro same
      rw [same] at surplus
      exact List.eq_nil_of_length_eq_zero (by omega)
    · intro few
      rw [few] at surplus
      exact (heads.eq_of_length surplus.symm).symm
  exact {
    names := rfl
    heads
    surplus
    exact_iff
    closing := by
      intro k name ends named
      refine ⟨List.mem_filterMap.mpr ⟨k + 1, TokenStream.mem_namedSpots.mpr ⟨name, named⟩, named⟩, ?_⟩
      intro same
      have starts : (toks.peek k).isWord .start = true := exact_iff.mp same (k + 1) name named
      rw [Token.isWord, beq_iff_eq] at ends starts
      cases ends.symm.trans starts
    defines := by
      intro i name head run m
      refine ⟨Statement.definition toks i, Statement.definition_name head, ?_⟩
      rw [Statement.dispatch_define head, Statement.define_run] }

/-- A definition with one more line behind it. -/
def oneFunction : String := "start doing F\n    print 1\nend doing\nTotal = 5"

/-- The first word of that line is listed as if it named a function. -/
theorem oneFunction_listsTotal :
    (scan oneFunction).headNames = ["F"] ∧
      (Summary.ofSource oneFunction).functions = ["F", "Total"] := by
  decide +kernel

end BigScript
