import BigScript.Proofs.Healing.Closure
import BigScript.Proofs.Listing
import BigScript.Proofs.LoopExit
import BigScript.Tool.Shell
import Mathlib.Data.List.TakeWhile

/-!
# What opens a loop

A loop is opened by `start loop`, or by `s.loop` for short.  Five parts of the program look for such
words.  Runs, healing and the search for the `keep` of a loop know both spellings and agree at every
token.  The summary of a script and the interactive session know one of them only.

`CountLaw` compares how many openers there are in a source for each of them.  Healing does not count, but
what it inserts shows what it has seen: two tokens for every opener whose loop no `keep` closes.
`EntryLaw` says for an entry of a session which lines it takes in, by the words it begins with.
-/

namespace BigScript

/-! ## Counting -/

theorem countP_or {α : Type} {first second : α → Bool} (apart : ∀ a, first a = true → second a = false)
    (as : List α) :
    as.countP (fun a => first a || second a) = as.countP first + as.countP second := by
  induction as with
  | nil => rfl
  | cons a as ih =>
    rw [List.countP_cons, List.countP_cons, List.countP_cons, ih]
    cases here : first a with
    | true =>
      simp [apart a here]
      omega
    | false =>
      simp
      omega

namespace TokenStream

variable (toks : TokenStream)

/-- How many loops are opened by the short form. -/
def shortOpenings : Nat := (List.range toks.size).countP fun k => (toks.peek k).isWord .startLoop

/-- How many loops are opened by the two words. -/
def longOpenings : Nat := (List.range toks.size).countP fun k =>
  (toks.peek k).isWord .start && (toks.peek (k + 1)).isWord .loop

theorem openings_eq : toks.openings 0 toks.size = toks.longOpenings + toks.shortOpenings := by
  have apart (k : Nat) : ((toks.peek k).isWord .start && (toks.peek (k + 1)).isWord .loop) = true →
      (toks.peek k).isWord .startLoop = false := by
    intro long
    have start := eq_of_beq (Bool.and_eq_true _ _ |>.mp long).1
    rw [Token.isWord, start]
    rfl
  rw [openings, Nat.sub_zero, ← List.range_eq_range', longOpenings, shortOpenings, ← countP_or apart]
  rfl

end TokenStream

theorem Summary.ofSource_loops (source : String) :
    (ofSource source).loops = (scan source).longOpenings := by
  change (neighbours (scan source).toList).countP _ = _
  rw [neighbours_toList, List.countP_map]
  rfl

/-! ## What healing inserts -/

namespace Heal

variable {toks : TokenStream} {line : Nat} {loops rest : List Token} {t : Token}

/-- How many loops a list of tokens opens. -/
def openers : List Token → Nat
  | [] => 0
  | t :: rest => (opens t rest).toNat + openers rest

/-- How many `keep` words there are in a list of tokens. -/
def keeps (ts : List Token) : Nat := ts.countP (·.isWord .keep)

theorem openers_drop (toks : TokenStream) (i : Nat) :
    openers (toks.toList.drop i) = toks.openings i toks.size := by
  rcases Nat.lt_or_ge i toks.size with inside | outside
  · rw [TokenStream.drop_of_lt inside, openers, toks.opens_eq, TokenStream.openings_succ inside,
      openers_drop toks (i + 1)]
  · rw [TokenStream.drop_of_le outside, TokenStream.openings, Nat.sub_eq_zero_of_le outside]
    rfl
termination_by toks.size - i

theorem keeps_drop (toks : TokenStream) (i : Nat) :
    keeps (toks.toList.drop i) = toks.closings i toks.size := by
  rcases Nat.lt_or_ge i toks.size with inside | outside
  · rw [TokenStream.drop_of_lt inside, TokenStream.closings_succ inside, ← keeps_drop toks (i + 1),
      keeps, List.countP_cons, Nat.add_comm]
    cases (toks.peek i).isWord .keep <;> rfl
  · rw [TokenStream.drop_of_le outside, TokenStream.closings, Nat.sub_eq_zero_of_le outside]
    rfl
termination_by toks.size - i

theorem length_closings (closed : List Token) : (closed.flatMap closing).length = 2 * closed.length := by
  induction closed with
  | nil => rfl
  | cons opener closed ih =>
    rw [List.flatMap_cons, List.length_append, ih, closing_eq, List.length_cons]
    simp only [List.length_cons, List.length_nil]
    omega

/-- A loop is open behind a token if it is open in front of it or opened there, up to one that a `keep`
closes. -/
theorem length_openAfter (t : Token) (rest loops : List Token) :
    (openAfter t (opens t rest) loops).length ≤ loops.length + (opens t rest).toNat ∧
      loops.length + (opens t rest).toNat ≤
        (openAfter t (opens t rest) loops).length + (t.isWord .keep).toNat := by
  unfold openAfter
  cases opened : opens t rest with
  | true => simp
  | false =>
    cases t.isWord .keep with
    | true =>
      simp only [Bool.false_eq_true, if_false, if_true, List.length_drop, Bool.toNat_true,
        Bool.toNat_false]
      omega
    | false => simp

theorem length_healFrom_token (unfinished : t.isFinish = false) :
    (healFrom line loops (t :: rest)).length =
      2 * (closedAt line t loops).length + (healFrom t.line
        (openAfter t (opens t rest) (loops.drop (closedAt line t loops).length)) rest).length + 1 := by
  rw [healFrom_token unfinished, List.length_append, length_closings, List.length_cons]
  omega

theorem length_healFrom_finish (finished : t.isFinish = true) :
    (healFrom line loops (t :: rest)).length =
      2 * loops.length + (healFrom line [] rest).length + 1 := by
  rw [healFrom_finish finished, List.length_append, length_closings, List.length_cons]
  omega

theorem length_closedAt (line : Nat) (t : Token) (loops : List Token) :
    (closedAt line t loops).length ≤ loops.length := closedAt_initial.length_le

/-- Healing closes no loop that was not opened. -/
theorem length_healFrom_le (line : Nat) (loops ts : List Token) :
    (healFrom line loops ts).length ≤ ts.length + 2 * (loops.length + openers ts) := by
  induction ts generalizing line loops with
  | nil => exact Nat.zero_le _
  | cons t rest ih =>
    rw [List.length_cons, openers]
    cases finished : t.isFinish with
    | true =>
      have behind := ih line []
      rw [length_healFrom_finish finished]
      simp only [List.length_nil] at behind
      omega
    | false =>
      have behind := ih t.line
        (openAfter t (opens t rest) (loops.drop (closedAt line t loops).length))
      have after := (length_openAfter t rest (loops.drop (closedAt line t loops).length)).1
      have closed := length_closedAt line t loops
      rw [length_healFrom_token finished]
      rw [List.length_drop] at after
      omega

/-- Healing closes every loop that was opened, if no `keep` has closed it. -/
theorem le_length_healFrom {finish : Token} (ends : finish.isFinish = true) (line : Nat)
    (loops ts : List Token) :
    (ts ++ [finish]).length + 2 * (loops.length + openers (ts ++ [finish])) ≤
      (healFrom line loops (ts ++ [finish])).length + 2 * keeps (ts ++ [finish]) := by
  induction ts generalizing line loops with
  | nil =>
    have none : openers [finish] = 0 := by
      cases opened : opens finish [] with
      | true => rw [unfinished_of_opens opened] at ends; cases ends
      | false => rw [openers, opened]; rfl
    rw [List.nil_append, length_healFrom_finish ends, none]
    simp only [List.length_cons, List.length_nil]
    omega
  | cons t rest ih =>
    rw [List.cons_append, List.length_cons, openers, keeps, List.countP_cons]
    cases finished : t.isFinish with
    | true =>
      have behind := ih line []
      have none : opens t (rest ++ [finish]) = false := by
        cases opened : opens t (rest ++ [finish]) with
        | true => rw [unfinished_of_opens opened] at finished; cases finished
        | false => rfl
      rw [length_healFrom_finish finished, none, Bool.toNat_false]
      simp only [List.length_nil, keeps] at behind
      omega
    | false =>
      have behind := ih t.line (openAfter t (opens t (rest ++ [finish]))
        (loops.drop (closedAt line t loops).length))
      have after := (length_openAfter t (rest ++ [finish])
        (loops.drop (closedAt line t loops).length)).2
      have closed := length_closedAt line t loops
      have kept : (t.isWord .keep).toNat = if t.isWord .keep = true then 1 else 0 := by
        cases t.isWord .keep <;> rfl
      rw [length_healFrom_token finished]
      rw [List.length_drop, kept] at after
      rw [keeps] at behind
      omega

theorem size_heal (source : String) :
    (heal (scan source)).size ≤
        (scan source).size + 2 * (scan source).openings 0 (scan source).size ∧
      (scan source).size + 2 * (scan source).openings 0 (scan source).size ≤
        (heal (scan source)).size + 2 * (scan source).closings 0 (scan source).size := by
  have healed : (heal (scan source)).size = (healFrom 0 [] (scan source).toList).length :=
    List.size_toArray
  have opened : openers (scan source).toList = _ := openers_drop (scan source) 0
  have kept : keeps (scan source).toList = _ := keeps_drop (scan source) 0
  rw [healed, ← opened, ← kept, ← Array.length_toList]
  rcases Scan.scan_ends source with ⟨ts, finish, same, ends⟩
  rw [same]
  have below := length_healFrom_le 0 [] (ts ++ [finish])
  have above := le_length_healFrom ends 0 [] ts
  rw [List.length_nil, Nat.zero_add] at below above
  exact ⟨below, above⟩

end Heal

/-! ## Entries of a session -/

namespace Text

/-- The blank characters. -/
def spaces : List Nat :=
  [9, 10, 11, 12, 13, 32, 0x85, 0xA0, 0x1680, 0x2000, 0x2001, 0x2002, 0x2003, 0x2004, 0x2005, 0x2006,
    0x2007, 0x2008, 0x2009, 0x200A, 0x2028, 0x2029, 0x202F, 0x205F, 0x3000]

/-- No word begins with a blank character. -/
theorem isLetter_of_isSpace {c : Char} (space : isSpace c = true) :
    (isLetter c || c == '_') = false := by
  have code : c.toNat ∈ spaces := by
    simp only [isSpace, Bool.or_eq_true, Bool.and_eq_true, decide_eq_true_eq, beq_iff_eq] at space
    simp only [spaces, List.mem_cons, List.not_mem_nil, or_false]
    omega
  have none : ∀ code ∈ spaces, (isLetter (Char.ofNat code) || Char.ofNat code == '_') = false := by
    decide +kernel
  rw [← Char.ofNat_toNat c]
  exact none c.toNat code

/-- Only blank characters are trimmed away altogether. -/
theorem isSpace_of_trim {s : String} (blank : (trim s).isEmpty = true) :
    ∀ c ∈ s.toList, isSpace c = true := by
  have empty : (s.toList.dropWhile isSpace).reverse.dropWhile isSpace = [] := by
    have none : String.ofList (trimChars isSpace s.toList) = "" := String.isEmpty_iff.mp blank
    have chars := congrArg String.toList none
    rw [String.toList_ofList] at chars
    exact List.reverse_eq_nil_iff.mp chars
  intro c member
  rw [← List.takeWhile_append_dropWhile (p := isSpace) (l := s.toList), List.mem_append] at member
  rcases member with front | rest
  · exact List.mem_takeWhile_imp front
  · exact List.dropWhile_eq_nil_iff.mp empty c (List.mem_reverse.mpr rest)

end Text

namespace Scan

theorem letter_of_word {first : Char} {cs : List Char} {k : Keyword}
    (word : (readPiece first cs).lexeme = .word k) : (Text.isLetter first || first == '_') = true := by
  unfold readPiece at word
  split at word
  · cases word
  · split at word
    · unfold readNumber at word
      dsimp only at word
      split at word
      · split at word <;> cases word
      · cases word
    · split at word
      · assumption
      · unfold readSymbol at word
        dsimp only at word
        repeat' split at word
        all_goals cases word

theorem kind_token (place : Place) (cs : List Char) (piece : Piece) :
    (token place cs piece).kind = piece.lexeme.kind := rfl

/-- There is no reserved word on a blank line. -/
theorem not_word_of_blank {place : Place} {cs : List Char} (blank : ∀ c ∈ cs, Text.isSpace c = true)
    {t : Token} (member : t ∈ tokens place cs) (k : Keyword) : t.kind ≠ .word k := by
  intro word
  fun_induction tokens place cs with
  | case1 => cases List.mem_singleton.mp member; cases word
  | case2 _ c cs _ ih => exact ih (fun d inside => blank d (List.mem_cons_of_mem c inside)) member
  | case3 _ c cs _ hash =>
    have space := blank c List.mem_cons_self
    rw [eq_of_beq hash] at space
    exact absurd space (by decide)
  | case4 place c cs _ _ piece ih =>
    rcases List.mem_cons.mp member with rfl | member
    · rw [kind_token] at word
      have lexeme : (readPiece c cs).lexeme = .word k := by
        change piece.lexeme = _
        generalize piece.lexeme = lexeme at word
        cases lexeme <;> cases word
        rfl
      have letter := letter_of_word lexeme
      rw [Text.isLetter_of_isSpace (blank c List.mem_cons_self)] at letter
      cases letter
    · exact ih (fun d inside => blank d (List.mem_cons_of_mem c (List.mem_of_mem_drop inside))) member

end Scan

namespace Session

/-- Whether a line has nothing on it. -/
def isBlank (line : String) : Bool := (Text.trim line).isEmpty

/-- Whether the first line of an entry begins with a word that makes it go on. -/
def goesOn (first : String) : Bool :=
  ((scan first).peek 0).isWord .ifWord || ((scan first).peek 0).isWord .orWord ||
    ((scan first).peek 0).isWord .start

/-- Reads an entry behind the lines that are there: lines are added as long as more are needed.  The
answer holds the lines of the entry and those behind it. -/
def gather (block : List String) : List String → List String × List String
  | [] => (block, [])
  | line :: rest =>
    if needsMore (block ++ [line]) then gather (block ++ [line]) rest else (block ++ [line], rest)

theorem needsMore_cons (first : String) (more : List String) (last : String) :
    needsMore (first :: more ++ [last]) = (goesOn first && !isBlank last) := by
  rw [List.cons_append, needsMore, ← List.cons_append, List.getLastD_concat, goesOn, isBlank,
    Bool.and_comm]

/-- An entry that goes on takes in every line that is not blank. -/
theorem gather_body {first : String} (opened : goesOn first = true) (more body rest : List String)
    (full : ∀ line ∈ body, isBlank line = false) :
    gather (first :: more) (body ++ rest) = gather (first :: more ++ body) rest := by
  induction body generalizing more with
  | nil => rw [List.append_nil, List.nil_append]
  | cons line body ih =>
    have here := full line List.mem_cons_self
    rw [List.cons_append, gather, needsMore_cons, opened, here, Bool.not_false, Bool.and_true,
      if_pos rfl]
    have behind := ih (more ++ [line]) fun other inside => full other (List.mem_cons_of_mem line inside)
    rw [List.cons_append, behind]
    simp

/-- The first blank line ends it. -/
theorem gather_blank {first blank : String} (empty : isBlank blank = true) (more rest : List String) :
    gather (first :: more) (blank :: rest) = (first :: more ++ [blank], rest) := by
  rw [gather, needsMore_cons, empty, Bool.not_true, Bool.and_false, if_neg Bool.false_ne_true]

/-- A line that begins with a reserved word is not blank. -/
theorem not_blank_of_word {line : String} {k : Keyword} (word : ((scan line).peek 0).isWord k = true) :
    isBlank line = false := by
  refine Bool.eq_false_iff.mpr fun blank => ?_
  have kind := eq_of_beq word
  rcases Nat.eq_zero_or_pos (scan line).size with none | some
  · rw [TokenStream.peek_of_le (Nat.le_of_eq none)] at kind
    cases kind
  · rw [TokenStream.peek_of_lt some] at kind
    have member : (scan line)[0] ∈ (scan line).toList := Array.getElem_mem_toList some
    exact Scan.not_word_of_blank (Text.isSpace_of_trim blank) member k kind

theorem not_blank_of_goesOn {first : String} (opened : goesOn first = true) : isBlank first = false := by
  simp only [goesOn, Bool.or_eq_true] at opened
  rcases opened with (word | word) | word
  · exact not_blank_of_word word
  · exact not_blank_of_word word
  · exact not_blank_of_word word

end Session

/-! ## Runs -/

namespace Statement

variable {toks : TokenStream} {i : Nat} {m : Machine}

theorem start_loops (other : (toks.peek (i + 1)).isWord .loop = false) :
    ((start toks i).run m).2.loops = m.loops := by
  have printed (text : String) : ((printLine text).run m).2.loops = m.loops :=
    ((printLine_routine text).steady m).loops
  unfold start
  dsimp only
  rw [other, if_neg Bool.false_ne_true]
  split
  · rw [define_run]
    rfl
  · split
    · exact printed _
    · rfl

/-- At a token that opens no loop, a run that goes on has no more loops open than before. -/
theorem dispatch_opensNone (closed : toks.opensLoop i = false) (alone : nested? toks i m = none) :
    ((dispatch idle toks i).run m).2.isStopped = true ∨
      ((dispatch idle toks i).run m).2.loops.length ≤ m.loops.length := by
  cases jumps : (toks.kindAt i).jumps with
  | false => exact .inr (Nat.le_of_eq (congrArg List.length (dispatch_keepsLoops jumps alone)))
  | true =>
    by_cases head : toks.kindAt i = .word .start
    · have other : (toks.peek (i + 1)).isWord .loop = false := by
        rw [TokenStream.opensLoop, head, Bool.or_eq_false_iff, beq_self_eq_true, Bool.true_and] at closed
        exact closed.1
      rw [dispatch_jumps jumps]
      unfold direct
      rw [show (toks.peek i).kind = .word .start from head]
      exact .inr (Nat.le_of_eq (congrArg List.length (start_loops other)))
    · rcases jumps_moves jumps (fun start => absurd start head) (m := m) with stopped | moves
      · exact .inl stopped
      · refine .inr ?_
        generalize ((dispatch idle toks i).run m).1 + 1 = j at moves
        generalize ((dispatch idle toks i).run m).2.loops = after at moves
        generalize m.loops = before at moves
        cases moves with
        | opens header | passes header => exact absurd header (Bool.eq_false_iff.mp closed)
        | closes | returns => simp
        | leaves => simp
        | block | line | onward => exact Nat.le_refl _

end Statement

/-! ## The laws -/

/-- What the parts of the program count as openers of loops in the tokens of a source. -/
structure CountLaw (source : String) (toks : TokenStream) : Prop where
  /-- A run opens a loop at an opener and nowhere else. -/
  opens : ∀ i, toks.opensLoop i = true →
    Statement.dispatch Statement.idle toks i = Statement.openLoop toks i (Statement.optionsAt toks i)
  others : ∀ i m, toks.opensLoop i = false → Statement.nested? toks i m = none →
    ((Statement.dispatch Statement.idle toks i).run m).2.isStopped = true ∨
      ((Statement.dispatch Statement.idle toks i).run m).2.loops.length ≤ m.loops.length
  /-- Healing finds the same openers. -/
  healing : ∀ i, Heal.opens (toks.peek i) (toks.toList.drop (i + 1)) = toks.opensLoop i
  /-- It inserts two tokens for each of them, but at most for one opener fewer for each `keep`. -/
  inserted : (heal toks).size ≤ toks.size + 2 * toks.openings 0 toks.size ∧
    toks.size + 2 * toks.openings 0 toks.size ≤ (heal toks).size + 2 * toks.closings 0 toks.size
  /-- The search for a `keep` ends at the one with which as many are found as the same openers ask for. -/
  search : ∀ depth first k, (toks.peek k).isWord .keep = true → first ≤ k →
    (∀ p < k, first ≤ p → (toks.peek p).isFinish = false) → toks.Matched depth first k →
      toks.afterKeep (depth + 1) first = toks.lineEnd k
  /-- The summary does not count the short form. -/
  summary : (Summary.ofSource source).loops + toks.shortOpenings = toks.openings 0 toks.size
  summary_iff : (Summary.ofSource source).loops = toks.openings 0 toks.size ↔
    ∀ k, (toks.peek k).isWord .startLoop = false

/-- Which lines an entry takes in, by its first line. -/
structure EntryLaw (first : String) : Prop where
  /-- If the first line goes on, more lines are asked for as long as none is blank. -/
  asks : ∀ body, (∀ line ∈ body, Session.isBlank line = false) →
    Session.needsMore (first :: body) = Session.goesOn first
  /-- The entry then ends with the first blank line. -/
  reads : Session.goesOn first = true → ∀ body blank rest,
    (∀ line ∈ body, Session.isBlank line = false) → Session.isBlank blank = true →
      Session.gather [] (first :: (body ++ blank :: rest)) = (first :: body ++ [blank], rest)
  /-- Otherwise the first line is all. -/
  alone : Session.goesOn first = false → ∀ rest, Session.gather [] (first :: rest) = ([first], rest)
  /-- Of the openers of loops, the long form goes on and the short one does not. -/
  openers : (scan first).opensLoop 0 = true →
    (Session.goesOn first = true ↔ ((scan first).peek 0).isWord .startLoop = false)

theorem Session.entry_lines (first : String) : EntryLaw first := by
  have single : needsMore [first] = goesOn first := by
    rw [needsMore, List.getLastD_cons, List.getLastD_nil]
    cases opened : goesOn first with
    | true =>
      have full : (Text.trim first).isEmpty = false := not_blank_of_goesOn opened
      rw [full]
      exact opened
    | false =>
      change (_ && goesOn first) = false
      rw [opened, Bool.and_false]
  have opened (going : goesOn first = true) (rest : List String) :
      gather [] (first :: rest) = gather [first] rest := by
    rw [gather, List.nil_append, single, going, if_pos rfl]
  refine ⟨fun body full => ?_, fun going body blank rest full empty => ?_, fun ends rest => ?_,
    fun opens => ?_⟩
  · rcases List.eq_nil_or_concat body with rfl | ⟨more, last, rfl⟩
    · exact single
    · rw [List.concat_eq_append] at full ⊢
      rw [← List.cons_append, needsMore_cons, full last (by simp), Bool.not_false, Bool.and_true]
  · rw [opened going, gather_body going [] body _ full]
    exact gather_blank empty body rest
  · rw [gather, List.nil_append, single, ends, if_neg Bool.false_ne_true]
  · have other (k : Keyword) (word : ((scan first).peek 0).isWord k = true) (apart : k ≠ .startLoop) :
        ((scan first).peek 0).isWord .startLoop = false := by
      rw [Token.isWord, eq_of_beq word]
      simpa using apart
    constructor
    · intro going
      simp only [goesOn, Bool.or_eq_true] at going
      rcases going with (word | word) | word
      · exact other _ word (by decide)
      · exact other _ word (by decide)
      · exact other _ word (by decide)
    · intro long
      have start : ((scan first).peek 0).isWord .start = true := by
        rcases Bool.or_eq_true _ _ |>.mp opens with words | short
        · exact (Bool.and_eq_true _ _ |>.mp words).1
        · exact absurd short (Bool.eq_false_iff.mp long)
      simp [goesOn, start]

theorem loopWord_law (source : String) : CountLaw source (scan source) ∧ EntryLaw source := by
  have summary : (Summary.ofSource source).loops + (scan source).shortOpenings =
      (scan source).openings 0 (scan source).size := by
    rw [Summary.ofSource_loops, TokenStream.openings_eq]
  have inserted := Heal.size_heal source
  refine ⟨?_, Session.entry_lines source⟩
  generalize scan source = toks at summary inserted ⊢
  have none : toks.shortOpenings = 0 ↔ ∀ k, (toks.peek k).isWord .startLoop = false := by
    rw [TokenStream.shortOpenings, List.countP_eq_zero]
    constructor
    · intro few k
      refine Bool.eq_false_iff.mpr fun short => ?_
      refine few k (List.mem_range.mpr (TokenStream.lt_of_not_finish ?_)) short
      rw [Token.isFinish, eq_of_beq short]
      rfl
    · intro few k _
      exact Bool.eq_false_iff.mp (few k)
  exact {
    opens := fun i header => Statement.dispatch_header header
    others := fun i m closed alone => Statement.dispatch_opensNone closed alone
    healing := toks.opens_eq
    inserted
    search := fun depth first k keeps ahead unfinished matched =>
      TokenStream.afterKeep_of_matched keeps ahead unfinished matched
    summary
    summary_iff := by
      rw [← none]
      omega }

/-- A loop that is opened by the short form. -/
def shortLoop : String := "s.loop .r.3\n    print 1\nkeep"

/-- Its summary counts no loop, and a session takes its first line for a whole entry. -/
theorem shortLoop_isMissed :
    (scan shortLoop).openings 0 (scan shortLoop).size = 1 ∧ (Summary.ofSource shortLoop).loops = 0 ∧
      (scan "s.loop .r.3").opensLoop 0 = true ∧ Session.needsMore ["s.loop .r.3"] = false := by
  decide +kernel

end BigScript
