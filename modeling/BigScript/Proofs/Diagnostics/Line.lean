import BigScript.Proofs.Definitions
import BigScript.Proofs.Healing.Closure
import BigScript.Proofs.LooseItems

/-!
# The lines that tokens stand on

A diagnostic block quotes a line of a source by its number, and it takes the number from a token.  The
number of a token is one more than the number of line breaks in front of it, and the text between the
line breaks around it is what splitting the source gives at that number.

`LexedFrom` says which streams of tokens come from a source: the one it is scanned to, that one with
forgotten loops closed, and the bodies of the functions that such streams define.  `LexedFrom.line` is
the result: every token of such a stream stands on a line of the source.
-/

namespace BigScript

/-! ## Lines of a text -/

/-- The line of a text with a number: what stands between two line breaks, or between one of them and an
end of the text. -/
structure IsLine (source : String) (number : Nat) (line : String) : Prop where
  unbroken : '\n' ∉ line.toList
  cut : ∃ before after, source.toList = before ++ (line.toList ++ after) ∧
    number = 1 + before.count '\n' ∧ (before = [] ∨ before.getLast? = some '\n') ∧
      (after = [] ∨ after.head? = some '\n')

/-- The trimmed line of a source that has a number, if there is one. -/
def quoted (source : String) (number : Nat) : String :=
  if number = 0 then "" else (((Text.split "\n" source)[number - 1]?).map Text.trim).getD ""

/-- Every spot of a text is on a line, whose number is one more than the number of line breaks in front
of the spot. -/
theorem exists_isLine {source : String} {front back : List Char} (split : source.toList = front ++ back) :
    ∃ line, IsLine source (1 + front.count '\n') line := by
  let left := (front.reverse.takeWhile (· != '\n')).reverse
  let right := back.takeWhile (· != '\n')
  have plain (cs : List Char) : '\n' ∉ cs.takeWhile (· != '\n') := by
    intro member
    exact absurd (List.mem_takeWhile_imp member) (by decide)
  have front_eq : front = (front.reverse.dropWhile (· != '\n')).reverse ++ left := by
    rw [← List.reverse_append, List.takeWhile_append_dropWhile, List.reverse_reverse]
  have count : front.count '\n' = (front.reverse.dropWhile (· != '\n')).reverse.count '\n' := by
    conv_lhs => rw [front_eq]
    rw [List.count_append, List.count_eq_zero.mpr fun member => plain _ (List.mem_reverse.mp member),
      Nat.add_zero]
  refine ⟨String.ofList (left ++ right), ?_, (front.reverse.dropWhile (· != '\n')).reverse,
    back.dropWhile (· != '\n'), ?_, by rw [count], ?_, ?_⟩
  · rw [String.toList_ofList, List.mem_append, not_or]
    exact ⟨fun member => plain _ (List.mem_reverse.mp member), plain back⟩
  · rw [String.toList_ofList, split, List.append_assoc, List.takeWhile_append_dropWhile,
      ← List.append_assoc, ← front_eq]
  · rw [List.getLast?_reverse, List.reverse_eq_nil_iff]
    cases rest : front.reverse.dropWhile (· != '\n') with
    | nil => exact .inl rfl
    | cons c cs =>
      have stops := List.head?_dropWhile_not (· != '\n') front.reverse
      rw [rest] at stops
      exact .inr (congrArg some (by simpa using stops))
  · cases rest : back.dropWhile (· != '\n') with
    | nil => exact .inl rfl
    | cons c cs =>
      have stops := List.head?_dropWhile_not (· != '\n') back
      rw [rest] at stops
      exact .inr (congrArg some (by simpa using stops))

namespace Text

theorem splitChars_plain {cs after : List Char} (plain : '\n' ∉ cs)
    (ends : after = [] ∨ after.head? = some '\n') :
    (splitChars ['\n'] (cs ++ after))[0]? = some cs := by
  induction cs with
  | nil =>
    rcases ends with rfl | breaks
    · rw [List.append_nil, splitChars]
      rfl
    · cases after with
      | nil => cases breaks
      | cons c after =>
        cases breaks
        rw [List.nil_append, splitChars_cons, if_pos (beq_self_eq_true _)]
        rfl
  | cons c cs ih =>
    rw [List.mem_cons, not_or] at plain
    rw [List.cons_append, splitChars_cons, if_neg (by simpa using Ne.symm plain.1),
      List.getElem?_modifyHead, ih plain.2]
    rfl

/-- Splitting a text gives a line at the number of line breaks in front of it. -/
theorem splitChars_line {before line after : List Char} (plain : '\n' ∉ line)
    (starts : before = [] ∨ before.getLast? = some '\n') (ends : after = [] ∨ after.head? = some '\n') :
    (splitChars ['\n'] (before ++ (line ++ after)))[before.count '\n']? = some line := by
  induction before with
  | nil => exact splitChars_plain plain ends
  | cons c before ih =>
    rw [List.cons_append, splitChars_cons, List.count_cons]
    cases before with
    | nil =>
      have here : c = '\n' := by simpa using starts
      rw [here, if_pos (beq_self_eq_true _), if_pos (beq_self_eq_true _)]
      exact splitChars_plain plain ends
    | cons d before =>
      have last : (d :: before).getLast? = some '\n' := by simpa using starts
      have behind := ih (.inr last)
      by_cases here : (c == '\n') = true
      · rw [if_pos here, if_pos here]
        exact behind
      · have some : 0 < (d :: before).count '\n' :=
          List.count_pos_iff.mpr (List.mem_of_getLast? last)
        rw [if_neg here, if_neg here, Nat.add_zero, List.getElem?_modifyHead, behind]
        rw [if_neg (Nat.ne_of_gt some)]

end Text

theorem IsLine.quoted_eq {source line : String} {number : Nat} (here : IsLine source number line) :
    quoted source number = Text.trim line := by
  rcases here.cut with ⟨before, after, split, rfl, starts, ends⟩
  have found := Text.splitChars_line here.unbroken starts ends
  have some : ¬ (1 + before.count '\n' = 0) := by omega
  rw [quoted, if_neg some, Nat.add_sub_cancel_left]
  change ((((Text.splitChars ['\n'] source.toList).map String.ofList)[_]?).map Text.trim).getD "" = _
  rw [split, List.getElem?_map, found]
  simp

/-! ## Tokens -/

/-- Walking over characters leads down by one line for each line break. -/
theorem Place.line_afterAll (place : Place) (cs : List Char) :
    (place.afterAll cs).line = place.line + cs.count '\n' := by
  induction cs generalizing place with
  | nil => rfl
  | cons c cs ih =>
    change ((place.after c).afterAll cs).line = _
    rw [ih, List.count_cons]
    unfold Place.after
    by_cases breaks : (c == '\n') = true
    · rw [if_pos breaks, if_pos breaks]
      dsimp only
      omega
    · rw [if_neg breaks, if_neg breaks]
      split <;> rfl

/-- Every token of a scanned source stands at the place that some of its characters lead to. -/
theorem scan_placed {source : String} {t : Token} (member : t ∈ (scan source).toList) :
    ∃ front back, source.toList = front ++ back ∧ t.place = Place.afterAll {} front := by
  rcases scan_partition source with ⟨parts, trail, cut⟩
  rw [cut.ends, List.mem_append, List.mem_singleton] at member
  rcases member with inside | rfl
  · rcases List.mem_map.mp inside with ⟨part, among, rfl⟩
    rcases List.append_of_mem among with ⟨before, after, split⟩
    have stands := cut.stands before part after split
    have whole : source.toList =
        Scan.text before ++ (part.gap ++ part.lexeme) ++ (Scan.text after ++ trail) := by
      rw [cut.whole, split]
      simp [Scan.text]
    by_cases foreign : part.token.kind = .foreign
    · rcases stands.foreign foreign with ⟨blanks, program, -, lexeme, placed⟩
      refine ⟨_, program ++ (Scan.text after ++ trail), ?_, placed⟩
      rw [whole, lexeme]
      simp only [List.append_assoc]
    · refine ⟨_, part.lexeme ++ (Scan.text after ++ trail), ?_, stands.plain foreign⟩
      rw [whole]
      simp only [List.append_assoc]
  · exact ⟨source.toList, [], (List.append_nil _).symm, rfl⟩

/-- Healing puts in tokens on the lines of those that it finds. -/
theorem Heal.line_of_healed {line : Nat} {loops ts : List Token} {t : Token}
    (member : t ∈ healFrom line loops ts) : ∃ u ∈ loops ++ ts, t.line = u.line := by
  have inserted {closed : List Token} (put : t ∈ closed.flatMap closing) : ∃ u ∈ closed, t.line = u.line := by
    rcases List.mem_flatMap.mp put with ⟨opener, among, closes⟩
    refine ⟨opener, among, ?_⟩
    rcases List.mem_cons.mp closes with rfl | turns
    · rfl
    · cases List.mem_singleton.mp turns
      rfl
  induction ts generalizing line loops with
  | nil => cases member
  | cons first rest ih =>
    have later {further : List Token} (known : ∀ u ∈ further, u ∈ loops ∨ u = first)
        (among : ∃ u ∈ further ++ rest, t.line = u.line) :
        ∃ u ∈ loops ++ first :: rest, t.line = u.line := by
      rcases among with ⟨u, there, same⟩
      refine ⟨u, ?_, same⟩
      rcases List.mem_append.mp there with open_ | behind
      · rcases known u open_ with before | rfl
        · exact List.mem_append_left _ before
        · exact List.mem_append_right _ List.mem_cons_self
      · exact List.mem_append_right _ (List.mem_cons_of_mem _ behind)
    have here : first ∈ loops ++ first :: rest := List.mem_append_right _ List.mem_cons_self
    cases finished : first.isFinish with
    | true =>
      rw [healFrom_finish finished, List.mem_append, List.mem_cons] at member
      rcases member with put | rfl | behind
      · rcases inserted put with ⟨u, among, same⟩
        exact ⟨u, List.mem_append_left _ among, same⟩
      · exact ⟨_, here, rfl⟩
      · exact later (fun _ none => absurd none List.not_mem_nil) (ih behind)
    | false =>
      rw [healFrom_token finished, List.mem_append, List.mem_cons] at member
      rcases member with put | rfl | behind
      · rcases inserted put with ⟨u, among, same⟩
        exact ⟨u, List.mem_append_left _ (closedAt_initial.subset among), same⟩
      · exact ⟨_, here, rfl⟩
      · refine later (fun u among => ?_) (ih behind)
        unfold openAfter at among
        split at among
        · exact (List.mem_cons.mp among).symm.imp_left List.mem_of_mem_drop
        · split at among
          · exact .inl (List.mem_of_mem_drop (List.mem_of_mem_drop among))
          · exact .inl (List.mem_of_mem_drop among)

theorem Heal.Woven.mem {toks healed : List Token} (woven : Woven toks healed) {t : Token}
    (member : t ∈ healed) : t ∈ toks ∨ t.kind = .word .keep ∨ t.kind = .number := by
  induction woven with
  | nil => cases member
  | token u _ ih =>
    rcases List.mem_cons.mp member with rfl | behind
    · exact .inl List.mem_cons_self
    · exact (ih behind).imp_left (List.mem_cons_of_mem u)
  | pair opener _ ih =>
    rcases List.mem_cons.mp member with rfl | behind
    · exact .inr (.inl rfl)
    · rcases List.mem_cons.mp behind with rfl | behind
      · exact .inr (.inr rfl)
      · exact ih behind

/-! ## Streams of a source -/

/-- The streams of tokens that come from a source. -/
inductive LexedFrom (source : String) : TokenStream → Prop where
  | scanned : LexedFrom source (scan source)
  | healed : LexedFrom source (heal (scan source))
  | body {toks : TokenStream} {i : Nat} (lexed : LexedFrom source toks) (inside : i < toks.size) :
      LexedFrom source (Statement.definition toks i).body

theorem Machine.prepare_lexed (source : String) (m : Machine) :
    LexedFrom source (m.prepare source).1 := by
  unfold prepare
  dsimp only
  split
  · exact .healed
  · exact .scanned

/-- A token of a body is a token of the stream with the definition, or the end. -/
theorem Statement.mem_definition {toks : TokenStream} {i : Nat} {t : Token}
    (member : t ∈ (definition toks i).body) : t ∈ toks ∨ t.isFinish = true := by
  unfold definition at member
  dsimp only at member
  rcases Array.mem_push.mp member with inside | rfl
  · rcases Array.mem_extract_iff_getElem.mp inside with ⟨_, _, rfl⟩
    exact .inl (Array.getElem_mem _)
  · exact .inr rfl

/-- A token that is no end stands in its stream. -/
theorem TokenStream.peek_mem {toks : TokenStream} {i : Nat} (unfinished : (toks.peek i).isFinish = false) :
    toks.peek i ∈ toks := by
  rw [peek_of_lt (lt_of_not_finish unfinished)]
  exact Array.getElem_mem _

namespace LexedFrom

variable {source : String} {toks : TokenStream} {t : Token}

/-- Every token of a stream that comes from a source stands on one of its lines. -/
theorem line_of_mem (lexed : LexedFrom source toks) (member : t ∈ toks)
    (unfinished : t.isFinish = false) : ∃ line, IsLine source t.line line := by
  have scanned {u : Token} (member : u ∈ (scan source).toList) : ∃ line, IsLine source u.line line := by
    rcases scan_placed member with ⟨front, back, split, placed⟩
    rcases exists_isLine split with ⟨line, here⟩
    have number : u.line = 1 + front.count '\n' :=
      (congrArg Place.line placed).trans (Place.line_afterAll {} front)
    exact ⟨line, number ▸ here⟩
  induction lexed with
  | scanned => exact scanned (Array.mem_toList_iff.mpr member)
  | healed =>
    rcases Heal.line_of_healed (List.mem_toArray.mp member) with ⟨u, among, same⟩
    exact same ▸ scanned among
  | body _ _ ih =>
    rcases Statement.mem_definition member with inside | ends
    · exact ih inside
    · rw [ends] at unfinished
      cases unfinished

theorem line {i : Nat} (lexed : LexedFrom source toks) (unfinished : (toks.peek i).isFinish = false) :
    ∃ line, IsLine source (toks.peek i).line line :=
  lexed.line_of_mem (TokenStream.peek_mem unfinished) unfinished

/-- A stream that comes from a source has the words of the source, and those that healing puts in. -/
theorem kind_of_mem (lexed : LexedFrom source toks) (member : t ∈ toks) (unfinished : t.isFinish = false) :
    (∃ u ∈ (scan source).toList, u.kind = t.kind) ∨ t.kind = .word .keep ∨ t.kind = .number := by
  induction lexed with
  | scanned => exact .inl ⟨t, Array.mem_toList_iff.mpr member, rfl⟩
  | healed =>
    rcases (Heal.healFrom_woven 0 [] (scan source).toList).mem (List.mem_toArray.mp member) with
      before | keeps
    · exact .inl ⟨t, before, rfl⟩
    · exact .inr keeps
  | body _ _ ih =>
    rcases Statement.mem_definition member with inside | ends
    · exact ih inside
    · rw [ends] at unfinished
      cases unfinished

end LexedFrom
end BigScript
