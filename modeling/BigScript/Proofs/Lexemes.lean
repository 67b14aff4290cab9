import BigScript.Token.Scan

/-!
# Lexemes

Scanning cuts a text into lexemes, one for each token, and the gaps between them.  Nothing is lost,
and every token stands at the place that is reached by walking over all characters in front of its
lexeme; only an embedded program stands behind the words that open it.

`Reads` says what one step of the scan adds, and the statements about the whole text follow from it
by induction on the tokens.  Blocks, the spacing of targets and the text builder look at nothing but
columns and widths: `Partition.touching` says that these tell whether two tokens touch.

So the tokens of a script stand one behind the other, the end of the script behind all others.  A
reserved word is written on one line, so it covers at least one column; a token without a span was not
read from a script.
-/

namespace BigScript
namespace Place

/-- Whether a place comes before another one in a text. -/
def Before (first second : Place) : Prop :=
  first.line < second.line ∨ first.line = second.line ∧ first.column < second.column

theorem Before.trans {first second third : Place} (one : first.Before second)
    (other : second.Before third) : first.Before third := by
  unfold Before at *
  omega

theorem before_after (place : Place) (c : Char) : place.Before (place.after c) := by
  unfold Before after tabWidth
  split
  · exact .inl (Nat.lt_succ_self _)
  · split <;> exact .inr ⟨rfl, by dsimp only; omega⟩

theorem afterAll_append (place : Place) (first second : List Char) :
    place.afterAll (first ++ second) = (place.afterAll first).afterAll second :=
  List.foldl_append

theorem before_afterAll (place : Place) {cs : List Char} (some : cs ≠ []) :
    place.Before (place.afterAll cs) := by
  induction cs generalizing place with
  | nil => exact absurd rfl some
  | cons c cs ih =>
      have step := place.before_after c
      cases cs with
      | nil => exact step
      | cons d cs => exact step.trans (ih (place.after c) (List.cons_ne_nil d cs))

theorem line_le_afterAll (place : Place) (cs : List Char) :
    place.line ≤ (place.afterAll cs).line := by
  cases cs with
  | nil => exact Nat.le_refl _
  | cons c cs =>
      have before := place.before_afterAll (List.cons_ne_nil c cs)
      unfold Before at before
      omega

/-- Walking on along one line leads to a later column, unless it leads nowhere. -/
theorem afterAll_column_eq_iff (place : Place) (cs : List Char)
    (same : (place.afterAll cs).line = place.line) :
    (place.afterAll cs).column = place.column ↔ cs = [] := by
  constructor
  · intro still
    refine Classical.byContradiction fun some => ?_
    have before := place.before_afterAll some
    unfold Before at before
    omega
  · rintro rfl
    rfl

end Place

/-- Where a token stands. -/
def Token.place (t : Token) : Place := ⟨t.line, t.column⟩

namespace Scan

/-! ## Gaps and parts -/

/-- What may stand between tokens, in front of the rest of a text: blanks, and comments up to the
end of their line. -/
inductive Gap : (gap rest : List Char) → Prop where
  | nil (rest : List Char) : Gap [] rest
  | blank {c : Char} {gap rest : List Char} (blank : isGap c = true) (more : Gap gap rest) :
      Gap (c :: gap) rest
  | comment {words gap rest : List Char} (line : ∀ c ∈ words, c ≠ '\n')
      (ends : gap ++ rest = [] ∨ ∃ others, gap ++ rest = '\n' :: others) (more : Gap gap rest) :
      Gap ('#' :: words ++ gap) rest

/-- A token, the characters it was read from, and the gap in front of them. -/
structure Part where
  gap : List Char
  lexeme : List Char
  token : Token

/-- The text that some parts were read from. -/
def text (parts : List Part) : List Char := parts.flatMap fun part => part.gap ++ part.lexeme

/-- The words that open an embedded program, with the blanks between them. -/
def opening (blanks : List Char) : List Char := foreignWord.toList ++ blanks ++ "start".toList

/-- What a token has to do with its lexeme, which begins at a place and has `rest` behind it.  The
characters `lead` belong to the lexeme but stand in front of the token. -/
structure Part.At (part : Part) (place : Place) (lead body rest : List Char) : Prop where
  lexeme : part.lexeme = lead ++ body
  some : part.lexeme ≠ []
  unfinished : part.token.isFinish = false
  plain : part.token.kind ≠ .foreign → lead = []
  foreign : part.token.kind = .foreign →
    ∃ blanks, (∀ c ∈ blanks, Text.isSpace c = true) ∧ lead = opening blanks
  placed : part.token.place = place.afterAll lead
  span : part.token.span =
    if (place.afterAll part.lexeme).line = (place.afterAll lead).line
    then (place.afterAll part.lexeme).column - (place.afterAll lead).column else 0
  /-- Only an embedded program can be empty, at the end of a text. -/
  empty : body = [] → rest = [] ∧ part.token.width = 0

/-- The parts of a text that begins at a place, with the gap behind the last one. -/
inductive Reads : Place → List Part → (trail : List Char) → Prop where
  | nil {place : Place} {trail : List Char} (gap : Gap trail []) : Reads place [] trail
  | cons {place : Place} {part : Part} {parts : List Part} {trail : List Char}
      (lead body : List Char) (gap : Gap part.gap (part.lexeme ++ (text parts ++ trail)))
      (here : part.At (place.afterAll part.gap) lead body (text parts ++ trail))
      (behind : Reads (place.afterAll (part.gap ++ part.lexeme)) parts trail) :
      Reads place (part :: parts) trail

/-! ## What one step reads -/

theorem readWord_eq (word cs : List Char) :
    ∃ read rest, cs = read ++ rest ∧ readWord word cs = word ++ read := by
  induction cs generalizing word with
  | nil => exact ⟨[], [], rfl, (List.append_nil word).symm⟩
  | cons c cs ih =>
      unfold readWord
      rcases ih (word ++ [c]) with ⟨read, rest, split, same⟩
      have further : readWord (word ++ [c]) cs = word ++ c :: read := by
        rw [same, List.append_assoc, List.singleton_append]
      split
      · exact ⟨c :: read, rest, by rw [split, List.cons_append], further⟩
      · split
        · exact ⟨c :: read, rest, by rw [split, List.cons_append], further⟩
        · exact ⟨[], c :: cs, rfl, (List.append_nil word).symm⟩

/-- A word goes on up to a character that it cannot have. -/
theorem readWord_until {cs : List Char} (inside : cs.all isWordChar = true) {d : Char}
    (ends : (isWordChar d || d == '_' || d == '-' || d == '.') = false) (word rest : List Char) :
    readWord word (cs ++ d :: rest) = word ++ cs := by
  induction cs generalizing word with
  | nil =>
      simp only [Bool.or_eq_false_iff] at ends
      rcases ends with ⟨⟨⟨plain, line⟩, hyphen⟩, dot⟩
      rw [List.nil_append, readWord, plain, line, hyphen, dot, List.append_nil]
      rfl
  | cons c cs ih =>
      rw [List.all_cons, Bool.and_eq_true] at inside
      rw [List.cons_append, readWord, inside.1, ih inside.2]
      exact List.append_assoc word [c] cs

/-- What an embedded program is read from: blanks, the opening word and the program.  The program is
empty only at the end of the text. -/
theorem readForeign?_eq {cs code : List Char} {lead size : Nat}
    (read : readForeign? cs = some (lead, code, size)) :
    ∃ blanks body, (∀ c ∈ blanks, Text.isSpace c = true) ∧
      cs = blanks ++ "start".toList ++ body ∧ lead = blanks.length + "start".toList.length ∧
      (body.take size = [] → body = [] ∧ code = []) := by
  unfold readForeign? at read
  dsimp only at read
  generalize blanksAre : cs.takeWhile Text.isSpace = blanks at read
  have blank : ∀ c ∈ blanks, Text.isSpace c = true := by
    rw [← blanksAre]
    exact fun c member => List.all_eq_true.mp List.all_takeWhile c member
  have first : cs = blanks ++ cs.drop blanks.length := by
    have start := List.takeWhile_prefix Text.isSpace (l := cs)
    rw [blanksAre] at start
    exact (List.prefix_iff_eq_append.mp start).symm
  generalize cs.drop blanks.length = rest at read first
  generalize openingIs : rest.takeWhile isWordChar = word at read
  split at read
  case isFalse => cases read
  case isTrue opens =>
    rw [beq_iff_eq] at opens
    have second : rest = "start".toList ++ rest.drop word.length := by
      have start := List.takeWhile_prefix isWordChar (l := rest)
      rw [openingIs, opens] at start
      rw [opens]
      exact (List.prefix_iff_eq_append.mp start).symm
    generalize rest.drop word.length = body at read second
    refine ⟨blanks, body, blank, by rw [List.append_assoc, ← second]; exact first, ?_⟩
    split at read
    · rename_i cut
      cases read
      refine ⟨by rw [opens], fun none => ?_⟩
      have length := Text.cutChars_length cut
      have size := congrArg List.length none
      simp only [List.length_take, List.length_nil] at size
      have positive : 0 < foreignClose.toList.length := by decide
      have same : foreignClose.length = foreignClose.toList.length := rfl
      omega
    · cases read
      exact ⟨by rw [opens], fun none => ⟨by simpa using none, by simpa using none⟩⟩

/-- What a piece has to do with the characters it is read from. -/
structure Piece.Fits (piece : Piece) (first : Char) (cs : List Char) : Prop where
  unfinished : piece.lexeme.kind ≠ .finish
  within : piece.lead ≤ piece.more + 1
  plain : piece.lexeme.kind ≠ .foreign → piece.lead = 0
  foreign : piece.lexeme.kind = .foreign → ∃ blanks body, (∀ c ∈ blanks, Text.isSpace c = true) ∧
    first :: cs = opening blanks ++ body ∧ piece.lead = (opening blanks).length ∧
    (body.take (piece.more + 1 - piece.lead) = [] → body = [] ∧ piece.lexeme = .foreign "")

theorem Piece.Fits.of_plain {piece : Piece} {first : Char} {cs : List Char}
    (unfinished : piece.lexeme.kind ≠ .finish) (other : piece.lexeme.kind ≠ .foreign)
    (lead : piece.lead = 0) : piece.Fits first cs :=
  ⟨unfinished, lead ▸ Nat.zero_le _, fun _ => lead, fun is => absurd is other⟩

theorem readNumber_fits (first : Char) (cs : List Char) : (readNumber first cs).Fits first cs := by
  unfold readNumber
  dsimp only
  split
  · split <;> exact .of_plain nofun nofun rfl
  · exact .of_plain nofun nofun rfl

theorem readSymbol_fits (first : Char) (cs : List Char) : (readSymbol first cs).Fits first cs := by
  unfold readSymbol
  dsimp only
  repeat' split
  all_goals exact .of_plain nofun nofun rfl

theorem readName_fits (first : Char) (cs : List Char) : (readName first cs).Fits first cs := by
  unfold readName
  dsimp only
  rcases readWord_eq [first] cs with ⟨read, rest, split, same⟩
  rw [same]
  split
  case isFalse => split <;> exact .of_plain nofun nofun rfl
  case isTrue announces =>
    have behind : cs.drop (([first] ++ read).length - 1) = rest := by
      rw [split]
      exact List.drop_left
    rw [behind]
    split
    case h_2 => split <;> exact .of_plain nofun nofun rfl
    case h_1 lead code size found =>
      rcases readForeign?_eq found with ⟨blanks, body, blank, parts, leadIs, empty⟩
      rw [beq_iff_eq] at announces
      have announced : first :: read = foreignWord.toList := by
        rw [← announces, String.toList_ofList, List.singleton_append]
      have whole : first :: cs = opening blanks ++ body := by
        rw [split, ← List.cons_append, announced, parts]
        simp only [opening, List.append_assoc]
      have length : (first :: read).length = foreignWord.toList.length := by rw [announced]
      have long : (opening blanks).length =
          foreignWord.toList.length + blanks.length + "start".toList.length := by
        simp only [opening, List.length_append]
      refine ⟨nofun, by dsimp only; omega, fun other => absurd rfl other,
        fun _ => ⟨blanks, body, blank, whole, ?_, ?_⟩⟩
      · dsimp only
        simp only [List.length_cons, List.singleton_append] at length ⊢
        omega
      · dsimp only
        intro none
        have taken : ([first] ++ read).length - 1 + lead + size + 1 -
            (([first] ++ read).length - 1 + lead + 1) = size := by omega
        rw [taken] at none
        rcases empty none with ⟨ended, nothing⟩
        exact ⟨ended, by rw [nothing]; rfl⟩

theorem readPiece_fits (first : Char) (cs : List Char) : (readPiece first cs).Fits first cs := by
  unfold readPiece
  split
  · exact .of_plain nofun nofun rfl
  · split
    · exact readNumber_fits first cs
    · split
      · exact readName_fits first cs
      · exact readSymbol_fits first cs

/-- The token of a piece stands behind its lead, and its lexeme is what the piece takes. -/
theorem Piece.Fits.at {piece : Piece} {first : Char} {cs : List Char}
    (fits : piece.Fits first cs) (gap : List Char) (place : Place) :
    Part.At ⟨gap, (first :: cs).take (piece.more + 1), token place (first :: cs) piece⟩ place
      ((first :: cs).take piece.lead)
      (((first :: cs).take (piece.more + 1)).drop piece.lead) (cs.drop piece.more) where
  lexeme := by
    have start := List.take_take (i := piece.lead) (j := piece.more + 1) (l := first :: cs)
    rw [Nat.min_eq_left fits.within] at start
    rw [← start, List.take_append_drop]
  some := by simp
  unfinished := by
    rw [Token.isFinish, beq_eq_false_iff_ne]
    exact fits.unfinished
  plain other := by rw [fits.plain other, List.take_zero]
  foreign is := by
    rcases fits.foreign is with ⟨blanks, body, blank, whole, lead, -⟩
    exact ⟨blanks, blank, by rw [whole, lead, List.take_left]⟩
  placed := rfl
  span := by
    unfold token
    simp only [beq_iff_eq]
  empty none := by
    rw [List.drop_take] at none
    by_cases is : piece.lexeme.kind = .foreign
    · rcases fits.foreign is with ⟨blanks, body, -, whole, lead, empty⟩
      rw [whole, lead, List.drop_left, ← lead] at none
      rcases empty none with ⟨ended, nothing⟩
      have within := fits.within
      have short : (first :: cs).length ≤ piece.more + 1 := by
        rw [whole, ended, List.append_nil, ← lead]
        exact within
      refine ⟨List.drop_eq_nil_of_le (Nat.le_of_succ_le_succ short), ?_⟩
      have same : (first :: cs).take piece.lead = (first :: cs).take (piece.more + 1) := by
        rw [List.take_of_length_le short, whole, ended, lead, List.append_nil, List.take_length]
      rw [Token.width, token]
      simp only [same, Nat.sub_self, nothing, ite_self, Nat.lt_irrefl, if_false]
      rfl
    · rw [fits.plain is] at none
      simp at none

/-! ## The whole scan -/

theorem tokens_gap {c : Char} (gap : isGap c = true) (place : Place) (cs : List Char) :
    tokens place (c :: cs) = tokens (place.after c) cs := by
  rw [tokens, if_pos gap]

theorem tokens_piece {c : Char} {cs : List Char} {piece : Piece} (noGap : isGap c = false)
    (noComment : (c == '#') = false) (read : readPiece c cs = piece) (place : Place) :
    tokens place (c :: cs) = token place (c :: cs) piece ::
      tokens (place.afterAll ((c :: cs).take (piece.more + 1))) (cs.drop piece.more) := by
  rw [tokens, noGap, noComment, read]
  rfl

/-- A gap in front of some parts belongs to the first of them, or to what trails. -/
theorem Reads.behind {place : Place} {trail : List Char} {parts : List Part} (front : List Char)
    (reads : Reads (place.afterAll front) parts trail)
    (gap : ∀ g rest, g ++ rest = text parts ++ trail → Gap g rest → Gap (front ++ g) rest) :
    ∃ parts' trail', text parts' ++ trail' = front ++ (text parts ++ trail) ∧
      parts'.map Part.token = parts.map Part.token ∧ Reads place parts' trail' := by
  cases reads with
  | nil behind =>
      refine ⟨[], front ++ trail, rfl, rfl, .nil (gap trail [] ?_ behind)⟩
      rw [List.append_nil]
      rfl
  | @cons _ part parts trail lead body before here behind =>
      refine ⟨{ part with gap := front ++ part.gap } :: parts, trail, ?_, rfl, ?_⟩
      · simp only [text, List.flatMap_cons, List.append_assoc]
      · refine .cons lead body (gap _ _ ?_ before) ?_ ?_
        · simp only [text, List.flatMap_cons, List.append_assoc]
        · rw [Place.afterAll_append]
          exact { here with }
        · rwa [List.append_assoc, Place.afterAll_append]

private theorem drop_length_takeWhile (p : Char → Bool) (cs : List Char) :
    cs.drop (cs.takeWhile p).length = cs.dropWhile p := by
  have split : cs.takeWhile p ++ cs.dropWhile p = cs := List.takeWhile_append_dropWhile
  calc cs.drop (cs.takeWhile p).length
      = (cs.takeWhile p ++ cs.dropWhile p).drop (cs.takeWhile p).length := by rw [split]
    _ = cs.dropWhile p := List.drop_left

/-- A comment ends at the end of its line. -/
private theorem dropWhile_line (cs : List Char) :
    cs.dropWhile (· != '\n') = [] ∨ ∃ others, cs.dropWhile (· != '\n') = '\n' :: others := by
  cases behind : cs.dropWhile (· != '\n') with
  | nil => exact .inl rfl
  | cons c others =>
      have stopped := List.head_dropWhile_not (· != '\n') (l := cs) (by rw [behind]; nofun)
      simp only [behind, List.head_cons, bne_eq_false_iff_eq] at stopped
      exact .inr ⟨others, by rw [stopped]⟩

theorem tokens_reads (place : Place) (cs : List Char) : ∃ parts trail,
    cs = text parts ++ trail ∧
      tokens place cs = parts.map Part.token ++
        [⟨.finish, (place.afterAll cs).line, (place.afterAll cs).column, 0⟩] ∧
      Reads place parts trail := by
  fun_induction tokens place cs with
  | case1 place => exact ⟨[], [], rfl, rfl, .nil (.nil [])⟩
  | case2 place c cs blank ih =>
      rcases ih with ⟨parts, trail, split, same, reads⟩
      rcases Reads.behind [c] reads fun _ _ _ => .blank blank with
        ⟨parts', trail', split', tokens', reads'⟩
      exact ⟨parts', trail', by rw [split', ← split]; rfl, by rw [same, tokens']; rfl, reads'⟩
  | case3 place c cs _ sign comment ih =>
      rcases ih with ⟨parts, trail, split, same, reads⟩
      rw [beq_iff_eq] at sign
      have behind : cs.drop comment.length = cs.dropWhile (· != '\n') :=
        drop_length_takeWhile _ cs
      have whole : comment ++ (text parts ++ trail) = cs := by
        rw [← split, behind]
        exact List.takeWhile_append_dropWhile
      have line : ∀ d ∈ comment, d ≠ '\n' := fun d member =>
        bne_iff_ne.mp (List.all_eq_true.mp List.all_takeWhile d member)
      have ends : text parts ++ trail = [] ∨ ∃ others, text parts ++ trail = '\n' :: others := by
        rw [← split, behind]
        exact dropWhile_line cs
      have comments (g rest : List Char) (all : g ++ rest = text parts ++ trail) (more : Gap g rest) :
          Gap (c :: comment ++ g) rest := by
        rw [← all] at ends
        exact sign ▸ .comment line ends more
      rcases reads.behind (c :: comment) comments with ⟨parts', trail', split', tokens', reads'⟩
      refine ⟨parts', trail', ?_, ?_, reads'⟩
      · rw [split', List.cons_append, whole]
      · rw [same, tokens', ← Place.afterAll_append, List.cons_append, split, whole]
  | case4 place c cs _ _ piece ih =>
      rcases ih with ⟨parts, trail, split, same, reads⟩
      have fits : piece.Fits c cs := readPiece_fits c cs
      have here := fits.at [] place
      rw [split] at here
      have whole : c :: cs = (c :: cs).take (piece.more + 1) ++ (text parts ++ trail) := by
        rw [← split]
        exact (List.take_append_drop (piece.more + 1) (c :: cs)).symm
      refine ⟨⟨[], _, token place (c :: cs) piece⟩ :: parts, trail, ?_, ?_,
        .cons _ _ (.nil _) here reads⟩
      · rw [text, List.flatMap_cons, List.nil_append, List.append_assoc]
        exact whole
      · rw [same, ← Place.afterAll_append, split, ← whole]
        rfl

/-! ## Tokens and their neighbours -/

namespace Part.At

variable {part : Part} {place : Place} {lead body rest : List Char}

theorem stop_eq (here : part.At place lead body rest) :
    place.afterAll part.lexeme = part.token.place.afterAll body := by
  rw [here.lexeme, Place.afterAll_append, here.placed]

/-- On one line, the width of a token tells whether a gap follows it. -/
theorem touching (here : part.At place lead body rest) {gap : List Char} (within : gap <+: rest)
    (same : ((place.afterAll part.lexeme).afterAll gap).line = part.token.line) :
    ((place.afterAll part.lexeme).afterAll gap).column = part.token.column + part.token.width ↔
      gap = [] := by
  by_cases empty : body = []
  · rcases here.empty empty with ⟨ended, width⟩
    rw [ended, List.prefix_nil] at within
    have stays : place.afterAll part.lexeme = part.token.place := by rw [here.stop_eq, empty]; rfl
    rw [within, width, stays]
    exact ⟨fun _ => rfl, fun _ => rfl⟩
  · have before := part.token.place.before_afterAll empty
    rw [← here.stop_eq] at before
    have further := (place.afterAll part.lexeme).line_le_afterAll gap
    have line : (place.afterAll part.lexeme).line = part.token.place.line := by
      unfold Place.Before at before
      have here : part.token.place.line = part.token.line := rfl
      omega
    have span := here.span
    rw [← here.placed, if_pos line] at span
    have width : part.token.column + part.token.width = (place.afterAll part.lexeme).column := by
      have right : part.token.place.column = part.token.column := rfl
      unfold Place.Before at before
      rw [Token.width, if_pos (by omega)]
      omega
    rw [width]
    exact Place.afterAll_column_eq_iff _ gap (same.trans line.symm)

end Part.At

/-- How a part stands in a text that begins at a place: behind all characters `before` its gap and in
front of the `rest`. -/
structure Part.Stands (part : Part) (start : Place) (before rest : List Char) : Prop where
  gap : Gap part.gap (part.lexeme ++ rest)
  some : part.lexeme ≠ []
  unfinished : part.token.isFinish = false
  plain : part.token.kind ≠ .foreign → part.token.place = start.afterAll (before ++ part.gap)
  /-- An embedded program stands just behind the words that open it. -/
  foreign : part.token.kind = .foreign → ∃ blanks program,
    (∀ c ∈ blanks, Text.isSpace c = true) ∧ part.lexeme = opening blanks ++ program ∧
      part.token.place = start.afterAll (before ++ part.gap ++ opening blanks)

namespace Reads

variable {place : Place} {parts : List Part} {trail : List Char}

theorem trail_gap (reads : Reads place parts trail) : Gap trail [] := by
  induction reads with
  | nil gap => exact gap
  | cons _ _ _ _ _ ih => exact ih

theorem stands (reads : Reads place parts trail) {before after : List Part} {part : Part}
    (split : parts = before ++ part :: after) :
    part.Stands place (text before) (text after ++ trail) := by
  induction reads generalizing before with
  | nil => cases before <;> cases split
  | @cons place first parts trail lead body gap here _ ih =>
      cases before with
      | nil =>
          cases split
          exact {
            gap
            some := here.some
            unfinished := here.unfinished
            plain := fun other => by
              rw [here.placed, here.plain other]
              rfl
            foreign := fun is => by
              rcases here.foreign is with ⟨blanks, blank, lead⟩
              refine ⟨blanks, body, blank, lead ▸ here.lexeme, ?_⟩
              rw [here.placed, lead, ← Place.afterAll_append]
              rfl }
      | cons other before =>
          cases split
          have inner := ih rfl
          have further (cs : List Char) : (place.afterAll (first.gap ++ first.lexeme)).afterAll cs =
              place.afterAll ((first.gap ++ first.lexeme) ++ cs) := (Place.afterAll_append ..).symm
          have longer : text (first :: before) = (first.gap ++ first.lexeme) ++ text before := rfl
          exact { inner with
            plain := fun other => by
              rw [inner.plain other, further, longer, List.append_assoc _ (text before)]
            foreign := fun is => by
              rcases inner.foreign is with ⟨blanks, program, blank, lexeme, placed⟩
              refine ⟨blanks, program, blank, lexeme, ?_⟩
              rw [placed, further, longer, List.append_assoc _ (text before),
                List.append_assoc _ (text before ++ part.gap)] }

/-- No token stands in front of the place where its text begins. -/
theorem reached (reads : Reads place parts trail) :
    ∀ part ∈ parts, place = part.token.place ∨ place.Before part.token.place := by
  have ahead (start : Place) (cs : List Char) :
      start = start.afterAll cs ∨ start.Before (start.afterAll cs) := by
    cases cs with
    | nil => exact .inl rfl
    | cons c cs => exact .inr (start.before_afterAll (List.cons_ne_nil c cs))
  induction reads with
  | nil => exact fun _ none => nomatch none
  | @cons place first parts trail lead body gap here _ ih =>
      intro part member
      rcases List.mem_cons.mp member with rfl | member
      · rw [here.placed, ← Place.afterAll_append]
        exact ahead _ _
      · have past := place.before_afterAll (List.append_ne_nil_of_right_ne_nil first.gap here.some)
        rcases ih part member with same | before
        · exact .inr (same ▸ past)
        · exact .inr (past.trans before)

theorem increasing (reads : Reads place parts trail) :
    (parts.map fun part => part.token.place).Pairwise Place.Before := by
  induction reads with
  | nil => exact .nil
  | @cons place first parts trail lead body gap here behind ih =>
      refine .cons (fun later member => ?_) ih
      rcases List.mem_map.mp member with ⟨part, among, rfl⟩
      -- Another token follows, so the rest of the text is not empty and neither is this token.
      have some : body ≠ [] := by
        intro empty
        have ended := (here.empty empty).1
        rcases List.append_of_mem among with ⟨before, after, rfl⟩
        have inner := (behind.stands rfl).some
        simp only [text, List.flatMap_append, List.flatMap_cons, List.append_eq_nil_iff] at ended
        exact inner ended.1.2.1.2
      have before := first.token.place.before_afterAll some
      rw [← here.stop_eq, ← Place.afterAll_append] at before
      rcases behind.reached part among with same | further
      · exact same ▸ before
      · exact before.trans further

/-- The last of some parts that are followed by a gap, and whether it touches what follows. -/
theorem touching (reads : Reads place parts trail) {before after : List Part} {part : Part}
    {gap : List Char} (split : parts = before ++ part :: after)
    (within : gap <+: text after ++ trail)
    (same : (place.afterAll (text before ++ (part.gap ++ part.lexeme) ++ gap)).line =
      part.token.line) :
    (place.afterAll (text before ++ (part.gap ++ part.lexeme) ++ gap)).column =
      part.token.column + part.token.width ↔ gap = [] := by
  induction reads generalizing before with
  | nil => cases before <;> cases split
  | @cons place first parts trail lead body _ here _ ih =>
      cases before with
      | nil =>
          cases split
          have start : place.afterAll (text [] ++ (part.gap ++ part.lexeme) ++ gap) =
              ((place.afterAll part.gap).afterAll part.lexeme).afterAll gap := by
            simp only [← Place.afterAll_append, text, List.flatMap_nil, List.nil_append]
          rw [start] at same ⊢
          exact here.touching within same
      | cons other before =>
          cases split
          have start : place.afterAll (text (first :: before) ++ (part.gap ++ part.lexeme) ++ gap) =
              (place.afterAll (first.gap ++ first.lexeme)).afterAll
                (text before ++ (part.gap ++ part.lexeme) ++ gap) := by
            rw [← Place.afterAll_append]
            simp only [text, List.flatMap_cons, List.append_assoc]
          rw [start] at same ⊢
          exact ih rfl within same

end Reads
end Scan

/-! ## The partition of a script -/

open Scan

/-- A text that is cut into the lexemes of its tokens and the gaps between them. -/
structure Partition (source : List Char) (toks : List Token) (parts : List Part)
    (trail : List Char) : Prop where
  whole : source = text parts ++ trail
  /-- There is one lexeme for every token but the last one, which stands at the end. -/
  ends : toks = parts.map Part.token ++
    [⟨.finish, (Place.afterAll {} source).line, (Place.afterAll {} source).column, 0⟩]
  stands : ∀ before part after, parts = before ++ part :: after →
    part.Stands {} (text before) (text after ++ trail)
  trailing : Gap trail []
  increasing : (parts.map fun part => part.token.place).Pairwise Place.Before
  /-- Two tokens that stand on one line touch if the columns and the width say so, and only then. -/
  touching : ∀ before first second after, parts = before ++ first :: second :: after →
    second.token.kind ≠ .foreign → second.token.line = first.token.line →
      (second.token.column = first.token.column + first.token.width ↔ second.gap = [])
  touchingEnd : ∀ before last, parts = before ++ [last] →
    (Place.afterAll {} source).line = last.token.line →
      ((Place.afterAll {} source).column = last.token.column + last.token.width ↔ trail = [])

theorem scan_partition (source : String) :
    ∃ parts trail, Partition source.toList (scan source).toList parts trail := by
  rcases tokens_reads {} source.toList with ⟨parts, trail, whole, ends, reads⟩
  refine ⟨parts, trail, whole, ends, fun _ _ _ split => reads.stands split, reads.trail_gap,
    reads.increasing, ?touching, ?touchingEnd⟩
  case touching =>
    intro before first second after split plain line
    have next : parts = (before ++ [first]) ++ second :: after := by
      rw [split, List.append_assoc, List.singleton_append]
    have placed := (reads.stands next).plain plain
    have past : text (before ++ [first]) = text before ++ (first.gap ++ first.lexeme) := by
      simp [text]
    rw [past] at placed
    have within : second.gap <+: text (second :: after) ++ trail :=
      ⟨second.lexeme ++ text after ++ trail, by simp [text]⟩
    have touches := reads.touching split within
    rw [← placed] at touches
    exact touches line
  case touchingEnd =>
    intro before last split line
    have touches := reads.touching split (List.prefix_refl trail)
    have past : source.toList = text before ++ (last.gap ++ last.lexeme) ++ trail := by
      rw [whole, split]
      simp [text]
    rw [← past] at touches
    exact touches line

/-! ## How scanned tokens stand -/

/-- The characters of one line lead to a place on that line. -/
theorem Place.afterAll_line {place : Place} {cs : List Char} (plain : ∀ d ∈ cs, d ≠ '\n') :
    (place.afterAll cs).line = place.line := by
  induction cs generalizing place with
  | nil => rfl
  | cons c cs ih =>
      have step : (place.after c).line = place.line := by
        unfold Place.after
        rw [if_neg (by simpa using plain c List.mem_cons_self)]
        split <;> rfl
      exact (ih fun d member => plain d (List.mem_cons_of_mem c member)).trans step

namespace Scan

/-! ## Reserved words -/

theorem readWord_chars {word cs : List Char} {d : Char} (member : d ∈ readWord word cs) :
    d ∈ word ∨ (isWordChar d || d == '_' || d == '-' || d == '.') = true := by
  fun_induction readWord word cs with
  | case1 word => exact .inl member
  | case2 word c cs plain ih =>
      refine (ih member).elim (fun before => ?_) .inr
      rcases List.mem_append.mp before with before | last
      · exact .inl before
      · cases List.mem_singleton.mp last
        exact .inr (by rw [plain, Bool.true_or])
  | case3 word c cs _ joins ih =>
      refine (ih member).elim (fun before => ?_) .inr
      rcases List.mem_append.mp before with before | last
      · exact .inl before
      · cases List.mem_singleton.mp last
        rw [Bool.and_eq_true] at joins
        exact .inr (by rw [joins.1, Bool.or_true])
  | case4 word c cs _ _ => exact .inl member

/-- A reserved word is read from characters of one line. -/
theorem readPiece_word {first : Char} {cs : List Char} {k : Keyword}
    (word : (readPiece first cs).lexeme = .word k) :
    (readPiece first cs).lead = 0 ∧
      ∀ d ∈ (first :: cs).take ((readPiece first cs).more + 1), d ≠ '\n' := by
  have plain {more : Nat} (lexeme : Lexeme) (letter : Text.isLetter first || first == '_')
      (long : more = (readWord [first] cs).length - 1) :
      (⟨lexeme, more, 0⟩ : Piece).lead = 0 ∧
        ∀ d ∈ (first :: cs).take (more + 1), d ≠ '\n' := by
    refine ⟨rfl, fun d member => ?_⟩
    rcases readWord_eq [first] cs with ⟨read, rest, split, same⟩
    have taken : (first :: cs).take (more + 1) = readWord [first] cs := by
      rw [long, same, split, ← List.cons_append]
      exact List.take_left' (by simp)
    rw [taken] at member
    rintro rfl
    rcases readWord_chars member with start | inner
    · cases List.mem_singleton.mp start
      exact absurd letter (by decide +kernel)
    · exact absurd inner (by decide +kernel)
  unfold readPiece at word ⊢
  split at word
  · cases word
  · split at word
    · unfold readNumber at word
      dsimp only at word
      split at word
      · split at word <;> cases word
      · cases word
    · split at word
      · rename_i quote digit letter
        rw [if_neg quote, if_neg digit, if_pos letter]
        unfold readName at word ⊢
        dsimp only at word ⊢
        split
        case isFalse => split <;> exact plain _ letter rfl
        case isTrue announces =>
          rw [if_pos announces] at word
          split
          · rename_i found
            rw [found] at word
            cases word
          · split <;> exact plain _ letter rfl
      · unfold readSymbol at word
        dsimp only at word
        repeat' split at word
        all_goals cases word

/-- Reserved words of a script cover some columns. -/
theorem word_span {place : Place} {cs : List Char} {t : Token} {k : Keyword}
    (member : t ∈ tokens place cs) (word : t.kind = .word k) : 0 < t.span := by
  fun_induction tokens place cs with
  | case1 => cases List.mem_singleton.mp member; cases word
  | case2 _ _ _ _ ih => exact ih member
  | case3 _ _ _ _ _ _ ih => exact ih member
  | case4 place c cs _ _ piece ih =>
      rcases List.mem_cons.mp member with rfl | member
      · have lexeme : (readPiece c cs).lexeme = .word k := by
          unfold token Token.kind at word
          dsimp only at word
          change piece.lexeme = _
          cases read : piece.lexeme with
          | word other => rw [read] at word; cases word; rfl
          | number | text | name | rate | foreign | mark | symbol | finish =>
              rw [read] at word
              cases word
        rcases readPiece_word lexeme with ⟨lead, plain⟩
        change piece.lead = 0 at lead
        change ∀ d ∈ (c :: cs).take (piece.more + 1), d ≠ '\n' at plain
        have before : place.Before (place.afterAll ((c :: cs).take (piece.more + 1))) :=
          place.before_afterAll (by simp)
        have line : (place.afterAll _).line = place.line := Place.afterAll_line plain
        unfold Place.Before at before
        unfold token
        dsimp only
        rw [lead, List.take_zero]
        change 0 < if ((place.afterAll _).line == place.line) = true
          then (place.afterAll _).column - place.column else 0
        rw [if_pos (beq_iff_eq.mpr line)]
        omega
      · exact ih member
/-! ## The order of tokens -/

/-- Tokens of which only the last one can be the end of a script, each of the others behind those in
front of it. -/
def InSequence (toks : List Token) : Prop :=
  toks.Pairwise fun first second =>
    first.isFinish = false ∧ (second.isFinish = false → first.place.Before second.place)

theorem scan_inSequence (source : String) : InSequence (scan source).toList := by
  rcases tokens_reads {} source.toList with ⟨parts, trail, -, same, reads⟩
  change InSequence (tokens {} source.toList)
  have unfinished : ∀ t ∈ parts.map Part.token, t.isFinish = false := by
    intro t member
    rcases List.mem_map.mp member with ⟨part, among, rfl⟩
    rcases List.append_of_mem among with ⟨before, after, split⟩
    exact (reads.stands split).unfinished
  have increasing : (parts.map Part.token).Pairwise fun first second =>
      first.place.Before second.place :=
    List.pairwise_map.mpr (List.pairwise_map.mp reads.increasing)
  rw [same, InSequence, List.pairwise_append]
  refine ⟨increasing.imp_of_mem fun first _ before => ⟨unfinished _ first, fun _ => before⟩,
    List.pairwise_singleton _ _, fun t member finish last => ⟨unfinished t member, fun going => ?_⟩⟩
  rw [List.mem_singleton.mp last] at going
  cases going

namespace InSequence

variable {t : Token} {rest : List Token}

/-- Behind the end of a script there is nothing. -/
theorem ends (ordered : InSequence (t :: rest)) (finished : t.isFinish = true) : rest = [] := by
  cases rest with
  | nil => rfl
  | cons u rest =>
      have going := (List.rel_of_pairwise_cons ordered List.mem_cons_self).1
      rw [finished] at going
      cases going

theorem tail (ordered : InSequence (t :: rest)) : InSequence rest := List.Pairwise.of_cons ordered

/-- A later token of the same line stands further right. -/
theorem right (ordered : InSequence (t :: rest)) {u : Token} (member : u ∈ rest)
    (unfinished : u.isFinish = false) (line : u.line = t.line) : t.column < u.column := by
  have before := (List.rel_of_pairwise_cons ordered member).2 unfinished
  unfold Place.Before Token.place at before
  dsimp only at before
  omega

end InSequence

/-- The last token of a script is its end. -/
theorem scan_ends (source : String) :
    ∃ toks finish, (scan source).toList = toks ++ [finish] ∧ finish.isFinish = true := by
  rcases tokens_reads {} source.toList with ⟨parts, trail, -, same, -⟩
  exact ⟨_, _, same, rfl⟩

end Scan
end BigScript
