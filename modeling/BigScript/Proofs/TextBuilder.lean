import BigScript.Proofs.Arguments
import BigScript.Proofs.LooseItems
import BigScript.Proofs.LoopWords

/-!
# Built texts

`w(...)` builds a text from the tokens between its parentheses, each of them written as its kind is
spelled, with a space wherever columns and widths tell that there is a gap.  Nothing is read from the
source again, so what comes out depends on what a token remembers.  A name remembers how it was
written; a reserved word is only known by its kind, and is written in its own spelling, `respelled`.

`builder_law` says what becomes of words of letters.  The gaps are told exactly, whatever the words are:
there is one space for every run of spaces, since a token that was scanned has the width that it has
in the script.  So the words come out one by one, and the text is the one that was written if, and only
if, every reserved word is in lower case and is not one of the shorter spellings.
-/

namespace BigScript

/-! ## Spellings -/

namespace Keyword

/-- A word as a token of it is written: a reserved word in its own spelling, another word as it is. -/
def respelled (word : String) : String := ((ofText? word).map spelling).getD word

/-- The shorter spellings of reserved words. -/
def shorter : List String := aliases.map Prod.fst

/-- A reserved word is found by its spelling or by a shorter one. -/
theorem ofText?_eq_some {word : String} {k : Keyword} (known : ofText? word = some k) :
    k ∈ all ∧ (k.spelling = Text.lower word ∨ Text.lower word ∈ shorter) := by
  have listed : (Text.lower word, k) ∈ spellings := by
    rcases List.lookup_eq_some_iff.mp known with ⟨before, after, split, -⟩
    exact split ▸ List.mem_append_right _ List.mem_cons_self
  rcases List.mem_append.mp listed with own | short
  · rcases List.mem_map.mp own with ⟨k', member, same⟩
    rcases Prod.mk.inj same with ⟨spelled, rfl⟩
    exact ⟨member, .inl spelled⟩
  · have known : ∀ pair ∈ aliases, pair.2 ∈ all := by decide
    exact ⟨known _ short, .inr (List.mem_map_of_mem short)⟩

/-- Characters that are no capital letters and mean nothing in a text. -/
def isPlain (c : Char) : Bool := Text.lowerChar c == c && !Text.isSpace c && c != '$'

theorem spelling_chars : ∀ k ∈ all, k.spelling.toList ≠ [] ∧ k.spelling.toList.all isPlain = true := by
  decide +kernel

theorem plain_of_spelling {k : Keyword} (member : k ∈ all) : ∀ c ∈ k.spelling.toList,
    Text.lowerChar c = c ∧ Text.isSpace c = false ∧ c ≠ '$' := by
  intro c among
  have plain := List.all_eq_true.mp (spelling_chars k member).2 c among
  simpa [isPlain, and_assoc] using plain

theorem spelling_full : ∀ k ∈ all, k.spelling ∉ shorter := by
  decide +kernel

theorem lower_spelling {k : Keyword} (member : k ∈ all) : Text.lower k.spelling = k.spelling := by
  refine String.toList_inj.mp (String.toList_map.trans ?_)
  exact (List.map_congr_left fun c among => (plain_of_spelling member c among).1).trans (List.map_id' _)

theorem respelled_of_none {word : String} (unknown : ofText? word = none) :
    respelled word = word := by
  rw [respelled, unknown]
  rfl

theorem respelled_of_some {word : String} {k : Keyword} (known : ofText? word = some k) :
    respelled word = k.spelling := by
  rw [respelled, known]
  rfl

/-- A word is kept as it is if it is not reserved, or is written as the reserved word is spelled. -/
theorem respelled_eq_iff (word : String) : respelled word = word ↔
    ((ofText? word).isSome = true → Text.lower word = word ∧ word ∉ shorter) := by
  cases known : ofText? word with
  | none => simp [respelled_of_none known]
  | some k =>
    rcases ofText?_eq_some known with ⟨member, spelled⟩
    rw [respelled_of_some known]
    constructor
    · rintro rfl _
      exact ⟨lower_spelling member, spelling_full k member⟩
    · intro kept
      rcases kept rfl with ⟨small, long⟩
      rw [small] at spelled
      exact spelled.resolve_right long

/-- But for the shorter spellings a word keeps its letters, if not their case. -/
theorem lower_respelled {word : String} (long : Text.lower word ∉ shorter) :
    Text.lower (respelled word) = Text.lower word := by
  cases known : ofText? word with
  | none => rw [respelled_of_none known]
  | some k =>
    rcases ofText?_eq_some known with ⟨member, spelled⟩
    rw [respelled_of_some known, lower_spelling member, spelled.resolve_right long]

example : ["Print", "s", "col", "news"].map respelled = ["print", "solve", "column", "news"] := by
  decide +kernel

end Keyword

/-! ## Words of letters -/

/-- A word of letters. -/
structure Lettered (word : String) : Prop where
  some : word.toList ≠ []
  letters : ∀ c ∈ word.toList, Text.isLetter c = true

/-- Words of letters on one line, with spaces between them. -/
inductive Spaced : List String → List Char → Prop where
  | none : Spaced [] []
  | last {word : String} (lettered : Lettered word) : Spaced [word] word.toList
  | more {word next : String} {rest : List String} {behind : List Char} {spaces : Nat}
      (lettered : Lettered word) (apart : 0 < spaces) (row : Spaced (next :: rest) behind) :
      Spaced (word :: next :: rest) (word.toList ++ (List.replicate spaces ' ' ++ behind))

/-- Characters that mean something to the scanner or to whoever reads a text are no letters. -/
theorem Text.apart_of_isLetter {c : Char} (letter : isLetter c = true) :
    isSpace c = false ∧ c ∉ ['$', '#', '"', '\n', '\t'] := by
  constructor
  · refine Bool.eq_false_iff.mpr fun space => ?_
    have apart := isLetter_of_isSpace space
    rw [letter] at apart
    cases apart
  · intro member
    simp only [List.mem_cons, List.not_mem_nil, or_false] at member
    rcases member with rfl | rfl | rfl | rfl | rfl <;> exact absurd letter (by decide +kernel)

theorem Text.not_digit_of_isLetter {c : Char} (letter : isLetter c = true) :
    ¬ ('0' ≤ c ∧ c ≤ '9') := by
  rintro ⟨-, digit⟩
  have below : c.toNat ≤ 57 := digit
  have none : ∀ code < 58, isLetter (Char.ofNat code) = false := by decide +kernel
  have apart := none c.toNat (Nat.lt_succ_of_le below)
  rw [Char.ofNat_toNat, letter] at apart
  cases apart

theorem Lettered.plain {word : String} (lettered : Lettered word) :
    ∀ c ∈ word.toList, c ≠ '\n' ∧ c ≠ '\t' := by
  intro c member
  have sign := (Text.apart_of_isLetter (lettered.letters c member)).2
  exact ⟨fun same => sign (by simp [same]), fun same => sign (by simp [same])⟩

/-- What a word of letters is written as has no blank and no dollar in it. -/
theorem Lettered.respelled {word : String} (lettered : Lettered word) :
    (Keyword.respelled word).toList ≠ [] ∧
      ∀ c ∈ (Keyword.respelled word).toList, Text.isSpace c = false ∧ c ≠ '$' := by
  cases known : Keyword.ofText? word with
  | none =>
    rw [Keyword.respelled_of_none known]
    refine ⟨lettered.some, fun c member => ?_⟩
    rcases Text.apart_of_isLetter (lettered.letters c member) with ⟨solid, sign⟩
    exact ⟨solid, fun dollar => sign (dollar ▸ List.mem_cons_self)⟩
  | some k =>
    rw [Keyword.respelled_of_some known]
    have member := (Keyword.ofText?_eq_some known).1
    exact ⟨(Keyword.spelling_chars k member).1, fun c among =>
      (Keyword.plain_of_spelling member c among).2⟩

theorem Spaced.lettered {words : List String} {text : List Char} (spaced : Spaced words text) :
    ∀ word ∈ words, Lettered word := by
  induction spaced with
  | none => exact nofun
  | last lettered => exact List.forall_mem_singleton.mpr lettered
  | more lettered _ _ ih => exact List.forall_mem_cons.mpr ⟨lettered, ih⟩

namespace Place

/-- Along a line every character but a tab takes up one column. -/
theorem afterAll_plain (place : Place) {cs : List Char} (plain : ∀ c ∈ cs, c ≠ '\n' ∧ c ≠ '\t') :
    place.afterAll cs = ⟨place.line, place.column + cs.length⟩ := by
  induction cs generalizing place with
  | nil => rfl
  | cons c cs ih =>
    rcases plain c List.mem_cons_self with ⟨line, tab⟩
    have step : place.after c = ⟨place.line, place.column + 1⟩ := by
      rw [after, if_neg (by simpa using line), if_neg (by simpa using tab)]
    change (place.after c).afterAll cs = _
    rw [ih _ fun d member => plain d (List.mem_cons_of_mem c member), step, List.length_cons,
      Nat.add_assoc, Nat.add_comm 1]

end Place

namespace Scan

/-- The token of a word that is written at a place. -/
def wordToken (word : String) (place : Place) : Token where
  lexeme := match Keyword.ofText? word with
    | some k => .word k
    | none => .name word
  line := place.line
  column := place.column
  span := word.length

theorem wordToken_rawName (word : String) (place : Place) :
    (wordToken word place).rawName = Keyword.respelled word := by
  rw [Token.rawName, wordToken, Keyword.respelled]
  cases Keyword.ofText? word <;> rfl

theorem wordToken_plain (word : String) (place : Place) :
    (wordToken word place).isFinish = false ∧ ∀ symbol, (wordToken word place).isSymbol symbol = false := by
  simp only [Token.isFinish, Token.isSymbol, Token.kind, wordToken]
  cases Keyword.ofText? word <;> exact ⟨rfl, fun _ => rfl⟩

/-- A word does not go on with a character. -/
def EndsWord (d : Char) : Prop := (isWordChar d || d == '_' || d == '-' || d == '.') = false

theorem endsWord : EndsWord ' ' ∧ EndsWord '(' ∧ EndsWord ')' := by
  unfold EndsWord
  decide +kernel

variable {word : String} {words : List String} {text : List Char} {d : Char}

theorem readPiece_lettered {c : Char} {cs : List Char} (lettered : Lettered word)
    (whole : word.toList = c :: cs) (ends : EndsWord d) (rest : List Char) :
    readPiece c (cs ++ d :: rest) = ⟨(wordToken word {}).lexeme, cs.length, 0⟩ := by
  have letters : ∀ e ∈ c :: cs, Text.isLetter e = true := whole ▸ lettered.letters
  have letter : Text.isLetter c = true := letters c List.mem_cons_self
  have sign := (Text.apart_of_isLetter letter).2
  have inside : cs.all isWordChar = true := by
    refine List.all_eq_true.mpr fun e member => ?_
    rw [isWordChar, letters e (List.mem_cons_of_mem c member), Bool.true_or]
  have read : readWord [c] (cs ++ d :: rest) = word.toList :=
    (readWord_until inside ends [c] rest).trans whole.symm
  have plain : ¬ word = foreignWord := by
    rintro rfl
    exact absurd (lettered.letters '3' (by decide)) (by decide +kernel)
  have quote : ¬ (c == '"') = true := by
    rw [beq_iff_eq]
    rintro rfl
    exact sign (by decide)
  have noDigit : ¬ (decide ('0' ≤ c) && decide (c ≤ '9')) = true := by
    rw [Bool.and_eq_true, decide_eq_true_eq, decide_eq_true_eq]
    exact Text.not_digit_of_isLetter letter
  unfold readPiece
  rw [if_neg quote, if_neg noDigit, letter, Bool.true_or, if_pos rfl]
  unfold readName
  dsimp only
  rw [read, String.ofList_toList, if_neg (by rwa [beq_iff_eq]), whole]
  unfold wordToken
  dsimp only
  cases Keyword.ofText? word <;> rfl

/-- A word of letters is read as one token. -/
theorem tokens_word (lettered : Lettered word) (ends : EndsWord d) (place : Place)
    (rest : List Char) : tokens place (word.toList ++ d :: rest) =
      wordToken word place :: tokens (place.afterAll word.toList) (d :: rest) := by
  have plain := lettered.plain
  cases whole : word.toList with
  | nil => exact absurd whole lettered.some
  | cons c cs =>
    have letter := lettered.letters c (whole ▸ List.mem_cons_self)
    rcases Text.apart_of_isLetter letter with ⟨solid, sign⟩
    have noGap : isGap c = false := by
      refine Bool.eq_false_iff.mpr fun gap => ?_
      simp only [isGap, Bool.or_eq_true, beq_iff_eq] at gap
      rcases gap with ((rfl | rfl) | rfl) | rfl <;> exact absurd solid (by decide)
    have noComment : (c == '#') = false :=
      beq_eq_false_iff_ne.mpr fun same => sign (by simp [same])
    have taken : (c :: (cs ++ d :: rest)).take (cs.length + 1) = c :: cs := by
      rw [List.take_succ_cons, List.take_left]
    have left : (cs ++ d :: rest).drop cs.length = d :: rest := List.drop_left
    have line : place.afterAll (c :: cs) = ⟨place.line, place.column + word.length⟩ := by
      rw [Place.afterAll_plain place (whole ▸ plain), ← whole, String.length_toList]
    rw [List.cons_append, tokens_piece noGap noComment (readPiece_lettered lettered whole ends rest),
      taken, left]
    congr 1
    unfold token
    dsimp only
    rw [taken, line]
    simp [wordToken, Place.afterAll]

theorem tokens_spaces (spaces : Nat) (place : Place) (cs : List Char) :
    tokens place (List.replicate spaces ' ' ++ cs) =
      tokens (place.afterAll (List.replicate spaces ' ')) cs := by
  induction spaces generalizing place with
  | zero => rfl
  | succ spaces ih =>
    rw [List.replicate_succ, List.cons_append, tokens_gap (by decide), ih]
    rfl

/-- A row of tokens for some words that begins at a place, with a gap between any two of them. -/
structure WordRow (words : List String) (place : Place) (row : List Token) : Prop where
  spelled : row.map Token.rawName = words.map Keyword.respelled
  apart : row.IsChain fun first second => TokenStream.gapBetween first second = true
  plain : ∀ t ∈ row, t.isFinish = false ∧ ∀ symbol, t.isSymbol symbol = false
  starts : ∀ t ∈ row.head?, t.place = place

/-- The gap in front of a row is told by the width of the word that stands there. -/
theorem WordRow.cons {place : Place} {next : String} {others : List String} {spaces : Nat}
    {row : List Token} (inner : WordRow (next :: others)
      ((place.afterAll word.toList).afterAll (List.replicate spaces ' ')) row)
    (lettered : Lettered word) (apart : 0 < spaces) :
    WordRow (word :: next :: others) place (wordToken word place :: row) where
  spelled := by rw [List.map_cons, wordToken_rawName, inner.spelled, ← List.map_cons]
  apart := by
    cases row with
    | nil => cases inner.spelled
    | cons t row =>
      refine .cons_cons ?_ inner.apart
      have start := inner.starts t rfl
      rw [Place.afterAll_plain _ lettered.plain, Place.afterAll_plain _ (by simp)] at start
      have column : t.column = place.column + word.toList.length + spaces :=
        (congrArg Place.column start).trans (by simp)
      have some : 0 < word.length := by
        rw [← String.length_toList]
        exact List.length_pos_iff.mpr lettered.some
      have width : (wordToken word place).width = word.length := if_pos some
      rw [TokenStream.gapBetween, width, column, String.length_toList]
      simp [wordToken, apart]
  plain := List.forall_mem_cons.mpr ⟨wordToken_plain word place, inner.plain⟩
  starts := by
    rintro t ⟨⟩
    rfl

/-- Words with spaces between them are read as a row of tokens. -/
theorem tokens_spaced (spaced : Spaced words text) (ends : EndsWord d) (place : Place)
    (rest : List Char) : ∃ row, WordRow words place row ∧
      tokens place (text ++ d :: rest) = row ++ tokens (place.afterAll text) (d :: rest) := by
  induction spaced generalizing place with
  | none => exact ⟨[], ⟨rfl, .nil, nofun, nofun⟩, rfl⟩
  | @last word lettered =>
    refine ⟨[wordToken word place], ⟨?_, .singleton _, ?_, ?_⟩, tokens_word lettered ends place rest⟩
    · rw [List.map_singleton, wordToken_rawName, List.map_singleton]
    · exact List.forall_mem_singleton.mpr (wordToken_plain word place)
    · rintro t ⟨⟩
      rfl
  | @more word next others behind spaces lettered apart _ ih =>
    obtain ⟨fewer, rfl⟩ : ∃ fewer, spaces = fewer + 1 := ⟨spaces - 1, by omega⟩
    rcases ih ((place.afterAll word.toList).afterAll (List.replicate (fewer + 1) ' ')) with
      ⟨row, inner, read⟩
    refine ⟨wordToken word place :: row, inner.cons lettered apart, ?_⟩
    rw [Place.afterAll_append, Place.afterAll_append, List.cons_append, ← read, ← tokens_spaces,
      List.replicate_succ]
    simp only [List.cons_append, List.append_assoc]
    exact tokens_word lettered endsWord.1 place _

/-- The text builder called with a text. -/
def call (text : List Char) : List Char := 'w' :: '(' :: (text ++ [')'])

/-- The tokens of a call with some words. -/
inductive CallRow (words : List String) : List Token → Prop where
  | mk {place : Place} {name opens closes : Token} {row : List Token} (named : name.lexeme = .name "w")
      (opening : opens.lexeme = .symbol .leftParen) (inner : WordRow words place row)
      (closing : closes.lexeme = .symbol .rightParen) :
      CallRow words (name :: opens :: (row ++ [closes]))

theorem tokens_symbol {c : Char} {symbol : Symbol} {cs : List Char} (noGap : isGap c = false)
    (noComment : (c == '#') = false) (read : readPiece c cs = ⟨.symbol symbol, 0, 0⟩) (place : Place) :
    ∃ t : Token, t.lexeme = .symbol symbol ∧
      tokens place (c :: cs) = t :: tokens (place.afterAll [c]) cs :=
  ⟨_, rfl, tokens_piece noGap noComment read place⟩

theorem readPiece_paren (cs : List Char) : readPiece '(' cs = ⟨.symbol .leftParen, 0, 0⟩ ∧
    readPiece ')' cs = ⟨.symbol .rightParen, 0, 0⟩ := by
  have noLetter : Text.isLetter '(' = false ∧ Text.isLetter ')' = false := by decide +kernel
  rw [readPiece, noLetter.1, readPiece, noLetter.2]
  exact ⟨rfl, rfl⟩

/-- A call is read as its own tokens, whatever stands behind it. -/
theorem tokens_call (spaced : Spaced words text) (place : Place) (after : List Char) :
    ∃ row, CallRow words row ∧
      tokens place (call text ++ after) = row ++ tokens (place.afterAll (call text)) after := by
  have builder : Lettered "w" := by
    refine ⟨by decide, fun c member => ?_⟩
    cases List.mem_singleton.mp (show c ∈ ['w'] from member)
    decide +kernel
  have named : (wordToken "w" place).lexeme = .name "w" := by
    have unknown : Keyword.ofText? "w" = none := by decide +kernel
    rw [wordToken, unknown]
  have name := tokens_word builder endsWord.2.1 place (text ++ ')' :: after)
  rcases tokens_symbol (by decide) (by decide) (readPiece_paren _).1 (place.afterAll "w".toList) with
    ⟨opens, opening, first⟩
  rcases tokens_spaced spaced endsWord.2.2
    ((place.afterAll "w".toList).afterAll ['(']) after with ⟨row, inner, read⟩
  rcases tokens_symbol (by decide) (by decide) (readPiece_paren after).2
    (((place.afterAll "w".toList).afterAll ['(']).afterAll text) with ⟨closes, closing, last⟩
  refine ⟨_, .mk named opening inner closing, ?_⟩
  have passed : place.afterAll (call text) =
      (((place.afterAll "w".toList).afterAll ['(']).afterAll text).afterAll [')'] := by
    simp only [← Place.afterAll_append]
    rfl
  calc tokens place (call text ++ after)
      = tokens place ("w".toList ++ '(' :: (text ++ ')' :: after)) := by simp [call]
    _ = wordToken "w" place :: opens :: (row ++ closes :: tokens (place.afterAll (call text)) after) := by
      rw [name, first, read, last, passed]
    _ = _ := by simp

end Scan

/-! ## What is built -/

namespace Text

theorem mem_join {separator : String} {parts : List String} {c : Char}
    (member : c ∈ (join separator parts).toList) :
    c ∈ separator.toList ∨ ∃ part ∈ parts, c ∈ part.toList := by
  induction parts with
  | nil => cases member
  | cons part rest ih =>
    cases rest with
    | nil => exact .inr ⟨part, List.mem_cons_self, member⟩
    | cons next rest =>
      rw [join_cons_cons, String.toList_append, String.toList_append, List.mem_append,
        List.mem_append] at member
      rcases member with (first | between) | later
      · exact .inr ⟨part, List.mem_cons_self, first⟩
      · exact .inl between
      · exact (ih later).imp_right fun ⟨other, among, inside⟩ =>
          ⟨other, List.mem_cons_of_mem part among, inside⟩

theorem lower_append (first second : String) :
    lower (first ++ second) = lower first ++ lower second := by
  rw [← String.toList_inj]
  simp [lower, String.toList_map]

theorem lower_join (separator : String) (parts : List String) :
    lower (join separator parts) = join (lower separator) (parts.map lower) := by
  induction parts with
  | nil => simp [lower, join]
  | cons part rest ih =>
    cases rest with
    | nil => rfl
    | cons next rest =>
      rw [join_cons_cons, lower_append, lower_append, ih]
      rfl

/-- Joined words begin and end as words do. -/
theorem trim_join {words : List String}
    (solid : ∀ word ∈ words, word.toList ≠ [] ∧ ∀ c ∈ word.toList, isSpace c = false) :
    trim (join " " words) = join " " words := by
  suffices ends : (words ≠ [] → (join " " words).toList ≠ []) ∧
      (∀ c ∈ (join " " words).toList.head?, isSpace c = false) ∧
        ∀ c ∈ (join " " words).toList.getLast?, isSpace c = false by
    rw [trim, trimWhere, trimChars_eq_self ends.2.1 ends.2.2, String.ofList_toList]
  induction words with
  | nil => simp [join]
  | cons word rest ih =>
    rcases List.forall_mem_cons.mp solid with ⟨⟨some, chars⟩, others⟩
    cases rest with
    | nil =>
      exact ⟨fun _ => some, fun c first => chars c (List.mem_of_mem_head? first),
        fun c last => chars c (List.mem_of_getLast? last)⟩
    | cons next rest =>
      rcases ih others with ⟨some', -, back⟩
      have later := some' (List.cons_ne_nil next rest)
      have whole : (join " " (word :: next :: rest)).toList =
          word.toList ++ (' ' :: (join " " (next :: rest)).toList) := by
        rw [join_cons_cons, String.toList_append, String.toList_append, List.append_assoc]
        rfl
      rw [whole]
      refine ⟨fun _ => List.append_ne_nil_of_left_ne_nil some _, fun c first => ?_, fun c last => ?_⟩
      · rw [List.head?_append_of_ne_nil _ some] at first
        exact chars c (List.mem_of_mem_head? first)
      · rw [List.getLast?_append_of_ne_nil _ (List.cons_ne_nil _ _), List.getLast?_cons_of_ne_nil later]
          at last
        exact back c last

/-- Words can be told apart again where a space joins them. -/
theorem join_inj {first second : List String} (some : first ≠ []) (some' : second ≠ [])
    (solid : ∀ word ∈ first, ' ' ∉ word.toList) (solid' : ∀ word ∈ second, ' ' ∉ word.toList) :
    join " " first = join " " second ↔ first = second := by
  have cut {words : List String} (some : words ≠ []) (solid : ∀ word ∈ words, ' ' ∉ word.toList) :
      (join " " words).toList.splitOn ' ' = words.map String.toList := by
    rw [toList_join]
    exact List.splitOn_intercalate ' ' (by simpa using solid) (by simpa using some)
  refine ⟨fun same => ?_, congrArg _⟩
  have parts := cut some solid
  rw [same, cut some' solid'] at parts
  exact (List.map_injective_iff.mpr (fun _ _ equal => String.toList_inj.mp equal) parts).symm

end Text

namespace TokenStream

variable {toks : TokenStream} {i k : Nat} {t : Token} {row back : List Token}

/-- Tokens that all stand apart are written with single spaces between them. -/
theorem written_of_apart
    (apart : row.IsChain fun first second => gapBetween first second = true) :
    written row = Text.join " " (row.map Token.rawName) := by
  cases row with
  | nil => rfl
  | cons t row =>
    rw [written]
    induction row generalizing t with
    | nil => exact String.append_empty
    | cons u row ih =>
      rcases List.isChain_cons_cons.mp apart with ⟨gap, further⟩
      rw [writtenFrom, if_pos gap, List.map_cons, List.map_cons, Text.join_cons_cons, ← List.map_cons,
        ← ih u further, String.append_assoc, String.append_assoc]

theorem peek_of_drop (row : List Token) (split : toks.toList.drop i = row ++ t :: back) :
    toks.peek (i + row.length) = t := by
  have found : toks.toList[i + row.length]? = some t := by
    rw [← List.getElem?_drop, split, List.getElem?_append_right (Nat.le_refl _), Nat.sub_self]
    rfl
  rw [peek, Array.getD_eq_getD_getElem?, ← Array.getElem?_toList, found]
  rfl

theorem peek_mem_of_drop (split : toks.toList.drop i = row ++ back) (behind : i ≤ k)
    (before : k < i + row.length) : toks.peek k ∈ row := by
  have inside : k - i < row.length := by omega
  have parts : row = row.take (k - i) ++ row[k - i] :: row.drop (k - i + 1) := by
    rw [← List.drop_eq_getElem_cons inside, List.take_append_drop]
  rw [parts, List.append_assoc, List.cons_append] at split
  have found := peek_of_drop _ split
  rw [List.length_take, Nat.min_eq_left (Nat.le_of_lt inside), Nat.add_sub_cancel' behind] at found
  rw [found]
  exact List.getElem_mem inside

/-- From an index on a stream has the tokens that a piece of a script is read as. -/
def Holds (toks : TokenStream) (i : Nat) (piece : List Char) : Prop :=
  ∃ (place : Place) (after : List Char) (row : List Token),
    Scan.tokens place (piece ++ after) = row ++ Scan.tokens (place.afterAll piece) after ∧
      row <+: toks.toList.drop i

variable {words : List String} {text : List Char}

/-- A stream holds a call that the scanner comes to. -/
theorem holds_call (spaced : Spaced words text) {place : Place} {after : List Char}
    (reached : toks.toList.drop i = Scan.tokens place (Scan.call text ++ after)) :
    toks.Holds i (Scan.call text) := by
  rcases Scan.tokens_call spaced place after with ⟨row, -, read⟩
  exact ⟨place, after, row, read, ⟨_, read.symm.trans reached.symm⟩⟩

theorem Holds.callRow (holds : toks.Holds i (Scan.call text)) (spaced : Spaced words text) :
    ∃ row, Scan.CallRow words row ∧ row <+: toks.toList.drop i := by
  rcases holds with ⟨place, after, row, read, begins⟩
  rcases Scan.tokens_call spaced place after with ⟨row', call, read'⟩
  exact ⟨row, List.append_cancel_right (read.symm.trans read') ▸ call, begins⟩

/-- A call is read up to the parenthesis behind the last word, and its words come out in their own
spelling. -/
theorem reads_call (call : Scan.CallRow words row) (begins : row <+: toks.toList.drop i) :
    toks.opensWarp i = true ∧
      toks.Enclosed .leftParen .rightParen (i + 2) (i + 2 + words.length) ∧
      written (toks.slice (i + 2) (i + 2 + words.length)) =
        Text.join " " (words.map Keyword.respelled) := by
  rcases begins with ⟨back, split⟩
  cases call with
  | @mk place name opens closes row named opening inner closing =>
    have count : row.length = words.length := by
      simpa using congrArg List.length inner.spelled
    have whole : toks.toList.drop i = name :: opens :: (row ++ closes :: back) := by
      rw [← split]
      simp
    have inside : toks.toList.drop (i + 2) = row ++ closes :: back := by
      rw [← List.drop_drop, whole]
      rfl
    have first : toks.peek i = name := peek_of_drop [] whole
    have second : toks.peek (i + 1) = opens := peek_of_drop [name] whole
    have last : toks.peek (i + 2 + words.length) = closes := count ▸ peek_of_drop row inside
    refine ⟨?warp, ?enclosed, ?written⟩
    case warp =>
      rw [opensWarp, first, second, Token.isSymbol, Token.kind, named, opening]
      decide
    case enclosed =>
      refine .of_plain (Nat.le_add_right _ _) (fun k behind before => ?_) ?_
      · have plain := inner.plain _ (peek_mem_of_drop inside behind (count.symm ▸ before))
        exact ⟨plain.1, plain.2 _, plain.2 _⟩
      · rw [last, Token.isSymbol, Token.kind, closing]
        decide
    case written =>
      have taken : toks.slice (i + 2) (i + 2 + words.length) = row := by
        rw [slice_eq, inside, Nat.add_sub_cancel_left, ← count, List.take_left]
      rw [taken, written_of_apart inner.apart, inner.spelled]

end TokenStream

theorem Spaced.solid {words : List String} {text : List Char} (spaced : Spaced words text) :
    ∀ word ∈ words.map Keyword.respelled,
      word.toList ≠ [] ∧ ∀ c ∈ word.toList, Text.isSpace c = false ∧ c ≠ '$' :=
  List.forall_mem_map.mpr fun word member => (spaced.lettered word member).respelled

/-- No reference stands in the words that come out. -/
theorem Spaced.plain {words : List String} {text : List Char} (spaced : Spaced words text) :
    '$' ∉ (Text.join " " (words.map Keyword.respelled)).toList := by
  intro dollar
  rcases Text.mem_join dollar with blank | ⟨word, among, inside⟩
  · exact absurd blank (by decide)
  · exact ((spaced.solid word among).2 _ inside).2 rfl

namespace Operand

variable {toks : TokenStream} {i : Nat} {words : List String} {text : List Char}

/-- Neither the ends of the words that come out nor any character in them means anything. -/
theorem warp_call (spaced : Spaced words text) (holds : toks.Holds i (Scan.call text)) :
    toks.opensWarp i = true ∧ ∀ m : Machine, (warp toks i).run m =
      ((Text.join " " (words.map Keyword.respelled), i + 2 + words.length), m) := by
  rcases holds.callRow spaced with ⟨row, call, begins⟩
  rcases TokenStream.reads_call call begins with ⟨opensWarp, enclosed, written⟩
  refine ⟨opensWarp, fun m => ?_⟩
  rw [Argument.warp_run enclosed m, written, Text.trim_join, Machine.interpolate,
    interpolate_of_plain _ spaced.plain]
  intro word among
  rcases spaced.solid word among with ⟨some, chars⟩
  exact ⟨some, fun c inside => (chars c inside).1⟩

theorem value_call (spaced : Spaced words text) (holds : toks.Holds i (Scan.call text)) (m : Machine) :
    (value toks i).run m =
      ((Text.join " " (words.map Keyword.respelled), i + 2 + words.length), m) := by
  rcases warp_call spaced holds with ⟨opensWarp, warp⟩
  have begins : (toks.peek i).kind ∈ Argument.opens := by
    rcases Argument.opens_of_warp opensWarp with is | is <;> exact is ▸ by decide
  rw [value, Argument.skipAts_of_opens begins, Argument.valueAt_of_opensWarp opensWarp, warp]

theorem text_call (spaced : Spaced words text) (holds : toks.Holds i (Scan.call text)) (m : Machine) :
    (Operand.text toks i).run m =
      ((Text.join " " (words.map Keyword.respelled), i + 2 + words.length), m) := by
  rw [Operand.text, Act.run_bind, value_call spaced holds, Act.run_bind, Act.run_get, Machine.interpolate,
    interpolate_of_plain _ spaced.plain]
  rfl

theorem assigned_call (spaced : Spaced words text) (holds : toks.Holds i (Scan.call text))
    (m : Machine) : (assigned toks i).run m =
      ((Text.join " " (words.map Keyword.respelled), i + 2 + words.length), m) := by
  rcases warp_call spaced holds with ⟨opensWarp, warp⟩
  rw [assigned, if_pos opensWarp, warp]

end Operand

/-- A space joins the words so that they can be told apart again. -/
theorem Spaced.kept_iff {words : List String} {text : List Char} (spaced : Spaced words text) :
    Text.join " " (words.map Keyword.respelled) = Text.join " " words ↔
      ∀ word ∈ words, Keyword.respelled word = word := by
  have same : words.map Keyword.respelled = words ↔ ∀ word ∈ words, Keyword.respelled word = word := by
    rw [← List.map_inj_left, List.map_id']
  rw [← same]
  cases words with
  | nil => exact iff_of_true rfl rfl
  | cons word rest =>
    refine Text.join_inj (List.cons_ne_nil _ _) (List.cons_ne_nil _ _) (fun part among blank => ?_)
      (fun part among blank => ?_)
    · exact absurd ((spaced.solid part among).2 _ blank).1 (by decide)
    · have letter := (spaced.lettered part among).letters _ blank
      exact absurd (Text.apart_of_isLetter letter).1 (by decide)

/-! ## The law -/

/-- What a call of the text builder with some words at an index yields. -/
structure BuilderLaw (toks : TokenStream) (i : Nat) (words : List String) : Prop where
  /-- As a value it is the words with single spaces between them, each word that is reserved in the
  spelling of the reserved word, and the call is read up to its end. -/
  value : ∀ m : Machine, (Operand.value toks i).run m =
    ((Text.join " " (words.map Keyword.respelled), i + 2 + words.length), m)
  /-- So it is where references in a value are replaced. -/
  text : ∀ m : Machine, (Operand.text toks i).run m =
    ((Text.join " " (words.map Keyword.respelled), i + 2 + words.length), m)
  /-- It is assigned as that text. -/
  assigned : ∀ m : Machine, (Operand.assigned toks i).run m =
    ((Text.join " " (words.map Keyword.respelled), i + 2 + words.length), m)
  /-- The text is the one that was written exactly if every reserved word is in lower case and is not
  one of the shorter spellings. -/
  faithful : Text.join " " (words.map Keyword.respelled) = Text.join " " words ↔
    ∀ word ∈ words, (Keyword.ofText? word).isSome = true →
      Text.lower word = word ∧ word ∉ Keyword.shorter
  /-- Without the shorter spellings nothing but the case of letters is lost. -/
  folded : (∀ word ∈ words, Text.lower word ∉ Keyword.shorter) →
    Text.lower (Text.join " " (words.map Keyword.respelled)) = Text.lower (Text.join " " words)

/-- A built text keeps its words apart, and keeps the spelling of those that are not reserved. -/
theorem builder_law {toks : TokenStream} {i : Nat} {words : List String} {text : List Char}
    (spaced : Spaced words text) (holds : toks.Holds i (Scan.call text)) : BuilderLaw toks i words where
  value := Operand.value_call spaced holds
  text := Operand.text_call spaced holds
  assigned := Operand.assigned_call spaced holds
  faithful := by
    simp only [← Keyword.respelled_eq_iff]
    exact spaced.kept_iff
  folded := by
    intro long
    rw [Text.lower_join, Text.lower_join, List.map_map]
    refine congrArg (Text.join _) (List.map_congr_left fun word member => ?_)
    exact Keyword.lower_respelled (long word member)

/-- A reserved word with a capital letter, and another one. -/
def capitalCall : String := "Msg = w(Print   this)"

theorem spaced_capitalCall : Spaced ["Print", "this"] "Print   this".toList := by
  have lettered (word : String) (some : word.toList ≠ [])
      (letters : word.toList.all Text.isLetter = true) : Lettered word :=
    ⟨some, List.all_eq_true.mp letters⟩
  exact .more (lettered "Print" (by decide) (by decide +kernel)) (Nat.succ_pos 2)
    (.last (lettered "this" (by decide) (by decide +kernel)))

theorem holds_capitalCall : (scan capitalCall).Holds 2 (Scan.call "Print   this".toList) := by
  have name : Lettered "Msg" := ⟨by decide, List.all_eq_true.mp (by decide +kernel)⟩
  have first := Scan.tokens_word name Scan.endsWord.1 {} "= w(Print   this)".toList
  have read : Scan.readPiece '=' " w(Print   this)".toList = ⟨.symbol .assign, 0, 0⟩ := by
    rw [Scan.readPiece, show Text.isLetter '=' = false by decide +kernel]
    rfl
  let place := (Place.afterAll {} "Msg".toList).after ' '
  rcases Scan.tokens_symbol (by decide) (by decide) read place with ⟨sign, -, second⟩
  have reached : (scan capitalCall).toList.drop 2 =
      Scan.tokens ((place.afterAll ['=']).after ' ') (Scan.call "Print   this".toList ++ []) := by
    have source : capitalCall.toList = "Msg".toList ++ ' ' :: "= w(Print   this)".toList := by decide
    have rest : "= w(Print   this)".toList = '=' :: " w(Print   this)".toList := by decide
    have called : " w(Print   this)".toList = ' ' :: (Scan.call "Print   this".toList ++ []) := by decide
    rw [scan, List.toList_toArray, source, first, Scan.tokens_gap (by decide), rest, second, called,
      Scan.tokens_gap (by decide)]
    rfl
  exact TokenStream.holds_call spaced_capitalCall reached

theorem builder_law_capitalCall : Spaced ["Print", "this"] "Print   this".toList ∧
    (scan capitalCall).Holds 2 (Scan.call "Print   this".toList) ∧
      BuilderLaw (scan capitalCall) 2 ["Print", "this"] :=
  ⟨spaced_capitalCall, holds_capitalCall, builder_law spaced_capitalCall holds_capitalCall⟩

/-- The first word comes out in lower case. -/
theorem capitalWord_isLowered : Spaced ["Print", "this"] "Print   this".toList ∧
    (scan capitalCall).Holds 2 (Scan.call "Print   this".toList) ∧
      ((Operand.assigned (scan capitalCall) 2).run (.start {})).1.1 = "print this" ∧
        "print this" ≠ Text.join " " ["Print", "this"] := by
  refine ⟨spaced_capitalCall, holds_capitalCall, ?_, by decide⟩
  rw [Operand.assigned_call spaced_capitalCall holds_capitalCall]
  decide +kernel

end BigScript
