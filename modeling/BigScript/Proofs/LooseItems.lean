import BigScript.Proofs.ItemLoop
import BigScript.Proofs.ListStatement
import BigScript.Verb.Get
import Mathlib.Data.List.DropRight

/-!
# Lists that are read loosely

The list statements write a list of strings as an array of documents, and whoever reads an array gets
the strings back.  Loops and `get NAME as count` do not read arrays.  They split the text between the
brackets at every comma and drop the blanks and quotes around the parts.

What they see of a string is therefore its written form.  `loosened` is that form, and a string is its
own loosened form if, and only if, nothing in it is escaped: an escape has one backslash more than the
character, and backslashes are never dropped.  With the number of commas, which are never escaped,
`looseItems_writeStrings_iff` says for which lists the two readers agree.
-/

namespace BigScript

/-! ## Texts -/

namespace Text

/-- Nothing is dropped from a text that neither begins nor ends with what is dropped. -/
theorem trimChars_eq_self {p : Char → Bool} {cs : List Char} (front : ∀ c ∈ cs.head?, p c = false)
    (back : ∀ c ∈ cs.getLast?, p c = false) : trimChars p cs = cs := by
  have kept {cs : List Char} (front : ∀ c ∈ cs.head?, p c = false) : cs.dropWhile p = cs := by
    cases cs with
    | nil => rfl
    | cons c cs => rw [List.dropWhile_cons_of_neg (Bool.eq_false_iff.mp (front c rfl))]
  rw [trimChars, kept front, dropRightWhile, kept (by rwa [List.head?_reverse]), List.reverse_reverse]

theorem trimChars_enclosed {p : Char → Bool} {left right : Char} (front : p left = false)
    (back : p right = false) (inside : List Char) :
    trimChars p (left :: (inside ++ [right])) = left :: (inside ++ [right]) :=
  trimChars_eq_self (by simpa using front) (by simpa [List.getLast?_cons] using back)

theorem trim_enclosed {s : String} {left right : Char} {inside : List Char}
    (text : s.toList = left :: (inside ++ [right])) (front : isSpace left = false)
    (back : isSpace right = false) : trim s = s := by
  rw [trim, trimWhere, text, trimChars_enclosed front back, ← text, String.ofList_toList]

theorem bracketed {raw : String} {inside : List Char} (text : raw.toList = '[' :: (inside ++ [']'])) :
    startsWith raw "[" = true ∧ endsWith raw "]" = true := by
  constructor
  · rw [startsWith, text]
    rfl
  · rw [endsWith, text, List.reverse_cons, List.reverse_append]
    rfl

theorem splitChars_cons (mark c : Char) (cs : List Char) :
    splitChars [mark] (c :: cs) =
      if (c == mark) = true then [] :: splitChars [mark] cs
      else (splitChars [mark] cs).modifyHead (List.cons c) := by
  by_cases here : c = mark
  · subst here
    rw [splitChars, cutChars, dropStart?, if_pos (beq_self_eq_true c), if_pos (beq_self_eq_true c)]
    rfl
  · have apart : dropStart? [mark] (c :: cs) = none := by
      rw [dropStart?, if_neg (by simpa using fun same => here same.symm)]
    rw [if_neg (by simpa using here), splitChars, cutChars, apart, splitChars]
    cases cutChars [mark] cs with
    | none => rfl
    | some parts => rfl

theorem splitChars_eq_splitOn (mark : Char) (cs : List Char) :
    splitChars [mark] cs = cs.splitOn mark := by
  induction cs with
  | nil => rw [List.splitOn_nil, splitChars]; rfl
  | cons c cs ih => rw [splitChars_cons, List.splitOn_cons_eq_if_modifyHead, ih]

theorem length_splitOn (mark : Char) (cs : List Char) :
    (cs.splitOn mark).length = cs.count mark + 1 := by
  induction cs with
  | nil => rw [List.splitOn_nil]; rfl
  | cons c cs ih =>
      rw [List.splitOn_cons_eq_if_modifyHead, List.count_cons]
      split
      · rw [List.length_cons, ih]
      · rw [List.length_modifyHead, ih]

theorem join_cons_cons (separator first next : String) (rest : List String) :
    join separator (first :: next :: rest) = first ++ separator ++ join separator (next :: rest) :=
  rfl

theorem toList_join (separator : String) (parts : List String) :
    (join separator parts).toList = separator.toList.intercalate (parts.map String.toList) := by
  induction parts with
  | nil => rfl
  | cons part rest ih =>
      cases rest with
      | nil => rw [join, List.map_singleton, List.intercalate_singleton]
      | cons next rest =>
          rw [join_cons_cons, String.toList_append, String.toList_append, ih]
          simp only [List.map_cons, List.intercalate_cons_cons]

theorem count_intercalate (separator : List Char) (mark : Char) (first : List Char)
    (rest : List (List Char)) :
    (separator.intercalate (first :: rest)).count mark =
      ((first :: rest).map (List.count mark)).sum + rest.length * separator.count mark := by
  induction rest generalizing first with
  | nil => rw [List.intercalate_singleton]; simp
  | cons next rest ih =>
      rw [List.intercalate_cons_cons, List.count_append, List.count_append, ih, List.length_cons,
        Nat.succ_mul]
      simp only [List.map_cons, List.sum_cons]
      omega

theorem dropRightWhile_eq_rdropWhile (p : Char → Bool) (cs : List Char) :
    dropRightWhile p cs = cs.rdropWhile p := rfl

/-- What is dropped at the end does not count where it is not looked for. -/
theorem count_dropRightWhile {p : Char → Bool} {mark : Char} (kept : p mark = false) (cs : List Char) :
    (dropRightWhile p cs).count mark = cs.count mark := by
  have none : (cs.reverse.takeWhile p).count mark = 0 := by
    rw [List.count_eq_zero]
    intro member
    rw [List.mem_takeWhile_imp member] at kept
    cases kept
  have whole := congrArg (List.count mark) (List.takeWhile_append_dropWhile (p := p) (l := cs.reverse))
  rw [List.count_append, none, Nat.zero_add, List.count_reverse] at whole
  rw [dropRightWhile, List.count_reverse, whole]

end Text

/-! ## Strings as they are written -/

namespace Json

/-- Whether a character of a string is not written as it is. -/
def isEscaped (c : Char) : Bool :=
  c == '"' || c == '\\' || c.toNat < 32 || c.toNat == 0x2028 || c.toNat == 0x2029

/-- Only few characters are escaped. -/
theorem toNat_escaped {c : Char} (escaped : isEscaped c = true) :
    c.toNat ∈ List.range 32 ++ [34, 92, 0x2028, 0x2029] := by
  simp only [isEscaped, Bool.or_eq_true, beq_iff_eq, decide_eq_true_eq] at escaped
  rw [List.mem_append, List.mem_range]
  rcases escaped with (((rfl | rfl) | control) | line) | paragraph
  · exact .inr (by decide)
  · exact .inr (by decide)
  · exact .inl control
  · exact .inr (by simp [line])
  · exact .inr (by simp [paragraph])

theorem writeChar_plain {c : Char} (plain : isEscaped c = false) : (writeChar c).toList = [c] := by
  fun_cases writeChar c with
  | case1 | case2 | case3 | case4 | case5 | case6 | case7 => cases plain
  | case8 c noQuote noEscape _ _ _ _ _ coded =>
      simp only [isEscaped, Bool.or_eq_false_iff] at plain
      simp [plain] at coded
  | case9 => exact String.toList_singleton c

/-- An escape begins with a backslash, the only one more than in the character, and has no comma and no
dollar. -/
theorem writeChar_escaped {c : Char} (escaped : isEscaped c = true) :
    (writeChar c).toList.head? = some '\\' ∧
      (writeChar c).toList.count '\\' = [c].count '\\' + [c].countP isEscaped ∧
      (writeChar c).toList.count ',' = [c].count ',' ∧
      (writeChar c).toList.count '$' = [c].count '$' := by
  have among := toNat_escaped escaped
  rw [← Char.ofNat_toNat c]
  generalize c.toNat = code at among ⊢
  revert code
  decide +kernel

theorem count_writeChar {mark : Char} (among : mark ∈ [',', '$']) (c : Char) :
    (writeChar c).toList.count mark = [c].count mark := by
  cases escaped : isEscaped c with
  | true =>
      rcases writeChar_escaped escaped with ⟨-, -, commas, dollars⟩
      simp only [List.mem_cons, List.not_mem_nil, or_false] at among
      rcases among with rfl | rfl
      · exact commas
      · exact dollars
  | false => rw [writeChar_plain escaped]

theorem count_backslash_writeChar (c : Char) :
    (writeChar c).toList.count '\\' = [c].count '\\' + [c].countP isEscaped := by
  cases escaped : isEscaped c with
  | true => exact (writeChar_escaped escaped).2.1
  | false =>
      rw [writeChar_plain escaped]
      simp [escaped]

/-- A character that is written does not begin with a quote. -/
theorem head_writeChar (c : Char) :
    ∃ first more, (writeChar c).toList = first :: more ∧ first ≠ '"' := by
  cases escaped : isEscaped c with
  | true =>
      rcases List.head?_eq_some_iff.mp (writeChar_escaped escaped).1 with ⟨more, split⟩
      exact ⟨'\\', more, split, by decide⟩
  | false =>
      refine ⟨c, [], writeChar_plain escaped, ?_⟩
      rintro rfl
      cases escaped

theorem written_cons (c : Char) (cs : List Char) :
    written (c :: cs) = (writeChar c).toList ++ written cs := List.flatMap_cons

theorem written_plain {cs : List Char} (plain : ∀ c ∈ cs, isEscaped c = false) : written cs = cs := by
  induction cs with
  | nil => rfl
  | cons c cs ih =>
      rw [List.forall_mem_cons] at plain
      rw [written_cons, writeChar_plain plain.1, ih plain.2]
      rfl

theorem count_written {mark : Char} (among : mark ∈ [',', '$']) (cs : List Char) :
    (written cs).count mark = cs.count mark := by
  induction cs with
  | nil => rfl
  | cons c cs ih =>
      rw [written_cons, List.count_append, count_writeChar among, ih, ← List.count_append]
      rfl

theorem count_writeString {mark : Char} (among : mark ∈ [',', '$']) (s : String) :
    (writeString s).toList.count mark = s.toList.count mark := by
  have apart : ('"' == mark) = false := by
    simp only [List.mem_cons, List.not_mem_nil, or_false] at among
    rcases among with rfl | rfl <;> rfl
  rw [writeString_toList, List.count_cons, List.count_append, count_written among, List.count_singleton,
    apart]
  rfl

theorem count_backslash_written (cs : List Char) :
    (written cs).count '\\' = cs.count '\\' + cs.countP isEscaped := by
  induction cs with
  | nil => rfl
  | cons c cs ih =>
      have counts : (c :: cs).count '\\' = [c].count '\\' + cs.count '\\' :=
        @List.count_append _ _ '\\' [c] cs
      have places : (c :: cs).countP isEscaped = [c].countP isEscaped + cs.countP isEscaped :=
        @List.countP_append _ isEscaped [c] cs
      rw [written_cons, List.count_append, count_backslash_writeChar, ih, counts, places]
      omega

/-- A reader of arrays gets the strings back. -/
theorem readArrayText?_writeStrings (items : List String) :
    readArrayText? (writeStrings items) = some (items.map .string) :=
  (settled_strings items).readArrayText?

theorem toList_writeStrings (items : List String) :
    (writeStrings items).toList =
      '[' :: ([','].intercalate (items.map fun item => (writeString item).toList) ++ [']']) := by
  have texts : writeItems (items.map .string) = items.map writeString := by
    induction items with
    | nil => rfl
    | cons item items ih => rw [List.map_cons, writeItems, ih, List.map_cons, write]
  have whole := enclosed '[' ']' (Text.join "," (items.map writeString)) []
  rw [List.append_nil, Text.toList_join, List.map_map] at whole
  rw [writeStrings, write, texts]
  exact whole

/-- Quoted texts begin and end with a quote, also with commas between them. -/
theorem intercalate_quoted (first : String) (rest : List String) :
    ∃ inside, [','].intercalate ((first :: rest).map fun item => (writeString item).toList) =
      '"' :: (inside ++ ['"']) := by
  induction rest generalizing first with
  | nil => exact ⟨_, by rw [List.map_singleton, List.intercalate_singleton, writeString_toList]⟩
  | cons next rest ih =>
      rcases ih next with ⟨inside, further⟩
      rw [List.map_cons] at further ⊢
      rw [List.map_cons, List.intercalate_cons_cons, further, writeString_toList]
      exact ⟨written first.toList ++ ['"', ',', '"'] ++ inside, by simp⟩

end Json

/-! ## Loose items -/

namespace Value

/-- What a loose reader makes of a string: it sees the string as it is written, without the quotes at
its end. -/
def loosened (item : String) : String :=
  String.ofList (Text.dropRightWhile (· == '"') (Json.written item.toList))

/-- A quoted string is the loosened one with a quote in front and quotes behind it. -/
theorem trimWhere_writeString (item : String) :
    Text.trimWhere (· == '"') (Text.trim (Json.writeString item)) = loosened item := by
  have text := Json.writeString_toList item
  rw [Text.trim_enclosed text rfl rfl, Text.trimWhere, loosened, text, Text.trimChars,
    List.dropWhile_cons_of_pos (by rfl)]
  congr 1
  cases item.toList with
  | nil => rfl
  | cons c cs =>
      rcases Json.head_writeChar c with ⟨first, more, split, noQuote⟩
      have front : ¬ (first == '"') = true := by simpa using noQuote
      rw [Json.written_cons, split, List.append_assoc, List.cons_append,
        List.dropWhile_cons_of_neg (p := (· == '"')) front, ← List.append_assoc, ← List.cons_append]
      exact List.rdropWhile_concat_pos _ _ _ rfl

/-- A string is seen as it is if, and only if, nothing in it is escaped. -/
theorem loosened_eq_self_iff (item : String) :
    loosened item = item ↔ ∀ c ∈ item.toList, Json.isEscaped c = false := by
  constructor
  · intro same
    -- Every escape has a backslash more than the character, and no backslash is dropped.
    have counts := congrArg (List.count '\\' ∘ String.toList) same
    rw [Function.comp, Function.comp, loosened, String.toList_ofList, Text.count_dropRightWhile rfl,
      Json.count_backslash_written] at counts
    have none : item.toList.countP Json.isEscaped = 0 := by omega
    exact fun c member => Bool.eq_false_iff.mpr (List.countP_eq_zero.mp none c member)
  · intro plain
    have unquoted : Text.dropRightWhile (· == '"') item.toList = item.toList := by
      rw [Text.dropRightWhile_eq_rdropWhile, List.rdropWhile_eq_self_iff]
      intro filled quote
      have last := plain _ (List.getLast_mem filled)
      rw [eq_of_beq quote] at last
      cases last
    rw [loosened, Json.written_plain plain, unquoted, String.ofList_toList]

/-- A bracketed text that begins and ends with a quote is split at its commas. -/
theorem looseItems_quoted {raw : String} {inside : List Char}
    (text : raw.toList = '[' :: ('"' :: (inside ++ ['"']) ++ [']'])) :
    looseItems raw = (('"' :: (inside ++ ['"'])).splitOn ',').map fun part =>
      Text.trimWhere (· == '"') (Text.trim (String.ofList part)) := by
  have whole : Text.trim raw = raw := Text.trim_enclosed text rfl rfl
  have ⟨begins, ends⟩ := Text.bracketed text
  have length : 2 ≤ raw.length := by
    rw [← String.length_toList, text]
    simp
  have inner : Text.trim (String.ofList ((raw.toList.drop 1).dropLast)) =
      String.ofList ('"' :: (inside ++ ['"'])) := by
    have stripped : (raw.toList.drop 1).dropLast = '"' :: (inside ++ ['"']) := by
      rw [text, List.drop_one, List.tail_cons, List.dropLast_concat]
    rw [stripped, Text.trim_enclosed (String.toList_ofList) rfl rfl]
  have filled : (String.ofList ('"' :: (inside ++ ['"']))).isEmpty = false := by
    rw [← Bool.not_eq_true, String.isEmpty_iff]
    intro empty
    have chars := congrArg String.toList empty
    rw [String.toList_ofList] at chars
    cases chars
  unfold looseItems
  dsimp only
  rw [whole, begins, ends, decide_eq_true length, inner, filled]
  rw [Bool.and_self, Bool.and_self, if_pos rfl, if_neg Bool.false_ne_true]
  change ((Text.splitChars [','] _).map String.ofList).map _ = _
  rw [String.toList_ofList, Text.splitChars_eq_splitOn, List.map_map]
  rfl

theorem looseItems_nil : looseItems (Json.writeStrings []) = [] := by cbv

/-- The items of a list of strings are one more than the commas between them, wherever these are. -/
theorem length_looseItems (items : List String) :
    (looseItems (Json.writeStrings items)).length =
      items.length + (items.map fun item => item.toList.count ',').sum := by
  cases items with
  | nil => rw [looseItems_nil]; rfl
  | cons first rest =>
      rcases Json.intercalate_quoted first rest with ⟨inside, body⟩
      have text := Json.toList_writeStrings (first :: rest)
      have quoted (s : String) : (Json.writeString s).toList.count ',' = s.toList.count ',' :=
        Json.count_writeString (by decide) s
      have commas := Text.count_intercalate [','] ',' (Json.writeString first).toList
        (rest.map fun item => (Json.writeString item).toList)
      rw [← List.map_cons (f := fun item => (Json.writeString item).toList), body, List.length_map,
        List.map_map, List.count_singleton_self, Nat.mul_one] at commas
      rw [body] at text
      rw [looseItems_quoted text, List.length_map, Text.length_splitOn, commas]
      simp only [Function.comp_def, quoted, List.length_cons]
      omega

/-- Without commas in its items, a list of strings is read item by item. -/
theorem looseItems_writeStrings {items : List String} (whole : ∀ item ∈ items, ',' ∉ item.toList) :
    looseItems (Json.writeStrings items) = items.map loosened := by
  cases items with
  | nil => exact looseItems_nil
  | cons first rest =>
      rcases Json.intercalate_quoted first rest with ⟨inside, body⟩
      have text := Json.toList_writeStrings (first :: rest)
      have apart : ∀ part ∈ (first :: rest).map fun item => (Json.writeString item).toList,
          ',' ∉ part := by
        rw [List.forall_mem_map]
        intro item member
        rw [← List.count_eq_zero, Json.count_writeString (by decide), List.count_eq_zero]
        exact whole item member
      rw [body] at text
      rw [looseItems_quoted text, ← body, List.splitOn_intercalate ',' apart (by simp), List.map_map]
      refine List.map_congr_left fun item _ => ?_
      rw [Function.comp, String.ofList_toList, trimWhere_writeString]

/-- A list of strings is read back if, and only if, no item has a comma or is written with an
escape. -/
theorem looseItems_writeStrings_iff (items : List String) :
    looseItems (Json.writeStrings items) = items ↔
      ∀ item ∈ items, ',' ∉ item.toList ∧ ∀ c ∈ item.toList, Json.isEscaped c = false := by
  have each : items.map loosened = items ↔
      ∀ item ∈ items, ∀ c ∈ item.toList, Json.isEscaped c = false := by
    conv_lhs => rhs; rw [← List.map_id items]
    rw [List.map_inj_left]
    exact forall₂_congr fun item _ => loosened_eq_self_iff item
  constructor
  · intro same
    have length := length_looseItems items
    rw [same] at length
    have whole : ∀ item ∈ items, ',' ∉ item.toList := by
      intro item member
      have none : (items.map fun item => item.toList.count ',').sum = 0 := by omega
      exact List.count_eq_zero.mp (List.sum_eq_zero_iff.mp none _ (List.mem_map_of_mem member))
    rw [looseItems_writeStrings whole, each] at same
    exact fun item member => ⟨whole item member, same item member⟩
  · intro plain
    rw [looseItems_writeStrings fun item member => (plain item member).1, each]
    exact fun item member => (plain item member).2

/-- The size of a list of strings as a text is the number of its loose items. -/
theorem size_writeStrings (items : List String) :
    Convert.size (Json.writeStrings items) =
      items.length + (items.map fun item => item.toList.count ',').sum := by
  have ⟨begins, ends⟩ := Text.bracketed (Json.toList_writeStrings items)
  rw [Convert.size, begins, ends, Bool.and_self, if_pos rfl, length_looseItems]

/-- A list of strings without dollars has no references. -/
theorem interpolate_writeStrings {items : List String} (plain : ∀ item ∈ items, '$' ∉ item.toList)
    (m : Machine) : m.interpolate (Json.writeStrings items) = Json.writeStrings items := by
  refine interpolate_of_plain m.get? ?_
  rw [← List.count_eq_zero, Json.toList_writeStrings, List.count_cons, List.count_append]
  cases items with
  | nil => rfl
  | cons first rest =>
      have none : ∀ item ∈ first :: rest, (Json.writeString item).toList.count '$' = 0 := by
        intro item member
        rw [Json.count_writeString (by decide), List.count_eq_zero]
        exact plain item member
      have dollars := Text.count_intercalate [','] '$' (Json.writeString first).toList
        (rest.map fun item => (Json.writeString item).toList)
      have sum : (((first :: rest).map fun item => (Json.writeString item).toList).map
          (List.count '$')).sum = 0 := by
        rw [List.map_map]
        exact List.sum_eq_zero (List.forall_mem_map.mpr none)
      rw [← List.map_cons (f := fun item => (Json.writeString item).toList), sum] at dollars
      rw [dollars]
      rfl

end Value

/-! ## Loops -/

open Machine Statement TokenStream

theorem Value.entries_writeStrings (items : List String) :
    entries (Json.writeStrings items) =
      (looseItems (Json.writeStrings items)).mapIdx fun place item =>
        (item, Number.digitText (place + 1)) := by
  have text := Json.toList_writeStrings items
  have noMap : Text.startsWith (Text.trim (Json.writeStrings items)) "\x7b" = false := by
    rw [Text.trim_enclosed text rfl rfl, Text.startsWith, text]
    rfl
  rw [entries, if_neg (Bool.eq_false_iff.mp noMap)]

/-- At top level, a loop whose turns come to its `keep` takes one turn for each entry. -/
theorem TokenStream.ItemLoop.visited {toks : TokenStream} {head close : Nat}
    {source item value raw : String} {m entered : Machine}
    (loop : toks.ItemLoop head close source item value) (plain : Plain item) (other : Plain value)
    (apart : item ≠ value) (top : m.locals = []) (arrived : m.arrive toks head = .ready entered)
    (some : Value.entries raw ≠ [])
    (complete : TurnsComplete toks (toks.lineEnd head + 1) close
      (toks.turnAt head raw item value 0 m.loops entered)) :
    ∃ visited out, Visits toks (toks.lineEnd head + 1) close visited
        (toks.turnAt head raw item value 0 m.loops entered) (toks.lineEnd close + 1, out) ∧
      List.Forall₂ (Begins item value) (Value.entries raw) visited := by
  have bottom : entered.locals = [] := by
    have frames := (Balanced.of_ready arrived).frames
    rw [top] at frames
    exact List.eq_nil_of_length_eq_zero frames
  obtain ⟨entry, later, split⟩ := List.exists_cons_of_ne_nil some
  have stands : (Value.entries raw)[0]? = Option.some entry := by
    rw [split]
    rfl
  have turn := turnAt_begins toks head m.loops plain other apart (m := entered) bottom stands
  rcases loop.visits plain other apart complete later [] entry split .none rfl turn.2 turn.1 with
    ⟨visited, out, visits, begun, -⟩
  exact ⟨visited, out, visits, split ▸ begun⟩

/-! ## Counts -/

/-- A question for the size of the value of a variable: `get NAME as count`. -/
structure AsksSize (toks : TokenStream) (i : Nat) (name : String) : Prop where
  head : (toks.peek i).kind = .word .get
  line : toks.onLine i (i + 1) = true
  named : (toks.peek (i + 1)).lexeme = .name name
  other : ∀ word ∈ ["web", "time", "count"], (toks.peek (i + 1)).isName word = false
  converted : Verb.asIndex? toks (i + 1) (i + 1) = some (i + 2)
  conversion : Text.lower (toks.peek (i + 3)).rawName ∈ ["len", "length", "count"]

theorem AsksSize.run {toks : TokenStream} {i : Nat} {name raw : String} {m : Machine}
    (asks : AsksSize toks i name) (found : m.get? name = some raw) (run : Runner) :
    (dispatch run toks i).run m =
      (finish toks (i + 3) [Number.digitText (Convert.size (m.interpolate raw))]).run m := by
  have kind : (toks.peek (i + 1)).kind = .name := congrArg Lexeme.kind asks.named
  have noLength : (toks.peek (i + 1)).isWord .len = false := by
    rw [Token.isWord, kind]
    rfl
  have inputs : (toks.slice (i + 1) (i + 2)).map (fun t => m.interpolate (m.tokenValue t)) =
      [m.interpolate raw] := by
    have unfinished : (toks.peek (i + 1)).isFinish = false := by
      rw [Token.isFinish, kind]
      rfl
    rw [TokenStream.slice_eq, TokenStream.drop_of_lt (TokenStream.lt_of_not_finish unfinished),
      Nat.add_sub_add_left, List.take_one]
    change [m.interpolate (m.tokenValue (toks.peek (i + 1)))] = _
    rw [Machine.tokenValue, asks.named]
    dsimp only
    rw [getD, found, Option.getD_some]
  have answer : Convert.apply (Text.lower (toks.peek (i + 3)).rawName) [m.interpolate raw] =
      Number.digitText (Convert.size (m.interpolate raw)) := by
    have conversion := asks.conversion
    simp only [List.mem_cons, List.not_mem_nil, or_false] at conversion
    rcases conversion with is | is | is <;> rw [is] <;> rfl
  have get : dispatch run toks i = Verb.getAs toks (i + 1) (i + 2) := by
    unfold dispatch
    rw [asks.head]
    change Verb.getValue toks i = _
    unfold Verb.getValue
    dsimp only
    rw [asks.line, asks.other "web" (by decide), asks.other "time" (by decide),
      asks.other "count" (by decide), noLength, asks.converted]
    rfl
  rw [get]
  unfold Verb.getAs
  rw [Act.run_bind, Act.run_get]
  dsimp only
  rw [inputs, answer]

/-- A question for the number of elements of a list: `get count of NAME`. -/
structure AsksCount (toks : TokenStream) (i : Nat) (name : String) (last : Nat) : Prop where
  head : (toks.peek i).kind = .word .get
  line : toks.onLine i (i + 1) = true
  counts : (toks.peek (i + 1)).isName "count" = true
  particle : (toks.peek (i + 2)).isWord .of = true
  named : toks.bracedName (i + 3) = (name, last)

theorem AsksCount.run {toks : TokenStream} {i last : Nat} {name : String} {m : Machine}
    (asks : AsksCount toks i name last) (run : Runner) :
    (dispatch run toks i).run m =
      (finish toks last [Number.digitText (Value.listLength (m.getD name "[]"))]).run m := by
  have apart (word : String) (different : "count".map Char.toLower ≠ word.map Char.toLower) :
      (toks.peek (i + 1)).isName word = false := by
    have counts := asks.counts
    rw [Token.isName, Bool.and_eq_true, Text.sameWord, beq_iff_eq, beq_iff_eq] at counts
    rw [Token.isName, Text.sameWord, counts.2, beq_eq_false_iff_ne.mpr different, Bool.and_false]
  have get : dispatch run toks i = Verb.getCount toks i (i + 1) := by
    unfold dispatch
    rw [asks.head]
    change Verb.getValue toks i = _
    unfold Verb.getValue
    dsimp only
    rw [asks.line, apart "web" (by decide +kernel), apart "time" (by decide +kernel), asks.counts]
    rfl
  rw [get]
  unfold Verb.getCount
  rw [if_pos asks.particle, asks.named]
  rfl

/-! ## The law -/

/-- What becomes of a list of strings in a variable. -/
structure LooseLaw (name : String) (items : List String) : Prop where
  /-- A tail that takes all results as a list writes them. -/
  taken : ∀ {toks i last m}, TokenStream.hasTail toks i = true → TokenStream.takesList toks i = true →
    toks.bracedName (toks.tailStart i + 3) = (name, last) → m.isHidden name = false →
      ((Results.setAs toks i items).run m).2.get? name = some (Json.writeStrings items)
  /-- `list add` writes one item more. -/
  added : ∀ {toks i item last m read run}, EditsList toks i name m (.add item) last read →
    m.isHidden name = false → m.getD name "[]" = Json.writeStrings items →
      ((dispatch run toks i).run m).2.get? name = some (Json.writeStrings (items ++ [item]))
  /-- Without commas in the items, a loop sees the written form of each, without the quotes at its
  end. -/
  seen : (∀ item ∈ items, ',' ∉ item.toList) →
    Value.looseItems (Json.writeStrings items) = items.map Value.loosened
  /-- It sees the items if, and only if, none has a comma or a character that is escaped. -/
  back : Value.looseItems (Json.writeStrings items) = items ↔
    ∀ item ∈ items, ',' ∉ item.toList ∧ ∀ c ∈ item.toList, Json.isEscaped c = false
  /-- There is one turn for each item that is seen, begun with the item and its place, if every turn
  that begins comes to the `keep`. -/
  turns : ∀ {toks head close item value} {m entered : Machine},
    TokenStream.ItemLoop toks head close name item value → Plain item → Plain value → item ≠ value →
      m.locals = [] → m.arrive toks head = .ready entered →
        entered.getD name "" = Json.writeStrings items → items ≠ [] →
          TurnsComplete toks (toks.lineEnd head + 1) close
            (toks.turnAt head (entered.getD name "") item value 0 m.loops entered) →
            ∃ visited out, Visits toks (toks.lineEnd head + 1) close visited
                (toks.turnAt head (entered.getD name "") item value 0 m.loops entered)
                (toks.lineEnd close + 1, out) ∧
              List.Forall₂ (Begins item value)
                ((Value.looseItems (Json.writeStrings items)).mapIdx fun place item =>
                  (item, Number.digitText (place + 1))) visited
  /-- `get NAME as count` counts what is seen of the text with its references replaced. -/
  size : ∀ {run toks i m}, AsksSize toks i name → m.get? name = some (Json.writeStrings items) →
    (dispatch run toks i).run m = (finish toks (i + 3)
      [Number.digitText (Convert.size (m.interpolate (Json.writeStrings items)))]).run m
  /-- `get count of NAME` counts the items. -/
  count : ∀ {run toks i last m}, AsksCount toks i name last →
    m.get? name = some (Json.writeStrings items) →
      (dispatch run toks i).run m = (finish toks last [Number.digitText items.length]).run m
  /-- Without dollars in the items, the first count is larger by the number of commas. -/
  agree : (∀ item ∈ items, '$' ∉ item.toList) → ∀ m : Machine,
    Convert.size (m.interpolate (Json.writeStrings items)) =
      items.length + (items.map fun item => item.toList.count ',').sum

theorem loose_law {name : String} (plain : Plain name) (items : List String) : LooseLaw name items where
  taken := by
    intro toks i last m tail whole named shown
    rw [Results.setAs_run, if_pos tail, if_pos whole, named]
    exact plain.get?_of_binds (plain.binds _ m) shown
  added := by
    intro toks i item last m read run edits shown holds
    have back : Json.readArrayText? (m.getD name "[]") = some (items.map .string) := by
      rw [holds, Json.readArrayText?_writeStrings]
    rw [edits.writes plain shown back, ListEdit.apply, Json.writeStrings, List.map_append,
      List.map_singleton]
  seen := Value.looseItems_writeStrings
  back := Value.looseItems_writeStrings_iff items
  turns := by
    intro toks head close item value m entered loop first second apart top arrived holds some complete
    have filled : Value.entries (Json.writeStrings items) ≠ [] := by
      rw [Value.entries_writeStrings, Ne, List.mapIdx_eq_nil_iff, ← List.length_eq_zero_iff,
        Value.length_looseItems]
      have positive := List.length_pos_iff.mpr some
      omega
    rw [holds] at complete ⊢
    rw [← Value.entries_writeStrings]
    exact loop.visited first second apart top arrived filled complete
  size asks found := asks.run found _
  count := by
    intro run toks i last m asks found
    have length : Value.listLength (m.getD name "[]") = items.length := by
      rw [getD, found, Option.getD_some, Value.listLength, Json.readArrayText?_writeStrings,
        Option.getD_some, List.length_map]
    rw [asks.run, length]
  agree := by
    intro plain m
    rw [Value.interpolate_writeStrings plain, Value.size_writeStrings]

/-- Two texts with nothing to escape, one of them with blanks around it. -/
def twoPlain : List String := [" a ", "b"]

/-- A machine with the two texts as a list in a variable. -/
def twoHeld : Machine := (Machine.start {}).setGlobal "L" (Json.writeStrings twoPlain)

/-- A loop over the list. -/
def overTwo : String := "start loop on \x7bL\x7d as \x7bA\x7d \x7bB\x7d\n    C = A\nkeep"

/-- A tail writes the two texts as a list, a loop takes a turn for each of them, and both counts are
two. -/
theorem loose_law_twoPlain :
    Plain "L" ∧
      ((Results.setAs (scan "run f & set as list \x7bL\x7d") 1 twoPlain).run (.start {})).2.get? "L" =
        some (Json.writeStrings twoPlain) ∧
      (∃ entered one other out, twoHeld.arrive (scan overTwo) 0 = .ready entered ∧
        Visits (scan overTwo) 13 16 [one, other]
          ((scan overTwo).turnAt 0 (Json.writeStrings twoPlain) "A" "B" 0 [] entered) (17, out) ∧
        Begins "A" "B" (" a ", "1") one ∧ Begins "A" "B" ("b", "2") other) ∧
      ((dispatch idle (scan "get L as count & set as \x7bR\x7d") 0).run twoHeld).2.get? "R" =
        some "2" ∧
      ((dispatch idle (scan "get count of \x7bL\x7d & set as \x7bR\x7d") 0).run twoHeld).2.get? "R" =
        some "2" := by
  have ⟨named, found⟩ : Plain "L" ∧ twoHeld.get? "L" = some (Json.writeStrings twoPlain) := by
    decide +kernel
  have law := loose_law named twoPlain
  have unescaped : ∀ item ∈ twoPlain, ',' ∉ item.toList ∧ ∀ c ∈ item.toList, Json.isEscaped c = false := by
    simp [twoPlain, Json.isEscaped]
  have ⟨tail, whole, target⟩ : let toks := scan "run f & set as list \x7bL\x7d"
      toks.hasTail 1 = true ∧ toks.takesList 1 = true ∧
        toks.bracedName (toks.tailStart 1 + 3) = ("L", 8) := by
    decide +kernel
  refine ⟨named, law.taken tail whole target rfl, ?turns, ?size, ?count⟩
  case turns =>
    let toks := scan overTwo
    have ⟨⟨loop, last, close⟩, plain, other, passes⟩ :
        (toks.ItemLoop 0 16 "L" "A" "B" ∧ toks.lineEnd 0 = 12 ∧ toks.lineEnd 16 = 16) ∧
          Plain "A" ∧ Plain "B" ∧ (twoHeld.arrive toks 0).readyFor (fun entered =>
            entered.getD "L" "" == Json.writeStrings twoPlain && staysFor toks 13 16 20
              (toks.turnAt 0 (Json.writeStrings twoPlain) "A" "B" 0 [] entered)) = true := by
      decide +kernel
    rcases Arrival.exists_of_readyFor passes with ⟨entered, arrived, checks⟩
    have ⟨source, stays⟩ := Bool.and_eq_true_iff.mp checks
    have complete := (completes_of_staysFor (by decide) stays).turns
    have turns := law.turns loop plain other (by decide) rfl arrived (eq_of_beq source) (by decide)
    rw [eq_of_beq source, last, close, law.back.mpr unescaped] at turns
    rcases turns complete with ⟨visited, out, visits, begins⟩
    rcases begins with _ | ⟨first, _ | ⟨second, _ | _⟩⟩
    exact ⟨entered, _, _, out, arrived, visits, first, second⟩
  case size =>
    have asks : AsksSize (scan "get L as count & set as \x7bR\x7d") 0 "L" := by
      have ⟨head, line, kind, content, other, converted, conversion⟩ :
          let toks := scan "get L as count & set as \x7bR\x7d"
          (toks.peek 0).kind = .word .get ∧ toks.onLine 0 1 = true ∧ (toks.peek 1).kind = .name ∧
            (toks.peek 1).content = "L" ∧
            (∀ word ∈ ["web", "time", "count"], (toks.peek 1).isName word = false) ∧
            Verb.asIndex? toks 1 1 = some 2 ∧
            Text.lower (toks.peek 3).rawName ∈ ["len", "length", "count"] := by
        decide +kernel
      exact ⟨head, line, content ▸ Token.lexeme_of_name kind, other, converted, conversion⟩
    rw [law.size asks found, law.agree (by decide)]
    decide +kernel
  case count =>
    have asks : AsksCount (scan "get count of \x7bL\x7d & set as \x7bR\x7d") 0 "L" 5 := by
      have ⟨head, line, counts, particle, named⟩ :
          let toks := scan "get count of \x7bL\x7d & set as \x7bR\x7d"
          (toks.peek 0).kind = .word .get ∧ toks.onLine 0 1 = true ∧
            (toks.peek 1).isName "count" = true ∧ (toks.peek 2).isWord .of = true ∧
            toks.bracedName 3 = ("L", 5) := by
        decide +kernel
      exact ⟨head, line, counts, particle, named⟩
    rw [law.count asks found]
    decide +kernel

/-- A text without a comma is seen with the backslash of its escape. -/
theorem quotedText_showsEscape :
    Value.looseItems (Json.writeStrings ["a\"b"]) = ["a\\\"b"] ∧
      ∀ item ∈ ["a\"b"], ',' ∉ item.toList := by
  decide +kernel

end BigScript
