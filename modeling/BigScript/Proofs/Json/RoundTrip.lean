import BigScript.Json.Basic
import BigScript.Proofs.Json.Document

/-!
# Documents survive being written

Every verb on lists and maps reads a document, changes it and writes it again, so what is lost on the
way would be lost a little more with each statement.  Nothing is: a legible document is read back from
its text, whatever follows the text, as long as that does not continue a number at its end.

The reader is given a number of steps that depends on the length of the text.  Twice the length of
what is written is enough at every place of it.
-/

namespace BigScript
namespace Json

/-! ## Strings -/

/-- The characters of a string as they are written between its quotes. -/
def written (cs : List Char) : List Char := cs.flatMap fun c => (writeChar c).toList

theorem writeString_toList (s : String) :
    (writeString s).toList = '"' :: (written s.toList ++ ['"']) := by
  have joined (cs : List Char) (text : String) :
      (cs.foldl (fun text c => text ++ writeChar c) text).toList = text.toList ++ written cs := by
    induction cs generalizing text with
    | nil => exact (List.append_nil _).symm
    | cons c cs ih =>
      rw [List.foldl_cons, ih, String.toList_append, List.append_assoc]
      rfl
  rw [writeString, String.toList_append, joined]
  rfl

/-- The code units that are escaped by their digits are read back. -/
theorem readUnit?_hexDigits {n : Nat} (escaped : n < 32 ∨ n = 0x2028 ∨ n = 0x2029) :
    ∃ a b c d, (Text.hexDigits 4 n).toList = [a, b, c, d] ∧ readUnit? [a, b, c, d] = some (n, []) := by
  have all : ∀ n ∈ List.range 32 ++ [0x2028, 0x2029],
      (Text.hexDigits 4 n).toList.length = 4 ∧
        readUnit? (Text.hexDigits 4 n).toList = some (n, []) := by decide +kernel
  have among : n ∈ List.range 32 ++ [0x2028, 0x2029] := by
    rw [List.mem_append, List.mem_range]
    simpa using escaped
  rcases all n among with ⟨four, read⟩
  rcases List.length_eq_four.mp four with ⟨a, b, c, d, same⟩
  rw [same] at read ⊢
  exact ⟨a, b, c, d, rfl, read⟩

/-- A code unit that is no half of a surrogate pair stands for itself, whatever follows it. -/
theorem unitChar_whole {n : Nat} (whole : isHighHalf n = false ∧ isLowHalf n = false)
    (next : Option Nat) : unitChar n next = (Char.ofNat n, false) := by
  unfold unitChar
  rw [whole.1, whole.2]
  rfl

theorem readString?_unit {a b c d : Char} {n : Nat} (unit : readUnit? [a, b, c, d] = some (n, []))
    (whole : isHighHalf n = false ∧ isLowHalf n = false) (read rest : List Char) :
    readString? read ('\\' :: 'u' :: a :: b :: c :: d :: rest) =
      readString? (Char.ofNat n :: read) rest := by
  rw [readString?, unit]
  dsimp only [Option.bind_eq_bind, Option.bind_some]
  split
  · rw [unitChar_whole whole]
    rfl
  · rw [unitChar_whole whole]

/-- A character that needs no escape stands for itself. -/
theorem readString?_plain {c : Char} (noQuote : c ≠ '"') (noEscape : c ≠ '\\')
    (printable : 32 ≤ c.toNat) (read rest : List Char) :
    readString? read (c :: rest) = readString? (c :: read) rest := by
  rw [readString?]
  · have control : ¬ c.toNat < 32 := Nat.not_lt.mpr printable
    have escape : (c == '\\') = false := beq_eq_false_iff_ne.mpr noEscape
    rw [escape, decide_eq_false control]
    rfl
  · exact noQuote
  · rintro _ _ _ _ _ rfl
    exact fun _ => noEscape rfl
  · exact fun _ _ same => absurd same noEscape

/-- A written character is read back. -/
theorem readString?_writeChar (c : Char) (read rest : List Char) :
    readString? read ((writeChar c).toList ++ rest) = readString? (c :: read) rest := by
  unfold writeChar
  split
  · rfl
  · rfl
  · rfl
  · rfl
  · rfl
  · rfl
  · rfl
  · rename_i noQuote noEscape _ _ _ _ _
    split
    · rename_i escaped
      simp only [Bool.or_eq_true, decide_eq_true_eq, beq_iff_eq] at escaped
      rcases readUnit?_hexDigits (or_assoc.mp escaped) with ⟨a, b, d, e, digits, unit⟩
      have whole : isHighHalf c.toNat = false ∧ isLowHalf c.toNat = false := by
        rw [isHighHalf, isLowHalf]
        simp only [Bool.and_eq_false_iff, decide_eq_false_iff_not]
        omega
      have same : ("\\u" ++ Text.hexDigits 4 c.toNat).toList ++ rest =
          '\\' :: 'u' :: a :: b :: d :: e :: rest := by
        rw [String.toList_append, digits]
        rfl
      rw [same, readString?_unit unit whole, Char.ofNat_toNat]
    · rename_i plain
      simp only [Bool.or_eq_true, decide_eq_true_eq, beq_iff_eq, not_or] at plain
      have same : (String.singleton c).toList ++ rest = c :: rest := by
        rw [String.toList_singleton]
        rfl
      rw [same, readString?_plain noQuote noEscape (Nat.le_of_not_lt plain.1.1)]

/-- What is written of a string is read back up to the closing quote. -/
theorem readString?_written (cs read rest : List Char) :
    readString? read (written cs ++ '"' :: rest) = some (read.reverse ++ cs, rest) := by
  induction cs generalizing read with
  | nil =>
    rw [List.append_nil]
    rfl
  | cons c cs ih =>
    have split : written (c :: cs) ++ '"' :: rest =
        (writeChar c).toList ++ (written cs ++ '"' :: rest) := by
      rw [← List.append_assoc]
      rfl
    rw [split, readString?_writeChar, ih, List.reverse_cons, List.append_assoc]
    rfl

theorem readString?_writeString (s : String) (rest : List Char) :
    (writeString s).toList ++ rest = '"' :: (written s.toList ++ '"' :: rest) ∧
      readString? [] (written s.toList ++ '"' :: rest) = some (s.toList, rest) := by
  refine ⟨?_, readString?_written s.toList [] rest⟩
  rw [writeString_toList, List.cons_append, List.append_assoc]
  rfl

/-! ## Places at which reading begins -/

theorem skipBlanks_cons {c : Char} (visible : isBlank c = false) (cs : List Char) :
    skipBlanks (c :: cs) = c :: cs := by
  rw [skipBlanks, List.dropWhile_cons, visible]
  rfl

theorem isBlank_of_isDigit {c : Char} (digit : isDigit c = true) : isBlank c = false := by
  cases blank : isBlank c with
  | false => rfl
  | true =>
    simp only [isBlank, Bool.or_eq_true, beq_iff_eq] at blank
    rcases blank with ((rfl | rfl) | rfl) | rfl <;> cases digit

/-- The text of a document begins with neither a blank nor the end of an array. -/
theorem Legible.head {depth : Nat} {document : Json} (legible : Legible depth document) :
    ∃ c cs, (write document).toList = c :: cs ∧ isBlank c = false ∧ c ≠ ']' := by
  cases legible with
  | null => exact ⟨'n', _, rfl, rfl, by decide⟩
  | bool depth value =>
    cases value
    · exact ⟨'f', _, rfl, rfl, by decide⟩
    · exact ⟨'t', _, rfl, rfl, by decide⟩
  | number depth isNumber =>
    rcases isNumber.head with ⟨c, cs, same, rfl | digit⟩
    · exact ⟨'-', cs, same, rfl, by decide⟩
    · refine ⟨c, cs, same, isBlank_of_isDigit digit, ?_⟩
      rintro rfl
      cases digit
  | string depth value =>
    rw [write, writeString_toList]
    exact ⟨'"', _, rfl, rfl, by decide⟩
  | array room inner =>
    rw [write, String.toList_append, String.toList_append]
    exact ⟨'[', _, rfl, rfl, by decide⟩
  | object room inner =>
    rw [write, String.toList_append, String.toList_append]
    exact ⟨'\x7b', _, rfl, rfl, by decide⟩

/-! ## Documents -/

/-- Whether a document that stands at a depth is read back from its text. -/
def ReadsBack (depth : Nat) (document : Json) : Prop :=
  ∀ steps rest, 2 * (write document).toList.length ≤ steps → Ends rest →
    readValue? steps depth ((write document).toList ++ rest) = some (document, rest)

/-- A number that is read is a document. -/
theorem readValue?_number {number rest : List Char} (isNumber : IsNumber number)
    (read : readNumber? (number ++ rest) = some (number, rest)) (steps depth : Nat) :
    readValue? (steps + 1) depth (number ++ rest) = some (.number (String.ofList number), rest) := by
  rcases isNumber.head with ⟨c, cs, rfl, first⟩
  have visible : isBlank c = false := by
    rcases first with rfl | digit
    · rfl
    · exact isBlank_of_isDigit digit
  have other {c' : Char} {cs' : List Char} (is : c :: (cs ++ rest) = c' :: cs')
      (no : isDigit c' = false) (noSign : c' ≠ '-') : False := by
    cases is
    rcases first with rfl | digit
    · exact noSign rfl
    · rw [no] at digit
      cases digit
  rw [readValue?, List.cons_append, skipBlanks_cons visible]
  split
  case h_7 =>
    rw [List.cons_append] at read
    rw [read]
    rfl
  all_goals
    rename_i is
    exact (other is rfl (by decide)).elim

/-- A string that is read is a document. -/
theorem readValue?_string {cs text rest : List Char} (read : readString? [] cs = some (text, rest))
    (steps depth : Nat) :
    readValue? (steps + 1) depth ('"' :: cs) = some (.string (String.ofList text), rest) := by
  rw [readValue?, skipBlanks_cons rfl]
  change Option.map _ (readString? [] cs) = _
  rw [read]
  rfl

theorem readsBack_number (depth : Nat) {written : String} (isNumber : IsNumber written.toList) :
    ReadsBack depth (.number written) := by
  intro steps rest enough ends
  rw [write] at enough ⊢
  rcases isNumber.head with ⟨c, cs, same, -⟩
  rw [same] at enough
  cases steps with
  | zero => cases enough
  | succ steps =>
    rw [readValue?_number isNumber (isNumber.read ends), String.ofList_toList]

theorem readsBack_string (depth : Nat) (value : String) : ReadsBack depth (.string value) := by
  intro steps rest enough ends
  rcases readString?_writeString value rest with ⟨same, read⟩
  rw [write] at enough ⊢
  cases steps with
  | zero =>
    rw [writeString_toList] at enough
    cases enough
  | succ steps => rw [same, readValue?_string read, String.ofList_toList]

theorem ends_of_symbol {c : Char} (apart : continues c = false) (rest : List Char) :
    Ends (c :: rest) := by
  rintro _ ⟨⟩
  exact apart

/-- The items of an array are read back, up to the end of the array. -/
theorem readItems?_written {depth : Nat} {first : Json} {items : List Json}
    (back : ∀ item ∈ first :: items, ReadsBack depth item) (done : List Json) (rest : List Char)
    (steps : Nat) (enough : 2 * (Text.join "," (writeItems (first :: items))).toList.length < steps) :
    readItems? steps depth done ((Text.join "," (writeItems (first :: items))).toList ++ ']' :: rest) =
      some (.array (done.reverse ++ first :: items), rest) := by
  have firstBack := back first List.mem_cons_self
  induction items generalizing first done steps with
  | nil =>
    cases steps with
    | zero => cases enough
    | succ steps =>
      change 2 * (write first).toList.length < steps + 1 at enough
      change readItems? (steps + 1) depth done ((write first).toList ++ ']' :: rest) = _
      rw [readItems?, firstBack steps _ (by omega) (ends_of_symbol rfl rest)]
      dsimp only [Option.bind_eq_bind, Option.bind_some]
      rw [skipBlanks_cons rfl]
      change some (Json.array (first :: done).reverse, rest) = _
      rw [List.reverse_cons]
  | cons next more ih =>
    cases steps with
    | zero => cases enough
    | succ steps =>
      have split : (Text.join "," (writeItems (first :: next :: more))).toList =
          (write first).toList ++ ',' :: (Text.join "," (writeItems (next :: more))).toList := by
        change (write first ++ "," ++ Text.join "," (writeItems (next :: more))).toList = _
        rw [String.toList_append, String.toList_append, List.append_assoc]
        rfl
      rw [split, List.length_append, List.length_cons] at enough
      rw [split, List.append_assoc, List.cons_append, readItems?,
        firstBack steps _ (by omega) (ends_of_symbol rfl _)]
      dsimp only [Option.bind_eq_bind, Option.bind_some]
      rw [skipBlanks_cons rfl]
      have others : ∀ item ∈ next :: more, ReadsBack depth item :=
        fun item member => back item (List.mem_cons_of_mem _ member)
      have further := ih others (first :: done) steps (by omega)
        (others next List.mem_cons_self)
      rw [List.reverse_cons, List.append_assoc] at further
      exact further

/-- One field is read back; what is behind it decides how the object goes on. -/
theorem readFields?_field {depth : Nat} {name : String} {value : Json} (back : ReadsBack depth value)
    (done : List (String × Json)) {steps : Nat} (enough : 2 * (write value).toList.length ≤ steps)
    {c : Char} (apart : continues c = false) (rest : List Char) :
    readFields? (steps + 1) depth done ((writeString name ++ ":" ++ write value).toList ++ c :: rest) =
      match skipBlanks (c :: rest) with
      | ',' :: rest => readFields? steps depth ((name, value) :: done) rest
      | '\x7d' :: rest => some (.object ((name, value) :: done).reverse, rest)
      | _ => none := by
  have text : (writeString name ++ ":" ++ write value).toList ++ c :: rest =
      (writeString name).toList ++ (':' :: ((write value).toList ++ c :: rest)) := by
    rw [String.toList_append, String.toList_append, List.append_assoc, List.append_assoc]
    rfl
  rcases readString?_writeString name (':' :: ((write value).toList ++ c :: rest)) with ⟨same, read⟩
  rw [text, same, readFields?, skipBlanks_cons rfl]
  change (readString? [] (written name.toList ++ '"' :: ':' :: _) >>= _) = _
  rw [read]
  dsimp only [Option.bind_eq_bind, Option.bind_some]
  rw [skipBlanks_cons rfl, String.ofList_toList]
  change (readValue? steps depth ((write value).toList ++ c :: rest) >>= _) = _
  rw [back steps _ enough (ends_of_symbol apart rest)]
  rfl

theorem writeField_length (name : String) (value : Json) :
    (writeString name ++ ":" ++ write value).toList.length =
      (writeString name).toList.length + 1 + (write value).toList.length := by
  rw [String.toList_append, String.toList_append, List.length_append, List.length_append]
  rfl

/-- The fields of an object are read back, up to the end of the object. -/
theorem readFields?_written {depth : Nat} {first : String × Json} {fields : List (String × Json)}
    (back : ∀ field ∈ first :: fields, ReadsBack depth field.2) (done : List (String × Json))
    (rest : List Char) (steps : Nat)
    (enough : 2 * (Text.join "," (writeFields (first :: fields))).toList.length < steps) :
    readFields? steps depth done
        ((Text.join "," (writeFields (first :: fields))).toList ++ '\x7d' :: rest) =
      some (.object (done.reverse ++ first :: fields), rest) := by
  induction fields generalizing first done steps with
  | nil =>
    rcases first with ⟨name, value⟩
    have firstBack : ReadsBack depth value := back (name, value) List.mem_cons_self
    cases steps with
    | zero => cases enough
    | succ steps =>
      change 2 * (writeString name ++ ":" ++ write value).toList.length < steps + 1 at enough
      change readFields? (steps + 1) depth done
        ((writeString name ++ ":" ++ write value).toList ++ '\x7d' :: rest) = _
      rw [writeField_length] at enough
      rw [readFields?_field firstBack done (by omega) rfl rest, skipBlanks_cons rfl]
      change some (Json.object ((name, value) :: done).reverse, rest) = _
      rw [List.reverse_cons]
  | cons next more ih =>
    rcases first with ⟨name, value⟩
    have firstBack : ReadsBack depth value := back (name, value) List.mem_cons_self
    cases steps with
    | zero => cases enough
    | succ steps =>
      have split : (Text.join "," (writeFields ((name, value) :: next :: more))).toList =
          (writeString name ++ ":" ++ write value).toList ++
            ',' :: (Text.join "," (writeFields (next :: more))).toList := by
        change (writeString name ++ ":" ++ write value ++ "," ++
          Text.join "," (writeFields (next :: more))).toList = _
        rw [String.toList_append, String.toList_append, List.append_assoc]
        rfl
      rw [split, List.length_append, List.length_cons, writeField_length] at enough
      rw [split, List.append_assoc, List.cons_append,
        readFields?_field firstBack done (by omega) rfl, skipBlanks_cons rfl]
      have further := ih (fun field member => back field (List.mem_cons_of_mem _ member))
        ((name, value) :: done) steps (by omega)
      rw [List.reverse_cons, List.append_assoc] at further
      exact further

/-- Joined texts begin with the first of them. -/
theorem join_toList (separator first : String) (rest : List String) :
    ∃ more, (Text.join separator (first :: rest)).toList = first.toList ++ more := by
  cases rest with
  | nil => exact ⟨[], (List.append_nil _).symm⟩
  | cons next rest =>
    refine ⟨separator.toList ++ (Text.join separator (next :: rest)).toList, ?_⟩
    rw [← List.append_assoc, ← String.toList_append, ← String.toList_append]
    rfl

theorem enclosed (left right : Char) (inside : String) (rest : List Char) :
    (String.singleton left ++ inside ++ String.singleton right).toList ++ rest =
      left :: (inside.toList ++ right :: rest) := by
  rw [String.toList_append, String.toList_append, String.toList_singleton, String.toList_singleton,
    List.append_assoc, List.append_assoc]
  rfl

theorem length_of_enclosed {whole inside rest : List Char} {left right : Char}
    (text : whole ++ rest = left :: (inside ++ right :: rest)) :
    whole.length = inside.length + 2 := by
  have lengths := congrArg List.length text
  rw [List.length_append, List.length_cons, List.length_append, List.length_cons] at lengths
  omega

/-- An array is read back if its items are. -/
theorem readsBack_array {depth : Nat} {items : List Json} (room : depth < deepest)
    (legible : ∀ item ∈ items, Legible (depth + 1) item)
    (back : ∀ item ∈ items, ReadsBack (depth + 1) item) : ReadsBack depth (.array items) := by
  intro steps rest enough _
  have text : (write (.array items)).toList ++ rest =
      '[' :: ((Text.join "," (writeItems items)).toList ++ ']' :: rest) := by
    rw [write]
    exact enclosed '[' ']' _ rest
  rw [length_of_enclosed text] at enough
  rcases Nat.exists_eq_add_of_le' (Nat.le_trans (Nat.le_add_left 2 _) enough) with ⟨more, rfl⟩
  rw [text, readValue?, skipBlanks_cons rfl]
  change (if depth < deepest then readArray? (more + 1) (depth + 1) _ else none) = _
  rw [if_pos room, readArray?]
  cases items with
  | nil =>
    have closes : (Text.join "," (writeItems [])).toList ++ ']' :: rest = ']' :: rest := rfl
    rw [closes, skipBlanks_cons rfl]
    rfl
  | cons first items =>
    rcases (legible first List.mem_cons_self).head with ⟨c, cs, same, visible, other⟩
    rcases join_toList "," (write first) (writeItems items) with ⟨further, joined⟩
    have inner := readItems?_written back [] rest more (by omega)
    have begins : (Text.join "," (writeItems (first :: items))).toList ++ ']' :: rest =
        c :: (cs ++ further ++ ']' :: rest) := by
      rw [writeItems, joined, same]
      rfl
    rw [begins] at inner ⊢
    rw [skipBlanks_cons visible]
    split
    · rename_i ends
      cases ends
      exact absurd rfl other
    · exact inner

/-- An object is read back if the values of its fields are. -/
theorem readsBack_object {depth : Nat} {fields : List (String × Json)} (room : depth < deepest)
    (back : ∀ field ∈ fields, ReadsBack (depth + 1) field.2) : ReadsBack depth (.object fields) := by
  intro steps rest enough _
  have text : (write (.object fields)).toList ++ rest =
      '\x7b' :: ((Text.join "," (writeFields fields)).toList ++ '\x7d' :: rest) := by
    rw [write]
    exact enclosed '\x7b' '\x7d' _ rest
  rw [length_of_enclosed text] at enough
  rcases Nat.exists_eq_add_of_le' (Nat.le_trans (Nat.le_add_left 2 _) enough) with ⟨more, rfl⟩
  rw [text, readValue?, skipBlanks_cons rfl]
  change (if depth < deepest then readObject? (more + 1) (depth + 1) _ else none) = _
  rw [if_pos room, readObject?]
  cases fields with
  | nil =>
    have closes : (Text.join "," (writeFields [])).toList ++ '\x7d' :: rest = '\x7d' :: rest := rfl
    rw [closes, skipBlanks_cons rfl]
    rfl
  | cons first fields =>
    rcases first with ⟨name, value⟩
    rcases join_toList "," (writeString name ++ ":" ++ write value) (writeFields fields) with
      ⟨further, joined⟩
    have inner := readFields?_written back [] rest more (by omega)
    have begins : ∃ cs, (Text.join "," (writeFields ((name, value) :: fields))).toList ++
        '\x7d' :: rest = '"' :: cs := by
      rw [writeFields, joined, String.toList_append, String.toList_append, writeString_toList]
      exact ⟨_, rfl⟩
    rcases begins with ⟨cs, begins⟩
    rw [begins] at inner ⊢
    rw [skipBlanks_cons rfl]
    exact inner

/-- A legible document is read back from its text. -/
theorem Legible.readsBack {depth : Nat} {document : Json} (legible : Legible depth document) :
    ReadsBack depth document := by
  induction legible with
  | null depth =>
    intro steps rest enough _
    cases steps with
    | zero => cases enough
    | succ steps =>
      change readValue? (steps + 1) depth ('n' :: 'u' :: 'l' :: 'l' :: rest) = _
      rw [readValue?, skipBlanks_cons rfl]
      rfl
  | bool depth value =>
    intro steps rest enough _
    cases steps with
    | zero => cases value <;> cases enough
    | succ steps =>
      cases value with
      | false =>
        change readValue? (steps + 1) depth ('f' :: 'a' :: 'l' :: 's' :: 'e' :: rest) = _
        rw [readValue?, skipBlanks_cons rfl]
        rfl
      | true =>
        change readValue? (steps + 1) depth ('t' :: 'r' :: 'u' :: 'e' :: rest) = _
        rw [readValue?, skipBlanks_cons rfl]
        rfl
  | number depth isNumber => exact readsBack_number depth isNumber
  | string depth value => exact readsBack_string depth value
  | array room inner ih => exact readsBack_array room inner ih
  | object room inner ih => exact readsBack_object room ih

/-! ## What variables hold -/

/-- A document as a variable holds it after it has been read and put in order. -/
structure Settled (document : Json) : Prop where
  legible : Legible 0 document
  inOrder : InOrder document

theorem settled_of_read? {raw : String} {document : Json} (read : read? raw = some document) :
    Settled document := by
  rcases Option.map_eq_some_iff.mp read with ⟨source, found, rfl⟩
  rcases Option.map_eq_some_iff.mp found with ⟨⟨_, rest⟩, parsed, rfl⟩
  rcases ((readsLegible _).value parsed).ordered with ⟨legible, inOrder⟩
  exact ⟨legible, inOrder⟩

/-- The text of a settled document is read to its end, and to the same document. -/
theorem Settled.readPrefix? {document : Json} (settled : Settled document) :
    readPrefix? (write document) = some (document, []) := by
  have back := settled.legible.readsBack (2 * (write document).toList.length + 2) []
    (Nat.le_add_right _ _) (by rintro _ ⟨⟩)
  rw [List.append_nil] at back
  exact back

theorem Settled.read? {document : Json} (settled : Settled document) :
    read? (write document) = some document := by
  rw [Json.read?, readWritten?, settled.readPrefix?]
  exact congrArg some settled.inOrder.ordered

theorem Settled.readArrayText? {items : List Json} (settled : Settled (.array items)) :
    readArrayText? (write (.array items)) = some items := by
  rw [Json.readArrayText?, settled.read?]

theorem Settled.readObjectText? {fields : List (String × Json)} (settled : Settled (.object fields)) :
    readObjectText? (write (.object fields)) = some fields := by
  rw [Json.readObjectText?, settled.read?]

theorem settled_of_readArrayText? {raw : String} {items : List Json}
    (read : readArrayText? raw = some items) : Settled (.array items) := by
  unfold readArrayText? at read
  split at read
  · rename_i found
    cases read
    exact settled_of_read? found
  · cases read

theorem settled_of_readObjectText? {raw : String} {fields : List (String × Json)}
    (read : readObjectText? raw = some fields) : Settled (.object fields) := by
  unfold readObjectText? at read
  split at read
  · rename_i found
    cases read
    exact settled_of_read? found
  · cases read

/-- A list of strings is settled, and so is a list that has besides them only items of a settled
list. -/
theorem settled_of_items {items edited : List Json} (settled : Settled (.array items))
    (among : ∀ item ∈ edited, item ∈ items ∨ ∃ text, item = .string text) :
    Settled (.array edited) := by
  rcases settled with ⟨_ | _ | _ | _ | ⟨room, legible⟩, _ | _ | _ | _ | inOrder⟩
  refine ⟨.array room fun item member => ?_, .array fun item member => ?_⟩
  · rcases among item member with there | ⟨text, rfl⟩
    · exact legible item there
    · exact .string _ text
  · rcases among item member with there | ⟨text, rfl⟩
    · exact inOrder item there
    · exact .string text

theorem settled_strings (items : List String) : Settled (.array (items.map .string)) := by
  have none : Settled (.array []) :=
    ⟨.array (by decide) fun _ member => absurd member List.not_mem_nil,
      .array fun _ member => absurd member List.not_mem_nil⟩
  refine settled_of_items none fun item member => .inr ?_
  rcases List.mem_map.mp member with ⟨text, -, same⟩
  exact ⟨text, same.symm⟩

/-- Fields that may stand in a settled map. -/
structure SettledFields (fields : List (String × Json)) : Prop where
  sorted : Sorted fields
  legible : ∀ field ∈ fields, Legible 1 field.2
  inOrder : ∀ field ∈ fields, InOrder field.2

theorem settledFields_iff {fields : List (String × Json)} :
    SettledFields fields ↔ Settled (.object fields) := by
  refine ⟨fun settled => ⟨.object (by decide) settled.legible, .object settled.sorted settled.inOrder⟩,
    fun settled => ?_⟩
  rcases settled with ⟨_ | _ | _ | _ | _ | ⟨-, legible⟩, _ | _ | _ | _ | _ | ⟨sorted, inOrder⟩⟩
  exact ⟨sorted, legible, inOrder⟩

theorem SettledFields.put {fields : List (String × Json)} (settled : SettledFields fields)
    (name : String) {value : Json} (legible : Legible 1 value) (inOrder : InOrder value) :
    SettledFields (putField name value fields) := by
  refine ⟨putField_sorted settled.sorted name value, fun field member => ?_, fun field member => ?_⟩
  · rcases mem_putField member with rfl | member
    · exact legible
    · exact settled.legible field member
  · rcases mem_putField member with rfl | member
    · exact inOrder
    · exact settled.inOrder field member

theorem SettledFields.drop {fields : List (String × Json)} (settled : SettledFields fields)
    (name : String) : SettledFields (dropField name fields) :=
  ⟨settled.sorted.filter _, fun field member => settled.legible field (List.mem_of_mem_filter member),
    fun field member => settled.inOrder field (List.mem_of_mem_filter member)⟩

theorem SettledFields.merge {fields others : List (String × Json)} (settled : SettledFields fields)
    (legible : ∀ field ∈ others, Legible 1 field.2) (inOrder : ∀ field ∈ others, InOrder field.2) :
    SettledFields (mergeFields fields others) := by
  induction others generalizing fields with
  | nil => exact settled
  | cons first rest ih =>
    rcases List.forall_mem_cons.mp legible with ⟨firstLegible, legible⟩
    rcases List.forall_mem_cons.mp inOrder with ⟨firstInOrder, inOrder⟩
    exact ih (settled.put first.1 firstLegible firstInOrder) legible inOrder

/-! ## The law -/

/-- A text after its document has been read and written once. -/
def rewritten? (raw : String) : Option String := (read? raw).map write

/-- What reading and writing keep. -/
structure EncodingLaw : Prop where
  /-- A document that is read of some text is read again from the text it is written as, and nothing
  of that text is left. -/
  back : ∀ raw document, read? raw = some document →
    readPrefix? (write document) = some (document, []) ∧ read? (write document) = some document
  /-- A text that has been rewritten once stays the same however often it is rewritten. -/
  stable : ∀ raw text, rewritten? raw = some text →
    ∀ times, (fun found : Option String => found.bind rewritten?)^[times] (some text) = some text
  /-- A list of strings is read back item by item. -/
  strings : ∀ items : List String, readArrayText? (writeStrings items) = some (items.map .string)
  /-- A list that was read and edited, with strings among its items, is read back as it was left. -/
  list : ∀ raw items, readArrayText? raw = some items → ∀ edited : List Json,
    (∀ item ∈ edited, item ∈ items ∨ ∃ text, item = .string text) →
      readArrayText? (write (.array edited)) = some edited
  /-- A map that was read is read back after a field was set to a string or dropped, and after the
  fields of another map that was read were put into it. -/
  map : ∀ raw fields, readObjectText? raw = some fields →
    (∀ name text, readObjectText? (write (.object (putField name (.string text) fields))) =
      some (putField name (.string text) fields)) ∧
    (∀ name, readObjectText? (write (.object (dropField name fields))) =
      some (dropField name fields)) ∧
    ∀ source others, readObjectText? source = some others →
      readObjectText? (write (.object (mergeFields fields others))) =
        some (mergeFields fields others)

theorem encoding_law : EncodingLaw where
  back _ _ read :=
    have settled := settled_of_read? read
    ⟨settled.readPrefix?, settled.read?⟩
  stable raw text once times := by
    rcases Option.map_eq_some_iff.mp once with ⟨document, read, rfl⟩
    refine Function.iterate_fixed ?_ times
    change (Json.read? (write document)).map write = some (write document)
    rw [(settled_of_read? read).read?]
    rfl
  strings items := (settled_strings items).readArrayText?
  list _ _ read _ among := (settled_of_items (settled_of_readArrayText? read) among).readArrayText?
  map _ fields read := by
    have settled : SettledFields fields := settledFields_iff.mpr (settled_of_readObjectText? read)
    refine ⟨fun name text => ?_, fun name => ?_, fun source others other => ?_⟩
    · exact (settledFields_iff.mp (settled.put name (.string 1 text) (.string text))).readObjectText?
    · exact (settledFields_iff.mp (settled.drop name)).readObjectText?
    · have further := settledFields_iff.mpr (settled_of_readObjectText? other)
      exact (settledFields_iff.mp (settled.merge further.legible further.inOrder)).readObjectText?

/-- A map with a key that stands twice, a line separator that is escaped and numbers of several
forms. -/
def loose : String :=
  " \x7b\"Size\" : 1.50, \"Name\":[\"a\\u2028b\", -0E+1], \"Size\":10e3\x7d  "

theorem encoding_law_loose :
    (∃ document, read? loose = some document ∧
      write document = "\x7b\"Name\":[\"a\\u2028b\",-0E+1],\"Size\":10e3\x7d" ∧
      readPrefix? (write document) = some (document, []) ∧
      read? (write document) = some document) ∧
    readArrayText? (writeStrings ["", "a,\"b\"", "\n\\é"]) =
      some [.string "", .string "a,\"b\"", .string "\n\\é"] := by
  have found : rewritten? loose = some "\x7b\"Name\":[\"a\\u2028b\",-0E+1],\"Size\":10e3\x7d" := by
    decide +kernel
  rcases Option.map_eq_some_iff.mp found with ⟨document, read, text⟩
  exact ⟨⟨document, read, text, encoding_law.back loose document read⟩, encoding_law.strings _⟩

end Json
end BigScript
