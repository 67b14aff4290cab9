import BigScript.Proofs.Interpolation
import BigScript.Proofs.Lexemes
import BigScript.Proofs.Selection
import BigScript.Proofs.SourceNesting

/-!
# Quoting a text

Between its quotes a text is read twice.  The scanner replaces the escapes that it knows and leaves the
others as they are written; what comes out of it is searched for references when the statement is
carried out, and there `\$` stands for a dollar.  A backslash may mean something to either of them.

A text is quoted by escaping the characters that mean something to the scanner in the way it knows, and
every dollar by a backslash.  The scanner does not know that escape, so it is what is left for the
second reading.  The two readings together give back the text that was quoted, whatever the variables
are.
-/

namespace BigScript

namespace Machine

/-- A walk is over at the end of its stream. -/
theorem Going.exec_finish {m : Machine} (going : m.Going) {toks : TokenStream} {i : Nat}
    (finished : (toks.peek i).isFinish = true) (steps : Nat) : exec (steps + 1) toks i m = m := by
  have arrives := arrives toks i m
  rw [exec_succ]
  generalize m.arrive toks i = arrival at arrives
  cases arrives with
  | still => rfl
  | cancelled _ called =>
      rw [cancellation?, going.uncancelled, going.untimed] at called
      cases called
  | bug _ pending =>
      rw [going.fine] at pending
      cases pending
  | begins _ _ _ unfinished =>
      rw [finished] at unfinished
      cases unfinished

end Machine

namespace Quotation

/-- How a character is written between quotes. -/
def written : Char → List Char
  | '\\' => ['\\', '\\']
  | '"' => ['\\', '"']
  | '\n' => ['\\', 'n']
  | '\t' => ['\\', 't']
  | '\r' => ['\\', 'r']
  | '$' => ['\\', '$']
  | c => [c]

/-- What the scanner makes of it: only a dollar is still escaped. -/
def scanned (c : Char) : List Char := if c = '$' then ['\\', '$'] else [c]

/-- The text that the scanner finds between the quotes. -/
def content (text : String) : String := String.ofList (text.toList.flatMap scanned)

/-- A script of one line that prints a text. -/
def script (text : String) : String :=
  "print \"" ++ String.ofList (text.toList.flatMap written) ++ "\""

/-! ## The first reading -/

theorem readText_plain {c : Char} (noQuote : c ≠ '"') (noEscape : c ≠ '\\') (cs : List Char) :
    Scan.readText (c :: cs) = (c :: (Scan.readText cs).1, (Scan.readText cs).2 + 1) := by
  rw [Scan.readText.eq_def]
  split <;> simp_all

/-- A character that is written between quotes is read as what the scanner makes of it. -/
theorem readText_written (c : Char) (cs : List Char) :
    Scan.readText (written c ++ cs) =
      (scanned c ++ (Scan.readText cs).1, (Scan.readText cs).2 + (written c).length) := by
  fun_cases written c with
  | case1 | case2 | case3 | case4 | case5 | case6 => rfl
  | case7 c noEscape noQuote _ _ _ noDollar =>
      rw [scanned, if_neg noDollar]
      exact readText_plain noQuote noEscape cs

/-- The closing quote ends the text, and no other character does. -/
theorem readText_quoted (text rest : List Char) :
    Scan.readText (text.flatMap written ++ '"' :: rest) =
      (text.flatMap scanned, (text.flatMap written).length + 1) := by
  induction text with
  | nil => rfl
  | cons c text ih =>
      rw [List.flatMap_cons, List.append_assoc, readText_written, ih, List.flatMap_cons,
        List.length_append]
      exact congrArg _ (by omega)

/-! ## The second reading -/

/-- The segment that a character is read as. -/
def segment (c : Char) : Segment := if c = '$' then .escaped else .plain c

/-- What the scanner makes of a text does not begin with a dollar. -/
theorem head_scanned (text : List Char) : (text.flatMap scanned).head? ≠ some '$' := by
  cases text with
  | nil => nofun
  | cons c text =>
      rw [List.flatMap_cons, scanned]
      split
      · simp
      · simpa

theorem split_scanned (text : List Char) : Segment.split (text.flatMap scanned) = text.map segment := by
  induction text with
  | nil => rw [List.flatMap_nil, Segment.split]; rfl
  | cons c text ih =>
      rw [List.flatMap_cons, List.map_cons, scanned, segment]
      split
      case isTrue =>
        rw [List.cons_append, Segment.split_cons]
        exact congrArg _ ih
      case isFalse plain =>
        rw [List.singleton_append, Segment.split_cons,
          Segment.first_other (fun escape => head_scanned text escape.2) plain]
        exact congrArg _ ih

theorem references_content (text : String) :
    references (content text) = [] := by
  rw [references, content, String.toList_ofList, split_scanned, List.filterMap_map,
    List.filterMap_eq_nil_iff]
  intro c _
  rw [Function.comp_apply, segment]
  split <;> rfl

theorem interpolate_content (value? : String → Option String) (text : String) :
    interpolate value? (content text) = text := by
  have back : ∀ c, (Segment.resolve value? (segment c)).toList = [c] := by
    intro c
    rw [segment]
    split
    case isTrue dollar => rw [dollar, Segment.resolve]; rfl
    case isFalse => exact String.toList_singleton c
  rw [← String.toList_inj, toList_interpolate, content, String.toList_ofList, split_scanned,
    List.flatMap_map]
  simp only [back, List.flatMap_singleton']

/-! ## The script -/

theorem readPiece_print (rest : List Char) :
    Scan.readPiece 'p' ("rint".toList ++ ' ' :: rest) = ⟨.word .print, 4, 0⟩ := by
  have word : Scan.readWord ['p'] ("rint".toList ++ ' ' :: rest) = "print".toList :=
    Scan.readWord_until (by decide +kernel) (by decide +kernel) ['p'] rest
  have letter : Text.isLetter 'p' = true := by decide +kernel
  have known : Keyword.ofText? "print" = some .print := by decide +kernel
  have read : Scan.readName 'p' ("rint".toList ++ ' ' :: rest) = ⟨.word .print, 4, 0⟩ := by
    rw [Scan.readName, word, String.ofList_toList, known]
    rfl
  rw [Scan.readPiece, letter, read]
  rfl

theorem readPiece_quoted (text : List Char) :
    Scan.readPiece '"' (text.flatMap written ++ ['"']) =
      ⟨.text (String.ofList (text.flatMap scanned)), (text.flatMap written).length + 1, 0⟩ := by
  rw [Scan.readPiece, readText_quoted]
  rfl

theorem script_toList (text : String) : (script text).toList =
    'p' :: ("rint".toList ++ ' ' :: '"' :: (text.toList.flatMap written ++ ['"'])) := by
  have inner : (String.ofList (text.toList.flatMap written)).toList = text.toList.flatMap written :=
    String.toList_ofList
  rw [script, String.toList_append, String.toList_append, inner]
  rfl

/-- A line that prints one text, with the end of the script behind it. -/
structure Line (verb shown last : Token) (content : String) : Prop where
  prints : verb.lexeme = .word .print
  shows : shown.lexeme = .text content
  ends : last.lexeme = .finish
  stays : shown.line = verb.line

/-- The script consists of the word, the text and the end, and the first two stand on one line. -/
theorem scan_script (text : String) : ∃ verb shown last : Token,
    scan (script text) = #[verb, shown, last] ∧
      Line verb shown last (content text) := by
  have read := readPiece_quoted text.toList
  have left : (text.toList.flatMap written ++ ['"']).drop
      ((text.toList.flatMap written).length + 1) = [] := by
    simp
  have toks := script_toList text
  rw [scan, toks, Scan.tokens_piece (by decide) (by decide) (readPiece_print _)]
  dsimp only
  rw [show ("rint".toList ++ ' ' :: '"' :: (text.toList.flatMap written ++ ['"'])).drop 4 =
    ' ' :: '"' :: (text.toList.flatMap written ++ ['"']) from rfl, Scan.tokens_gap (by decide),
    Scan.tokens_piece (by decide) (by decide) read, left, Scan.tokens]
  exact ⟨_, _, _, rfl, rfl, rfl, rfl, rfl⟩

/-! ## The run -/

open Statement Config

namespace Line

variable {verb shown last : Token} {content : String}

theorem printsText (line : Line verb shown last content) : PrintsText #[verb, shown, last] 0 where
  print := congrArg Lexeme.kind line.prints
  kind := congrArg Lexeme.kind line.shows
  line := line.stays
  ends := by
    have first : TokenStream.peek #[verb, shown, last] 0 = verb := rfl
    have unfinished : shown.isFinish = false := by
      rw [Token.isFinish, Token.kind, line.shows]
      rfl
    have finished : last.isFinish = true := by
      rw [Token.isFinish, Token.kind, line.ends]
      rfl
    unfold TokenStream.lineEnd TokenStream.lineRun TokenStream.lineRun
    simp [first, unfinished, finished, line.stays]

/-- There is no loop in it that could be closed. -/
theorem healed (line : Line verb shown last content) :
    heal #[verb, shown, last] = #[verb, shown, last] := by
  simp [heal, Heal.healFrom, Heal.openAfter, Heal.closedBy, Token.isFinish, Token.isWord, Token.kind,
    line.prints, line.shows, line.ends, Lexeme.kind]

/-- There are no names in it. -/
theorem unreserved (line : Line verb shown last content) :
    offence? #[verb, shown, last] = none := by
  simp [offence?, ReservedName.usedBy?, Token.kind, line.prints, line.shows, line.ends, Lexeme.kind]

/-- The line is carried out, and the run is over. -/
theorem runAll (line : Line verb shown last content) {m : Machine} (going : m.Going) :
    m.runAll #[verb, shown, last] =
      (m.begun verb).print ((m.begun verb).interpolate content ++ "\n") := by
  have prints := line.printsText
  have steps : Machine.patience = Machine.patience - 2 + 1 + 1 := by decide
  have unfinished : (TokenStream.peek #[verb, shown, last] 0).isFinish = false := by
    rw [Token.isFinish, prints.print]
    rfl
  have alone : nested? #[verb, shown, last] 0 (m.begun verb) = none := by
    unfold nested?
    rw [prints.print]
  have shows : (TokenStream.peek #[verb, shown, last] (0 + 1)).content = content := by
    show shown.content = content
    rw [Token.content, line.shows]
  have effect := prints.effect (m.begun verb)
  rw [shows] at effect
  have after : ((m.begun verb).print ((m.begun verb).interpolate content ++ "\n")).Going :=
    { (going.begun verb) with }
  have finished : (TokenStream.peek #[verb, shown, last] 2).isFinish = true := by
    show last.isFinish = true
    rw [Token.isFinish, Token.kind, line.ends]
    rfl
  unfold Machine.runAll Machine.runTokens
  rw [steps, Machine.exec_succ, going.arrive unfinished]
  dsimp only
  rw [show TokenStream.peek #[verb, shown, last] 0 = verb from rfl, alone]
  dsimp only
  rw [effect]
  dsimp only
  rw [after.exec_finish finished, Machine.endInvocation, after.fine, Option.isSome_none,
    Bool.and_false]
  rfl

end Line

/-- The script is prepared as it is scanned, whether loops are closed in it or not. -/
theorem prepare_script (m : Machine) (text : String) : ∃ verb shown last : Token,
    m.prepare (script text) = (#[verb, shown, last], { m with lines := Text.split "\n" (script text) }) ∧
      Line verb shown last (content text) := by
  rcases scan_script text with ⟨verb, shown, last, scanned, line⟩
  refine ⟨verb, shown, last, ?_, line⟩
  rw [Machine.prepare, scanned, line.healed, ite_self]

/-- Running the script writes the text that was quoted. -/
theorem run_script {m : Machine} (going : m.Going) (text : String) :
    (m.runSource (script text)).1 = none ∧
      (m.runSource (script text)).2.output = m.output ++ text ++ "\n" := by
  rcases prepare_script m text with ⟨verb, shown, last, prepared, line⟩
  have ready : Machine.Going { m with lines := Text.split "\n" (script text) } := { going with }
  have running : m.halt = none := by
    have unstopped := going.unstopped
    simp only [Machine.isStopped, Bool.or_eq_false_iff, Option.isSome_eq_false_iff,
      Option.isNone_iff_eq_none] at unstopped
    exact unstopped.1.1.1
  rw [Machine.runSource, prepared]
  dsimp only
  rw [line.unreserved]
  dsimp only
  rw [line.runAll ready, Machine.begun_eq, Machine.interpolate, interpolate_content]
  refine ⟨running, ?_⟩
  show m.output ++ (text ++ "\n") = _
  rw [String.append_assoc]

end Quotation

/-! ## The law -/

open Quotation

/-- What becomes of a text that is quoted in a script which prints it. -/
structure QuotationLaw (m : Machine) (text : String) : Prop where
  /-- The script consists of the word and of one text, in which the dollars alone are still escaped. -/
  scanned : (scan (script text)).toList.map Token.lexeme =
    [.word .print, .text (content text), .finish]
  /-- That text refers to no name. -/
  unreferring : references (content text) = []
  /-- Whatever the values of names are, it becomes the text that was quoted. -/
  identity : ∀ value? : String → Option String,
    interpolate value? (content text) = text
  /-- The script comes to its end, -/
  succeeds : (m.runSource (script text)).1 = none
  /-- and it writes the text that was quoted, and ends the line. -/
  printed : (m.runSource (script text)).2.output = m.output ++ text ++ "\n"

/-- Every text can be quoted. -/
theorem quotation_law {m : Machine} (going : m.Going) (text : String) : QuotationLaw m text := by
  rcases scan_script text with ⟨verb, shown, last, scanned, line⟩
  have ran := run_script going text
  refine ⟨?_, references_content text, fun value? => interpolate_content value? text, ran.1, ran.2⟩
  rw [scanned]
  show [verb.lexeme, shown.lexeme, last.lexeme] = _
  rw [line.prints, line.shows, line.ends]

/-- A text with every character that means something between quotes, and a variable that it seems to
refer to. -/
theorem quotation_law_specials :
    (Machine.start { globals := .ofList [("Name", "Bob")] }).Going ∧
      QuotationLaw (.start { globals := .ofList [("Name", "Bob")] })
        "$Name \\$Name \\\"$\x7bName\x7d\"\n\t\r\\" := by
  have going : (Machine.start { globals := .ofList [("Name", "Bob")] }).Going :=
    ⟨rfl, rfl, rfl, rfl⟩
  exact ⟨going, quotation_law going _⟩

end BigScript
