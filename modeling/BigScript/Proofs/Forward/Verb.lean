import BigScript.Proofs.Forward.Basic
import BigScript.Run

/-!
# Verbs do not step back

Each verb is walked through once, along its own choices, with what its readers answer.  A verb that
gives up answers with the end of its line, and one that hands results to a tail answers with the end
of the tail; neither stands before the verb.  `lookup_forward` sums this up for the table of verbs,
whatever runs the streams of `attach`.
-/

namespace BigScript
namespace Verb

open Operand Results Statement

variable (toks : TokenStream) (i : Nat)

/-- Behind an index an optional word is left out. -/
theorem le_behindWord {word : Bool} {last : Nat} :
    last + 1 ≤ if word then last + 2 else last + 1 := by
  split <;> omega

/-! ## Console and environment -/

theorem joinedValues_forward (steps j last : Nat) (text : String) (behind : last ≤ j) :
    ReadsFrom last (joinedValues toks i steps j last text) := by
  induction steps generalizing j last text with
  | zero => exact .pure (Nat.le_refl last)
  | succ steps ih =>
    refine .ite ((value_forward toks j).bind fun read further => ?_) (.pure (Nat.le_refl last))
    have ahead : last ≤ read.2 := Nat.le_trans behind further
    refine .ite ?_ (.pure ahead)
    exact (ih (read.2 + 2) read.2 (text ++ read.1) (Nat.le_add_right _ _)).mono fun _ later =>
      Nat.le_trans ahead later

theorem print_forward : Forward i (print toks i) := by
  unfold print
  dsimp only
  generalize ((toks.peek (i + 1)).isWord .update && toks.onLine i (i + 1)) = overwrites
  generalize chosen : (if overwrites then i + 1 else i) = first
  have ahead : i ≤ first := by
    rw [← chosen]
    split <;> omega
  refine (joinedValues_forward toks i _ (first + 1) first "" (Nat.le_succ _)).bind fun read later => ?_
  exact .andThen fun _ => .pure (Nat.le_trans ahead later)

theorem wait_forward : Forward i (wait toks i) := by
  refine .andThen fun m => ?_
  split
  · exact .pure (Nat.le_refl i)
  · refine .ite (.pure (Nat.le_refl i)) (.ite ?_ (.pure (Nat.le_succ i)))
    exact .andThen fun _ => .pure (Nat.le_add_right i 2)

theorem ask_forward : Forward i (ask toks i) := by
  have answers (last : Nat) (further : i ≤ last) : Forward i
      (do let line ← readLine; finish toks last [Text.trim line] : Act Nat) :=
    .andThen fun line => finish_forward toks further _
  refine .ite (.ite ?prompt ?silent) (abandon_forward toks i)
  case prompt => exact .andThen fun _ => answers (i + 2) (Nat.le_add_right i 2)
  case silent => exact answers (i + 1) (Nat.le_succ i)

theorem take_forward : Forward i (take toks i) :=
  .ite (.andThen fun _ => finish_forward toks (Nat.le_succ i) _) (abandon_forward toks i)

theorem reset_forward : Forward i (reset toks i) := by
  refine (text_forward toks (i + 1)).bind fun read further => .ite ?target ?query
  case target =>
    have name := toks.le_bracedName (read.2 + 2)
    have ahead : i ≤ (toks.bracedName (read.2 + 2)).2 := by omega
    exact .ite (.andThen fun _ => .pure ahead) (.pure ahead)
  case query => exact .andThen fun _ => finish_forward toks (Nat.le_of_succ_le further) _

theorem command_forward : Forward i (command toks i) :=
  .andThen fun _ => finish_forward toks (Nat.le_refl i) _

theorem attach_forward (run : Runner) : Forward i (attach run toks i) := by
  refine .ite (.ite (.pure (Nat.le_succ i)) (.andThen fun _ => ?_)) (.pure (Nat.le_refl i))
  split
  · exact .pure (Nat.le_succ i)
  · exact .andThen fun _ => .pure (Nat.le_succ i)

theorem reply_forward : Forward i (reply toks i) := by
  have further {last : Nat} (read : i + 2 ≤ last) : i ≤ last := by omega
  unfold reply
  dsimp only
  split
  · split
    · have placed (body : String) :
          ReadsFrom (i + 2) (Pure.pure (body, i + 2) : Act (String × Nat)) := .pure (Nat.le_refl _)
      exact .andThen fun m => (placed _).bind fun read ahead => .andThen fun _ =>
        .pure (further ahead)
    · exact (text_forward toks (i + 2)).bind fun read ahead => .andThen fun _ => .pure (further ahead)
  · exact .andThen fun _ => .andThen fun _ => .pure (further (Nat.le_refl _))
  · refine .ite (.andThen fun _ => .andThen fun _ => .pure (Nat.le_add_right i 4)) ?_
    exact abandon_forward toks i
  · exact (text_forward toks (i + 2)).bind fun read ahead => .andThen fun _ => .pure (further ahead)
  · exact abandon_forward toks i

/-! ## Files -/

theorem openFile_forward : Forward i (openFile toks i) := by
  refine (value_forward toks (i + 1)).bind fun read further => .ite (abandon_forward toks i) ?_
  refine .andThen fun m => ?_
  have ahead : i ≤ read.2 := Nat.le_of_succ_le further
  split
  · exact finish_forward toks ahead _
  · exact .andThen fun _ => finish_forward toks ahead _

theorem writeFile_forward (adding : Bool) : Forward i (writeFile adding toks i) := by
  refine (text_forward toks (i + 1)).bind fun content further => ?_
  refine (targetValue?_forward toks (content.2 + 1)).bind fun target reached => ?_
  split
  · exact abandon_forward toks i
  · rename_i name last
    have ahead : content.2 + 1 ≤ last := reached _ rfl
    have done : i ≤ last := by omega
    refine .andThen fun m => ?_
    dsimp only
    split <;> exact .andThen fun _ => .pure done

theorem create_forward : Forward i (create toks i) := by
  refine .ite ((text_forward toks (i + 2)).bind fun name further => ?_) (abandon_forward toks i)
  refine (targetValue?_forward toks (name.2 + 1)).bind fun target reached => ?_
  split
  · exact abandon_forward toks i
  · rename_i folder last
    have ahead : name.2 + 1 ≤ last := reached _ rfl
    have done : i ≤ last := by omega
    refine .andThen fun m => .ite ?_ ?_
    · split <;> exact .andThen fun _ => .pure done
    · split <;> exact .andThen fun _ => .pure done

theorem delete_forward : Forward i (delete toks i) := by
  refine .ite ((targetValue?_forward toks (i + 2)).bind fun target reached => ?_)
    (abandon_forward toks i)
  split
  · exact abandon_forward toks i
  · rename_i path last
    have ahead : i + 2 ≤ last := reached _ rfl
    have done : i ≤ last := by omega
    refine .andThen fun m => ?_
    split <;> exact .andThen fun _ => .pure done

theorem sourceAndTarget?_forward : OffersFrom i (·.2.2) (sourceAndTarget? toks i) := by
  refine .ite ((targetValue?_forward toks (i + 1)).bind fun source reached => ?_) (.pure nofun)
  split
  · exact .pure nofun
  · rename_i path last
    have ahead : i + 1 ≤ last := reached _ rfl
    refine .ite ((targetValue?_forward toks (last + 2)).bind fun target reachedTarget => ?_)
      (.pure nofun)
    split
    · exact .pure nofun
    · rename_i name end_
      have further : last + 2 ≤ end_ := reachedTarget _ rfl
      refine .pure fun read found => ?_
      cases found
      change i ≤ end_
      omega

theorem copyFile_forward : Forward i (copyFile toks i) := by
  refine (sourceAndTarget?_forward toks (i + 1)).bind fun paths reached => ?_
  split
  · exact abandon_forward toks i
  · rename_i source target last
    have ahead : i ≤ last := Nat.le_of_succ_le (reached _ rfl)
    refine .andThen fun m => .andThen fun _ => ?_
    split
    · exact .andThen fun _ => .pure ahead
    · exact .pure ahead

theorem moveFile_forward : Forward i (moveFile toks i) := by
  refine (sourceAndTarget?_forward toks (i + 1)).bind fun paths reached => ?_
  split
  · exact abandon_forward toks i
  · rename_i source target last
    have ahead : i ≤ last := Nat.le_of_succ_le (reached _ rfl)
    refine .andThen fun m => ?_
    split <;> exact .andThen fun _ => .pure ahead

/-! ## Texts and tasks -/

theorem split_forward : Forward i (split toks i) := by
  refine (value_forward toks (i + 1)).bind fun source further => .ite ?_ (abandon_forward toks i)
  refine (value_forward toks (source.2 + 2)).bind fun separator ahead => ?_
  exact finish_forward toks (by omega) _

theorem replace_forward : Forward i (replace toks i) := by
  refine (text_forward toks (i + 1)).bind fun old further => .ite ?_ (abandon_forward toks i)
  refine (text_forward toks (old.2 + 2)).bind fun new ahead => ?_
  refine (targetName?_forward toks (new.2 + 1)).bind fun target reached => ?_
  split
  · exact abandon_forward toks i
  · rename_i name last
    have stands : new.2 + 1 ≤ last := reached _ rfl
    have done : i ≤ last := by omega
    refine .ite (.andThen fun _ => .pure done) ?_
    split
    · exact .andThen fun _ => .andThen fun _ => .pure done
    · exact .andThen fun _ => .pure done

theorem findPattern_forward : Forward i (findPattern toks i) := by
  refine (value_forward toks (i + 1)).bind fun subject further => ?_
  refine (targetValue?_forward toks (subject.2 + 1)).bind fun target reached => ?_
  split
  · exact abandon_forward toks i
  · rename_i pattern last
    have stands : subject.2 + 1 ≤ last := reached _ rfl
    exact finish_forward toks (by omega) _

theorem foreign_forward : Forward i (foreign toks i) :=
  .andThen fun _ => .ite (.andThen fun _ => .pure (Nat.le_refl i))
    (.andThen fun _ => .pure (Nat.le_refl i))

theorem build_forward : Forward i (build toks i) := by
  refine .ite ((text_forward toks (i + 2)).bind fun line further => ?_) (abandon_forward toks i)
  refine .andThen fun m => .andThen fun _ => .andThen fun _ => .andThen fun _ => ?_
  exact finish_forward toks (by omega) _

/-! ## Lists and maps -/

theorem itemAndTarget?_forward (particle : Keyword) :
    OffersFrom i (·.2.2) (itemAndTarget? particle toks i) := by
  refine (value_forward toks i).bind fun item further => ?_
  refine (targetName?_forward toks _).bind fun target reached => ?_
  split
  · rename_i name last
    have stands : item.2 + 1 ≤ last := Nat.le_trans le_behindWord (reached _ rfl)
    refine .pure fun read found => ?_
    cases found
    change i ≤ last
    omega
  · exact .pure nofun

theorem positionAndTarget?_forward : OffersFrom i (·.2.2) (positionAndTarget? toks i) := by
  refine (targetValue?_forward toks i).bind fun position reached => ?_
  split
  · exact .pure nofun
  · rename_i place last
    have ahead : i ≤ last := reached _ rfl
    refine (targetName?_forward toks (last + 1)).bind fun target reachedTarget => ?_
    split
    · exact .pure nofun
    · rename_i name stop
      have further : last + 1 ≤ stop := reachedTarget _ rfl
      refine .pure fun read found => ?_
      cases found
      change i ≤ stop
      omega

theorem le_skipPositionWords : i ≤ skipPositionWords toks i := by
  fun_induction skipPositionWords toks i <;> omega

theorem listFolder_forward : Forward i (listFolder toks i) := by
  refine (targetValue?_forward toks (i + 2)).bind fun target reached => ?_
  split
  · exact abandon_forward toks i
  · rename_i path last
    have stands : i + 2 ≤ last := reached _ rfl
    have done : i ≤ last := by omega
    refine .andThen fun m => ?_
    split
    · exact .andThen fun _ => finish_forward toks done _
    · exact finish_forward toks done _

theorem list_forward : Forward i (list toks i) := by
  have two {last : Nat} (further : i + 2 ≤ last) : i ≤ last := by omega
  have gives := abandon_forward toks i
  unfold list
  split
  · refine (itemAndTarget?_forward toks (i + 2) .to).bind fun target reached => ?_
    split
    · exact .andThen fun _ => .pure (two (reached _ rfl))
    · exact gives
  · refine (itemAndTarget?_forward toks (i + 2) .fromWord).bind fun target reached => ?_
    split
    · exact .andThen fun _ => .pure (two (reached _ rfl))
    · exact gives
  · refine (positionAndTarget?_forward toks (i + 2)).bind fun target reached => ?_
    split
    · exact .andThen fun _ => .pure (two (reached _ rfl))
    · exact gives
  · refine (targetName?_forward toks (i + 2)).bind fun target reached => ?_
    split
    · exact .andThen fun _ => .pure (two (reached _ rfl))
    · exact gives
  · refine (value_forward toks (i + 2)).bind fun item further => ?_
    have skipped := le_skipPositionWords toks (item.2 + 1)
    refine (positionAndTarget?_forward toks _).bind fun target reached => ?_
    split
    · rename_i position name last
      have stands : skipPositionWords toks (item.2 + 1) ≤ last := reached _ rfl
      have done : i ≤ last := by omega
      exact .andThen fun _ => .pure done
    · exact gives
  · exact listFolder_forward toks i
  · exact abandon_forward toks i

theorem keyOfMap?_forward : OffersFrom i (·.2.2) (keyOfMap? toks i) := by
  refine (value_forward toks i).bind fun key further => .ite (.pure fun read found => ?_)
    (.pure nofun)
  cases found
  have name := toks.le_bracedName (key.2 + 2)
  change i ≤ (toks.bracedName (key.2 + 2)).2
  omega

theorem mapSet_forward : Forward i (mapSet toks i) := by
  refine (value_forward toks (i + 2)).bind fun key further => .ite ?_ (abandon_forward toks i)
  refine (value_forward toks (key.2 + 2)).bind fun value ahead => ?_
  refine (targetName?_forward toks (value.2 + 1)).bind fun target reached => ?_
  split
  · rename_i name last
    have stands : value.2 + 1 ≤ last := reached _ rfl
    have done : i ≤ last := by omega
    exact .andThen fun _ => .pure done
  · exact abandon_forward toks i

theorem mapMerge_forward : Forward i (mapMerge toks i) := by
  have source := toks.le_bracedName (i + 2)
  refine (targetName?_forward toks ((toks.bracedName (i + 2)).2 + 1)).bind fun target reached => ?_
  split
  · exact abandon_forward toks i
  · rename_i name last
    have stands : (toks.bracedName (i + 2)).2 + 1 ≤ last := reached _ rfl
    have done : i ≤ last := by omega
    refine .andThen fun m => ?_
    split
    · exact .andThen fun _ => .pure done
    · exact .pure done

theorem map_forward : Forward i (map toks i) := by
  have two {last : Nat} (further : i + 2 ≤ last) : i ≤ last := by omega
  unfold map
  split
  · exact mapSet_forward toks i
  · refine (keyOfMap?_forward toks (i + 2)).bind fun key reached => ?_
    split
    · exact abandon_forward toks i
    · rename_i field name last
      have done : i ≤ last := two (reached _ rfl)
      exact .andThen fun m => .ite (finish_forward toks done _) (.pure done)
  · refine (keyOfMap?_forward toks (i + 2)).bind fun key reached => ?_
    split
    · exact abandon_forward toks i
    · exact .andThen fun m => finish_forward toks (two (reached _ rfl)) _
  · refine (itemAndTarget?_forward toks (i + 2) .fromWord).bind fun target reached => ?_
    split
    · exact .andThen fun _ => .pure (two (reached _ rfl))
    · exact abandon_forward toks i
  · exact mapMerge_forward toks i
  · exact abandon_forward toks i

theorem pack_forward : Forward i (pack toks i) := by
  have name := toks.le_bracedName (i + 1)
  have ahead : i ≤ (toks.bracedName (i + 1)).2 + 2 := by omega
  refine .ite (.andThen fun m => .ite (finish_forward toks ahead _) (.andThen fun _ => ?_))
    (abandon_forward toks i)
  exact (abandon_forward toks _).mono fun _ later => Nat.le_trans ahead later

theorem unpack_forward : Forward i (unpack toks i) := by
  refine (text_forward toks (i + 1)).bind fun source further => .ite ?_ (abandon_forward toks i)
  have ahead : i ≤ source.2 + 2 := by omega
  exact .ite (finish_forward toks ahead _) (.andThen fun _ => finish_forward toks ahead _)

theorem event_forward : Forward i (event toks i) := by
  unfold event
  split
  · refine (text_forward toks (i + 2)).bind fun signal further => .andThen fun _ => .pure ?_
    omega
  · refine .andThen fun m => ?_
    split
    · exact finish_forward toks (Nat.le_succ i) _
    · exact .andThen fun _ => finish_forward toks (Nat.le_succ i) _
  · exact abandon_forward toks i

/-! ## Hidden texts -/

theorem streamCode_forward (encoding : Bool) : Forward i (streamCode encoding toks i) := by
  refine (text_forward toks (i + 2)).bind fun source further => .ite ?_ (abandon_forward toks i)
  refine (text_forward toks (source.2 + 2)).bind fun key ahead => .ite ?_ (abandon_forward toks i)
  exact finish_forward toks (by omega) _

theorem blockCode_forward : Forward i (blockCode toks i) := by
  have stops := abandon_forward toks i
  refine .ite ((value_forward toks (i + 3)).bind fun data further => .ite ?_ stops) stops
  refine (value_forward toks (data.2 + 2)).bind fun key ahead => .ite ?_ stops
  refine (value_forward toks (key.2 + 2)).bind fun vector later => ?_
  exact finish_forward toks (by omega) _

theorem bit_forward : Forward i (bit toks i) := by
  have two {last : Nat} (further : i + 2 ≤ last) : i ≤ last := by omega
  unfold bit
  dsimp only
  split
  · exact streamCode_forward toks i true
  · exact streamCode_forward toks i false
  · exact blockCode_forward toks i
  · exact (value_forward toks (i + 2)).bind fun text further => .andThen fun _ =>
      finish_forward toks (two further) _
  · refine .ite ?_ (.ite ?_ (abandon_forward toks i))
    · exact (text_forward toks (i + 2)).bind fun text further => finish_forward toks (two further) _
    · exact (text_forward toks (i + 2)).bind fun text further => finish_forward toks (two further) _
  · exact abandon_forward toks i

/-! ## Pages -/

theorem userAgent_forward : Forward i (userAgent toks i) :=
  (text_forward toks (i + 1)).bind fun _ further => .andThen fun _ => .pure (Nat.le_of_succ_le further)

theorem proxy_forward : Forward i (proxy toks i) :=
  (text_forward toks (i + 1)).bind fun _ further => .andThen fun _ => .pure (Nat.le_of_succ_le further)

theorem header_forward : Forward i (header toks i) := by
  refine (text_forward toks (i + 1)).bind fun key further => ?_
  refine (text_forward toks (key.2 + 1)).bind fun value ahead => .andThen fun _ => .pure ?_
  omega

theorem le_lookWords (json : Bool) : i ≤ (lookWords toks json i).2 := by
  fun_induction lookWords toks json i <;> omega

theorem look_forward : Forward i (look toks i) := by
  unfold look
  dsimp only
  generalize chosen : (if (toks.peek (i + 1)).isWord .forWord then i + 2 else i + 1) = first
  have behind : i + 1 ≤ first := by
    rw [← chosen]
    split <;> omega
  have words := le_lookWords toks first false
  refine .andThen fun m => ?_
  refine (targetValue?_forward toks _).bind fun target reached => ?_
  split
  · exact abandon_forward toks i
  · rename_i source last
    have stands : (lookWords toks false first).2 + _ ≤ last := reached _ rfl
    have done : i ≤ last := by omega
    exact .andThen fun _ => finish_forward toks done _

/-! ## Tables and key files -/

theorem tableStatement?_forward : OffersFrom i (·.2.2) (tableStatement? toks i) := by
  refine .andThen fun m => .ite ?_ (.andThen fun _ => .pure nofun)
  refine (text_forward toks (i + 1)).bind fun query further => .ite ?_ (.pure nofun)
  refine (text_forward toks (query.2 + 2)).bind fun file ahead => .pure fun read found => ?_
  cases found
  change i ≤ file.2
  omega

theorem sql_forward : Forward i (sql toks i) := by
  refine (tableStatement?_forward toks i).bind fun statement reached => ?_
  split
  · exact abandon_forward toks i
  · exact .andThen fun _ => .pure (reached _ rfl)

theorem getSql_forward : Forward i (getSql toks i) := by
  refine (tableStatement?_forward toks i).bind fun statement reached => ?_
  split
  · exact abandon_forward toks i
  · rename_i query file last
    have done : i ≤ last := reached _ rfl
    refine .andThen fun rows => ?_
    split
    · exact finish_forward toks done _
    · exact .pure done

theorem keyFile?_forward (loud : Bool) : OffersFrom i Prod.snd (keyFile? loud toks i) := by
  refine (targetValue?_forward toks i).bind fun target reached => ?_
  split
  · exact .pure nofun
  · rename_i file last
    have done : i ≤ last := reached _ rfl
    refine .ite (.pure fun read found => ?_) (.ite (.andThen fun _ => .pure nofun) (.pure nofun))
    cases found
    exact done

/-- A statement on a key file whose name is read last, and which is given up where there is none. -/
theorem onKeyFile_forward {j : Nat} {loud : Bool} {next : String → Nat → Act Nat}
    (goesOn : ∀ file last, j ≤ last → Forward i (next file last)) :
    Forward i (do
      match ← keyFile? loud toks j with
      | none => abandon toks i
      | some (file, last) => next file last : Act Nat) := by
  refine (keyFile?_forward toks j loud).bind fun target reached => ?_
  split
  · exact abandon_forward toks i
  · rename_i file last
    exact goesOn file last (reached _ rfl)

theorem changeKeys_forward {last : Nat} (done : i ≤ last) (file : String)
    (change : Ledger → Ledger) :
    Forward i (do
      match ← openKeys? file with
      | some ledger => saveKeys file (change ledger)
      | none => pure ()
      return last : Act Nat) := by
  refine .andThen fun ledger => ?_
  split
  · exact .andThen fun _ => .pure done
  · exact .pure done

theorem readKeys_forward {last : Nat} (done : i ≤ last) (file : String)
    (read : Ledger → List String) :
    Forward i (do
      match ← openKeys? file with
      | some ledger => finish toks last (read ledger)
      | none => return last : Act Nat) := by
  refine .andThen fun ledger => ?_
  split
  · exact finish_forward toks done _
  · exact .pure done

theorem keySet_forward : Forward i (keySet toks i) := by
  refine (text_forward toks (i + 2)).bind fun key further => .ite ?_ (abandon_forward toks i)
  dsimp only
  generalize chosen : (if (toks.peek (key.2 + 2)).isWord .list then key.2 + 3
    else key.2 + 2) = first
  have behind : key.2 + 2 ≤ first := by
    rw [← chosen]
    split <;> omega
  refine (text_forward toks first).bind fun raw ahead => ?_
  exact onKeyFile_forward toks i fun file last later =>
    changeKeys_forward i (by omega) file _

theorem keyRemove_forward : Forward i (keyRemove toks i) := by
  refine (text_forward toks (i + 2)).bind fun key further => ?_
  exact onKeyFile_forward toks i fun file last later =>
    changeKeys_forward i (by omega) file _

theorem keyGet_forward : Forward i (keyGet toks i) := by
  refine (text_forward toks (i + 2)).bind fun key further => ?_
  exact onKeyFile_forward toks i fun file last later =>
    readKeys_forward toks i (by omega) file _

theorem keyScan_forward : Forward i (keyScan toks i) := by
  refine .ite ((text_forward toks (i + 5)).bind fun target further => ?_) (abandon_forward toks i)
  exact onKeyFile_forward toks i fun file last later =>
    readKeys_forward toks i (by omega) file _

theorem keyCheck_forward : Forward i (keyCheck toks i) := by
  refine .ite (keyScan_forward toks i) ((text_forward toks (i + 2)).bind fun item further => ?_)
  have asks (key : String) (sought : Option String) {last : Nat} (ahead : i ≤ last) :
      Forward i (do
        match ← keyFile? false toks (last + 1) with
        | none => abandon toks i
        | some (file, last) =>
          match ← openKeys? file with
          | some ledger => finish toks last [Value.ofBool (ledger.holds key sought)]
          | none => return last : Act Nat) :=
    onKeyFile_forward toks i fun file last later =>
      readKeys_forward toks i (by omega) file _
  refine .ite ?_ (asks item.1 none (by omega))
  exact (text_forward toks (item.2 + 2)).bind fun key ahead => asks key.1 (some item.1) (by omega)

theorem dbig_forward : Forward i (dbig toks i) := by
  unfold dbig
  split
  · exact keyGet_forward toks i
  · exact keySet_forward toks i
  · exact keyRemove_forward toks i
  · exact keyCheck_forward toks i
  · exact abandon_forward toks i

/-! ## Reading values -/

theorem bindNumber_forward {last : Nat} (further : i ≤ last) (number : Option String) :
    Forward i (bindNumber toks last number) := by
  cases number with
  | some number => exact finish_forward toks further _
  | none => exact .andThen fun _ => .pure further

theorem getNumber_forward (k : Nat) : Forward k (getNumber toks k) := by
  refine (text_forward toks (k + 1)).bind fun low further => ?_
  refine (text_forward toks _).bind fun high ahead => .andThen fun _ => .andThen fun m => ?_
  have later : low.2 + 1 ≤ high.2 := Nat.le_trans le_behindWord ahead
  exact bindNumber_forward toks k (by omega) _

theorem getLuck_forward {start : Nat} (behind : start ≤ i) : Forward start (getLuck toks start i) := by
  have one : start ≤ i + 1 := Nat.le_succ_of_le behind
  have drawn (choices : List String) :
      Forward start (do finish toks (i + 1) [← Luck.pick choices] : Act Nat) :=
    .andThen fun _ => finish_forward toks one _
  unfold getLuck
  dsimp only
  split
  · exact (getNumber_forward toks (i + 1)).mono fun _ later => Nat.le_trans one later
  · exact (getNumber_forward toks (i + 1)).mono fun _ later => Nat.le_trans one later
  · exact .andThen fun _ => .andThen fun _ => finish_forward toks one _
  · exact drawn _
  · exact drawn _
  · exact drawn _
  · exact drawn _
  · exact drawn _
  · exact .andThen fun _ => .andThen fun _ => .andThen fun _ => finish_forward toks one _
  · exact .andThen fun _ => finish_forward toks one _
  · exact abandon_forward toks start

theorem replacedValue_forward : ReadsFrom i (replacedValue toks i) := by
  refine (text_forward toks i).bind fun value further => .ite ?_ (.pure further)
  refine (text_forward toks (value.2 + 2)).bind fun old ahead => ?_
  have stands : i ≤ old.2 := by omega
  refine .ite ?_ (.pure stands)
  refine (text_forward toks (old.2 + 2)).bind fun new later => .pure ?_
  change i ≤ new.2
  omega

theorem valuesFrom_forward (steps last : Nat) (values : List String) :
    ReadsFrom last (valuesFrom toks i steps last values) := by
  induction steps generalizing last values with
  | zero => exact .pure (Nat.le_refl last)
  | succ steps ih =>
    refine .ite ?_ (.pure (Nat.le_refl last))
    refine (replacedValue_forward toks (last + 1)).bind fun read further => ?_
    have ahead : last ≤ read.2 := Nat.le_of_succ_le further
    exact .ite ((ih read.2 _).mono fun _ later => Nat.le_trans ahead later) (.pure ahead)

theorem getValues_forward : Forward i (getValues toks i (i + 1)) := by
  refine (valuesFrom_forward toks i _ (i + 1 - 1) []).bind fun read further => ?_
  exact finish_forward toks (by omega) _

theorem getFrom_forward {j : Nat} (behind : i ≤ j) : Forward i (getFrom toks i j) := by
  have name := toks.le_bracedName (j + 1)
  refine (targetValue?_forward toks ((toks.bracedName (j + 1)).2 + 1)).bind fun target reached => ?_
  split
  · exact abandon_forward toks i
  · rename_i position last
    have stands : (toks.bracedName (j + 1)).2 + 1 ≤ last := reached _ rfl
    have done : i ≤ last := by omega
    refine .andThen fun m => ?_
    split
    · exact finish_forward toks done _
    · exact .pure done

theorem getCount_forward {j : Nat} (behind : i ≤ j) : Forward i (getCount toks i j) := by
  have name := toks.le_bracedName (j + 2)
  have ahead : i ≤ (toks.bracedName (j + 2)).2 := by omega
  exact .ite (.andThen fun _ => finish_forward toks ahead _) (abandon_forward toks i)

theorem getTime_forward {j : Nat} (behind : i ≤ j) : Forward i (getTime toks i j) := by
  have ahead : i ≤ j + 1 := Nat.le_succ_of_le behind
  refine .andThen fun m => ?_
  split
  · exact finish_forward toks ahead _
  · exact finish_forward toks ahead _
  · exact .andThen fun _ => finish_forward toks ahead _
  · exact abandon_forward toks i

theorem getWeb_forward {j : Nat} (behind : i ≤ j) : Forward i (getWeb toks j) := by
  refine (text_forward toks (j + 1)).bind fun url further => .andThen fun _ => .andThen fun _ => ?_
  exact finish_forward toks (by omega) _

theorem getPost_forward {j : Nat} (behind : i ≤ j) : Forward i (getPost toks j) := by
  refine (text_forward toks (j + 1)).bind fun url further => ?_
  refine (text_forward toks _).bind fun data ahead => .andThen fun _ => .andThen fun _ => ?_
  have later : url.2 + 1 ≤ data.2 := Nat.le_trans le_behindWord ahead
  exact finish_forward toks (by omega) _

theorem getWord_forward : Forward i (getWord toks i (i + 1)) := by
  have one : i ≤ i + 1 := Nat.le_succ i
  unfold getWord
  split
  · exact (value_forward toks (i + 1)).bind fun read further =>
      finish_forward toks (Nat.le_of_succ_le further) _
  · exact getFrom_forward toks i one
  · exact (text_forward toks (i + 1 + 1)).bind fun read further => finish_forward toks (by omega) _
  · exact getLuck_forward toks (i + 1) one
  · exact (value_forward toks (i + 1 + 1)).bind fun read further => finish_forward toks (by omega) _
  · exact .andThen fun _ => finish_forward toks (Nat.le_add_right i 2) _
  · exact finish_forward toks one _
  · exact (getSql_forward toks (i + 1)).mono fun _ further => Nat.le_of_succ_le further
  · exact getPost_forward toks i one
  · have name := toks.le_bracedName (i + 1)
    exact .andThen fun _ => finish_forward toks (Nat.le_of_succ_le name) _
  all_goals first
    | exact getValues_forward toks i
    | exact abandon_forward toks i

/-- The word `as` is looked for from an index on. -/
theorem le_asIndex? (j k : Nat) : ∀ found ∈ asIndex? toks j k, k ≤ found := by
  fun_induction asIndex? toks j k with
  | case3 k inside onLine plain other ih =>
    intro found here
    exact Nat.le_of_succ_le (ih found here)
  | case2 k => intro found here; cases here; exact Nat.le_refl k
  | case1 | case4 | case5 => exact nofun

theorem getValue_forward : Forward i (getValue toks i) := by
  have one : i ≤ i + 1 := Nat.le_succ i
  refine .ite (.pure (Nat.le_refl i)) (.ite (getWeb_forward toks i one)
    (.ite (getTime_forward toks i one) (.ite (getCount_forward toks i one) ?_)))
  split
  · rename_i k found
    have ahead : i + 1 ≤ k := by
      split at found
      · cases found
      · exact le_asIndex? toks _ _ k found
    exact .andThen fun _ => finish_forward toks (by omega) _
  · exact getWord_forward toks i

/-! ## The table of verbs -/

/-- No verb answers with an index before its own, whatever `attach` runs. -/
theorem all_forward (run : Runner) :
    ∀ entry ∈ Verb.all run, ∀ toks i, Forward i (entry.2 toks i) := by
  simp only [Verb.all, List.forall_mem_cons]
  exact ⟨fun toks i => attach_forward toks i run, print_forward, wait_forward, ask_forward,
    take_forward, reset_forward, command_forward, build_forward, reply_forward, split_forward,
    replace_forward, findPattern_forward, pack_forward, unpack_forward, list_forward, map_forward,
    event_forward, getValue_forward, openFile_forward, fun toks i => writeFile_forward toks i false,
    fun toks i => writeFile_forward toks i true, create_forward, delete_forward, copyFile_forward,
    moveFile_forward, bit_forward, sql_forward, dbig_forward, foreign_forward, userAgent_forward,
    proxy_forward, header_forward, look_forward, List.forall_mem_nil _⟩

theorem lookup_forward {run : Runner} {kind : Kind} {verb : Statement}
    (found : (Verb.all run).lookup kind = some verb) (toks : TokenStream) (i : Nat) :
    Forward i (verb toks i) := by
  rcases List.lookup_eq_some_iff.mp found with ⟨first, rest, split, -⟩
  refine all_forward run (kind, verb) ?_ toks i
  rw [split]
  exact List.mem_append_right first List.mem_cons_self

end Verb
end BigScript
