import BigScript.Proofs.Routine.Basic

/-!
# Verbs and statements that are routine

No verb touches the control state or looks into the diary by itself; only `attach`, which runs another
source, can do so through its runner.  Each verb is walked through once, along its own choices;
`all_routine` sums this up for the table of verbs.

Assignments, steps, the reading of what a loop runs over and of the arguments of a call, and the
switching on of features neither touch the control state nor look into the diary.
-/

namespace BigScript

namespace Luck

private theorem setLuck_sameControl (m : Machine) (luck : UInt64) :
    SameControl m { m with luck } :=
  .of_fields rfl rfl rfl rfl rfl rfl rfl rfl rfl

theorem advance_routine : Routine advance := by
  -- The next state stays behind its name: there is no need to compute with it.
  let draw (luck : UInt64) (m : Machine) : Machine := { m with luck }
  have drawn : Blind fun m => draw (next m.luck) m :=
    .choose (fun _ => .plain rfl rfl) fun m written diary =>
      have luck : (m.recalling written diary).luck = m.luck := rfl
      congrArg next luck
  exact .modify (fun m => setLuck_sameControl m (next m.luck)) drawn

theorem below_routine (n : Nat) : Routine (below n) :=
  advance_routine.bind fun _ => .look rfl fun _ => .pure _

theorem pick_routine (choices : List String) : Routine (pick choices) :=
  (below_routine choices.length).bind fun _ => .pure _

end Luck

namespace Persona

theorem mailFor_routine (first last : String) : Routine (mailFor first last) :=
  (Luck.below_routine 2).bind fun _ => (Luck.below_routine _).bind fun _ =>
    (Luck.below_routine 2).bind fun _ => (Luck.pick_routine mailHosts).bind fun _ => .pure _

theorem hexDigits_routine (n : Nat) : Routine (hexDigits n) := by
  induction n with
  | zero => exact .pure _
  | succ n ih => exact (Luck.below_routine 16).bind fun _ => ih.bind fun _ => .pure _

theorem identifier_routine : Routine identifier :=
  (hexDigits_routine 8).bind fun _ => (hexDigits_routine 4).bind fun _ =>
    (hexDigits_routine 3).bind fun _ => (Luck.pick_routine _).bind fun _ =>
      (hexDigits_routine 3).bind fun _ => (hexDigits_routine 12).bind fun _ => .pure _

end Persona

namespace Verb

open Operand Results Statement

variable (toks : TokenStream) (i : Nat)

/-! ## Console and environment -/

theorem joinedValues_routine (steps j last : Nat) (text : String) :
    Routine (joinedValues toks i steps j last text) := by
  induction steps generalizing j last text with
  | zero => exact .pure _
  | succ steps ih =>
      refine .ite ((value_routine toks j).bind fun read => ?_) (.pure _)
      exact .ite (ih _ _ _) (.pure _)

theorem print_routine : Routine (print toks i) :=
  (joinedValues_routine toks i _ _ _ _).bind fun _ =>
    (Machine.print_routine _).bind fun _ => .pure _

theorem wait_routine : Routine (wait toks i) := by
  refine .look (by simp only [Machine.recalling_tokenValue]) fun m => ?_
  split
  · exact .pure _
  · refine .ite (.pure _) (.ite ?_ (.pure _))
    exact (Machine.sleep_routine _).bind fun _ => .pure _

theorem readLine_routine : Routine readLine := by
  refine .look rfl fun m => Routine.bind ?_ fun _ => .pure _
  exact .modify (fun _ => .of_fields rfl rfl rfl rfl rfl rfl rfl rfl rfl) (.plain rfl rfl)

theorem ask_routine : Routine (ask toks i) := by
  unfold ask
  dsimp only
  refine .ite (.ite ?_ ?_) (.pure _)
  · have shown : Blind fun m => m.print (m.interpolate (toks.peek (i + 2)).content) :=
      .choose Machine.print_blind fun _ _ _ => rfl
    refine .bind (.modify (fun _ => Machine.print_sameControl _ _) shown) fun _ => ?_
    exact (Routine.pure _).bind fun _ => readLine_routine.bind fun _ => finish_routine _ _ _
  · exact (Routine.pure _).bind fun _ => readLine_routine.bind fun _ => finish_routine _ _ _

theorem take_routine : Routine (take toks i) :=
  .ite (.look rfl fun _ => finish_routine _ _ _) (.pure _)

theorem reset_routine : Routine (reset toks i) := by
  refine (text_routine toks (i + 1)).bind fun read => .ite ?_ ?_
  · refine .ite ?_ (.pure _)
    exact (Machine.assign_routine _ _).bind fun _ => .pure _
  · exact .look rfl fun _ => finish_routine _ _ _

theorem command_routine : Routine (command toks i) :=
  .look rfl fun _ => finish_routine _ _ _

/-- The variables that make up a response. -/
def responseNames : List String :=
  ["Sbig_Response_Body", "Sbig_Response_File", "Sbig_Response_Status", "Sbig_Response_Headers"]

theorem setResponse_routine {name : String} (part : name ∈ responseNames) (value : String) :
    Routine (modify (Machine.setGlobal name value) : Act Unit) (· ∈ responseNames) :=
  .modify (fun m => m.setGlobal_sameControl value (.inr part)) (Machine.setGlobal_blind name value)

/-- A response has a body or a file: setting one empties the other. -/
theorem setResponses_routine {name other : String} (part : name ∈ responseNames)
    (otherPart : other ∈ responseNames) (value : String) :
    Routine (modify fun m => (m.setGlobal name value).setGlobal other "" : Act Unit)
      (· ∈ responseNames) :=
  .modify (fun m => (m.setGlobal_sameControl value (.inr part)).trans
    (Machine.setGlobal_sameControl "" _ (.inr otherPart)))
    (.comp (Machine.setGlobal_blind name value) (Machine.setGlobal_blind other ""))

theorem reply_routine : Routine (reply toks i) (· ∈ responseNames) := by
  unfold reply
  dsimp only
  split
  · split
    · exact .look rfl fun _ => (Routine.pure _).bind fun _ =>
        (setResponses_routine (by decide) (by decide) _).bind fun _ => .pure _
    · exact (text_routine toks (i + 2)).widen.bind fun _ =>
        (setResponses_routine (by decide) (by decide) _).bind fun _ => .pure _
  · exact .look rfl fun _ => (setResponse_routine (by decide) _).bind fun _ => .pure _
  · refine .ite (.look rfl fun _ => ?_) (.pure _)
    exact (setResponse_routine (by decide) _).bind fun _ => .pure _
  · exact (text_routine toks (i + 2)).widen.bind fun _ =>
      (setResponses_routine (by decide) (by decide) _).bind fun _ => .pure _
  · exact .pure _

/-! ## Files -/

theorem setFiles_routine (files : FileTree) : Routine (setFiles files) :=
  .modify (fun _ => .of_fields rfl rfl rfl rfl rfl rfl rfl rfl rfl) (.plain rfl rfl)

theorem openFile_routine : Routine (openFile toks i) := by
  refine (value_routine toks (i + 1)).bind fun read => .ite (.pure _) (.look rfl fun m => ?_)
  split
  · exact finish_routine _ _ _
  · exact (raise_routine (by simp)).bind fun _ => finish_routine _ _ _

theorem writeFile_routine (adding : Bool) : Routine (writeFile adding toks i) := by
  refine (text_routine toks (i + 1)).bind fun content => ?_
  refine (targetValue?_routine toks (content.2 + 1)).bind fun target => ?_
  split
  · exact .pure _
  · refine .look rfl fun m => ?_
    dsimp only
    split
    · exact (setFiles_routine _).bind fun _ => .pure _
    · exact (raise_routine (by simp)).bind fun _ => .pure _

theorem create_routine : Routine (create toks i) := by
  refine .ite ((text_routine toks (i + 2)).bind fun name => ?_) (.pure _)
  refine (targetValue?_routine toks (name.2 + 1)).bind fun target => ?_
  split
  · exact .pure _
  · refine .look (by simp only [Machine.recalling_files]) fun m => .ite ?_ ?_
    · split
      · exact (setFiles_routine _).bind fun _ => .pure _
      · exact (raise_routine (by simp)).bind fun _ => .pure _
    · split
      · exact (setFiles_routine _).bind fun _ => .pure _
      · exact (raise_routine (by simp)).bind fun _ => .pure _

theorem delete_routine : Routine (delete toks i) := by
  refine .ite ((targetValue?_routine toks (i + 2)).bind fun target => ?_) (.pure _)
  split
  · exact .pure _
  · refine .look rfl fun m => ?_
    split
    · exact (setFiles_routine _).bind fun _ => .pure _
    · exact (raise_routine (by simp)).bind fun _ => .pure _

theorem sourceAndTarget?_routine : Routine (sourceAndTarget? toks i) := by
  refine .ite ((targetValue?_routine toks (i + 1)).bind fun source => ?_) (.pure _)
  split
  · exact .pure _
  · refine .ite ((targetValue?_routine toks _).bind fun target => ?_) (.pure _)
    split <;> exact .pure _

theorem copyFile_routine : Routine (copyFile toks i) := by
  refine (sourceAndTarget?_routine toks (i + 1)).bind fun paths => ?_
  split
  · exact .pure _
  · refine .look (by simp only [Machine.recalling_files]) fun m =>
      (setFiles_routine _).bind fun _ => ?_
    split
    · exact (raise_routine (by simp)).bind fun _ => .pure _
    · exact .pure _

theorem moveFile_routine : Routine (moveFile toks i) := by
  refine (sourceAndTarget?_routine toks (i + 1)).bind fun paths => ?_
  split
  · exact .pure _
  · refine .look rfl fun m => ?_
    split
    · exact (setFiles_routine _).bind fun _ => .pure _
    · exact (raise_routine (by simp)).bind fun _ => .pure _

/-! ## Texts and tasks -/

theorem split_routine : Routine (split toks i) :=
  (value_routine toks (i + 1)).bind fun _ =>
    .ite ((value_routine toks _).bind fun _ => finish_routine _ _ _) (.pure _)

theorem replaceInFile_routine (old new path : String) : Routine (replaceInFile old new path) := by
  refine .look (by simp only [Machine.recalling_files]) fun m => ?_
  dsimp only
  split
  · exact raise_routine (by decide)
  · split
    · exact setFiles_routine _
    · exact raise_routine (by simp)

theorem replace_routine : Routine (replace toks i) := by
  refine (text_routine toks (i + 1)).bind fun old => .ite ?_ (.pure _)
  refine (text_routine toks _).bind fun new => (targetName?_routine toks _).bind fun target => ?_
  split
  · exact .pure _
  · refine .ite ?_ ?_
    · have replaced (name : String) :
          Blind fun m => m.assign name (Text.replaceAll old.1 new.1 (m.getD name "")) :=
        .choose (Machine.assign_blind name) fun _ _ _ => rfl
      exact .bind (.modify (fun m => m.assign_sameControl _ _) (replaced _)) fun _ => .pure _
    · split
      · exact .look rfl fun _ => (replaceInFile_routine _ _ _).bind fun _ => .pure _
      · exact (replaceInFile_routine _ _ _).bind fun _ => .pure _

theorem findPattern_routine : Routine (findPattern toks i) := by
  refine (value_routine toks (i + 1)).bind fun subject => ?_
  refine (targetValue?_routine toks _).bind fun target => ?_
  split
  · exact .pure _
  · exact finish_routine _ _ _

theorem foreign_routine : Routine (foreign toks i) :=
  .look rfl fun _ =>
    .ite ((raise_routine (by decide)).bind fun _ => .pure _)
      ((printLine_routine _).bind fun _ => .pure _)

theorem build_routine : Routine (build toks i) :=
  .ite ((text_routine toks (i + 2)).bind fun _ => Routine.look rfl fun _ =>
    (setFiles_routine _).bind fun _ =>
      (Machine.sleep_routine _).bind fun _ =>
        Routine.look rfl fun _ => finish_routine _ _ _) (.pure _)

/-! ## Lists and maps -/

theorem updateList_routine (name : String) (change : List Json → List Json) :
    Routine (updateList name change) := by
  refine .look rfl fun m => ?_
  split
  · exact Machine.assign_routine _ _
  · exact .pure _

theorem updateMap_routine (name : String) (change : List (String × Json) → List (String × Json)) :
    Routine (updateMap name change) := by
  refine .look rfl fun m => ?_
  split
  · exact Machine.assign_routine _ _
  · exact .pure _

theorem itemAndTarget?_routine (particle : Keyword) : Routine (itemAndTarget? particle toks i) := by
  refine (value_routine toks i).bind fun item => (targetName?_routine toks _).bind fun target => ?_
  split <;> exact .pure _

theorem positionAndTarget?_routine : Routine (positionAndTarget? toks i) := by
  refine (targetValue?_routine toks i).bind fun position => ?_
  split
  · exact .pure _
  · refine (targetName?_routine toks _).bind fun target => ?_
    split <;> exact .pure _

theorem listFolder_routine : Routine (listFolder toks i) := by
  refine (targetValue?_routine toks (i + 2)).bind fun target => ?_
  split
  · exact .pure _
  · refine .look rfl fun m => ?_
    split
    · exact (raise_routine (by simp)).bind fun _ => finish_routine _ _ _
    · exact finish_routine _ _ _

theorem list_routine : Routine (list toks i) := by
  unfold list
  split
  · refine (itemAndTarget?_routine toks (i + 2) .to).bind fun target => ?_
    split
    · exact (updateList_routine _ _).bind fun _ => .pure _
    · exact .pure _
  · refine (itemAndTarget?_routine toks (i + 2) .fromWord).bind fun target => ?_
    split
    · exact (updateList_routine _ _).bind fun _ => .pure _
    · exact .pure _
  · refine (positionAndTarget?_routine toks (i + 2)).bind fun target => ?_
    split
    · exact (updateList_routine _ _).bind fun _ => .pure _
    · exact .pure _
  · refine (targetName?_routine toks (i + 2)).bind fun target => ?_
    split
    · exact (updateList_routine _ _).bind fun _ => .pure _
    · exact .pure _
  · refine (value_routine toks (i + 2)).bind fun item => ?_
    refine (positionAndTarget?_routine toks _).bind fun target => ?_
    split
    · exact (updateList_routine _ _).bind fun _ => .pure _
    · exact .pure _
  · exact listFolder_routine toks i
  · exact .pure _

theorem keyOfMap?_routine : Routine (keyOfMap? toks i) :=
  (value_routine toks i).bind fun _ => .ite (.pure _) (.pure _)

theorem mapSet_routine : Routine (mapSet toks i) := by
  refine (value_routine toks (i + 2)).bind fun key => .ite ?_ (.pure _)
  refine (value_routine toks _).bind fun value => (targetName?_routine toks _).bind fun target => ?_
  split
  · exact (updateMap_routine _ _).bind fun _ => .pure _
  · exact .pure _

theorem mapMerge_routine : Routine (mapMerge toks i) := by
  refine (targetName?_routine toks _).bind fun target => ?_
  split
  · exact .pure _
  · refine .look rfl fun m => ?_
    split
    · exact (updateMap_routine _ _).bind fun _ => .pure _
    · exact .pure _

theorem map_routine : Routine (map toks i) := by
  unfold map
  split
  · exact mapSet_routine toks i
  · refine (keyOfMap?_routine toks (i + 2)).bind fun key => ?_
    split
    · exact .pure _
    · exact .look rfl fun m => .ite (finish_routine _ _ _) (.pure _)
  · refine (keyOfMap?_routine toks (i + 2)).bind fun key => ?_
    split
    · exact .pure _
    · exact .look rfl fun m => finish_routine _ _ _
  · refine (itemAndTarget?_routine toks (i + 2) .fromWord).bind fun target => ?_
    split
    · exact (updateMap_routine _ _).bind fun _ => .pure _
    · exact .pure _
  · exact mapMerge_routine toks i
  · exact .pure _

theorem pack_routine : Routine (pack toks i) :=
  .ite (.look rfl fun _ =>
    .ite (finish_routine _ _ _) ((raise_routine (by decide)).bind fun _ => .pure _)) (.pure _)

theorem unpack_routine : Routine (unpack toks i) :=
  (text_routine toks (i + 1)).bind fun _ =>
    .ite (.ite (finish_routine _ _ _)
      ((raise_routine (by decide)).bind fun _ => finish_routine _ _ _)) (.pure _)

theorem event_routine : Routine (event toks i) := by
  unfold event
  split
  · refine (text_routine toks (i + 2)).bind fun signal => Routine.bind ?_ fun _ => .pure _
    exact .modify (fun _ => .of_fields rfl rfl rfl rfl rfl rfl rfl rfl rfl) (.plain rfl rfl)
  · refine .look rfl fun m => ?_
    split
    · exact finish_routine _ _ _
    · refine Routine.bind ?_ fun _ => finish_routine _ _ _
      exact .modify (fun _ => .of_fields rfl rfl rfl rfl rfl rfl rfl rfl rfl) (.plain rfl rfl)
  · exact .pure _

/-! ## Hidden texts -/

theorem scatter_routine (cs : List Char) : Routine (scatter cs) := by
  induction cs with
  | nil => exact .pure _
  | cons c cs ih =>
      exact (Luck.below_routine _).bind fun _ => (Luck.below_routine _).bind fun _ =>
        ih.bind fun _ => .pure _

theorem streamCode_routine (encoding : Bool) : Routine (streamCode encoding toks i) :=
  (text_routine toks (i + 2)).bind fun _ =>
    .ite ((text_routine toks _).bind fun _ => .ite (finish_routine _ _ _) (.pure _)) (.pure _)

theorem blockCode_routine : Routine (blockCode toks i) :=
  .ite ((value_routine toks (i + 3)).bind fun _ =>
    .ite ((value_routine toks _).bind fun _ =>
      .ite ((value_routine toks _).bind fun _ => finish_routine _ _ _) (.pure _)) (.pure _))
    (.pure _)

theorem bit_routine : Routine (bit toks i) := by
  unfold bit
  dsimp only
  split
  · exact streamCode_routine toks i true
  · exact streamCode_routine toks i false
  · exact blockCode_routine toks i
  · exact (value_routine toks (i + 2)).bind fun _ =>
      (scatter_routine _).bind fun _ => finish_routine _ _ _
  · refine .ite ?_ (.ite ?_ (.pure _))
    · exact (text_routine toks (i + 2)).bind fun _ => finish_routine _ _ _
    · exact (text_routine toks (i + 2)).bind fun _ => finish_routine _ _ _
  · exact .pure _

/-! ## Pages -/

theorem userAgent_routine : Routine (userAgent toks i) := by
  refine (text_routine toks (i + 1)).bind fun agent => Routine.bind ?_ fun _ => .pure _
  exact .modify (fun _ => .of_fields rfl rfl rfl rfl rfl rfl rfl rfl rfl) (.plain rfl rfl)

theorem proxy_routine : Routine (proxy toks i) := by
  refine (text_routine toks (i + 1)).bind fun address => Routine.bind ?_ fun _ => .pure _
  exact .modify (fun _ => .of_fields rfl rfl rfl rfl rfl rfl rfl rfl rfl) (.plain rfl rfl)

theorem header_routine : Routine (header toks i) := by
  refine (text_routine toks (i + 1)).bind fun key => (text_routine toks _).bind fun value => ?_
  refine Routine.bind ?_ fun _ => .pure _
  exact .modify (fun _ => .of_fields rfl rfl rfl rfl rfl rfl rfl rfl rfl) (.plain rfl rfl)

theorem lookJson_routine (source key : String) : Routine (lookJson source key) := by
  unfold lookJson
  split
  · exact .pure _
  · exact (printLine_routine _).bind fun _ => .pure _

theorem pickOut_routine (json : Bool) (source selector : String) :
    Routine (pickOut json source selector) :=
  .ite (.pure _) (.ite (lookJson_routine source selector) (.pure _))

theorem look_routine : Routine (look toks i) := by
  refine .look rfl fun m => (targetValue?_routine toks _).bind fun target => ?_
  split
  · exact .pure _
  · exact (Routine.mapM (pickOut_routine _ _) _).bind fun _ => finish_routine _ _ _

/-! ## Tables and key files -/

theorem tableStatement?_routine : Routine (tableStatement? toks i) := by
  refine .look rfl fun m => .ite ?_ ((printLine_routine _).bind fun _ => .pure _)
  refine (text_routine toks (i + 1)).bind fun query => .ite ?_ (.pure _)
  exact (text_routine toks _).bind fun _ => .pure _

theorem openTables_routine (path : String) : Routine (openTables path) := by
  refine .look (by simp only [Machine.recalling_files]) fun m => ?_
  dsimp only
  split
  · exact .pure _
  · exact (setFiles_routine _).bind fun _ => .pure _
  · exact .pure _
  · split
    · exact (setFiles_routine _).bind fun _ => .pure _
    · exact .pure _

theorem runTables_routine (query path failed : String) : Routine (runTables query path failed) := by
  refine (openTables_routine path).bind fun database => ?_
  split
  · exact (raise_routine (by decide)).bind fun _ => .pure _
  · split
    · exact (raise_routine (by simp)).bind fun _ => .pure _
    · exact .look rfl fun _ => (setFiles_routine _).bind fun _ => .pure _

theorem sql_routine : Routine (sql toks i) := by
  refine (tableStatement?_routine toks i).bind fun statement => ?_
  split
  · exact .pure _
  · exact (runTables_routine _ _ _).bind fun _ => .pure _

theorem getSql_routine : Routine (getSql toks i) := by
  refine (tableStatement?_routine toks i).bind fun statement => ?_
  split
  · exact .pure _
  · refine (runTables_routine _ _ _).bind fun rows => ?_
    split
    · exact finish_routine _ _ _
    · exact .pure _

theorem keyFile?_routine (loud : Bool) : Routine (keyFile? loud toks i) := by
  refine (targetValue?_routine toks i).bind fun target => ?_
  split
  · exact .pure _
  · refine .ite (.pure _) (.ite ?_ (.pure _))
    exact (printLine_routine _).bind fun _ => .pure _

theorem openKeys?_routine (path : String) : Routine (openKeys? path) := by
  refine .look (by simp only [Machine.recalling_files]) fun m => ?_
  dsimp only
  split
  · exact .pure _
  · split
    · exact (setFiles_routine _).bind fun _ => .pure _
    · exact (raise_routine (by decide)).bind fun _ => .pure _
  · exact (raise_routine (by decide)).bind fun _ => .pure _
  · split
    · exact (setFiles_routine _).bind fun _ => .pure _
    · exact (raise_routine (by decide)).bind fun _ => .pure _

theorem saveKeys_routine (path : String) (ledger : Ledger) : Routine (saveKeys path ledger) :=
  .look rfl fun _ => setFiles_routine _

theorem changeKeys_routine (file : String) (change : Ledger → Ledger) (last : Nat) :
    Routine (do
      match ← openKeys? file with
      | some ledger => saveKeys file (change ledger)
      | none => pure ()
      return last : Act Nat) := by
  refine (openKeys?_routine file).bind fun ledger => ?_
  split
  · exact (saveKeys_routine _ _).bind fun _ => .pure _
  · exact (Routine.pure _).bind fun _ => .pure _

theorem readKeys_routine (file : String) (read : Ledger → List String) (last : Nat) :
    Routine (do
      match ← openKeys? file with
      | some ledger => finish toks last (read ledger)
      | none => return last : Act Nat) := by
  refine (openKeys?_routine file).bind fun ledger => ?_
  split
  · exact finish_routine _ _ _
  · exact .pure _

theorem keySet_routine : Routine (keySet toks i) := by
  refine (text_routine toks (i + 2)).bind fun key => .ite ?_ (.pure _)
  refine (text_routine toks _).bind fun raw => (keyFile?_routine toks _ true).bind fun target => ?_
  split
  · exact .pure _
  · exact changeKeys_routine _ _ _

theorem keyRemove_routine : Routine (keyRemove toks i) := by
  refine (text_routine toks (i + 2)).bind fun key => ?_
  refine (keyFile?_routine toks _ true).bind fun target => ?_
  split
  · exact .pure _
  · exact changeKeys_routine _ _ _

theorem keyGet_routine : Routine (keyGet toks i) := by
  refine (text_routine toks (i + 2)).bind fun key => ?_
  refine (keyFile?_routine toks _ true).bind fun target => ?_
  split
  · exact .pure _
  · exact readKeys_routine toks _ _ _

theorem keyScan_routine : Routine (keyScan toks i) := by
  refine .ite ((text_routine toks (i + 5)).bind fun target => ?_) (.pure _)
  refine (keyFile?_routine toks _ false).bind fun file => ?_
  split
  · exact .pure _
  · exact readKeys_routine toks _ _ _

theorem keyCheck_routine : Routine (keyCheck toks i) := by
  refine .ite (keyScan_routine toks i) ((text_routine toks (i + 2)).bind fun item => ?_)
  dsimp only
  refine .ite ?_ ?_
  · refine (text_routine toks _).bind fun _ => (Routine.pure _).bind fun _ => ?_
    refine (keyFile?_routine toks _ false).bind fun file => ?_
    split
    · exact .pure _
    · exact readKeys_routine toks _ _ _
  · refine (Routine.pure _).bind fun _ => (keyFile?_routine toks _ false).bind fun file => ?_
    split
    · exact .pure _
    · exact readKeys_routine toks _ _ _

theorem dbig_routine : Routine (dbig toks i) := by
  unfold dbig
  split
  · exact keyGet_routine toks i
  · exact keySet_routine toks i
  · exact keyRemove_routine toks i
  · exact keyCheck_routine toks i
  · exact .pure _

/-! ## Reading values -/

theorem bindNumber_routine (last : Nat) (number : Option String) :
    Routine (bindNumber toks last number) := by
  cases number with
  | some number => exact finish_routine _ _ _
  | none =>
    have crash : Routine (modify Machine.crash) :=
      .modify (fun _ => .of_fields rfl rfl rfl rfl rfl rfl rfl rfl rfl) (.plain rfl rfl)
    exact crash.bind fun _ => .pure _

theorem getNumber_routine (k : Nat) : Routine (getNumber toks k) :=
  (text_routine toks _).bind fun _ => (text_routine toks _).bind fun _ =>
    Luck.advance_routine.bind fun _ => .look rfl fun _ => bindNumber_routine toks _ _

theorem getLuck_routine (start : Nat) : Routine (getLuck toks start i) := by
  unfold getLuck
  dsimp only
  have drawn (choices : List String) :
      Routine (do finish toks (i + 1) [← Luck.pick choices] : Act Nat) :=
    (Luck.pick_routine choices).bind fun _ => finish_routine _ _ _
  split
  · exact getNumber_routine toks _
  · exact getNumber_routine toks _
  · exact (Luck.pick_routine _).bind fun _ => (Luck.pick_routine _).bind fun _ =>
      finish_routine _ _ _
  · exact drawn _
  · exact drawn _
  · exact drawn _
  · exact drawn _
  · exact drawn _
  · exact (Luck.pick_routine _).bind fun _ => (Luck.pick_routine _).bind fun _ =>
      (Persona.mailFor_routine _ _).bind fun _ => finish_routine _ _ _
  · exact Persona.identifier_routine.bind fun _ => finish_routine _ _ _
  · exact .pure _

theorem getAs_routine (j k : Nat) : Routine (getAs toks j k) :=
  .look rfl fun _ => finish_routine _ _ _

theorem replacedValue_routine : Routine (replacedValue toks i) :=
  (text_routine toks i).bind fun _ =>
    .ite ((text_routine toks _).bind fun _ =>
      .ite ((text_routine toks _).bind fun _ => .pure _) (.pure _)) (.pure _)

theorem valuesFrom_routine (steps last : Nat) (values : List String) :
    Routine (valuesFrom toks i steps last values) := by
  induction steps generalizing last values with
  | zero => exact .pure _
  | succ steps ih =>
      refine .ite ((replacedValue_routine toks _).bind fun read => ?_) (.pure _)
      exact .ite (ih _ _) (.pure _)

theorem getValues_routine (j : Nat) : Routine (getValues toks i j) :=
  (valuesFrom_routine toks i _ _ _).bind fun _ => finish_routine _ _ _

theorem getFrom_routine (j : Nat) : Routine (getFrom toks i j) := by
  refine (targetValue?_routine toks _).bind fun target => ?_
  split
  · exact .pure _
  · refine .look rfl fun m => ?_
    split
    · exact finish_routine _ _ _
    · exact .pure _

theorem getCount_routine (j : Nat) : Routine (getCount toks i j) :=
  .ite (.look rfl fun _ => finish_routine _ _ _) (.pure _)

theorem getTime_routine (j : Nat) : Routine (getTime toks i j) := by
  refine .look rfl fun m => ?_
  split
  · exact finish_routine _ _ _
  · exact finish_routine _ _ _
  · refine Routine.bind ?_ fun _ => finish_routine _ _ _
    exact .modify (fun _ => .of_fields rfl rfl rfl rfl rfl rfl rfl rfl rfl) (.plain rfl rfl)
  · exact .pure _

/-- A text that begins with the words for a failure is not empty, so that the bug it raises has a
message. -/
theorem exchanged_routine (text : String) : Routine (exchanged text) := by
  unfold exchanged
  split
  · rename_i failed
    refine (raise_routine ?_).bind fun _ => .pure _
    intro empty
    rw [empty] at failed
    exact absurd failed (by decide)
  · exact .pure _

theorem getWeb_routine (j : Nat) : Routine (getWeb toks j) :=
  (text_routine toks _).bind fun _ => Routine.look rfl fun _ =>
    (exchanged_routine _).bind fun _ => finish_routine _ _ _

theorem getPost_routine (j : Nat) : Routine (getPost toks j) :=
  (text_routine toks _).bind fun _ => (text_routine toks _).bind fun _ =>
    Routine.look rfl fun _ => (exchanged_routine _).bind fun _ => finish_routine _ _ _

theorem getWord_routine (j : Nat) : Routine (getWord toks i j) := by
  unfold getWord
  split
  · exact (value_routine toks j).bind fun _ => finish_routine _ _ _
  · exact getFrom_routine toks i j
  · exact (text_routine toks _).bind fun _ => finish_routine _ _ _
  · exact getLuck_routine toks j i
  · exact (value_routine toks _).bind fun _ => finish_routine _ _ _
  · exact .look rfl fun _ => finish_routine _ _ _
  · exact finish_routine _ _ _
  · exact getSql_routine toks j
  · exact getPost_routine toks j
  · exact .look rfl fun _ => finish_routine _ _ _
  all_goals first
    | exact getValues_routine toks i j
    | exact .pure _

theorem getValue_routine : Routine (getValue toks i) := by
  refine .ite (.pure _) (.ite (getWeb_routine toks _) (.ite (getTime_routine toks i _)
    (.ite (getCount_routine toks i _) ?_)))
  split
  · exact getAs_routine toks _ _
  · exact getWord_routine toks i _

/-! ## The table of verbs -/

theorem attach_steady {run : Runner} (inner : ∀ toks, Steady (run toks)) (toks : TokenStream)
    (i : Nat) : Steady (attach run toks i) := by
  refine .ite (.ite (.pure _) (Steady.get.bind fun _ => ?_)) (.pure _)
  split
  · exact .pure _
  · exact (inner _).bind fun _ => .pure _

theorem attach_heedless {run : Runner} (inner : ∀ toks, Heedless (run toks)) (toks : TokenStream)
    (i : Nat) : Heedless (attach run toks i) := by
  refine .ite (.ite (.pure _) (.look rfl fun _ => ?_)) (.pure _)
  split
  · exact .pure _
  · exact (inner _).bind fun _ => .pure _

/-- The global variables that a verb is free to change: a response belongs to `reply` alone. -/
def responses (kind : Kind) (name : String) : Prop := kind = .word .reply ∧ name ∈ responseNames

/-- Every verb that runs no other source is routine. -/
theorem all_routine (run : Runner) :
    ∀ entry ∈ (Verb.all run).tail, ∀ toks i, Routine (entry.2 toks i) (responses entry.1) := by
  have plain {kind : Kind} {verb : Statement} (routine : ∀ toks i, Routine (verb toks i)) :
      ∀ toks i, Routine (verb toks i) (responses kind) := fun toks i => (routine toks i).widen
  have replies : ∀ toks i, Routine (reply toks i) (responses (.word .reply)) := fun toks i =>
    ⟨fun m => ((reply_routine toks i).steady m).mono fun _ part => ⟨rfl, part⟩,
      (reply_routine toks i).heedless⟩
  simp only [Verb.all, List.tail_cons, List.forall_mem_cons]
  exact ⟨plain print_routine, plain wait_routine, plain ask_routine,
    plain take_routine, plain reset_routine, plain command_routine, plain build_routine, replies,
    plain split_routine, plain replace_routine, plain findPattern_routine, plain pack_routine,
    plain unpack_routine, plain list_routine, plain map_routine, plain event_routine,
    plain getValue_routine, plain openFile_routine,
    plain fun toks i => writeFile_routine toks i false,
    plain fun toks i => writeFile_routine toks i true, plain create_routine, plain delete_routine,
    plain copyFile_routine, plain moveFile_routine, plain bit_routine, plain sql_routine,
    plain dbig_routine, plain foreign_routine, plain userAgent_routine, plain proxy_routine,
    plain header_routine, plain look_routine, fun _ none => absurd none List.not_mem_nil⟩

theorem lookup_cases {run : Runner} {kind : Kind} {verb : Statement}
    (found : (Verb.all run).lookup kind = some verb) :
    verb = attach run ∨ ∀ toks i, Routine (verb toks i) (responses kind) := by
  rcases List.lookup_eq_some_iff.mp found with ⟨first, rest, split, -⟩
  have member : (kind, verb) ∈ Verb.all run := by
    rw [split]
    exact List.mem_append_right first List.mem_cons_self
  rcases List.mem_cons.mp member with attached | other
  · exact .inl (congrArg Prod.snd attached)
  · exact .inr (all_routine run (kind, verb) other)

/-- Where the streams that `attach` runs leave the control state alone, every verb does. -/
theorem lookup_steady {run : Runner} (inner : ∀ toks, Steady (run toks)) {kind : Kind}
    {verb : Statement} (found : (Verb.all run).lookup kind = some verb) (toks : TokenStream)
    (i : Nat) : Steady (verb toks i) (responses kind) := by
  rcases lookup_cases found with rfl | routine
  · exact (attach_steady inner toks i).widen
  · exact (routine toks i).steady

/-- Where the streams that `attach` runs do not look back, no verb does. -/
theorem lookup_heedless {run : Runner} (inner : ∀ toks, Heedless (run toks)) {kind : Kind}
    {verb : Statement} (found : (Verb.all run).lookup kind = some verb) (toks : TokenStream)
    (i : Nat) : Heedless (verb toks i) := by
  rcases lookup_cases found with rfl | routine
  · exact attach_heedless inner toks i
  · exact (routine toks i).heedless

end Verb

namespace Statement

variable (toks : TokenStream) (i : Nat)

/-! ## Assignments -/

theorem assignAt_routine : Routine (assignAt toks i) := by
  refine .ite (.look rfl fun _ => ?_) (.look rfl fun _ =>
    (Operand.assigned_routine toks _).bind fun _ => .look rfl fun _ => .ite (.pure _) ?_)
  · dsimp only
    split
    · exact (Machine.assign_routine _ _).bind fun _ => .pure _
    · exact .pure _
  · exact (Machine.assign_routine _ _).bind fun _ => .pure _

theorem assign_routine : Routine (assign toks i) := (assignAt_routine toks i).bind fun _ => .pure _

/-- The variable that an assignment answers with is the one it is written for. -/
theorem assignAt_target (m : Machine) (name : String)
    (assigned : ((assignAt toks i).run m).1.2 = some name) : name = (toks.peek i).rawName := by
  unfold assignAt at assigned
  dsimp only at assigned
  split at assigned
  · rw [Act.run_bind, Act.run_get] at assigned
    dsimp only at assigned
    split at assigned <;> cases assigned
  · rw [Act.run_bind, Act.run_get, Act.run_bind, Act.run_bind, Act.run_get] at assigned
    dsimp only at assigned
    split at assigned
    · cases assigned
    · exact (Option.some.inj assigned).symm

/-- The global variables that a statement may set whatever their names are: the target of a `global`
assignment, and the parts of a response. -/
def opens (name : String) : Prop :=
  ((toks.peek i).isWord .global = true ∧ toks.isAssignment (i + 1) = true ∧
    name = (toks.peek (i + 1)).rawName) ∨ Verb.responses (toks.peek i).kind name

theorem assignWord_routine : Routine (assignWord toks i) (opens toks i) := by
  unfold assignWord
  split
  · rename_i assignment
    refine .bindOf (fun read => ∀ name, read.2 = some name → name = (toks.peek (i + 1)).rawName)
      (assignAt_routine toks (i + 1)).widen (assignAt_target toks (i + 1)) fun read target => ?_
    dsimp only
    split
    · rename_i word
      split
      · rename_i name named
        refine .look rfl fun _ => ?_
        have free : opens toks i name := .inl ⟨word, assignment, target name named⟩
        split
        · refine .ite (.bind (.modify (fun m => ?_) (.plain rfl rfl)) fun _ => .pure _) (.pure _)
          exact m.setGlobal_sameControl _ (.inr free)
        · exact .pure _
      · exact .pure _
    · exact .pure _
  · exact .pure _

theorem step_routine : Routine (step toks i) := by
  unfold step
  refine .ite ((Operand.measure_routine toks _).bind fun _ => ?_) (.pure _)
  dsimp only
  split
  · exact (printLine_routine _).bind fun _ => .pure _
  · refine .look rfl fun _ => Routine.bind (.modify (fun m => ?_) (.plain rfl rfl)) fun _ =>
      (Machine.assign_routine _ _).bind fun _ => .pure _
    exact .of_fields rfl rfl rfl rfl rfl rfl rfl rfl rfl

theorem plain_routine : Routine (plain toks i) :=
  .ite (assign_routine toks i) (.ite (.pure _) (.pure _))

/-! ## Loops and calls -/

theorem loopLimit_routine (line j : Nat) : Routine (loopLimit toks line j) :=
  .ite (.look rfl fun _ => .pure _) (.pure _)

theorem walkSource_routine (j : Nat) : Routine (walkSource toks j) := by
  refine .look rfl fun _ => ?_
  split <;> exact .pure _

theorem loopWalk?_routine (line j : Nat) : Routine (loopWalk? toks line j) :=
  .ite ((walkSource_routine toks _).bind fun _ => .ite (.pure _) (.pure _)) (.pure _)

theorem arguments_routine (steps j : Nat) (read : List String) :
    Routine (arguments toks steps j read) := by
  induction steps generalizing j read with
  | zero => exact .pure _
  | succ steps ih =>
    refine .ite (.pure _) (.ite (ih _ _) ?_)
    exact (Operand.value_routine toks j).bind fun _ => ih _ _

theorem callArguments_routine : Routine (callArguments toks i) :=
  .ite ((arguments_routine toks _ _ _).bind fun _ => .pure _) (.pure _)

theorem useFeature_routine : Routine (useFeature toks i) := by
  unfold useFeature
  dsimp only
  split
  · exact (Machine.enable_routine _).bind fun _ => .pure _
  · exact (Machine.enable_routine _).bind fun _ => .pure _
  · exact (Machine.enable_routine _).bind fun _ => .pure _
  · exact .ite ((printLine_routine _).bind fun _ => .pure _) (.pure _)
  · exact .ite ((Machine.enable_routine _).bind fun _ => .pure _) (.pure _)

end Statement
end BigScript
