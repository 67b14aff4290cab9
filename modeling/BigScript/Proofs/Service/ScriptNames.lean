import BigScript.Proofs.Naming
import BigScript.Proofs.Service.Creation
import BigScript.Proofs.Service.Deployment
import BigScript.Proofs.Service.Refusals
import Mathlib

/-!
# The names of scripts

A script is deployed by a request or from a file, and either way its name begins with a letter and goes
on with letters, digits, hyphens and underscores.  A file holds the script that is called like it, without
the ending; the path that leads to the file does not count.

The two ways differ in two points.  The name that comes from a file has a longest size, which a request
is not asked for; and a request has to bring a source, while a file may be empty.  Everything else they
have in common: what is accepted is stored under exactly the name, and nothing is stored otherwise.
-/

namespace BigScript

namespace Text

theorem withoutEnding_append (front ending : String) : withoutEnding (front ++ ending) ending = front := by
  unfold withoutEnding
  rw [String.toList_append, List.reverse_append, dropStart?_append]
  dsimp only
  rw [List.reverse_reverse, String.ofList_toList]

/-- A text without an ending has lost it, or did not have it. -/
theorem withoutEnding_cases (s ending : String) :
    s = withoutEnding s ending ++ ending ∨ withoutEnding s ending = s := by
  unfold withoutEnding
  split
  · next rest found =>
    refine .inl (String.toList_inj.mp ?_)
    rw [String.toList_append, String.toList_ofList, ← List.reverse_reverse s.toList,
      dropStart?_eq_some found, List.reverse_append, List.reverse_reverse]
  · exact .inr rfl

/-- What follows the last mark is the last part. -/
theorem splitChars_append (mark : Char) (cs : List Char) {last : List Char} (whole : mark ∉ last) :
    splitChars [mark] (cs ++ mark :: last) = splitChars [mark] cs ++ [last] := by
  by_cases marked : mark ∈ cs
  · rcases List.eq_append_cons_of_mem marked with ⟨before, after, rfl, absent⟩
    have shorter : after.length < (before ++ mark :: after).length := by
      rw [List.length_append, List.length_cons]
      omega
    have later := splitChars_append mark after whole
    rw [List.append_assoc, List.cons_append, splitChars, cutChars_append absent]
    conv_rhs => rw [splitChars, cutChars_append absent]
    dsimp only
    rw [dif_neg (List.cons_ne_nil _ _), dif_neg (List.cons_ne_nil _ _), later, List.cons_append]
  · rw [splitChars, cutChars_append marked]
    conv_rhs => rw [splitChars, cutChars_absent marked]
    dsimp only
    rw [dif_neg (List.cons_ne_nil _ _), splitChars, cutChars_absent whole]
    rfl
termination_by cs.length

/-- Joined texts end with the last of them, which stands at the start or after a separator. -/
theorem join_snoc (separator : String) (front : List String) (last : String) :
    ∃ lead, (join separator (front ++ [last])).toList = lead ++ last.toList ∧
      (lead = [] ∨ ∃ more, lead = more ++ separator.toList) := by
  induction front with
  | nil => exact ⟨[], rfl, .inl rfl⟩
  | cons first rest ih =>
    rcases ih with ⟨lead, text, ends⟩
    have step : join separator (first :: rest ++ [last]) =
        first ++ separator ++ join separator (rest ++ [last]) := by
      cases rest <;> rfl
    refine ⟨(first ++ separator).toList ++ lead, ?_, .inr ?_⟩
    · rw [step, String.toList_append, text, List.append_assoc]
    · rcases ends with rfl | ⟨more, rfl⟩
      · exact ⟨first.toList, by rw [List.append_nil, String.toList_append]⟩
      · exact ⟨(first ++ separator).toList ++ more, (List.append_assoc _ _ _).symm⟩

end Text

namespace Path

/-- Whether a text can be the name of a file. -/
structure FileName (file : String) : Prop where
  whole : '/' ∉ file.toList
  some : file ≠ ""
  notHere : file ≠ "."
  notUp : file ≠ ".."

variable {file path : String}

theorem cleanParts_name (named : FileName file) (absolute : Bool) (kept : List String) :
    cleanParts absolute kept [file] = kept.reverse ++ [file] := by
  unfold cleanParts
  rw [if_neg (by simp [named.some, named.notHere]), if_neg (by simp [named.notUp])]
  exact List.reverse_cons

theorem cleanParts_snoc (named : FileName file) (absolute : Bool) (kept parts : List String) :
    ∃ front, cleanParts absolute kept (parts ++ [file]) = front ++ [file] := by
  induction parts generalizing kept with
  | nil => exact ⟨kept.reverse, cleanParts_name named absolute kept⟩
  | cons part rest ih =>
    rw [List.cons_append]
    unfold cleanParts
    split
    · exact ih _
    · split
      · split
        · split
          · exact ih _
          · exact ih _
        · exact ih _
      · exact ih _

/-- The last part of a path is the name that stands at its start or after a slash. -/
theorem base_of_toList (named : FileName file) {lead : List Char}
    (text : path.toList = lead ++ file.toList) (ends : lead = [] ∨ ∃ more, lead = more ++ ['/']) :
    base path = file := by
  have within (c : Char) (among : c ∈ file.toList.reverse) : (c != '/') = true := by
    rw [bne_iff_ne]
    rintro rfl
    exact named.whole (List.mem_reverse.mp among)
  have reversed : path.toList.reverse = file.toList.reverse ++ lead.reverse := by
    rw [text, List.reverse_append]
  have first : ∃ c cs, path.toList.reverse = c :: cs ∧ (c == '/') = false := by
    cases shape : file.toList.reverse with
    | nil => exact absurd (String.toList_eq_nil_iff.mp (List.reverse_eq_nil_iff.mp shape)) named.some
    | cons c cs =>
      refine ⟨c, cs ++ lead.reverse, by rw [reversed, shape, List.cons_append], ?_⟩
      exact beq_eq_false_iff_ne.mpr (bne_iff_ne.mp (within c (shape ▸ List.mem_cons_self)))
  rcases first with ⟨c, cs, shape, apart⟩
  have trimmed : Text.dropRightWhile (· == '/') path.toList = path.toList := by
    rw [Text.dropRightWhile, shape, List.dropWhile_cons_of_neg (by rw [apart]; decide), ← shape,
      List.reverse_reverse]
  have some : path.toList ≠ [] := by
    intro none
    rw [none] at shape
    cases shape
  unfold base
  rw [if_neg (by rwa [String.isEmpty_iff, ← String.toList_eq_nil_iff]), trimmed]
  dsimp only
  rw [if_neg (by rwa [List.isEmpty_iff]), reversed, List.takeWhile_append_of_pos within]
  have stops : lead.reverse.takeWhile (· != '/') = [] := by
    rcases ends with rfl | ⟨more, rfl⟩
    · rfl
    · rw [List.reverse_append]
      rfl
  rw [stops, List.append_nil, List.reverse_reverse, String.ofList_toList]

theorem base_clean (named : FileName file) {front : List String} (split : parts path = front ++ [file]) :
    base (clean path) = file := by
  rcases cleanParts_snoc named (isAbsolute path) [] front with ⟨kept, cleaned⟩
  rcases Text.join_snoc "/" kept file with ⟨lead, text, ends⟩
  have some : Text.join "/" (kept ++ [file]) ≠ "" := by
    intro none
    rw [none] at text
    exact named.some (String.toList_eq_nil_iff.mp (List.append_eq_nil_iff.mp text.symm).2)
  unfold clean
  dsimp only
  rw [split, cleaned]
  split
  · have rooted : ("/" ++ Text.join "/" (kept ++ [file])).toList = '/' :: lead ++ file.toList := by
      rw [String.toList_append, text]
      rfl
    refine base_of_toList named rooted (.inr ?_)
    rcases ends with rfl | ⟨more, rfl⟩
    · exact ⟨[], rfl⟩
    · exact ⟨'/' :: more, rfl⟩
  · rw [if_neg (by rwa [String.isEmpty_iff])]
    exact base_of_toList named text ends

theorem parts_append (folder : String) (whole : '/' ∉ file.toList) :
    parts (folder ++ "/" ++ file) = parts folder ++ [file] := by
  have text : (folder ++ "/" ++ file).toList = folder.toList ++ '/' :: file.toList := by
    rw [String.toList_append, String.toList_append, List.append_assoc]
    rfl
  change (Text.splitChars ['/'] (folder ++ "/" ++ file).toList).map String.ofList = _
  rw [text, Text.splitChars_append _ _ whole, List.map_append, List.map_singleton, String.ofList_toList]
  rfl

theorem parts_of_whole (whole : '/' ∉ file.toList) : parts file = [file] := by
  change (Text.splitChars ['/'] file.toList).map String.ofList = _
  rw [Text.splitChars, Text.cutChars_absent whole]
  exact congrArg (fun name => [name]) String.ofList_toList

/-- The last part of a path that leads to a file of a folder is the name of the file. -/
theorem base_join (named : FileName file) (folder : String) : base (join folder file) = file := by
  have some : file.isEmpty = false := by
    rw [← Bool.not_eq_true, String.isEmpty_iff]
    exact named.some
  unfold join
  rw [some, Bool.and_false, if_neg Bool.false_ne_true, if_neg Bool.false_ne_true]
  split
  · exact base_clean named ((parts_of_whole named.whole).trans (List.nil_append _).symm)
  · exact base_clean named (parts_append folder named.whole)

theorem relative_of_whole (whole : '/' ∉ file.toList) : isAbsolute file = false := by
  rw [isAbsolute, Text.startsWith, ← Bool.not_eq_true, Option.isSome_iff_exists]
  rintro ⟨rest, found⟩
  rw [Text.dropStart?_eq_some found] at whole
  exact whole List.mem_cons_self

/-- The ending of a name is what follows its last dot. -/
theorem extension_append {front ending : String} {rest : List Char} (whole : '/' ∉ front.toList)
    (text : ending.toList = '.' :: rest) (undotted : '.' ∉ rest) (unslashed : '/' ∉ rest) :
    extension (front ++ ending) = ending := by
  have reversed : (front ++ ending).toList.reverse = rest.reverse ++ '.' :: front.toList.reverse := by
    rw [String.toList_append, text, List.reverse_append, List.reverse_cons, List.append_assoc]
    rfl
  have last : (front ++ ending).toList.reverse.takeWhile (· != '/') =
      rest.reverse ++ '.' :: front.toList.reverse := by
    rw [reversed, List.takeWhile_eq_self_iff]
    intro c among
    rw [bne_iff_ne]
    rintro rfl
    rcases List.mem_append.mp among with here | there
    · exact unslashed (List.mem_reverse.mp here)
    · rcases List.mem_cons.mp there with dot | there
      · exact absurd dot (by decide)
      · exact whole (List.mem_reverse.mp there)
  have within (c : Char) (among : c ∈ rest.reverse) : (c != '.') = true := by
    rw [bne_iff_ne]
    rintro rfl
    exact undotted (List.mem_reverse.mp among)
  unfold extension
  dsimp only
  rw [last, if_pos (by simp), List.takeWhile_append_of_pos within,
    List.takeWhile_cons_of_neg (by decide), List.append_nil, List.reverse_reverse, ← text,
    String.ofList_toList]

theorem dotted_of_extension (ends : extension file ≠ "") : '.' ∈ file.toList := by
  unfold extension at ends
  dsimp only at ends
  split at ends
  · next dotted =>
    exact List.mem_reverse.mp (List.takeWhile_subset _ (List.contains_iff_mem.mp dotted))
  · exact absurd rfl ends

end Path

namespace Service

/-- Whether the name of a script will do for a file. -/
def Fits (name : String) : Prop := isScriptName name = true ∧ name.utf8ByteSize ≤ 128

instance (name : String) : Decidable (Fits name) := inferInstanceAs (Decidable (_ ∧ _))

theorem not_mem_of_isScriptName {name : String} (named : isScriptName name = true) :
    '/' ∉ name.toList ∧ '.' ∉ name.toList := by
  unfold isScriptName at named
  split at named
  · cases named
  · next c cs text =>
    rw [Bool.and_eq_true, List.all_eq_true] at named
    rw [text]
    constructor <;> intro among <;> rcases List.mem_cons.mp among with rfl | among
    · exact absurd named.1 (by decide)
    · exact absurd (named.2 _ among) (by decide)
    · exact absurd named.1 (by decide)
    · exact absurd (named.2 _ among) (by decide)

theorem extension_scriptFile {name : String} (whole : '/' ∉ name.toList) :
    Path.extension (name ++ scriptEnding) = scriptEnding :=
  have text : scriptEnding.toList = ['.', 'b', 'i', 'g'] := by decide
  Path.extension_append whole text (by decide) (by decide)

theorem fileName_of_extension {file : String} (whole : '/' ∉ file.toList)
    (ends : Path.extension file = scriptEnding) : Path.FileName file := by
  have apart (short : String) (other : Path.extension short ≠ scriptEnding) : file ≠ short := by
    rintro rfl
    exact other ends
  exact ⟨whole, apart "" (by decide), apart "." (by decide), apart ".." (by decide)⟩

theorem fileName_scriptFile {name : String} (whole : '/' ∉ name.toList) :
    Path.FileName (name ++ scriptEnding) := by
  refine fileName_of_extension ?_ (extension_scriptFile whole)
  rw [String.toList_append, List.mem_append, not_or]
  exact ⟨whole, by decide⟩

theorem scriptName?_of_base {path name : String} (whole : '/' ∉ name.toList)
    (last : Path.base path = name ++ scriptEnding) :
    scriptName? path = if isScriptName name && name.utf8ByteSize ≤ 128 then some name else none := by
  unfold scriptName?
  dsimp only
  rw [last, extension_scriptFile whole, Text.withoutEnding_append, if_neg (by simp)]

/-- The name of a script is that of its file without the ending. -/
theorem base_of_scriptName? {path name : String} (named : scriptName? path = some name) :
    Path.base path = name ++ scriptEnding := by
  have fine := isScriptName_of_scriptName? named
  unfold scriptName? at named
  dsimp only at named
  split at named
  · cases named
  · next ends =>
    split at named
    · cases named
      rcases Text.withoutEnding_cases (Path.base path) scriptEnding with kept | same
      · exact kept
      · -- Otherwise the whole name of the file would be that of the script, its dot included.
        have some : Path.extension (Path.base path) ≠ "" := by
          have known : Path.extension (Path.base path) = scriptEnding := by simpa using ends
          rw [known]
          decide
        rw [same] at fine
        exact absurd (Path.dotted_of_extension some) (not_mem_of_isScriptName fine).2
    · cases named

theorem fits_of_scriptName? {path name : String} (named : scriptName? path = some name) :
    Fits name := by
  unfold scriptName? at named
  dsimp only at named
  split at named
  · cases named
  · split at named
    · next fine =>
      cases named
      rwa [Bool.and_eq_true, decide_eq_true_eq] at fine
    · cases named

/-! ## What is stored -/

namespace Catalog

/-- Whether a source is stored under exactly a name. -/
def Offers (catalog : Catalog) (name source : String) : Prop :=
  ∃ script, catalog.script? name = some script ∧ script.name = name ∧ script.source = source

/-- Whether a source has been stored under a name, and nothing under another. -/
structure Gains (before after : Catalog) (name source : String) : Prop where
  offers : after.Offers name source
  others : ∀ other, other ≠ name → after.script? other = before.script? other

variable {catalog : Catalog} {name source : String}

theorem put_offers (catalog : Catalog) (now : Moment) (name source : String) :
    (catalog.put now name source).2.2.Offers name source :=
  ⟨_, by rw [put_script?, if_pos rfl], rfl, rfl⟩

theorem put_gains (catalog : Catalog) (now : Moment) (name source : String) :
    Gains catalog (catalog.put now name source).2.2 name source where
  offers := put_offers catalog now name source
  others other apart := by rw [put_script?, if_neg (Ne.symm apart)]

theorem puts_offers {now : Moment} {items : List (String × String)}
    (same : ∀ item ∈ items, item.1 = name → item.2 = source)
    (offered : catalog.Offers name source ∨ ∃ item ∈ items, item.1 = name) :
    (catalog.after (Server.puts now items)).Offers name source := by
  induction items generalizing catalog now with
  | nil => exact offered.resolve_right fun ⟨_, among, _⟩ => nomatch among
  | cons item rest ih =>
    rcases item with ⟨other, text⟩
    refine ih (fun item among => same item (List.mem_cons_of_mem _ among)) ?_
    by_cases here : other = name
    · subst here
      obtain rfl : text = source := same _ List.mem_cons_self rfl
      exact .inl (put_offers catalog now other text)
    · rcases offered with ⟨script, found, stored⟩ | ⟨item, among, named⟩
      · refine .inl ⟨script, ?_, stored⟩
        exact (put_script? catalog now other text name).trans ((if_neg here).trans found)
      · rcases List.mem_cons.mp among with rfl | among
        · exact absurd named here
        · exact .inr ⟨item, among, named⟩

theorem puts_apart {now : Moment} {items : List (String × String)}
    (apart : ∀ item ∈ items, item.1 ≠ name) :
    (catalog.after (Server.puts now items)).script? name = catalog.script? name := by
  induction items generalizing catalog now with
  | nil => rfl
  | cons item rest ih =>
    rcases item with ⟨other, text⟩
    refine (ih fun item among => apart item (List.mem_cons_of_mem _ among)).trans ?_
    exact (put_script? catalog now other text name).trans (if_neg (apart _ List.mem_cons_self))

end Catalog

/-! ## Requests -/

/-- Whether a request asks for a source to be deployed under a name, which may stand in the query. -/
structure Request.Posts (request : Request) (name source : String) : Prop where
  method : request.method = "POST"
  path : request.path = "/v1/scripts"
  form : ∃ form, Body.deployment request = .ok form ∧ form.source = source ∧
    (if form.name.isEmpty then ((formFields request.query).lookup "name").getD "" else form.name) = name

namespace Server

variable {server : Server} {name source : String} {request : Request}

theorem createScript_accepts (posts : request.Posts name source)
    (named : isScriptName name = true) (some : source ≠ "") (fine : sourceProblem? source = none)
    (free : server.catalog.script? name = none) :
    ∃ response : Response, response.status = 200 ∧ server.createScript request =
      (response, { server with catalog := (server.catalog.put server.now name source).2.2 }) := by
  rcases posts.form with ⟨form, reads, rfl, asked⟩
  unfold createScript
  rw [reads]
  dsimp only
  rw [asked, named, if_neg (by decide), if_neg (by rwa [String.isEmpty_iff]), fine]
  dsimp only
  rw [Catalog.create, free]
  exact ⟨_, rfl, rfl⟩

theorem createScript_refuses (posts : request.Posts name source)
    (unfit : ¬ (isScriptName name = true ∧ source ≠ "")) :
    ∃ response : Response, response.status = 400 ∧ server.createScript request = (response, server) := by
  rcases posts.form with ⟨form, reads, rfl, asked⟩
  unfold createScript
  rw [reads]
  dsimp only
  rw [asked]
  split
  · exact ⟨_, rfl, rfl⟩
  · next named =>
    split
    · exact ⟨_, rfl, rfl⟩
    · next some =>
      refine absurd ⟨by simpa using named, ?_⟩ unfit
      rwa [String.isEmpty_iff] at some

theorem recordAll_script? (server : Server) (runs : List Running) (name : String) :
    (server.recordAll runs).catalog.script? name = server.catalog.script? name := by
  induction runs generalizing server with
  | nil => rfl
  | cons run rest ih =>
    rcases server.record_operation run.id run.script run.ending with ⟨operation, ends, recorded⟩
    refine (ih (server.record run.id run.script run.ending)).trans ?_
    rw [recorded]
    exact Operation.run_script? (by cases ends <;> rfl)

/-- Runs that come to their end change no script. -/
theorem settle_script? (server : Server) (name : String) :
    server.settle.catalog.script? name = server.catalog.script? name := by
  rw [settle_eq]
  exact recordAll_script? _ _ name

theorem answer_posts (posts : request.Posts name source) :
    server.answer request = (server.wait requestTime).settle.createScript request := by
  have routed : route? "POST" "/v1/scripts" = some .createScript := by decide +kernel
  unfold answer
  dsimp only
  rw [posts.method, posts.path, routed, if_neg (by decide)]
  exact Prod.mk.eta

/-- A request is accepted if the name will do and there is a source. -/
theorem answer_accepts (posts : request.Posts name source) (named : isScriptName name = true)
    (some : source ≠ "") (fine : sourceProblem? source = none)
    (free : server.catalog.script? name = none) :
    (server.answer request).1.status = 200 ∧
      server.catalog.Gains (server.answer request).2.catalog name source := by
  have settled (other : String) :
      (server.wait requestTime).settle.catalog.script? other = server.catalog.script? other :=
    settle_script? _ other
  rcases createScript_accepts posts named some fine ((settled name).trans free) with
    ⟨response, status, created⟩
  rw [answer_posts posts, created]
  have gains := Catalog.put_gains (server.wait requestTime).settle.catalog
    (server.wait requestTime).settle.now name source
  exact ⟨status, gains.offers, fun other apart => (gains.others other apart).trans (settled other)⟩

theorem answer_refuses (posts : request.Posts name source)
    (unfit : ¬ (isScriptName name = true ∧ source ≠ "")) :
    (server.answer request).1.status = 400 ∧
      ∀ other, (server.answer request).2.catalog.script? other = server.catalog.script? other := by
  rcases (server.wait requestTime).settle.createScript_refuses posts unfit with
    ⟨response, status, refused⟩
  rw [answer_posts posts, refused]
  exact ⟨status, settle_script? _⟩

/-! ## Files -/

/-- Whether a folder holds a file that is called like a script, with the source in it. -/
structure Holds (server : Server) (folder name source : String) : Prop where
  lists : ∃ place names, server.files.list folder = .ok (place, names) ∧
    name ++ scriptEnding ∈ names ∧
    server.files.find? (place ++ [name ++ scriptEnding]) ≠ some .folder ∧
    ∀ other ∈ names, '/' ∉ other.toList
  reads : server.files.read (Path.join folder (name ++ scriptEnding)) = .ok source

theorem fileScript?_eq_some {path : String} :
    server.fileScript? path = some (name, source) ↔
      scriptName? path = some name ∧ server.files.read path = .ok source ∧
        sourceProblem? source = none := by
  unfold fileScript?
  cases scriptName? path with
  | none => simp
  | some found =>
    cases server.files.read path with
    | error _ => simp [Except.toOption]
    | ok text =>
      cases problem : sourceProblem? text with
      | none =>
        simp [Except.toOption, problem]
        rintro - rfl
        exact problem
      | some _ =>
        simp [Except.toOption, problem]
        rintro - rfl
        rw [problem]
        exact Option.some_ne_none _

/-- Of a folder no script is deployed under a name that will not do. -/
theorem loadFolder_unfit (folder : String) (unfit : ¬ Fits name)
    (free : server.catalog.script? name = none) :
    (Event.run server (.folder folder)).catalog.script? name = none := by
  rw [loadFolder_catalog]
  refine (Catalog.puts_apart fun item among named => unfit ?_).trans free
  rcases List.mem_filterMap.mp among with ⟨path, -, held⟩
  exact named ▸ fits_of_scriptName? (fileScript?_eq_some.mp held).1

theorem changeAsked?_written {change : FileChange} (among : change ∈ [.created, .written])
    (path : String) : server.changeAsked? change path =
      (server.fileScript? path).map fun (name, source) => .put server.now name source := by
  rcases List.mem_pair.mp among with rfl | rfl <;> rfl

namespace Holds

variable {folder : String} (holds : server.Holds folder name source)
include holds

theorem whole : '/' ∉ name.toList := by
  rcases holds.lists with ⟨place, names, -, among, -, whole⟩
  have undivided := whole _ among
  rw [String.toList_append, List.mem_append, not_or] at undivided
  exact undivided.1

theorem base : Path.base (Path.join folder (name ++ scriptEnding)) = name ++ scriptEnding :=
  Path.base_join (fileName_scriptFile holds.whole) folder

theorem scriptName? : scriptName? (Path.join folder (name ++ scriptEnding)) =
    if isScriptName name && name.utf8ByteSize ≤ 128 then some name else none :=
  scriptName?_of_base holds.whole holds.base

theorem fileScript? (fits : Fits name) (fine : sourceProblem? source = none) :
    server.fileScript? (Path.join folder (name ++ scriptEnding)) = some (name, source) := by
  refine fileScript?_eq_some.mpr ⟨?_, holds.reads, fine⟩
  rw [holds.scriptName?, fits.1]
  exact if_pos (decide_eq_true fits.2)

/-- The file is among those that are taken for scripts. -/
theorem mem_folderPaths : Path.join folder (name ++ scriptEnding) ∈ server.folderPaths folder := by
  rcases holds.lists with ⟨place, names, listed, among, noFolder, -⟩
  unfold folderPaths
  rw [listed]
  refine List.mem_map.mpr ⟨_, List.mem_filter.mpr ⟨List.mem_mergeSort.mpr among, ?_⟩, rfl⟩
  rw [extension_scriptFile holds.whole, beq_self_eq_true, Bool.true_and, bne_iff_ne]
  exact noFolder

/-- Whatever of the folder is deployed under the name is the source in this file. -/
theorem same {item : String × String}
    (among : item ∈ (server.folderPaths folder).filterMap server.fileScript?)
    (named : item.1 = name) : item.2 = source := by
  rcases List.mem_filterMap.mp among with ⟨path, taken, held⟩
  rcases fileScript?_eq_some.mp held with ⟨called, reads, -⟩
  rcases holds.lists with ⟨place, names, listed, -, -, whole⟩
  unfold folderPaths at taken
  rw [listed] at taken
  rcases List.mem_map.mp taken with ⟨file, kept, rfl⟩
  rcases List.mem_filter.mp kept with ⟨inside, ends⟩
  have ending : Path.extension file = scriptEnding := eq_of_beq (Bool.and_eq_true_iff.mp ends).1
  have proper := fileName_of_extension (whole file (List.mem_mergeSort.mp inside)) ending
  have last := base_of_scriptName? called
  rw [Path.base_join proper folder, named] at last
  rw [last, holds.reads] at reads
  exact (Except.ok.inj reads).symm

/-- The file is deployed with its folder exactly if its name will do. -/
theorem loaded_iff (fine : sourceProblem? source = none)
    (free : server.catalog.script? name = none) :
    (Event.run server (.folder folder)).catalog.Offers name source ↔ Fits name := by
  constructor
  · rintro ⟨script, found, -⟩
    by_contra unfit
    rw [loadFolder_unfit folder unfit free] at found
    cases found
  · intro fits
    rw [loadFolder_catalog]
    refine Catalog.puts_offers (fun item => holds.same) (.inr ⟨(name, source), ?_, rfl⟩)
    exact List.mem_filterMap.mpr ⟨_, holds.mem_folderPaths, holds.fileScript? fits fine⟩

theorem followed (fine : sourceProblem? source = none) {change : FileChange}
    (among : change ∈ [.created, .written]) (fits : Fits name) :
    server.catalog.Gains
      (server.follow change (Path.join folder (name ++ scriptEnding))).catalog name source := by
  rw [follow_catalog, changeAsked?_written among, holds.fileScript? fits fine]
  exact Catalog.put_gains server.catalog server.now name source

theorem ignored {change : FileChange} (among : change ∈ [.created, .written]) (unfit : ¬ Fits name) :
    (server.follow change (Path.join folder (name ++ scriptEnding))).catalog = server.catalog := by
  have unnamed : Service.scriptName? (Path.join folder (name ++ scriptEnding)) = none := by
    rw [holds.scriptName?]
    refine if_neg ?_
    rwa [Bool.and_eq_true, decide_eq_true_eq]
  rw [follow_catalog, changeAsked?_written among, fileScript?_unnamed unnamed]
  rfl

end Holds

end Server

/-! ## The law -/

/-- How a client and a file fare who bring the same source under the same name. -/
structure NamingLaw (server : Server) (name source : String) : Prop where
  /-- A request is accepted if the name has the right letters and there is a source. -/
  accepted : ∀ request : Request, request.Posts name source →
    ((server.answer request).1.status = 200 ↔ isScriptName name = true ∧ source ≠ "")
  /-- Then the source is stored under exactly this name. -/
  created : ∀ request : Request, request.Posts name source →
    (server.answer request).1.status = 200 →
      server.catalog.Gains (server.answer request).2.catalog name source
  /-- Otherwise no script is touched. -/
  refused : ∀ request : Request, request.Posts name source →
    (server.answer request).1.status ≠ 200 → (server.answer request).1.status = 400 ∧
      ∀ other, (server.answer request).2.catalog.script? other = server.catalog.script? other
  /-- A file is deployed with its folder if the name has the right letters and is not too long, and
  then it is stored under exactly this name. -/
  loaded : ∀ folder, server.Holds folder name source →
    ((Event.run server (.folder folder)).catalog.Offers name source ↔ Fits name)
  /-- Otherwise nothing is stored under this name, whatever the folder holds. -/
  skipped : ∀ folder, ¬ Fits name →
    (Event.run server (.folder folder)).catalog.script? name = none
  /-- The same goes for a file of a watched folder that is made or written. -/
  followed : ∀ folder, server.Holds folder name source → ∀ change ∈ [.created, .written],
    Fits name → server.catalog.Gains
      (server.follow change (Path.join folder (name ++ scriptEnding))).catalog name source
  ignored : ∀ folder, server.Holds folder name source → ∀ change ∈ [.created, .written],
    ¬ Fits name →
      (server.follow change (Path.join folder (name ++ scriptEnding))).catalog = server.catalog
  /-- So the two agree except for long names, which only a client can give, and for the empty source,
  which only a file can hold. -/
  agreed : ∀ (request : Request) (folder : String), request.Posts name source →
    server.Holds folder name source →
      (((server.answer request).1.status = 200 ↔
        (Event.run server (.folder folder)).catalog.Offers name source) ↔
          (isScriptName name = true → (source ≠ "" ↔ name.utf8ByteSize ≤ 128)))

theorem naming_law {server : Server} {name source : String} (fine : sourceProblem? source = none)
    (free : server.catalog.script? name = none) : NamingLaw server name source := by
  have accepted (request : Request) (posts : request.Posts name source) :
      (server.answer request).1.status = 200 ↔ isScriptName name = true ∧ source ≠ "" := by
    constructor
    · intro status
      by_contra unfit
      rw [(Server.answer_refuses posts unfit).1] at status
      cases status
    · rintro ⟨named, some⟩
      exact (Server.answer_accepts posts named some fine free).1
  have agreed (request : Request) (folder : String) (posts : request.Posts name source)
      (holds : server.Holds folder name source) :
      ((server.answer request).1.status = 200 ↔
        (Event.run server (.folder folder)).catalog.Offers name source) ↔
          (isScriptName name = true → (source ≠ "" ↔ name.utf8ByteSize ≤ 128)) := by
    rw [accepted request posts, holds.loaded_iff fine free, Fits]
    exact and_congr_right_iff
  refine ⟨accepted, ?_, ?_, fun _ holds => holds.loaded_iff fine free,
    fun folder unfit => Server.loadFolder_unfit folder unfit free,
    fun _ holds _ among => holds.followed fine among, fun _ holds _ among => holds.ignored among,
    agreed⟩
  · intro request posts status
    rcases (accepted request posts).mp status with ⟨named, some⟩
    exact (Server.answer_accepts posts named some fine free).2
  · intro request posts status
    exact Server.answer_refuses posts fun fit => status ((accepted request posts).mpr fit)

/-! ### A long name -/

/-- A server whose folder holds a short script under a name. -/
def holding (name : String) : Server :=
  { files := { entries := [([name ++ scriptEnding], .file (.text "print 1"))] } }

/-- A request to deploy a short script under a name. -/
def posting (name : String) : Request where
  method := "POST"
  target := "/v1/scripts"
  contentType := "application/json"
  body := "\x7b\"name\":\"" ++ name ++ "\",\"source\":\"print 1\"\x7d"

/-- A name of 129 letters. -/
def longName : String := String.ofList (List.replicate 129 'a')

theorem posting_posts {name : String} (some : name ≠ "")
    (reads : Body.deployment (posting name) = .ok ⟨name, "print 1"⟩) :
    (posting name).Posts name "print 1" where
  method := rfl
  path := by
    have path : Request.path { method := "POST", target := "/v1/scripts" } = "/v1/scripts" := by
      decide +kernel
    exact path
  form := ⟨⟨name, "print 1"⟩, reads, rfl, if_neg (by rwa [String.isEmpty_iff])⟩

/-- The file is there under whatever name a file can have. -/
theorem holding_holds {name : String} (whole : '/' ∉ name.toList) :
    (holding name).Holds "." name "print 1" := by
  have here : Path.parts "." = ["."] := by decide +kernel
  have file := fileName_scriptFile whole
  have some : (name ++ scriptEnding).isEmpty = false := by
    rw [← Bool.not_eq_true, String.isEmpty_iff]
    exact file.some
  have names : (holding name).files.names [] = [name ++ scriptEnding] := by
    unfold FileTree.names holding FileTree.parent
    simp
  have listed : (holding name).files.list "." = .ok ([], [name ++ scriptEnding]) := by
    unfold FileTree.list FileTree.lookup FileTree.locate
    rw [if_neg (by decide), here]
    change Except.ok ([], (holding name).files.names []) = _
    rw [names]
  have found : (holding name).files.find? [name ++ scriptEnding] =
      .some (.file (.text "print 1")) := by
    unfold FileTree.find? holding
    simp
  have joined : Path.join "." (name ++ scriptEnding) = name ++ scriptEnding := by
    have relative : Path.isAbsolute ("." ++ "/" ++ (name ++ scriptEnding)) = false := by
      unfold Path.isAbsolute Text.startsWith
      rw [String.toList_append]
      rfl
    have cleaned : Path.cleanParts false [] (["."] ++ [name ++ scriptEnding]) =
        [name ++ scriptEnding] := Path.cleanParts_name file false []
    unfold Path.join Path.clean
    dsimp only
    rw [some, Path.parts_append "." file.whole, here, relative, cleaned]
    exact if_neg (ne_true_of_eq_false some)
  have located : (holding name).files.locate (name ++ scriptEnding) = .ok [name ++ scriptEnding] := by
    unfold FileTree.locate
    rw [Path.parts_of_whole file.whole, some, Path.relative_of_whole file.whole]
    unfold FileTree.walk
    simp [file.some, file.notHere, file.notUp, FileTree.find?, FileTree.walk]
  refine ⟨⟨[], [name ++ scriptEnding], listed, List.mem_singleton_self _, ?_, ?_⟩, ?_⟩
  · rw [List.nil_append, found]
    nofun
  · rw [List.forall_mem_singleton]
    exact file.whole
  · rw [joined]
    unfold FileTree.read FileTree.content FileTree.lookup
    rw [located]
    dsimp only [bind, Except.bind]
    rw [found]
    rfl

theorem print_fine : sourceProblem? "print 1" = none := by decide +kernel

/-- A short name will do for both. -/
theorem naming_law_hello :
    sourceProblem? "print 1" = none ∧ (holding "hello").catalog.script? "hello" = none ∧
      (posting "hello").Posts "hello" "print 1" ∧ (holding "hello").Holds "." "hello" "print 1" ∧
      ((holding "hello").answer (posting "hello")).1.status = 200 ∧
      (Event.run (holding "hello") (.folder ".")).catalog.Offers "hello" "print 1" := by
  have posts : (posting "hello").Posts "hello" "print 1" :=
    posting_posts (by decide) (Server.ok_of_toOption (by decide +kernel))
  have holds : (holding "hello").Holds "." "hello" "print 1" := holding_holds (by decide)
  have law : NamingLaw (holding "hello") "hello" "print 1" := naming_law print_fine rfl
  refine ⟨print_fine, rfl, posts, holds, ?_, ?_⟩
  · exact (law.accepted _ posts).mpr (by decide)
  · exact (law.loaded "." holds).mpr (by decide +kernel)

/-- A request may give this one, and the file with it is left out. -/
theorem longName_apart :
    sourceProblem? "print 1" = none ∧ (holding longName).catalog.script? longName = none ∧
      (posting longName).Posts longName "print 1" ∧ (holding longName).Holds "." longName "print 1" ∧
      ((holding longName).answer (posting longName)).1.status = 200 ∧
      ¬ (Event.run (holding longName) (.folder ".")).catalog.Offers longName "print 1" := by
  have ⟨named, long, given, whole⟩ : isScriptName longName = true ∧ ¬ longName.utf8ByteSize ≤ 128 ∧
      longName ≠ "" ∧ '/' ∉ longName.toList := by
    decide +kernel
  have posts : (posting longName).Posts longName "print 1" :=
    posting_posts given (Server.ok_of_toOption (by decide +kernel))
  have holds : (holding longName).Holds "." longName "print 1" := holding_holds whole
  refine ⟨print_fine, rfl, posts, holds, ?_, ?_⟩
  · exact (Server.answer_accepts posts named (by decide) print_fine rfl).1
  · rw [holds.loaded_iff print_fine rfl]
    exact fun fits => long fits.2

end Service

end BigScript
