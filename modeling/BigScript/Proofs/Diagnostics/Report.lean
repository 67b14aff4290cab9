import BigScript.Proofs.Diagnostics.Line
import BigScript.Proofs.Diagnostics.Underway

/-!
# What a diagnostic block quotes

A thread that is stopped quotes the line of its statement, and for every open call the line of the
`run` that has made it.  The streams of a run come from several sources: the one that is run, the files
and environments that it includes, and those of earlier runs, whose functions are still known.  A thread
keeps the lines of the first only.

`diagnostics_law` says what follows.  The number is always that of the statement, on a line of the
source that the statement comes from.  The text is that of the line with this number in the source that
is run.  So a quotation is right for every statement of that source, and nothing ties it to any other.
-/

namespace BigScript

open Config Statement

/-- The sources that the statements of a run come from: the one that is run, those of the functions
known before, and what is read from files. -/
inductive SourceOf (source : String) (toks : TokenStream) (m : Machine) : String → Prop where
  | main : SourceOf source toks m source
  | earlier {own : String} {entry : String × Procedure} (known : entry ∈ m.procedures)
      (lexed : LexedFrom own entry.2.body) : SourceOf source toks m own
  | file {own path : String} {c : Config} (reached : Reaches (.start toks m) c)
      (read : c.machine.files.read path = .ok own) : SourceOf source toks m own

/-! ## The streams of a run -/

/-- A property of streams that a run passes on to the functions that it defines and to the files that it
includes. -/
structure Inherits (toks : TokenStream) (m : Machine) (fits : TokenStream → Prop) : Prop where
  definition : ∀ {stream : TokenStream} {i : Nat}, fits stream → i < stream.size →
    fits (Statement.definition stream i).body
  source : ∀ {c : Config} {stream : TokenStream} {i : Nat} {ready : Machine} {nested : Nested},
    Reaches (.start toks m) c → fits stream → c.machine.arrive stream i = .ready ready →
      nested? stream i ready = some nested → nested.purpose = .source → fits nested.inner

namespace Config

variable {toks : TokenStream} {m : Machine} {c next : Config} {fits : TokenStream → Prop}

/-- A property of every stream that a run can come back to from a moment. -/
structure Streams (fits : TokenStream → Prop) (c : Config) : Prop where
  focus : ∀ stream i, c.focus = .token stream i → fits stream
  waiting : ∀ first ∈ c.waiting, fits first.stream
  knows : c.machine.Knows fits

theorem Step.streams (inherits : Inherits toks m fits) (reached : Reaches (.start toks m) c)
    (step : Step c next) (fine : c.Streams fits) : next.Streams fits := by
  have proper := reached.proper (start_proper toks m)
  rcases fine with ⟨focus, waiting, knows⟩
  cases step with
  | @ends before out stream i rest arrived =>
    have arrival := arrives stream i before
    rw [arrived] at arrival
    exact ⟨nofun, waiting, knows.of_eq arrival.ends_procedures⟩
  | @alone before ready stream i rest arrived alone =>
    have here := focus stream i rfl
    have arrival := arrives stream i before
    rw [arrived] at arrival
    have begun := knows.of_eq arrival.ready_procedures
    refine ⟨fun _ _ same => by cases same; exact here, waiting, ?_⟩
    rcases dispatch_procedures stream i alone with same | defined
    · exact begun.of_eq same
    · rw [defined]
      exact begun.define (inherits.definition here arrival.inside)
  | @enter before ready stream i rest nested arrived runs =>
    have here := focus stream i rfl
    have arrival := arrives stream i before
    rw [arrived] at arrival
    have begun := knows.of_eq arrival.ready_procedures
    have nests := nested?_nests runs
    have inner : fits nested.inner := by
      by_cases included : nested.purpose = .source
      · exact inherits.source reached here arrived runs included
      · exact nests.inner_of_function begun included
    refine ⟨fun _ _ same => by cases same; exact inner, ?_, begun.of_eq nests.entry_procedures⟩
    intro first among
    rcases List.mem_cons.mp among with rfl | below
    · exact here
    · exact waiting first below
  | leave out first rest =>
    have here := waiting first List.mem_cons_self
    rcases proper first List.mem_cons_self with ⟨ready, nests⟩
    refine ⟨fun _ _ same => by cases same; exact here, ?_, knows.of_eq nests.complete_procedures⟩
    intro other below
    exact waiting other (List.mem_cons_of_mem first below)
  | finish out => exact ⟨nofun, waiting, knows.of_eq out.endInvocation_procedures⟩

theorem Reaches.streams (inherits : Inherits toks m fits) (first : fits toks) (knows : m.Knows fits)
    (reached : Reaches (.start toks m) c) : c.Streams fits := by
  induction reached with
  | refl =>
    refine ⟨?_, fun _ none => absurd none List.not_mem_nil, knows⟩
    intro stream i same
    cases same
    exact first
  | tail before step ih => exact step.streams inherits before ih

theorem Streams.statement (fine : c.Streams fits) {last : Option Mark}
    (before : ∀ mark, last = some mark → fits mark.stream) {mark : Mark}
    (underway : c.statement? last = some mark) : fits mark.stream := by
  rcases c with ⟨thread, focus, waiting⟩
  cases focus with
  | walked => exact before mark underway
  | ended => exact before mark underway
  | token stream i =>
    simp only [statement?] at underway
    split at underway
    · cases underway
      exact fine.focus stream i rfl
    · exact before mark underway

/-- The statement that a thread came to last is part of a stream of the run. -/
theorem Track.stream (inherits : Inherits toks m fits) (first : fits toks) (knows : m.Knows fits)
    {last : Option Mark} {sites : List Nat} (track : Track toks m c last sites) :
    ∀ mark, last = some mark → fits mark.stream := by
  induction track with
  | start => exact nofun
  | walk before step same ih =>
    intro mark underway
    exact (before.reaches.streams inherits first knows).statement ih underway
  | @enter c next last sites stream i nested before step here waits ih =>
    intro mark underway
    split at underway
    · cases underway
    · cases underway
      exact (before.reaches.streams inherits first knows).focus stream i here
  | @leave c next last site sites first before step waits ih =>
    intro mark underway
    split at underway
    · cases underway
      have among : first ∈ c.waiting := waits ▸ List.mem_cons_self
      exact (before.reaches.streams inherits ‹_› knows).waiting first among
    · exact ih mark underway

end Config

/-- The streams of a run come from its sources. -/
theorem inherits_lexed (source : String) (toks : TokenStream) (m : Machine) :
    Inherits toks m fun stream => ∃ own, SourceOf source toks m own ∧ LexedFrom own stream where
  definition lexed inside := by
    rcases lexed with ⟨own, origin, lexed⟩
    exact ⟨own, origin, lexed.body inside⟩
  source {c stream i ready nested} reached _ arrived runs included := by
    have arrival := arrives stream i c.machine
    rw [arrived] at arrival
    have files : ready.files = c.machine.files := by
      cases arrival with
      | begins => rw [Machine.begun_eq]
    cases nested?_nests runs with
    | call | background | inline => cases included
    | source last found => exact ⟨_, .file reached (files ▸ found), .scanned⟩

namespace Statement

variable {stream : TokenStream} {i : Nat} {ready : Machine} {nested : Nested}

theorem callNested?_purpose {head : Token} (runs : callNested? stream i ready head = some nested) :
    nested.purpose = .call := by
  unfold callNested? at runs
  generalize (callArguments stream i).run ready = answer at runs
  rcases answer with ⟨⟨args, last⟩, after⟩
  dsimp only at runs
  split at runs
  · cases runs
  · split at runs
    · cases runs
    · cases runs
      rfl

/-- The word of a statement says what its stream is run for. -/
theorem nested?_head (runs : nested? stream i ready = some nested) :
    (stream.peek i).kind = .word .run ∧ (nested.purpose = .call ∨ nested.purpose = .background) ∨
      (stream.peek i).kind = .word .addrun ∧ nested.purpose = .inline ∨
      ((stream.peek i).kind = .word .use ∨ (stream.peek i).kind = .word .attach) ∧
        nested.purpose = .source := by
  unfold nested? at runs
  split at runs
  case h_1 head =>
    refine .inl ⟨head, ?_⟩
    dsimp only at runs
    split at runs
    · cases runs
    · split at runs
      · rcases Option.map_eq_some_iff.mp runs with ⟨procedure, -, rfl⟩
        exact .inr rfl
      · exact .inl (callNested?_purpose runs)
  case h_2 head => exact .inr (.inl ⟨head, inlineNested?_purpose runs⟩)
  case h_3 head => exact .inr (.inr ⟨.inl head, useNested?_purpose runs⟩)
  case h_4 head => exact .inr (.inr ⟨.inr head, attachNested?_purpose runs⟩)
  case h_5 => cases runs

end Statement

/-- A word that runs a file. -/
def Token.includes (t : Token) : Bool := t.isWord .use || t.isWord .attach

/-- Where a source includes no file, all streams of a run come from it. -/
theorem inherits_alone {source : String} (closed : ∀ t ∈ (scan source).toList, t.includes = false)
    (toks : TokenStream) (m : Machine) : Inherits toks m (LexedFrom source) where
  definition lexed inside := lexed.body inside
  source {c stream i ready nested} _ lexed arrived runs included := by
    have includes : (stream.peek i).includes = true := by
      rcases nested?_head runs with ⟨-, call | background⟩ | ⟨-, inline⟩ | ⟨use | attach, -⟩
      · cases call.symm.trans included
      · cases background.symm.trans included
      · cases inline.symm.trans included
      · simp [Token.includes, Token.isWord, use]
      · simp [Token.includes, Token.isWord, attach]
    have unfinished := (placed_of_arrive arrived).unfinished
    have among := TokenStream.peek_mem unfinished
    unfold Token.includes Token.isWord at includes closed
    rcases lexed.kind_of_mem among unfinished with ⟨t, member, same⟩ | keep | number
    · have never := closed t member
      rw [same, includes] at never
      cases never
    · rw [keep] at includes
      cases includes
    · rw [number] at includes
      cases includes

/-! ## Open calls -/

namespace Config

/-- The calls that are open in the innermost thread, the most recent one first, with the statements that
have made them. -/
def frames : List Waiting → List Nat → List (Mark × CallSite)
  | first :: waiting, site :: sites =>
    let below := if first.nested.purpose = .background then [] else frames waiting sites
    match first.nested.site? with
    | some call => (⟨first.stream, site⟩, call) :: below
    | none => below
  | _, _ => []

/-- A call that is listed has been made by a `run`, at whose place it is listed. -/
theorem Suspended.call {lines : List String} {first : Waiting} {site : Nat} {ready : Machine}
    {call : CallSite} (suspended : Suspended lines first site ready)
    (listed : first.nested.site? = some call) :
    (first.stream.peek site).kind = .word .run ∧
      call = { name := call.name, line := (first.stream.peek site).line
               column := (first.stream.peek site).column } := by
  have calls : first.nested.purpose = .call ∨ first.nested.purpose = .background := by
    unfold Nested.site? at listed
    split at listed <;> simp_all
  have runs := suspended.runs
  rcases nested?_site runs suspended.placed.line suspended.placed.column calls with
    ⟨procedure, -, found⟩
  cases found.symm.trans listed
  rcases nested?_head runs with ⟨run, -⟩ | ⟨-, inline⟩ | ⟨-, source⟩
  · exact ⟨run, rfl⟩
  · rcases calls with call | background <;> simp_all
  · rcases calls with call | background <;> simp_all

variable {waiting : List Waiting} {sites : List Nat}

/-- Every open call has its statement. -/
theorem frames_calls (same : sites.length = waiting.length) :
    (frames waiting sites).map Prod.snd = openCalls waiting := by
  induction waiting generalizing sites with
  | nil => rfl
  | cons first waiting ih =>
    cases sites with
    | nil => cases same
    | cons site sites =>
      have below := ih (Nat.succ.inj same)
      unfold openCalls at below ⊢
      rw [thread, List.filterMap_cons, frames]
      by_cases own : first.nested.purpose = .background
      · cases first.nested.site? <;> simp [own]
      · cases first.nested.site? <;> simp [own, below]

theorem mem_frames {frame : Mark × CallSite} (among : frame ∈ frames waiting sites) :
    ∃ first site, (first, site) ∈ waiting.zip sites ∧ frame.1 = ⟨first.stream, site⟩ ∧
      first.nested.site? = some frame.2 := by
  induction waiting generalizing sites with
  | nil => cases among
  | cons first waiting ih =>
    cases sites with
    | nil => cases among
    | cons site sites =>
      have later (deeper : frame ∈ if first.nested.purpose = .background then []
          else frames waiting sites) :
          ∃ other place, (other, place) ∈ (first :: waiting).zip (site :: sites) ∧
            frame.1 = ⟨other.stream, place⟩ ∧ other.nested.site? = some frame.2 := by
        split at deeper
        · cases deeper
        · rcases ih deeper with ⟨other, place, there, found⟩
          exact ⟨other, place, List.mem_cons_of_mem _ there, found⟩
      rw [frames] at among
      split at among
      case h_1 call listed =>
        rcases List.mem_cons.mp among with rfl | deeper
        · exact ⟨first, site, List.mem_cons_self, rfl, listed⟩
        · exact later deeper
      case h_2 => exact later among

end Config

/-! ## Quotations -/

/-- The number of a line is found where the lines of a source are kept. -/
theorem Machine.sourceLine_eq {m : Machine} {source : String} (same : m.lines = Text.split "\n" source)
    (number : Nat) : m.sourceLine number = quoted source number := by
  unfold Machine.sourceLine quoted
  rw [same]
  by_cases none : number = 0
  · rw [if_pos none, if_pos (by omega)]
  · rw [if_neg none, if_neg (by omega), show ((number : Int) - 1).toNat = number - 1 by omega]

/-- What is quoted for a statement of a run: the line with its number in the source that is run.  The
statement stands on a line with this number in the source that it comes from; where that is the source
that is run, its line is what is quoted. -/
structure Quotes (source : String) (toks : TokenStream) (m : Machine) (mark : Mark) (text : String) :
    Prop where
  shown : text = quoted source mark.token.line
  stands : ∃ own line, SourceOf source toks m own ∧ LexedFrom own mark.stream ∧
    IsLine own mark.token.line line
  right : LexedFrom source mark.stream →
    ∃ line, IsLine source mark.token.line line ∧ text = Text.trim line

theorem quotes {source : String} {toks : TokenStream} {m : Machine} {mark : Mark}
    (unfinished : mark.token.isFinish = false)
    (lexed : ∃ own, SourceOf source toks m own ∧ LexedFrom own mark.stream) :
    Quotes source toks m mark (quoted source mark.token.line) where
  shown := rfl
  stands := by
    rcases lexed with ⟨own, origin, lexed⟩
    rcases lexed.line unfinished with ⟨line, here⟩
    exact ⟨own, line, origin, lexed, here⟩
  right lexed := by
    rcases lexed.line unfinished with ⟨line, here⟩
    exact ⟨line, here, here.quoted_eq⟩

/-! ## The law -/

/-- What holds of the faults of a run of a source. -/
structure DiagnosticsLaw (source : String) (toks : TokenStream) (m : Machine) : Prop where
  /-- A fault that a run ends with has stopped its main thread at some moment. -/
  arises : ∀ steps fault, (m.exec steps toks 0).exhausted = false →
    (m.exec steps toks 0).endInvocation.halt = some fault →
      ∃ c last sites, Track toks m c last sites ∧ c.Halts fault ∧ ground c.waiting = []
  /-- A fault has the place of the statement that is under way, and quotes its line. -/
  statement : ∀ c last sites fault mark, Track toks m c last sites → c.Halts fault →
    c.statement? last = some mark →
      fault.line = mark.token.line ∧ fault.column = mark.token.column ∧
        Quotes source toks m mark fault.trigger
  /-- A thread that is stopped before its first statement has no place yet. -/
  unbegun : ∀ c last sites fault, Track toks m c last sites → c.Halts fault →
    c.statement? last = none →
      fault.line = firstLine m c.waiting ∧ fault.trigger = quoted source (firstLine m c.waiting)
  /-- A fault shows the open calls of its thread, and quotes for each the line of its `run`. -/
  stack : ∀ c last sites fault, Track toks m c last sites → c.Halts fault →
    (fault.stack = (frames c.waiting sites).map fun frame =>
      { name := frame.2.name, line := frame.1.token.line, column := frame.1.token.column
        source := quoted source frame.1.token.line }) ∧
      ∀ frame ∈ frames c.waiting sites, frame.1.token.kind = .word .run ∧
        Quotes source toks m frame.1 (quoted source frame.1.token.line)
  /-- Where nothing is included and no function is known but those of the source, all that a fault
  quotes comes from it. -/
  alone : (∀ t ∈ (scan source).toList, t.includes = false) → m.Knows (LexedFrom source) →
    ∀ c last sites, Track toks m c last sites →
      (∀ mark, c.statement? last = some mark → LexedFrom source mark.stream) ∧
        ∀ frame ∈ frames c.waiting sites, LexedFrom source frame.1.stream
  /-- The functions that are known behind the run come from its sources again. -/
  later : ∀ c, Reaches (.start toks m) c →
    c.machine.Knows fun body => ∃ own, SourceOf source toks m own ∧ LexedFrom own body

theorem diagnostics_law (source : String) {before : Machine} (top : before.depth = 1)
    (fresh : before.calls = []) (running : before.halt = none)
    (known : before.Knows fun body => ∃ own, LexedFrom own body) :
    DiagnosticsLaw source (before.prepare source).1 (before.prepare source).2 := by
  have lexed := before.prepare_lexed source
  have lines : (before.prepare source).2.lines = Text.split "\n" source := rfl
  have counted : (Config.start (before.prepare source).1 (before.prepare source).2).Counted :=
    ⟨⟨top, fresh, top ▸ by decide⟩, .nil⟩
  replace running : (before.prepare source).2.halt = none := running
  replace known : (before.prepare source).2.Knows fun body =>
      ∃ own, SourceOf source (before.prepare source).1 (before.prepare source).2 own ∧
        LexedFrom own body := by
    intro entry member
    rcases known entry member with ⟨own, body⟩
    exact ⟨own, .earlier member body, body⟩
  generalize (before.prepare source).1 = toks at *
  generalize (before.prepare source).2 = m at *
  have inherits := inherits_lexed source toks m
  have first : ∃ own, SourceOf source toks m own ∧ LexedFrom own toks := ⟨source, .main, lexed⟩
  have streams {c : Config} (reached : Reaches (.start toks m) c) := reached.streams inherits first known
  -- The fault as the machine makes it, with what the invariants say about its parts.
  have made {c : Config} {last : Option Mark} {sites : List Nat} {fault : Fault}
      (track : Track toks m c last sites) (halts : c.Halts fault) :
      Stands (firstLine m c.waiting) (c.statement? last) c.settled ∧ fault.line = c.settled.line ∧
        fault.column = c.settled.column ∧ fault.trigger = quoted source c.settled.line ∧
        fault.stack = (openCalls c.waiting).map fun call =>
          { call with source := quoted source call.line } := by
    rcases track.placed.settled with ⟨stands, kept⟩
    rcases halts.fault_eq with ⟨cause, rfl⟩
    have quotes := Machine.sourceLine_eq (kept.trans lines)
    rw [Machine.annotate_eq, c.settled_calls, (track.reaches.counted counted).level.calls]
    exact ⟨stands, rfl, rfl, quotes _, List.map_congr_left fun call _ => by rw [quotes]⟩
  constructor
  case arises =>
    intro steps fault enough halted
    rcases (Machine.run_reaches steps toks m enough).tracked with ⟨last, sites, track⟩
    exact track.halts running halted
  case statement =>
    intro c last sites fault mark track halts underway
    rcases made track halts with ⟨stands, line, column, trigger, -⟩
    rw [underway] at stands
    have origin := (streams track.reaches).statement (track.stream inherits first known) underway
    refine ⟨by rw [line, stands.line], by rw [column, stands.column], ?_⟩
    rw [trigger, stands.line]
    exact quotes stands.unfinished origin
  case unbegun =>
    intro c last sites fault track halts underway
    rcases made track halts with ⟨stands, line, -, trigger, -⟩
    rw [underway] at stands
    exact ⟨line.trans (congrArg Nat.cast stands), trigger.trans (congrArg (quoted source) stands)⟩
  case stack =>
    intro c last sites fault track halts
    have stack := (made track halts).2.2.2.2
    have places {frame : Mark × CallSite} (among : frame ∈ frames c.waiting sites) :
        frame.1.token.kind = .word .run ∧ frame.1.token.isFinish = false ∧
          frame.2 = { name := frame.2.name, line := frame.1.token.line
                      column := frame.1.token.column } := by
      rcases mem_frames among with ⟨waits, site, there, mark, listed⟩
      rcases List.forall₂_zip track.placed.waits there with ⟨ready, suspended⟩
      rw [mark]
      exact ⟨(suspended.call listed).1, suspended.placed.unfinished, (suspended.call listed).2⟩
    constructor
    · rw [stack, ← frames_calls track.length_sites, List.map_map]
      refine List.map_congr_left fun frame among => ?_
      have call := (places among).2.2
      rw [Function.comp_apply, call]
    · intro frame among
      rcases mem_frames among with ⟨waits, site, there, mark, -⟩
      have origin := (streams track.reaches).waiting waits (List.of_mem_zip there).1
      exact ⟨(places among).1, quotes (places among).2.1 (mark ▸ origin)⟩
  case alone =>
    intro closed own c last sites track
    have inherits := inherits_alone closed toks m
    have streams := track.reaches.streams inherits lexed own
    refine ⟨fun mark underway => streams.statement (track.stream inherits lexed own) underway, ?_⟩
    intro frame among
    rcases mem_frames among with ⟨waits, site, there, mark, -⟩
    have origin := streams.waiting waits (List.of_mem_zip there).1
    exact mark ▸ origin
  case later =>
    intro c reached
    exact (streams reached).knows

/-- A script that goes wrong in a function. -/
def failing : String := "start doing tidy\n    keep\nend doing\nrun tidy"

theorem diagnostics_law_failing :
    (Machine.start {}).depth = 1 ∧ (Machine.start {}).calls = [] ∧ (Machine.start {}).halt = none ∧
      ((Machine.start {}).Knows fun body => ∃ own, LexedFrom own body) ∧
      DiagnosticsLaw failing ((Machine.start {}).prepare failing).1 ((Machine.start {}).prepare failing).2 := by
  have known : (Machine.start {}).Knows fun body => ∃ own, LexedFrom own body := nofun
  exact ⟨rfl, rfl, rfl, known, diagnostics_law failing rfl rfl rfl known⟩

/-- The fault quotes the line of the statement, and that of the call. -/
example : ((Machine.runSource failing (.start {})).1.map fun fault =>
    (fault.line, fault.trigger, fault.stack)) =
      some (2, "keep", [{ name := "tidy", line := 4, column := 1, source := "run tidy" }]) := by
  decide +kernel

/-- An environment whose second line goes wrong. -/
def tools : String := "# tools\nkeep"

/-- A script that runs it, with another second line. -/
def attaching : String := "attach tools\nprint 1"

/-- The machine in which the environment can be found. -/
def equipped : Machine := .start
  { files := { entries := [(["env_lib"], .folder), (["env_lib", "tools.bigenv"], .file (.text tools))] } }

/-- The run is stopped by the second line of the environment, and the second line of the script is
quoted. -/
theorem attached_quotesOther :
    equipped.files.read "env_lib/tools.bigenv" = .ok tools ∧ IsLine tools 2 "keep" ∧
      (∀ t ∈ (scan attaching).toList, t.kind ≠ .word .keep) ∧
      ((Machine.runSource attaching equipped).1.map fun fault => (fault.cause, fault.line, fault.trigger)) =
        some (.badBlock "'keep' without an open loop", 2, "print 1") := by
  refine ⟨by decide +kernel, ?_, by decide +kernel, by decide +kernel⟩
  exact ⟨by decide, "# tools\n".toList, [], by decide, by decide, by decide, .inl rfl⟩

end BigScript
