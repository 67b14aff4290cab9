import BigScript.Proofs.CappedLoop
import BigScript.Proofs.Invocation
import BigScript.Proofs.Json.Holding
import BigScript.Proofs.LoopExit
import BigScript.Proofs.Naming

/-!
# Loops over items

A loop `start loop on {Src} as {Var} {Val}` reads its source once, at its header.  From then on it
keeps the items and its place among them on the stack of open loops, where no statement of its body
can reach them; the body may give its variables and the variable of the source new values, and each
turn still begins with the item that is next.

`item_loop` says so of every body whose turns come to the `keep` with the loops open that were open
at their beginning: `Visits` lists the machines with which the turns begin, and these bear the
`entries` of the source in order.  A source without items leaves the body out, but only where the
search for the `keep` that closes it is not misled by words in other statements
(`emptySource_runsBody`).
-/

namespace BigScript

open Statement

namespace Value

/-- What a loop goes through, item by item and with what stands beside it: the fields of a map with
their values, or the items of a list with their places. -/
def entries (raw : String) : List (String × String) :=
  if Text.startsWith (Text.trim raw) "\x7b" then
    match Json.readObjectText? raw with
    | some fields => fields.map fun field => (field.1, field.2.render)
    | none => []
  else (looseItems raw).mapIdx fun place item => (item, Number.digitText (place + 1))

/-- The fields of a map stand in the order of their names, each once. -/
theorem entries_sorted {raw : String} (map : Text.startsWith (Text.trim raw) "\x7b" = true) :
    (entries raw).Pairwise fun one other => one.1 < other.1 := by
  unfold entries
  rw [if_pos map]
  cases read : Json.readObjectText? raw with
  | none => exact List.Pairwise.nil
  | some fields =>
      have settled := Json.settledFields_iff.mpr (Json.settled_of_readObjectText? read)
      exact List.pairwise_map.mpr settled.sorted

end Value

namespace Walk

variable {raw item value : String} {entry : String × String} {k : Nat}

theorem through_items (raw item value : String) :
    (through raw item value).items = (Value.entries raw).map Prod.fst := by
  unfold through Value.entries Value.mapKeys
  dsimp only
  split
  · cases Json.readObjectText? raw with
    | none => rfl
    | some fields =>
        dsimp only
        rw [List.map_map]
        rfl
  · refine List.ext_getElem (by rw [List.length_map, List.length_mapIdx]) fun place _ _ => ?_
    rw [List.getElem_map, List.getElem_mapIdx]

theorem through_fields (raw item value : String) :
    (through raw item value).isMap = Text.startsWith (Text.trim raw) "\x7b" ∧
      (through raw item value).raw = raw ∧ (through raw item value).itemName = item ∧
        (through raw item value).valueName = value ∧ (through raw item value).cursor = 0 := by
  unfold through
  dsimp only
  exact ⟨rfl, rfl, rfl, rfl, rfl⟩

/-- What stands beside an item is what a loop makes of its place. -/
theorem beside (stands : (Value.entries raw)[k]? = some entry) :
    (if (through raw item value).isMap then Value.fieldOrNothing raw entry.1
      else Number.digitText (k + 1)) = entry.2 := by
  rw [(through_fields raw item value).1]
  unfold Value.entries at stands
  by_cases map : Text.startsWith (Text.trim raw) "\x7b" = true
  · rw [if_pos map] at stands ⊢
    cases read : Json.readObjectText? raw with
    | none =>
        rw [read] at stands
        cases stands
    | some fields =>
        rw [read] at stands
        dsimp only at stands
        rcases List.mem_map.mp (List.mem_of_getElem? stands) with ⟨⟨name, document⟩, member, rfl⟩
        have settled := Json.settledFields_iff.mpr (Json.settled_of_readObjectText? read)
        have answer : Value.field? raw name = some document.render := by
          rw [Value.field?_eq, Value.held?_of_read read, Option.bind_some]
          exact congrArg (Option.map Json.render) (Json.field?_of_mem settled.sorted member)
        rw [Value.fieldOrNothing, answer]
        rfl
  · rw [if_neg map, List.getElem?_mapIdx] at stands
    rw [if_neg map]
    rcases Option.map_eq_some_iff.mp stands with ⟨_, _, rfl⟩
    rfl

/-- A loop over a value at one of its items. -/
def place (raw item value : String) (k : Nat) : Walk := { through raw item value with cursor := k }

theorem place_zero (raw item value : String) : place raw item value 0 = through raw item value := by
  have ⟨_, _, _, _, cursor⟩ := through_fields raw item value
  unfold place
  generalize through raw item value = walk at *
  cases walk
  exact congrArg _ cursor.symm

theorem place_succ (raw item value : String) (k : Nat) :
    place raw item value (k + 1) =
      { place raw item value k with cursor := (place raw item value k).cursor + 1 } := by
  unfold place
  dsimp only

theorem place_items (raw item value : String) (k : Nat) :
    (place raw item value k).items = (Value.entries raw).map Prod.fst := by
  unfold place
  dsimp only
  exact through_items raw item value

theorem bindItem_eq {walk : Walk} (current : walk.items.getD walk.cursor "" = entry.1)
    (beside : (if walk.isMap then Value.fieldOrNothing walk.raw entry.1
      else Number.digitText (walk.cursor + 1)) = entry.2)
    (named : walk.itemName ≠ "") (valued : walk.valueName ≠ "") (m : Machine) :
    walk.bindItem m = (m.assign walk.itemName entry.1).assign walk.valueName entry.2 := by
  have itemNamed : ¬ walk.itemName.isEmpty = true := by rwa [String.isEmpty_iff]
  have valueNamed : ¬ walk.valueName.isEmpty = true := by rwa [String.isEmpty_iff]
  rw [bindItem, current, ← beside]
  rw [if_neg itemNamed, if_neg valueNamed]
  split <;> rfl

theorem bindItem_place (stands : (Value.entries raw)[k]? = some entry) (named : item ≠ "")
    (valued : value ≠ "") (m : Machine) :
    (place raw item value k).bindItem m = (m.assign item entry.1).assign value entry.2 := by
  have current : (through raw item value).items.getD k "" = entry.1 := by
    rw [through_items, List.getD_eq_getElem?_getD, List.getElem?_map, stands]
    rfl
  have besides := @beside raw item value entry k stands
  have ⟨_, source, itemName, valueName, _⟩ := through_fields raw item value
  unfold place
  generalize through raw item value = walk at *
  subst source itemName valueName
  exact @bindItem_eq entry { walk with cursor := k } current besides named valued m

end Walk

/-- The `keep` of a loop over items binds the next one and goes back, or ends the loop behind the
last one. -/
theorem Statement.keep_walked {toks : TokenStream} {i : Nat} {m : Machine} {frame : LoopFrame}
    {rest : List LoopFrame} {walk next : Walk} (open_ : m.loops = frame :: rest)
    (valid : frame.valid = true) (walked : frame.walk = some walk)
    (moved : next = { walk with cursor := walk.cursor + 1 }) :
    (keep toks i).run m =
      if next.cursor < next.items.length then
        (frame.resume - 1, { next.bindItem { m with loops := rest } with
          loops := { frame with walk := some next } :: rest })
      else (toks.lineEnd i, { m with loops := rest }) := by
  have bound := (bindItem_sameControl next { m with loops := rest }).loops
  subst moved
  unfold keep
  rw [Act.run_bind, Act.run_get]
  dsimp only
  rw [open_]
  dsimp only
  rw [Act.run_bind, Act.run_modify, valid, walked, Bool.not_true, if_neg Bool.false_ne_true]
  dsimp only
  dsimp only at bound
  by_cases further : walk.cursor + 1 < walk.items.length
  · rw [if_pos further, if_pos further, Act.run_bind, Act.run_modify]
    unfold goBack
    rw [Act.run_bind, Act.run_modify, bound]
    rfl
  · rw [if_neg further, if_neg further]
    rfl

namespace TokenStream

variable {toks : TokenStream} {head close k : Nat} {source item value raw : String}
  {entry : String × String} {m ready after : Machine} {outer : List LoopFrame}

/-! ## The header and the `keep` -/

/-- A loop over the items of a variable, with an indented body and a `keep`. -/
structure ItemLoop (toks : TokenStream) (head close : Nat) (source item value : String) : Prop where
  opened : toks.opensLoop head = true
  word : (toks.peek (optionsAt toks head)).isWord .on = true
  line : (toks.peek (optionsAt toks head)).line = (toks.peek head).line
  from_ : toks.Braced (optionsAt toks head + 1) source
  as_ : (toks.peek (optionsAt toks head + 4)).isWord .asWord = true
  first : toks.Braced (optionsAt toks head + 5) item
  second : toks.Braced (optionsAt toks head + 8) value
  level : (toks.peek (optionsAt toks head + 8)).line = (toks.peek head).line
  indented : (toks.peek head).column < (toks.peek (toks.lineEnd head + 1)).column
  below : toks.lineEnd head < close
  unfinished : ∀ p < close, head ≤ p → (toks.peek p).isFinish = false
  keeps : (toks.peek close).isWord .keep = true

instance : Decidable (toks.ItemLoop head close source item value) :=
  decidable_of_iff
    ((toks.opensLoop head = true ∧ (toks.peek (optionsAt toks head)).isWord .on = true ∧
        (toks.peek (optionsAt toks head)).line = (toks.peek head).line) ∧
      (toks.Braced (optionsAt toks head + 1) source ∧
        (toks.peek (optionsAt toks head + 4)).isWord .asWord = true ∧
          toks.Braced (optionsAt toks head + 5) item ∧ toks.Braced (optionsAt toks head + 8) value ∧
            (toks.peek (optionsAt toks head + 8)).line = (toks.peek head).line) ∧
      (toks.peek head).column < (toks.peek (toks.lineEnd head + 1)).column ∧
        toks.lineEnd head < close ∧ (∀ p < close, head ≤ p → (toks.peek p).isFinish = false) ∧
          (toks.peek close).isWord .keep = true)
    ⟨fun ⟨⟨opened, word, line⟩, ⟨from_, as_, first, second, level⟩, indented, below, unfinished,
        keeps⟩ =>
      { opened, word, line, from_, as_, first, second, level, indented, below, unfinished, keeps },
      fun loop => ⟨⟨loop.opened, loop.word, loop.line⟩,
        ⟨loop.from_, loop.as_, loop.first, loop.second, loop.level⟩, loop.indented, loop.below,
        loop.unfinished, loop.keeps⟩⟩

/-- A loop over a value, open at one of its items. -/
def itemFrame (toks : TokenStream) (head : Nat) (raw item value : String) (k : Nat) : LoopFrame :=
  openedLoop toks head 0 (some (.place raw item value k))

/-- Where a turn of a loop over a value begins, and with what. -/
def turnAt (toks : TokenStream) (head : Nat) (raw item value : String) (k : Nat)
    (outer : List LoopFrame) (m : Machine) : Spot :=
  (toks.lineEnd head + 1, { (Walk.place raw item value k).bindItem m with
    loops := toks.itemFrame head raw item value k :: outer })

namespace ItemLoop

variable (loop : toks.ItemLoop head close source item value)
include loop

theorem options (m : Machine) :
    (loopOptions toks head (optionsAt toks head)).run m =
      (((0 : Int), some (Walk.through (m.getD source "") item value)), m) := by
  have word : (toks.peek (optionsAt toks head)).kind = .word .on := eq_of_beq loop.word
  have brace : (toks.peek (optionsAt toks head + 1)).kind = .symbol .leftBrace :=
    eq_of_beq loop.from_.opens
  have limit : (loopLimit toks (toks.peek head).line (optionsAt toks head)).run m =
      (((0 : Int), optionsAt toks head), m) := by
    have sign : (toks.peek (optionsAt toks head)).isSymbol .dot = false := by
      rw [Token.isSymbol, word]
      rfl
    unfold loopLimit
    dsimp only
    rw [sign, Bool.and_false, Bool.false_and, Bool.false_and]
    rfl
  have read : (walkSource toks (optionsAt toks head + 1)).run m =
      ((m.getD source "", optionsAt toks head + 4), m) := by
    unfold walkSource
    rw [Act.run_bind, Act.run_get]
    dsimp only
    rw [loop.from_.bracedName]
    split
    · next literal =>
        rw [Token.kind, literal] at brace
        cases brace
    · rfl
  have level : (((toks.peek (optionsAt toks head + 8)).line == (toks.peek head).line) &&
      ((toks.peek (optionsAt toks head + 8)).isSymbol .leftBrace ||
        (toks.peek (optionsAt toks head + 8)).kind == .name)) = true := by
    rw [loop.level, loop.second.opens, beq_self_eq_true]
    rfl
  unfold loopOptions
  rw [Act.run_bind, limit]
  dsimp only
  unfold loopWalk?
  dsimp only
  rw [loop.line, loop.word, beq_self_eq_true, Bool.true_or, Bool.and_self, if_pos rfl, Act.run_bind,
    Act.run_bind, read]
  dsimp only
  rw [loop.as_, loop.first.bracedName]
  dsimp only
  rw [if_pos rfl, level, loop.second.bracedName]
  rfl

theorem header (arrived : m.arrive toks head = .ready ready) :
    Stride toks (head, m)
      (if Value.entries (ready.getD source "") = [] then
        (toks.afterKeep 1 (toks.lineEnd head + 1) + 1, ready)
      else toks.turnAt head (ready.getD source "") item value 0 ready.loops ready) := by
  have stride := Stride.alone arrived (nested?_jumps (jumps_of_opensLoop loop.opened))
  rw [dispatch_header loop.opened, openLoop_run, loop.options] at stride
  unfold entered at stride
  dsimp only at stride
  have items := Walk.through_items (ready.getD source "") item value
  split
  · next none =>
      rw [none] at items
      rwa [items, List.map_nil, List.isEmpty_nil, if_pos rfl] at stride
  · next some =>
      have filled : (Walk.through (ready.getD source "") item value).items.isEmpty = false := by
        rw [items, List.isEmpty_eq_false_iff]
        exact fun none => some (List.map_eq_nil_iff.mp none)
      rw [filled, if_neg Bool.false_ne_true] at stride
      rw [turnAt, itemFrame, Walk.place_zero]
      exact stride

theorem keep (arrived : m.arrive toks close = .ready ready)
    (open_ : m.loops = toks.itemFrame head raw item value k :: outer) :
    Stride toks (close, m)
      (if k + 1 < (Value.entries raw).length then
        toks.turnAt head raw item value (k + 1) outer { ready with loops := outer }
      else (toks.lineEnd close + 1, { ready with loops := outer })) := by
  have open_ : ready.loops = toks.itemFrame head raw item value k :: outer :=
    (Config.ready_loops arrived).trans open_
  have unfinished : (toks.peek (toks.lineEnd head + 1)).isFinish = false := by
    rcases Nat.eq_or_lt_of_le loop.below with last | inside
    · rw [Nat.succ_eq_add_one] at last
      rw [last, Token.isFinish, eq_of_beq loop.keeps]
      rfl
    · exact loop.unfinished _ inside (Nat.le_succ_of_le (TokenStream.le_lineEnd head))
  have next := Walk.place_succ raw item value k
  have items := Walk.place_items raw item value (k + 1)
  have stride := Stride.keeps loop.keeps arrived
  rw [keep_walked open_ (openedLoop_valid unfinished loop.indented 0 _) rfl next, items, List.length_map] at stride
  have cursor : (Walk.place raw item value (k + 1)).cursor = k + 1 := rfl
  rw [cursor] at stride
  split
  · next further =>
      rw [if_pos further] at stride
      exact stride
  · next last =>
      rw [if_neg last] at stride
      exact stride

end ItemLoop

/-! ## The variables of a turn -/

/-- A turn begins with an item and with what stands beside it. -/
structure Begins (item value : String) (entry : String × String) (m : Machine) : Prop where
  item : m.get? item = some entry.1
  value : m.get? value = some entry.2

theorem turnAt_begins (toks : TokenStream) (head : Nat) (outer : List LoopFrame)
    (plain : Machine.Plain item) (other : Machine.Plain value) (apart : item ≠ value)
    (top : m.locals = []) (stands : (Value.entries raw)[k]? = some entry) :
    Begins item value entry (toks.turnAt head raw item value k outer m).2 ∧
      (toks.turnAt head raw item value k outer m).2.locals = [] := by
  have first := plain.binds entry.1 m
  have second := other.binds entry.2 (m.assign item entry.1)
  rcases first.top top with ⟨between, set⟩
  rcases second.top between with ⟨bottom, both⟩
  unfold turnAt
  rw [Walk.bindItem_place stands plain.named other.named]
  refine ⟨⟨?_, ?_⟩, bottom⟩
  · refine plain.get?_of_global bottom ?_
    refine (second.others apart).trans ?_
    rw [set]
    exact Bindings.valueOf?_set_self _ _ _
  · refine other.get?_of_global bottom ?_
    exact (congrArg (Bindings.valueOf? · value) both).trans (Bindings.valueOf?_set_self _ _ _)

end TokenStream

theorem Balanced.of_ready {toks : TokenStream} {i : Nat} {m ready : Machine}
    (arrived : m.arrive toks i = .ready ready) : Balanced m ready := by
  have arrival := arrives toks i m
  rw [arrived] at arrival
  exact .of_contained arrival.ready_contained

/-- A stride leaves the frames, the open calls and the depth as they were. -/
theorem Stride.balanced {toks : TokenStream} {from_ to_ : Spot} (stride : Stride toks from_ to_) :
    Balanced from_.2 to_.2 := by
  cases stride with
  | @alone i m _ arrived alone =>
      exact (Balanced.of_ready arrived).trans (.of_contained (dispatch_contained toks i alone))
  | @nested i steps m _ _ arrived runs =>
      exact (Balanced.of_ready arrived).trans
        ((nested?_nests runs).balanced (Machine.exec_balanced steps _ 0 _))

theorem Strides.balanced {toks : TokenStream} {from_ to_ : Spot}
    (strides : Strides toks from_ to_) : Balanced from_.2 to_.2 := by
  induction strides with
  | refl => exact ⟨rfl, rfl, rfl⟩
  | tail _ stride ih => exact ih.trans stride.balanced

namespace TokenStream

variable {toks : TokenStream} {first head close k : Nat} {source item value raw : String}
  {m entered : Machine} {outer : List LoopFrame} {spot last stop : Spot}
  {starts others : List Machine}

/-! ## Turns with the machines they begin with -/

/-- The turns of a loop, each up to the `keep` and what that does: the machines with which they
begin, in order. -/
inductive Visits (toks : TokenStream) (first close : Nat) : List Machine → Spot → Spot → Prop where
  | none {spot : Spot} : Visits toks first close [] spot spot
  | turn {starts : List Machine} {m after : Machine} {next last : Spot}
      (body : Inside toks first close (first, m) (close, after))
      (keep : Stride toks (close, after) next)
      (further : Visits toks first close starts next last) :
      Visits toks first close (m :: starts) (first, m) last

/-- Every turn of a loop that begins comes to its `keep`, which is carried out, with the loops open
that were open at its beginning. -/
def TurnsComplete (toks : TokenStream) (first close : Nat) (start : Spot) : Prop :=
  ∀ starts m, Visits toks first close starts start (first, m) → ∃ after ready,
    Inside toks first close (first, m) (close, after) ∧ after.loops = m.loops ∧
      after.arrive toks close = .ready ready

namespace Visits

theorem turns (visits : Visits toks first close starts spot last) :
    Turns toks first close starts.length spot last := by
  induction visits with
  | none => exact .none
  | turn body keep _ ih => exact .turn body keep ih

theorem concat {after : Machine} {next : Spot}
    (visits : Visits toks first close starts spot (first, m))
    (body : Inside toks first close (first, m) (close, after))
    (keep : Stride toks (close, after) next) :
    Visits toks first close (starts ++ [m]) spot next := by
  generalize here : (first, m) = last at visits
  induction visits with
  | none => exact here ▸ .turn body keep .none
  | turn inner back _ ih => exact .turn inner back (ih here)

/-- A walk that leaves a loop behind its `keep` takes one sequence of turns, to one place. -/
theorem unique (ahead : first ≤ close) (visits : Visits toks first close starts spot last)
    (left : close < last.1) (again : Visits toks first close others spot stop)
    (leaves : close < stop.1) : others = starts ∧ stop = last := by
  induction visits generalizing others with
  | none =>
      cases again with
      | none => exact ⟨rfl, rfl⟩
      | turn =>
          dsimp only at left
          omega
  | turn body keep _ ih =>
      cases again with
      | none =>
          dsimp only at leaves
          omega
      | turn goes keeps further =>
          cases body.unique goes
          cases keep.unique keeps
          rcases ih left further with ⟨rfl, same⟩
          exact ⟨rfl, same⟩

end Visits

theorem Completes.turns {start : Spot} (completes : Completes toks first close start) :
    TurnsComplete toks first close start :=
  fun _ m visits => completes m visits.turns.strides

/-- From a turn on, the walk takes a turn for each item that is left and goes on behind the loop. -/
theorem ItemLoop.visits (loop : toks.ItemLoop head close source item value)
    (plain : Machine.Plain item) (other : Machine.Plain value) (apart : item ≠ value) {start : Spot}
    (complete : TurnsComplete toks (toks.lineEnd head + 1) close start)
    (later done : List (String × String)) (entry : String × String)
    (split : Value.entries raw = done ++ entry :: later)
    (reached : Visits toks (toks.lineEnd head + 1) close starts start (toks.lineEnd head + 1, m))
    (open_ : m.loops = toks.itemFrame head raw item value done.length :: outer)
    (top : m.locals = []) (begins : Begins item value entry m) :
    ∃ visited out, Visits toks (toks.lineEnd head + 1) close visited (toks.lineEnd head + 1, m)
        (toks.lineEnd close + 1, out) ∧
      List.Forall₂ (Begins item value) (entry :: later) visited ∧ out.loops = outer := by
  induction later generalizing done entry m starts with
  | nil =>
      rcases complete starts m reached with ⟨after, ready, body, same, arrived⟩
      have keep := loop.keep arrived (same.trans open_)
      rw [if_neg (by rw [split, List.length_append]; exact Nat.lt_irrefl _)] at keep
      exact ⟨[m], _, .turn body keep .none, .cons begins .nil, rfl⟩
  | cons next later ih =>
      rcases complete starts m reached with ⟨after, ready, body, same, arrived⟩
      have keep := loop.keep arrived (same.trans open_)
      have length : (Value.entries raw).length = done.length + (later.length + 2) := by
        rw [split, List.length_append]
        rfl
      rw [if_pos (by omega)] at keep
      have stands : (Value.entries raw)[done.length + 1]? = some next := by
        have second : done.length + 1 - done.length = 1 := by omega
        rw [split, List.getElem?_append_right (Nat.le_add_right _ 1), second]
        rfl
      have bottom : ready.locals = [] := by
        have frames := (body.strides.balanced.trans (.of_ready arrived)).frames
        rw [top] at frames
        exact List.eq_nil_of_length_eq_zero frames
      have turn := turnAt_begins toks head outer plain other apart
        (m := { ready with loops := outer }) bottom stands
      have further : Value.entries raw = (done ++ [entry]) ++ next :: later := by
        rw [split, List.append_assoc]
        rfl
      have place : (done ++ [entry]).length = done.length + 1 := List.length_append
      rcases ih (done ++ [entry]) next further (reached.concat body keep)
        (by rw [place]) turn.2 turn.1 with ⟨visited, out, visits, begun, left⟩
      exact ⟨m :: visited, out, .turn body keep visits, .cons begins begun, left⟩

end TokenStream

open TokenStream

/-- What a run makes of a loop over a value, at top level. -/
structure ItemRun (toks : TokenStream) (head close : Nat) (raw item value : String)
    (m entered : Machine) : Prop where
  /-- The entries of a map are ordered by their names. -/
  sorted : Text.startsWith (Text.trim raw) "\x7b" = true →
    (Value.entries raw).Pairwise fun one other => one.1 < other.1
  /-- With items, the header begins the first turn.  Where every turn that begins comes to the
  `keep`, there is one for each entry of the value, in order and begun with that entry, and no other.
  Then the walk goes on behind the `keep` line, and the loops are open that were open at the
  header. -/
  visits : Value.entries raw ≠ [] →
    TurnsComplete toks (toks.lineEnd head + 1) close
      (toks.turnAt head raw item value 0 m.loops entered) →
    Stride toks (head, m) (toks.turnAt head raw item value 0 m.loops entered) ∧
      ∃ visited out, Visits toks (toks.lineEnd head + 1) close visited
          (toks.turnAt head raw item value 0 m.loops entered) (toks.lineEnd close + 1, out) ∧
        List.Forall₂ (Begins item value) (Value.entries raw) visited ∧ out.loops = m.loops ∧
        (∃ used bound, ∀ more, bound ≤ more →
          m.exec (used + more) toks head = out.exec more toks (toks.lineEnd close + 1)) ∧
        ∀ {others : List Machine} {stop : Spot}, Visits toks (toks.lineEnd head + 1) close others
          (toks.turnAt head raw item value 0 m.loops entered) stop → close < stop.1 →
            others = visited ∧ stop = (toks.lineEnd close + 1, out)
  /-- Without items the body is left out and no variable is set, if the body is made of complete
  statements. -/
  skips : Value.entries raw = [] → toks.Statements (toks.lineEnd head + 1) close →
    Stride toks (head, m) (toks.lineEnd close + 1, entered)
  /-- Whatever the body is made of, it is left out just if the words in it match that open and close
  loops. -/
  words : Value.entries raw = [] → toks.beginsLine close = true →
    toks.lineEnd close + 1 < toks.size →
      (∀ p ≤ toks.lineEnd close, close < p → toks.turns p = false) →
        (Stride toks (head, m) (toks.lineEnd close + 1, entered) ↔
          toks.Matched 0 (toks.lineEnd head + 1) close)

theorem item_loop {toks : TokenStream} {head close : Nat} {source item value : String}
    {m entered : Machine} (loop : toks.ItemLoop head close source item value)
    (plain : Machine.Plain item) (other : Machine.Plain value) (apart : item ≠ value)
    (top : m.locals = []) (arrived : m.arrive toks head = .ready entered) :
    ItemRun toks head close (entered.getD source "") item value m entered := by
  generalize read : entered.getD source "" = raw
  have header := loop.header arrived
  rw [read, Config.ready_loops arrived] at header
  have around := toks.le_lineEnd head
  have unfinished (p : Nat) (below : p < close) (behind : toks.lineEnd head + 1 ≤ p) :
      (toks.peek p).isFinish = false := loop.unfinished p below (by omega)
  have lands (matched : toks.Matched 0 (toks.lineEnd head + 1) close) :
      toks.afterKeep 1 (toks.lineEnd head + 1) = toks.lineEnd close :=
    afterKeep_of_matched loop.keeps loop.below unfinished matched
  refine ⟨Value.entries_sorted, fun some complete => ?_, fun none body => ?_,
    fun none begins more alone => ?_⟩
  · rw [if_neg some] at header
    have bottom : entered.locals = [] := by
      have frames := (Balanced.of_ready arrived).frames
      rw [top] at frames
      exact List.eq_nil_of_length_eq_zero frames
    obtain ⟨entry, later, split⟩ := List.exists_cons_of_ne_nil some
    have turn := turnAt_begins toks head m.loops plain other apart (m := entered) bottom
      (show (Value.entries raw)[0]? = Option.some entry by rw [split]; rfl)
    rcases loop.visits plain other apart complete later [] entry split .none rfl turn.2 turn.1 with
      ⟨visited, out, visits, begun, left⟩
    refine ⟨header, visited, out, visits, split ▸ begun, left,
      Strides.exec (.head header visits.turns.strides), fun again leaves => ?_⟩
    exact visits.unique loop.below (Nat.lt_succ_of_le (le_lineEnd close)) again leaves
  · rw [if_pos none] at header
    have matched := body.matched (Nat.le_refl close) (matched_self.mpr rfl)
    exact lands matched ▸ header
  · rw [if_pos none] at header
    refine ⟨fun stride => ?_, fun matched => lands matched ▸ header⟩
    have same := congrArg Prod.fst (stride.unique header)
    exact matched_of_afterKeep loop.keeps begins alone more loop.below unfinished
      (Nat.succ.inj same).symm

/-- A loop whose body gives new values to its source and to its variables. -/
def reassigned : String :=
  "start loop on \x7bL\x7d as \x7bA\x7d \x7bB\x7d\n    L = \"[]\"\n    A = B\nkeep"

/-- It takes the two turns that its source had items for at the header. -/
theorem item_loop_reassigned :
    let toks := scan reassigned
    let m := (Machine.start {}).setGlobal "L" "[a, b]"
    toks.ItemLoop 0 19 "L" "A" "B" ∧
      ∃ entered one other out, m.arrive toks 0 = .ready entered ∧
        Visits toks 13 19 [one, other] (toks.turnAt 0 "[a, b]" "A" "B" 0 [] entered) (20, out) ∧
          Begins "A" "B" ("a", "1") one ∧ Begins "A" "B" ("b", "2") other := by
  intro toks m
  have ⟨⟨loop, last, close⟩, plain, other, read, passes⟩ :
      (toks.ItemLoop 0 19 "L" "A" "B" ∧ toks.lineEnd 0 = 12 ∧ toks.lineEnd 19 = 19) ∧
        Machine.Plain "A" ∧ Machine.Plain "B" ∧
          Value.entries "[a, b]" = [("a", "1"), ("b", "2")] ∧
            (m.arrive toks 0).readyFor (fun entered => entered.getD "L" "" == "[a, b]" &&
              staysFor toks 13 19 20 (toks.turnAt 0 "[a, b]" "A" "B" 0 [] entered)) = true := by
    decide +kernel
  rcases Arrival.exists_of_readyFor passes with ⟨entered, arrived, checks⟩
  have ⟨source, stays⟩ := Bool.and_eq_true_iff.mp checks
  have run := item_loop loop plain other (by decide) rfl arrived
  rw [eq_of_beq source] at run
  have complete := (completes_of_staysFor (by decide) stays).turns
  have visits := run.visits
  rw [last, close, read] at visits
  rcases visits nofun complete with ⟨-, visited, out, visits, begins, -⟩
  rcases begins with _ | ⟨first, _ | ⟨second, _ | _⟩⟩
  exact ⟨loop, entered, _, _, out, arrived, visits, first, second⟩

/-- A loop with a `keep` in its body that is to be printed. -/
def emptySource : String :=
  "start loop on \x7bL\x7d as \x7bA\x7d \x7bB\x7d\n    print keep\n    Ran = 1\nkeep\nprint 2"

/-- Over an empty list, the search for the `keep` of the loop ends on the line that prints one, and
the rest of the body is run.  The line of the loop is then one `keep` too many. -/
theorem emptySource_runsBody :
    let ran := Machine.runSource emptySource ((Machine.start {}).setGlobal "L" "[]")
    Value.entries "[]" = [] ∧ ran.2.globals.valueOf? "Ran" = some "1" ∧
      ran.1.map Fault.cause = some (.badBlock "'keep' without an open loop") := by
  decide +kernel

end BigScript
