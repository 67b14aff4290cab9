import BigScript.Proofs.Structured.Control

/-!
# Where a program stands

In a stream of tokens the parts of a program stand one behind the other.  A walk finds its way between
them by two scans: over the lines right of the head of a branch, and over the lines that open and
close loops.  Both come to where the tree says that the block ends: the first because a block stands
right of its head and what follows it does not, the second because a program closes as many loops as
it opens.
-/

namespace BigScript

namespace Inset

open Line

variable {toks : TokenStream} {base : Nat} {words : Line}

/-! ## Scans for the line that closes a loop -/

theorem opensLoop_eq (inset : Inset toks base words) {k : Nat} (inside : k < words.length) :
    toks.opensLoop (base + k) = words.stream.opensLoop k := by
  unfold TokenStream.opensLoop TokenStream.kindAt
  rw [inset.peek_eq inside, Nat.add_assoc,
    inset.kind_eq (.word .loop) rfl (Nat.succ_le_of_lt inside)]

theorem afterKeep_other (inset : Inset toks base words) {k : Nat} (inside : k < words.length)
    (other : words.stream.turns k = false) (depth : Nat) :
    toks.afterKeep depth (base + k) = toks.afterKeep depth (base + (k + 1)) := by
  have fits := inset.fits
  rw [TokenStream.turns, Bool.or_eq_false_iff] at other
  rw [TokenStream.afterKeep, dif_pos (by omega), ← TokenStream.peek_of_lt (by omega),
    inset.opensLoop_eq inside, inset.peek_eq inside, inset.unfinished_at inside, other.1, other.2]
  rfl

/-- The rest of a line without words that open or close loops. -/
theorem afterKeep_rest (inset : Inset toks base words) {k : Nat} (inside : k ≤ words.length)
    (others : ∀ j, k ≤ j → j < words.length → words.stream.turns j = false) (depth : Nat) :
    toks.afterKeep depth (base + k) = toks.afterKeep depth (base + words.length) := by
  rcases Nat.lt_or_eq_of_le inside with within | rfl
  · rw [inset.afterKeep_other within (others k (Nat.le_refl k) within)]
    exact inset.afterKeep_rest within (fun j low => others j (Nat.le_of_succ_le low)) depth
  · rfl
termination_by words.length - k

theorem afterKeep_tail (inset : Inset toks base words) (level : words.Level) (depth : Nat) :
    toks.afterKeep depth (base + 1) = toks.afterKeep depth (base + words.length) :=
  inset.afterKeep_rest inset.some (fun j later inside => level j inside later) depth

/-- A line that begins with another word and is level behind it. -/
theorem afterKeep_level (inset : Inset toks base words) (level : words.Level)
    (other : words.stream.turns 0 = false) (depth : Nat) :
    toks.afterKeep depth base = toks.afterKeep depth (base + words.length) :=
  (inset.afterKeep_other inset.some other depth).trans (inset.afterKeep_tail level depth)

/-- A class of token that neither opens nor closes a loop. -/
theorem turns_of_kind {stream : TokenStream} {i : Nat} {kind : Kind}
    (is : (stream.peek i).kind = kind)
    (other : [Kind.word .keep, .word .start, .word .startLoop].contains kind = false) :
    stream.turns i = false := by
  have apart (word : Kind)
      (among : [Kind.word .keep, .word .start, .word .startLoop].contains word) :
      (kind == word) = false := by
    refine beq_eq_false_iff_ne.mpr ?_
    rintro rfl
    rw [among] at other
    cases other
  rw [TokenStream.turns, TokenStream.opensLoop, TokenStream.kindAt, Token.isWord, is,
    apart _ rfl, apart _ rfl, apart _ rfl]
  rfl

theorem afterKeep_simple (inset : Inset toks base words) (simple : words.Simple) (depth : Nat) :
    toks.afterKeep depth base = toks.afterKeep depth (base + words.length) := by
  refine inset.afterKeep_rest (Nat.zero_le _) (fun j _ _ => turns_of_kind rfl ?_) depth
  by_cases print : (words.stream.peek j).kind = .word .print
  · rw [print]
    rfl
  · have plain := simple.word print
    have other (word : Keyword) (begins : (Kind.word word).beginsStatement = true) :
        (words.stream.peek j).kind ≠ .word word := by
      intro same
      rw [same, begins] at plain
      cases plain
    simp only [List.contains_cons, beq_eq_false_iff_ne.mpr (other .keep rfl),
      beq_eq_false_iff_ne.mpr (other .start rfl), beq_eq_false_iff_ne.mpr (other .startLoop rfl),
      List.contains_nil, Bool.or_false]

theorem afterKeep_branch (inset : Inset toks base words) (branches : words.Branch) (depth : Nat) :
    toks.afterKeep depth base = toks.afterKeep depth (base + words.length) := by
  have head : (words.stream.peek 0).kind = .word .ifWord := first_eq inset.some ▸ branches.word
  exact inset.afterKeep_level branches.level (turns_of_kind head rfl) depth

theorem afterKeep_leaves (inset : Inset toks base words) (leaves : words.Leaves) (depth : Nat) :
    toks.afterKeep depth base = toks.afterKeep depth (base + words.length) := by
  refine inset.afterKeep_rest (Nat.zero_le _) (fun j _ inside => ?_) depth
  have word : (words.map Token.kind)[j]? = some (words.stream.peek j).kind := by
    rw [List.getElem?_map, List.getElem?_eq_getElem inside, stream_peek inside]
    rfl
  rw [leaves.word] at word
  rcases j with _ | _ | j
  · exact turns_of_kind (Option.some.inj word).symm rfl
  · exact turns_of_kind (Option.some.inj word).symm rfl
  · cases word

/-- The head of a loop is counted once. -/
theorem afterKeep_opens (inset : Inset toks base words) (opens : words.Opens) (depth : Nat) :
    toks.afterKeep depth base = toks.afterKeep (depth + 1) (base + words.length) := by
  have fits := inset.fits
  have counted : toks.opensLoop base = true := by
    unfold TokenStream.opensLoop TokenStream.kindAt
    rw [inset.head_eq]
    rcases opens.word with short | ⟨long, next⟩
    · rw [short]
      rfl
    · have inside : 1 < words.length := lt_of_kind (beq_iff_eq.mpr next) nofun
      rw [long, inset.peek_eq inside, next]
      rfl
  rw [TokenStream.afterKeep, dif_pos (by omega), ← TokenStream.peek_of_lt (by omega),
    inset.head_unfinished, counted]
  exact inset.afterKeep_tail opens.level (depth + 1)

theorem afterKeep_keep (inset : Inset toks base words) (keeps : words.Keeps) (depth : Nat) :
    toks.afterKeep depth base =
      if depth = 1 then toks.lineEnd base else toks.afterKeep (depth - 1) (base + 1) := by
  have fits := inset.fits
  have head : (toks.peek base).kind = .word .keep := inset.head_eq ▸ keeps.word
  have opens : toks.opensLoop base = false := by
    unfold TokenStream.opensLoop TokenStream.kindAt
    rw [head]
    rfl
  rw [TokenStream.afterKeep, dif_pos (by omega), ← TokenStream.peek_of_lt (by omega),
    inset.head_unfinished, opens, Token.isWord, head]
  rfl

/-- The closing line of an inner loop is counted once. -/
theorem afterKeep_inner (inset : Inset toks base words) (keeps : words.Keeps) {depth : Nat}
    (inner : depth ≠ 0) :
    toks.afterKeep (depth + 1) base = toks.afterKeep depth (base + words.length) := by
  rw [inset.afterKeep_keep keeps, if_neg (by omega), Nat.add_sub_cancel]
  exact inset.afterKeep_tail keeps.level depth

/-- Behind the closing line of the loop that is left the walk goes on. -/
theorem afterKeep_outer (inset : Inset toks base words) (keeps : words.Keeps) :
    toks.afterKeep 1 base + 1 = base + words.length := by
  rw [inset.afterKeep_keep keeps, if_pos rfl]
  exact inset.lineEnd_eq inset.some

end Inset

/-! ## Programs in a stream -/

namespace Program

variable {toks : TokenStream}

/-- A program stands in a stream from one index up to another. -/
def Stands (toks : TokenStream) : Program → Nat → Nat → Prop
  | done, base, stop => stop = base
  | simple words rest, base, stop =>
    Inset toks base words ∧ rest.Stands toks (base + words.length) stop
  | branch head body rest, base, stop =>
    ∃ next, Inset toks base head ∧ body.Stands toks (base + head.length) next ∧
      rest.Stands toks next stop
  | loop head body last rest, base, stop =>
    ∃ next, Inset toks base head ∧ body.Stands toks (base + head.length) next ∧
      Inset toks next last ∧ rest.Stands toks (next + last.length) stop
  | leave words rest, base, stop =>
    Inset toks base words ∧ rest.Stands toks (base + words.length) stop

namespace Stands

/-- A program closes as many loops as it opens. -/
theorem afterKeep {program : Program} {base stop : Nat} {inLoop : Bool}
    (stands : program.Stands toks base stop) (formed : program.Formed inLoop) {depth : Nat}
    (inner : depth ≠ 0) : toks.afterKeep depth base = toks.afterKeep depth stop := by
  induction program generalizing base stop inLoop depth with
  | done => rw [show stop = base from stands]
  | simple words rest ih =>
    rw [stands.1.afterKeep_simple formed.1]
    exact ih stands.2 formed.2 inner
  | branch head body rest ihBody ihRest =>
    rcases stands with ⟨next, inset, inside, behind⟩
    rcases formed with ⟨branches, -, -, inBody, inRest⟩
    rw [inset.afterKeep_branch branches, ihBody inside inBody inner]
    exact ihRest behind inRest inner
  | loop head body last rest ihBody ihRest =>
    rcases stands with ⟨next, inset, inside, closing, behind⟩
    rcases formed with ⟨opens, -, keeps, -, inBody, inRest⟩
    rw [inset.afterKeep_opens opens, ihBody inside inBody (Nat.succ_ne_zero depth),
      closing.afterKeep_inner keeps inner]
    exact ihRest behind inRest inner
  | leave words rest ih =>
    rw [stands.1.afterKeep_leaves formed.1]
    exact ih stands.2 formed.2.2 inner

/-- The line that stands behind a program begins like one. -/
theorem opensLine {program : Program} {base stop : Nat} (stands : program.Stands toks base stop)
    (opens : (toks.peek base).kind.opensLine = true) : (toks.peek stop).kind.opensLine = true := by
  induction program generalizing base stop with
  | done => exact (show stop = base from stands) ▸ opens
  | simple words rest ih => exact ih stands.2 stands.1.next
  | branch head body rest ihBody ihRest =>
    rcases stands with ⟨next, inset, inside, behind⟩
    exact ihRest behind (ihBody inside inset.next)
  | loop head body last rest ihBody ihRest =>
    rcases stands with ⟨next, -, -, closing, behind⟩
    exact ihRest behind closing.next
  | leave words rest ih => exact ih stands.2 stands.1.next

/-- The first line of a program stands where the program does. -/
theorem head {program : Program} {base stop : Nat} (stands : program.Stands toks base stop)
    (some : program ≠ .done) : ∃ words ∈ program.lines.head?, Inset toks base words := by
  cases program with
  | done => exact absurd rfl some
  | simple words rest => exact ⟨words, rfl, stands.1⟩
  | branch head body rest =>
    rcases stands with ⟨next, inset, -⟩
    exact ⟨head, rfl, inset⟩
  | loop head body last rest =>
    rcases stands with ⟨next, inset, -⟩
    exact ⟨head, rfl, inset⟩
  | leave words rest => exact ⟨words, rfl, stands.1⟩

/-- A program is a run of whole lines. -/
theorem lines {program : Program} {base stop column : Nat}
    (stands : program.Stands toks base stop)
    (right : ∀ words ∈ program.lines, column ≤ words.column) : toks.Lines column base stop := by
  have line {base : Nat} {words : Line} (inset : Inset toks base words)
      (indented : column ≤ words.column) : toks.Lines column base (base + words.length) :=
    .single inset.head_unfinished (inset.head_eq ▸ indented) (inset.lineEnd_eq inset.some)
  induction program generalizing base stop with
  | done =>
    rw [show stop = base from stands]
    exact .nil base
  | simple words rest ih =>
    rw [Program.lines, List.forall_mem_cons] at right
    exact (line stands.1 right.1).trans (ih stands.2 right.2)
  | branch head body rest ihBody ihRest =>
    rcases stands with ⟨next, inset, inside, behind⟩
    rw [Program.lines, List.forall_mem_cons, List.forall_mem_append] at right
    exact (line inset right.1).trans
      ((ihBody inside right.2.1).trans (ihRest behind right.2.2))
  | loop head body last rest ihBody ihRest =>
    rcases stands with ⟨next, inset, inside, closing, behind⟩
    rw [Program.lines, List.forall_mem_cons, List.forall_mem_append, List.forall_mem_cons] at right
    exact (line inset right.1).trans ((ihBody inside right.2.1).trans
      ((line closing right.2.2.1).trans (ihRest behind right.2.2.2)))
  | leave words rest ih =>
    rw [Program.lines, List.forall_mem_cons] at right
    exact (line stands.1 right.1).trans (ih stands.2 right.2)

end Stands

/-- A block that is left out ends where its lines do. -/
theorem skipBlock {head : Line} {body : Program} {base stop : Nat} (inset : Inset toks base head)
    (under : Under head body) (stands : body.Stands toks (base + head.length) stop)
    (dedents : TokenStream.Dedents toks head.column stop) :
    toks.skipBlock base head.column + 1 = stop := by
  have block : toks.Lines (head.column + 1) (base + head.length) stop := stands.lines under.deeper
  have past : base + head.length ≤ stop := block.le
  have single : (toks.peek stop).isSymbol .ampersand = false := by
    refine beq_eq_false_iff_ne.mpr fun same => ?_
    have opens := stands.opensLine inset.next
    rw [same] at opens
    cases opens
  have ends : toks.lineEnd base + 1 = base + head.length := inset.lineEnd_eq inset.some
  have some := inset.some
  rw [TokenStream.skipBlock, ends, TokenStream.blockEnd_of_lines true block,
    TokenStream.blockEnd_of_dedents dedents fun _ => single]
  omega

/-- The body of a loop begins right of its head. -/
theorem Under.begins {head : Line} {body : Program} {base stop : Nat} (under : Under head body)
    (stands : body.Stands toks base stop) :
    (toks.peek base).isFinish = false ∧ head.column < (toks.peek base).column := by
  rcases stands.head under.some with ⟨words, first, inset⟩
  refine ⟨inset.head_unfinished, ?_⟩
  rw [inset.head_eq]
  exact under.deeper words (List.mem_of_mem_head? first)

/-! ## Programs that are spelled out -/

/-- The lines of a program are whole, and begin as lines of programs do. -/
theorem Formed.whole {program : Program} {inLoop : Bool} (formed : program.Formed inLoop) :
    ∀ words ∈ program.lines, words.Whole ∧ words.first.kind.opensLine = true := by
  have simpleFirst {words : Line} (simple : words.Simple) :
      words.Whole ∧ words.first.kind.opensLine = true := by
    refine ⟨simple.toWhole, ?_⟩
    rcases simple.head with print | ⟨name, -⟩
    · rw [print]; rfl
    · rw [name]; rfl
  induction program generalizing inLoop with
  | done => exact fun _ among => nomatch among
  | simple words rest ih =>
    rw [lines, List.forall_mem_cons]
    exact ⟨simpleFirst formed.1, ih formed.2⟩
  | branch head body rest ihBody ihRest =>
    rcases formed with ⟨branches, -, -, inBody, inRest⟩
    rw [lines, List.forall_mem_cons, List.forall_mem_append]
    exact ⟨⟨branches.toWhole, by rw [branches.word]; rfl⟩, ihBody inBody, ihRest inRest⟩
  | loop head body last rest ihBody ihRest =>
    rcases formed with ⟨opens, -, keeps, -, inBody, inRest⟩
    rw [lines, List.forall_mem_cons, List.forall_mem_append, List.forall_mem_cons]
    refine ⟨⟨opens.toWhole, ?_⟩, ihBody inBody, ⟨keeps.toWhole, by rw [keeps.word]; rfl⟩,
      ihRest inRest⟩
    rcases opens.word with short | ⟨long, -⟩
    · rw [short]; rfl
    · rw [long]; rfl
  | leave words rest ih =>
    rw [lines, List.forall_mem_cons]
    exact ⟨⟨formed.1.toWhole, by rw [formed.1.first_kind]; rfl⟩, ih formed.2.2⟩

/-- Lines that are written one below the other make up a stream. -/
structure Written (toks : TokenStream) (all : List Line) : Prop where
  spelled : ∃ finish : Token, finish.isFinish = true ∧ toks.toList = all.flatten ++ [finish]
  whole : ∀ words ∈ all, words.Whole ∧ words.first.kind.opensLine = true
  rows : all.Pairwise fun upper lower => upper.row < lower.row

/-- Tokens that are written out in three parts are found again in the second one. -/
theorem peek_second {front words back : List Token}
    (spelled : toks.toList = front ++ (words ++ back)) {k : Nat} (inside : k < words.length) : toks.peek (front.length + k) = words[k] := by
  have size : toks.size = front.length + (words.length + back.length) := by
    rw [← Array.length_toList, spelled, List.length_append, List.length_append]
  have within : front.length + k < toks.size := by omega
  have token : toks.toList[front.length + k]? = some words[k] := by
    rw [spelled, List.getElem?_append_right (Nat.le_add_right _ _), Nat.add_sub_cancel_left,
      List.getElem?_append_left inside, List.getElem?_eq_getElem inside]
  rw [Array.getElem?_toList, Array.getElem?_eq_getElem within] at token
  rw [TokenStream.peek_of_lt within, Option.some.inj token]

section Inset

variable {all before after : List Line} {words : Line}

theorem Written.spelled_at (written : Written toks all) (place : all = before ++ words :: after) :
    ∃ finish : Token, finish.isFinish = true ∧
      toks.toList = before.flatten ++ (words ++ (after.flatten ++ [finish])) := by
  rcases written.spelled with ⟨finish, finished, spelled⟩
  refine ⟨finish, finished, ?_⟩
  rw [spelled, place]
  simp only [List.flatten_append, List.flatten_cons, List.append_assoc]

/-- What is written behind a line is on later rows, up to the end of the script. -/
theorem Written.behind (written : Written toks all) (place : all = before ++ words :: after)
    {j : Nat} (outside : before.flatten.length + words.length ≤ j) :
    (toks.peek j).isFinish = true ∨ (toks.peek j).line ≠ words.first.line := by
  rcases written.spelled_at place with ⟨finish, finished, spelled⟩
  rw [← List.append_assoc] at spelled
  have size := congrArg List.length spelled
  simp only [Array.length_toList, List.length_append, List.length_singleton] at size
  rcases Nat.exists_eq_add_of_le outside with ⟨i, rfl⟩
  rw [← List.length_append]
  rcases Nat.lt_trichotomy i after.flatten.length with inner | rfl | outer
  · rw [peek_second spelled inner]
    rcases List.mem_flatten.mp (List.getElem_mem inner) with ⟨lower, member, inside⟩
    have rows := written.rows
    rw [place, List.pairwise_append, List.pairwise_cons] at rows
    have among : lower ∈ all := place ▸ List.mem_append_right _ (.tail _ member)
    rw [(written.whole lower among).1.row _ inside]
    exact .inr (Nat.ne_of_gt (rows.2.1.1 lower member))
  · rw [← List.append_nil [finish], ← List.append_assoc] at spelled
    have last := peek_second (k := 0) spelled (Nat.lt_succ_self 0)
    rw [List.length_append, Nat.add_zero] at last
    rw [last]
    exact .inl finished
  · rw [TokenStream.peek_of_le (by rw [List.length_append]; omega)]
    exact .inl rfl

/-- What is written behind a line begins as lines of programs do. -/
theorem Written.next (written : Written toks all) (place : all = before ++ words :: after) :
    (toks.peek (before.flatten.length + words.length)).kind.opensLine = true := by
  rcases written.spelled_at place with ⟨finish, finished, spelled⟩
  rw [← List.append_assoc] at spelled
  rw [← List.length_append]
  cases after with
  | nil =>
    rw [List.flatten_nil, List.nil_append, ← List.append_nil [finish]] at spelled
    have last := peek_second (k := 0) spelled (Nat.lt_succ_self 0)
    rw [Nat.add_zero] at last
    rw [last, List.getElem_singleton, eq_of_beq finished]
    rfl
  | cons lower rest =>
    have among : lower ∈ all := place ▸ List.mem_append_right _ (.tail _ (.head rest))
    rcases lower with _ | ⟨first, more⟩
    · cases (written.whole _ among).1.some
    · have token := peek_second (k := 0) spelled (Nat.zero_lt_succ _)
      rw [Nat.add_zero] at token
      rw [token]
      exact (written.whole _ among).2

theorem Written.inset (written : Written toks all) (place : all = before ++ words :: after) :
    Inset toks before.flatten.length words := by
  have among : words ∈ all := place ▸ List.mem_append_right _ (.head _)
  rcases written.spelled_at place with ⟨finish, -, spelled⟩
  have size := congrArg List.length spelled
  simp only [Array.length_toList, List.length_append, List.length_singleton] at size
  exact { (written.whole words among).1 with
    here := fun k inside => peek_second spelled inside
    behind := fun j outside => written.behind place outside
    next := written.next place
    fits := by omega }

end Inset

theorem flatten_length_concat (before : List Line) (words : Line) :
    (before ++ [words]).flatten.length = before.flatten.length + words.length := by
  rw [List.flatten_append, List.length_append, List.flatten_singleton]

/-- Wherever its lines stand among the others, a program stands there. -/
theorem Written.stands {all : List Line} (written : Written toks all) {program : Program}
    {before after : List Line} (place : all = before ++ program.lines ++ after) :
    program.Stands toks before.flatten.length (before ++ program.lines).flatten.length := by
  have behind (before : List Line) (words : Line) (others : List Line) :
      before ++ words :: others = before ++ [words] ++ others := by
    rw [List.append_assoc, List.singleton_append]
  induction program generalizing before after with
  | done =>
    rw [lines, List.append_nil]
    rfl
  | simple words rest ih =>
    rw [lines, List.append_assoc, List.cons_append] at place
    refine ⟨written.inset place, ?_⟩
    rw [lines, behind, ← flatten_length_concat]
    rw [behind, ← List.append_assoc] at place
    exact ih place
  | branch head body rest ihBody ihRest =>
    rw [lines, List.append_assoc, List.cons_append] at place
    refine ⟨(before ++ [head] ++ body.lines).flatten.length, written.inset place, ?_, ?_⟩
    · rw [← flatten_length_concat]
      rw [behind, List.append_assoc body.lines, ← List.append_assoc] at place
      exact ihBody place
    · rw [lines, behind _ head (body.lines ++ rest.lines), ← List.append_assoc]
      rw [behind, List.append_assoc body.lines, ← List.append_assoc, ← List.append_assoc] at place
      exact ihRest place
  | loop head body last rest ihBody ihRest =>
    rw [lines, List.append_assoc, List.cons_append] at place
    refine ⟨(before ++ [head] ++ body.lines).flatten.length, written.inset place, ?_, ?_, ?_⟩
    · rw [← flatten_length_concat]
      rw [behind, List.append_assoc body.lines, ← List.append_assoc] at place
      exact ihBody place
    · rw [behind, List.append_assoc body.lines, ← List.append_assoc, List.cons_append] at place
      exact written.inset place
    · rw [← flatten_length_concat, lines, behind _ head (body.lines ++ last :: rest.lines),
        ← List.append_assoc, behind _ last rest.lines]
      rw [behind, List.append_assoc body.lines, ← List.append_assoc, List.cons_append,
        behind _ last, ← List.append_assoc] at place
      exact ihRest place
  | leave words rest ih =>
    rw [lines, List.append_assoc, List.cons_append] at place
    refine ⟨written.inset place, ?_⟩
    rw [lines, behind, ← flatten_length_concat]
    rw [behind, ← List.append_assoc] at place
    exact ih place

theorem LaidOut.stands {program : Program} (laid : program.LaidOut) (spells : program.Spells toks) :
    program.Stands toks 0 program.lines.flatten.length := by
  have written : Written toks program.lines := ⟨spells, laid.formed.whole, laid.rows⟩
  have place : program.lines = [] ++ program.lines ++ [] := (List.append_nil _).symm
  exact written.stands place

end Program
end BigScript
