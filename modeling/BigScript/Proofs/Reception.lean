import BigScript.Proofs.ResultTail
import BigScript.Proofs.Substitution

/-!
# What a request brings

A script asks for a page with `get web` and sends data with `get post`.  What comes back is one text,
whatever became of the request: the body that was received, or the words for what went wrong.  Whether
a bug is raised is decided afterwards, by the beginning of that text.

So the two ends of an exchange are kept apart here before they become a text.  `Received` and `Failed`
speak of what the network answered, and `reception_law` says what a statement makes of it: the body
is always handed on as it is, every failure raises a bug, and so does a body that begins like one
(`lookalike_raises`).  The network may be any, and so may the settings that the script has made.
-/

namespace BigScript

open Machine Statement

/-! ## The ends of an exchange -/

namespace Text

theorem startsWith_iff (s start : String) : startsWith s start = true ↔ ∃ rest, s = start ++ rest := by
  rw [startsWith, Option.isSome_iff_exists]
  constructor
  · rintro ⟨rest, found⟩
    refine ⟨String.ofList rest, String.toList_inj.mp ?_⟩
    rw [String.toList_append, String.toList_ofList]
    exact dropStart?_eq_some found
  · rintro ⟨rest, rfl⟩
    rw [String.toList_append]
    exact ⟨_, dropStart?_append _ _⟩

theorem lower_eq_of_toList {text lowered : String}
    (same : text.toList.map lowerChar = lowered.toList) : lower text = lowered :=
  String.toList_inj.mp (String.toList_map.trans same)

end Text

namespace Client

/-- The exchange is completed: there was an answer, and this is its body. -/
def Received (result : Except String Answer) (body : String) : Prop :=
  ∃ answer, result = .ok answer ∧ bodyText answer = .ok body

/-- The exchange failed, which is told in these words: there was no answer, or its body could not be
decoded. -/
inductive Failed (result : Except String Answer) : String → Prop where
  | request {problem : String} (unanswered : result = .error problem) :
      Failed result ("BigNet Error: Request Failed. " ++ problem)
  | body {answer : Answer} {problem : String} (answered : result = .ok answer)
      (undecoded : bodyText answer = .error problem) :
      Failed result ("BigNet Error: Bad Response Text. " ++ problem)

/-- Whether a text begins as the words for failures do. -/
def LooksFailed (text : String) : Prop := ∃ rest, text = failureStart ++ rest

variable {result : Except String Answer} {body words : String}

theorem Received.outcome (received : Received result body) : outcome result = body := by
  rcases received with ⟨answer, rfl, decoded⟩
  rw [Client.outcome, decoded]

theorem Failed.outcome (failed : Failed result words) : outcome result = words := by
  cases failed with
  | request unanswered =>
    rw [unanswered, Client.outcome]
    rfl
  | body answered undecoded =>
    rw [answered, Client.outcome, undecoded]
    rfl

/-- The words for a failure always begin in the same way. -/
theorem Failed.looksFailed (failed : Failed result words) : LooksFailed words := by
  cases failed with
  | @request problem => exact ⟨": Request Failed. " ++ problem, by rw [← String.append_assoc]; rfl⟩
  | @body _ problem => exact ⟨": Bad Response Text. " ++ problem, by rw [← String.append_assoc]; rfl⟩

theorem received_iff (result : Except String Answer) :
    (∃ body, Received result body) ↔ ¬ ∃ words, Failed result words := by
  constructor
  · rintro ⟨body, answer, rfl, decoded⟩ ⟨words, failed⟩
    cases failed with
    | request unanswered => cases unanswered
    | body answered undecoded =>
      cases answered
      cases decoded.symm.trans undecoded
  · intro complete
    cases result with
    | error problem => exact absurd ⟨_, .request rfl⟩ complete
    | ok answer =>
      cases decoded : bodyText answer with
      | error problem => exact absurd ⟨_, .body rfl decoded⟩ complete
      | ok body => exact ⟨body, answer, rfl, decoded⟩

end Client

/-! ## Tails -/

namespace Results

variable {toks : TokenStream} {line i j stop : Nat} {name value : String} {m : Machine}

/-- A tail with a single name binds it to the first result. -/
theorem setAs_single (tail : toks.hasTail i = true) (single : toks.takesList i = false)
    (named : toks.NameList (toks.peek (toks.tailStart i)).line (toks.tailStart i + 2) [name] stop) :
    ((setAs toks i [value]).run m).2 = m.assign name value := by
  rw [setAs_run, if_pos tail, if_neg (Bool.eq_false_iff.mp single)]
  dsimp only
  cases named with
  | name first rest =>
    cases rest with
    | none ends => rw [bindNames_name first.line first.begins, first.bracedName, bindNames_ends ends]; rfl

/-- Taking results raises no bug. -/
theorem assign_raises (name value : String) (m : Machine) : (m.assign name value).raises = m.raises :=
  congrArg (fun m => m.raises) (assign_binds name value m).rest

theorem bindNames_raises (toks : TokenStream) (line : Nat) (results : List String) (j : Nat)
    (m : Machine) : ((bindNames toks line results j).run m).2.raises = m.raises := by
  fun_induction bindNames toks line results j generalizing m with
  | case1 results j inside t here name ih => exact (ih _).trans (assign_raises _ _ m)
  | case2 | case3 => rfl

theorem setAs_raises (toks : TokenStream) (i : Nat) (results : List String) (m : Machine) :
    ((setAs toks i results).run m).2.raises = m.raises := by
  rw [setAs_run]
  split
  · dsimp only
    split
    · exact assign_raises _ _ m
    · exact bindNames_raises _ _ _ _ m
  · rfl

end Results

/-! ## Statements -/

namespace Statement

/-- A statement that makes an exchange, `get web URL` or `get post URL [with] DATA`: what becomes of it,
the last token, and the machine that the operands have been read in. -/
inductive Exchanges (toks : TokenStream) (i : Nat) (m : Machine) :
    Except String Answer → Nat → Machine → Prop where
  | web {url : String} {last : Nat} {read : Machine} (head : (toks.peek i).kind = .word .get)
      (line : toks.onLine i (i + 1) = true) (particle : (toks.peek (i + 1)).isName "web" = true)
      (reads : (Operand.text toks (i + 2)).run m = ((url, last), read)) :
      Exchanges toks i m
        (Client.sendFollowing read.network read.client Client.mostRedirects (Address.read url)) last read
  | post {url data : String} {urlEnd last : Nat} {middle read : Machine}
      (head : (toks.peek i).kind = .word .get) (line : toks.onLine i (i + 1) = true)
      (particle : (toks.peek (i + 1)).kind = .word .post)
      (unconverted : Verb.asIndex? toks (i + 1) (i + 1) = none)
      (readsUrl : (Operand.text toks (i + 2)).run m = ((url, urlEnd), middle))
      (readsData : (Operand.text toks
        (if (toks.peek (urlEnd + 1)).isWord .withWord then urlEnd + 2 else urlEnd + 1)).run middle =
          ((data, last), read)) :
      Exchanges toks i m (Client.send read.network read.client "POST" (Address.read url) data) last read

variable {toks : TokenStream} {i last : Nat} {m read : Machine} {result : Except String Answer}

theorem exchanged_run (text : String) (m : Machine) :
    (Verb.exchanged text).run m =
      (text, if Text.startsWith text Client.failureStart then m.raiseBug text else m) := by
  unfold Verb.exchanged
  cases Text.startsWith text Client.failureStart <;> rfl

/-- The text of an exchange is looked at and handed to the tail. -/
theorem Exchanges.run (exchanges : Exchanges toks i m result last read) (run : Runner) :
    (dispatch run toks i).run m = (finish toks last [Client.outcome result]).run
      (if Text.startsWith (Client.outcome result) Client.failureStart then
        read.raiseBug (Client.outcome result) else read) := by
  cases exchanges with
  | web head line particle reads =>
    have dispatched : dispatch run toks i = Verb.getWeb toks (i + 1) := by
      unfold dispatch
      rw [head]
      change Verb.getValue toks i = _
      unfold Verb.getValue
      dsimp only
      rw [line, particle]
      rfl
    rw [dispatched]
    unfold Verb.getWeb Client.fetch
    rw [Act.run_bind, reads]
    dsimp only
    rw [Act.run_bind, Act.run_get]
    dsimp only
    rw [Act.run_bind, exchanged_run]
  | @post url data urlEnd last middle read head line particle unconverted readsUrl readsData =>
    have other (word : String) : (toks.peek (i + 1)).isName word = false := by
      rw [Token.isName, particle]
      rfl
    have noLength : (toks.peek (i + 1)).isWord .len = false := by
      rw [Token.isWord, particle]
      rfl
    have dispatched : dispatch run toks i = Verb.getPost toks (i + 1) := by
      unfold dispatch
      rw [head]
      change Verb.getValue toks i = _
      unfold Verb.getValue
      dsimp only
      rw [line, other, other, other, noLength, unconverted]
      unfold Verb.getWord
      rw [Token.lexeme_of_word particle]
      rfl
    rw [dispatched]
    unfold Verb.getPost Client.post
    rw [Act.run_bind, readsUrl]
    dsimp only
    rw [Act.run_bind, readsData]
    dsimp only
    rw [Act.run_bind, Act.run_get]
    dsimp only
    rw [Act.run_bind, exchanged_run]

end Statement

/-! ## The law -/

/-- What a statement makes of an exchange.  `read` is the machine that its operands have been read in,
so that the bugs spoken of here are those of the exchange. -/
structure ReceptionLaw (toks : TokenStream) (i last : Nat) (m read : Machine)
    (result : Except String Answer) : Prop where
  /-- An exchange is completed or fails. -/
  decided : (∃ body, Client.Received result body) ↔ ¬ ∃ words, Client.Failed result words
  /-- The body of a completed one is handed on, and nothing else happens. -/
  received : ∀ body, Client.Received result body → ¬ Client.LooksFailed body → ∀ run : Runner,
    (dispatch run toks i).run m = (finish toks last [body]).run read
  /-- If the body begins like the words for a failure, it is handed on too, but raised as a bug. -/
  mistaken : ∀ body, Client.Received result body → Client.LooksFailed body → ∀ run : Runner,
    (dispatch run toks i).run m = (finish toks last [body]).run (read.raiseBug body)
  /-- The words for a failure are raised as a bug and handed on. -/
  failed : ∀ words, Client.Failed result words → ∀ run : Runner,
    (dispatch run toks i).run m = (finish toks last [words]).run (read.raiseBug words)
  /-- A variable in the tail is bound to the body, however this begins. -/
  bound : ∀ body, Client.Received result body → ∀ name stop, toks.hasTail last = true →
    toks.takesList last = false →
    toks.NameList (toks.peek (toks.tailStart last)).line (toks.tailStart last + 2) [name] stop →
    Plain name → read.isHidden name = false → ∀ run : Runner,
      ((dispatch run toks i).run m).2.get? name = some body
  /-- So a bug is raised exactly if the exchange failed or a body looks as if it had. -/
  raised : ∀ run : Runner, ((dispatch run toks i).run m).2.raises ≠ read.raises ↔
    (∃ words, Client.Failed result words) ∨ ∃ body, Client.Received result body ∧ Client.LooksFailed body

theorem reception_law {toks : TokenStream} {i last : Nat} {m read : Machine}
    {result : Except String Answer} (exchanges : Exchanges toks i m result last read) :
    ReceptionLaw toks i last m read result := by
  have received (body : String) (received : Client.Received result body)
      (fine : ¬ Client.LooksFailed body) (run : Runner) :
      (dispatch run toks i).run m = (finish toks last [body]).run read := by
    rw [exchanges.run, received.outcome, if_neg fun looks => fine ((Text.startsWith_iff _ _).mp looks)]
  have mistaken (body : String) (received : Client.Received result body)
      (looks : Client.LooksFailed body) (run : Runner) :
      (dispatch run toks i).run m = (finish toks last [body]).run (read.raiseBug body) := by
    rw [exchanges.run, received.outcome, if_pos ((Text.startsWith_iff _ _).mpr looks)]
  have failed (words : String) (failed : Client.Failed result words) (run : Runner) :
      (dispatch run toks i).run m = (finish toks last [words]).run (read.raiseBug words) := by
    rw [exchanges.run, failed.outcome, if_pos ((Text.startsWith_iff _ _).mpr failed.looksFailed)]
  have louder (text : String) :
      ((finish toks last [text]).run (read.raiseBug text)).2.raises ≠ read.raises := by
    rw [finish, Results.setAs_raises]
    exact List.cons_ne_self text read.raises
  refine ⟨Client.received_iff result, received, mistaken, failed, ?_, ?_⟩
  · intro body got name stop tail single named plain shown run
    by_cases looks : Client.LooksFailed body
    · rw [mistaken body got looks run, finish, Results.setAs_single tail single named]
      exact plain.get?_of_binds (plain.binds body _) shown
    · rw [received body got looks run, finish, Results.setAs_single tail single named]
      exact plain.get?_of_binds (plain.binds body _) shown
  · intro run
    constructor
    · intro loud
      by_cases broken : ∃ words, Client.Failed result words
      · exact .inl broken
      · rcases (Client.received_iff result).mpr broken with ⟨body, got⟩
        refine .inr ⟨body, got, ?_⟩
        by_contra fine
        rw [received body got fine run, finish, Results.setAs_raises] at loud
        exact loud rfl
    · rintro (⟨words, broken⟩ | ⟨body, got, looks⟩)
      · rw [failed words broken run]
        exact louder words
      · rw [mistaken body got looks run]
        exact louder body

/-! ### Two bodies -/

/-- A machine whose network answers every request with one body. -/
def answering (body : String) : Machine := .start { network := fun _ => .ok { body } }

/-- A statement that asks for a page. -/
def getPage : TokenStream := scan "get web \"http://x/\" & set as \x7bA\x7d"

theorem splitHost_page : Address.splitHost "http://x/" = ("http", "x", "/") := by
  have cut : Text.cut "//" "http://x/" = some ("http:", "x/") := by decide +kernel
  have whole : "http:".contains '/' = false := by simp
  have host : Address.splitBefore (fun c => c == '/' || c == '?' || c == '#') "x/" = ("x", "/") := by
    decide +kernel
  have scheme : Text.withoutEnding "http:" ":" = "http" := by decide +kernel
  have lowered : Text.lower "http" = "http" := Text.lower_eq_of_toList (by decide)
  unfold Address.splitHost
  rw [cut]
  dsimp only
  rw [whole, host, scheme, if_neg (by decide), if_neg (by decide)]
  dsimp only
  rw [lowered]
  rfl

theorem allowed_page : Client.refusal? (Address.read "http://x/") = none := by
  have cut : Text.cut "@" "x" = none := by decide +kernel
  have scheme : (Address.read "http://x/").scheme = "http" := by
    rw [Address.read, splitHost_page]
  have host : (Address.read "http://x/").host = "x" := by
    rw [Address.read, splitHost_page]
    dsimp only
    rw [cut]
    exact Text.lower_eq_of_toList (by decide)
  rw [Client.refusal?, scheme, host]
  decide

theorem getPage_exchanges (body : String) :
    Exchanges getPage 0 (answering body) (.ok { body }) 2 (answering body) := by
  have ⟨head, line, particle, quoted, content⟩ : (getPage.peek 0).kind = .word .get ∧
      getPage.onLine 0 1 = true ∧ (getPage.peek 1).isName "web" = true ∧
      (getPage.peek 2).kind = .text ∧ (getPage.peek 2).content = "http://x/" := by
    decide +kernel
  have reads := Operand.text_quoted quoted (content ▸ by decide) (answering body)
  have exchanges := Exchanges.web head line particle reads
  have answered : Client.sendFollowing (answering body).network (answering body).client
      Client.mostRedirects (Address.read "http://x/") = .ok { body } := by
    rw [Client.sendFollowing, Client.send, allowed_page]
    rfl
  rwa [content, answered] at exchanges

/-- An ordinary body is bound, and no bug is raised. -/
theorem reception_law_page :
    Exchanges getPage 0 (answering "ok") (.ok { body := "ok" }) 2 (answering "ok") ∧
      Client.Received (.ok { body := "ok" }) "ok" ∧
      ((dispatch idle getPage 0).run (answering "ok")).2.get? "A" = some "ok" ∧
      ((dispatch idle getPage 0).run (answering "ok")).2.raises = [] := by
  have got : Client.Received (.ok { body := "ok" }) "ok" := ⟨_, rfl, rfl⟩
  have fine : ¬ Client.LooksFailed "ok" := by
    rw [Client.LooksFailed, ← Text.startsWith_iff]
    decide
  have law := reception_law (getPage_exchanges "ok")
  refine ⟨getPage_exchanges "ok", got, ?_⟩
  rw [law.received "ok" got fine idle]
  decide +kernel

/-- The body of this page is received and bound like any other, and it is taken for a failure. -/
theorem lookalike_raises :
    Exchanges getPage 0 (answering "BigNet Error") (.ok { body := "BigNet Error" }) 2
        (answering "BigNet Error") ∧
      Client.Received (.ok { body := "BigNet Error" }) "BigNet Error" ∧
      (¬ ∃ words, Client.Failed (.ok { body := "BigNet Error" }) words) ∧
      ((dispatch idle getPage 0).run (answering "BigNet Error")).2.get? "A" = some "BigNet Error" ∧
      ((dispatch idle getPage 0).run (answering "BigNet Error")).2.raises = ["BigNet Error"] := by
  have got : Client.Received (.ok { body := "BigNet Error" }) "BigNet Error" := ⟨_, rfl, rfl⟩
  have exchanges := getPage_exchanges "BigNet Error"
  refine ⟨exchanges, got, (Client.received_iff _).mp ⟨_, got⟩, ?_⟩
  rw [exchanges.run idle, got.outcome]
  decide +kernel

end BigScript
