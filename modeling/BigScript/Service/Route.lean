import BigScript.Text.Basic

/-!
# Routes

Which operation of the service a request asks for.  A route is a shape of paths: fixed text, names
that end at the next slash, and possibly a rest.  Fixed text is compared without regard to the case of
letters, and slashes at the end of a path do not count.
-/

namespace BigScript
namespace Service

/-- What a request asks for. -/
inductive Route where
  | createScript
  | listScripts
  | getScript (name : String)
  | updateScript (name : String)
  | deleteScript (name : String)
  | createExecution (script : String)
  | listExecutions (script : String)
  | getExecution (id : String)
  | cancelExecution (id : String)
  | run (script : String)
  | dashboard
  | scriptPage (name : String)
  | executionPage (id : String)
  | home
deriving DecidableEq, Repr

/-- A piece of a shape. -/
inductive Piece where
  | fixed (text : String)
  | name
  /-- Whatever follows a slash, or nothing. -/
  | rest
deriving DecidableEq, Repr

namespace Piece

/-- How many characters stand before an occurrence of a text. -/
def indexOf? (part : List Char) (cs : List Char) : Option Nat :=
  (Text.cutChars part cs).map (·.1.length)

/-- The length of the name at the start of a path, given what follows it in the shape. -/
def nameLength (folded : List Char) : List Piece → Option Nat
  | .fixed text :: _ => do
    let length ← indexOf? text.toList folded
    if (folded.take length).contains '/' then none else some length
  | _ => some (folded.takeWhile (· != '/')).length

/-- The names in a path of a shape.  `folded` is the path with its letters in lower case. -/
def match? : List Piece → (folded path : List Char) → Option (List String)
  | [], folded, _ => if folded.isEmpty then some [] else none
  | .fixed text :: pieces, folded, path => do
    let after ← Text.dropStart? text.toList folded
    match? pieces after (path.drop text.length)
  | .name :: pieces, folded, path => do
    let length ← nameLength folded pieces
    if length = 0 then none
    else
      let names ← match? pieces (folded.drop length) (path.drop length)
      some (String.ofList (path.take length) :: names)
  | .rest :: _, folded, _ =>
    if folded.isEmpty || folded.head? == some '/' then some [] else none

end Piece

/-- A shape of paths with the operation that it stands for. -/
structure Rule where
  /-- The methods, none of which means all. -/
  methods : List String
  pieces : List Piece
  route : List String → Option Route

/-- A rule without names. -/
def Rule.plain (methods : List String) (path : String) (route : Route) : Rule :=
  ⟨methods, [.fixed path], fun _ => some route⟩

/-- A rule with one name. -/
def Rule.named (methods : List String) (pieces : List Piece) (route : String → Route) : Rule :=
  ⟨methods, pieces, fun names => names.head?.map route⟩

/-- The methods of reading. -/
def reading : List String := ["GET", "HEAD"]

/-- The rules in the order in which they are tried. -/
def rules : List Rule :=
  [.plain ["POST"] "/v1/scripts" .createScript,
   .plain reading "/v1/scripts" .listScripts,
   .named reading [.fixed "/v1/scripts/", .name] .getScript,
   .named ["PUT"] [.fixed "/v1/scripts/", .name] .updateScript,
   .named ["DELETE"] [.fixed "/v1/scripts/", .name] .deleteScript,
   .named ["POST"] [.fixed "/v1/scripts/", .name, .fixed "/executions"] .createExecution,
   .named reading [.fixed "/v1/scripts/", .name, .fixed "/executions"] .listExecutions,
   .named reading [.fixed "/v1/executions/", .name] .getExecution,
   .named ["POST"] [.fixed "/v1/executions/", .name, .fixed ":cancel"] .cancelExecution,
   .named [] [.fixed "/run/", .name, .rest] .run,
   .plain reading "/ui" .dashboard,
   .named reading [.fixed "/ui/scripts/", .name] .scriptPage,
   .named reading [.fixed "/ui/executions/", .name] .executionPage,
   .plain reading "/" .home]

/-- The methods of the protocol in the order in which they are listed. -/
def methods : List String :=
  ["GET", "HEAD", "POST", "PUT", "DELETE", "CONNECT", "OPTIONS", "TRACE", "PATCH"]

/-- A path as it is compared: in lower case and without slashes at its end. -/
def foldedPath (path : String) : List Char :=
  let lowered := path.toList.map Char.toLower
  if lowered.length > 1 then Text.dropRightWhile (· == '/') lowered else lowered

/-- What a rule makes of a path. -/
def Rule.match? (rule : Rule) (path : String) : Option Route := do
  let names ← Piece.match? rule.pieces (foldedPath path) path.toList
  rule.route names

/-- Whether a rule applies to a method. -/
def Rule.takes (rule : Rule) (method : String) : Bool :=
  rule.methods.isEmpty || rule.methods.contains method

/-- What a request asks for. -/
def route? (method path : String) : Option Route :=
  rules.findSome? fun rule => if rule.takes method then rule.match? path else none

/-- The methods that a path may be asked with. -/
def allowed (path : String) : List String :=
  methods.filter fun method => (route? method path).isSome

end Service
end BigScript
