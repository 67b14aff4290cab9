import BigScript.Markdown.Inline

/-!
# Where links lead

Destinations, titles and labels of links, and the definitions that give a label a destination.
-/

namespace BigScript
namespace Markdown

/-- Where a link leads. -/
structure Target where
  destination : List Char
  title : Option (List Char)

/-- What labels lead to. -/
abbrev Targets := List (List Char × Target)

namespace Target

/-- Takes characters up to a closing mark.  A backslash before punctuation takes away its meaning,
and an opening mark ends the search without a result. -/
def closure? (opening closing : Char) : List Char → Option (List Char × List Char)
  | [] => none
  | ['\\'] => none
  | '\\' :: c :: cs =>
    if isPunctuation c then
      (closure? opening closing cs).map fun (taken, rest) => ('\\' :: c :: taken, rest)
    else (closure? opening closing (c :: cs)).map fun (taken, rest) => ('\\' :: taken, rest)
  | c :: cs =>
    if c == closing then some ([], cs)
    else if c == opening then none
    else (closure? opening closing cs).map fun (taken, rest) => (c :: taken, rest)
termination_by cs => cs.length

/-- Takes a destination in angle brackets, after the opening one, within a line. -/
def bracketed? : List Char → Option (List Char × List Char)
  | [] => none
  | ['\\'] => none
  | '\\' :: c :: cs =>
    if isPunctuation c then
      (bracketed? cs).map fun (taken, rest) => ('\\' :: c :: taken, rest)
    else (bracketed? (c :: cs)).map fun (taken, rest) => ('\\' :: taken, rest)
  | c :: cs =>
    if c == '>' then some ([], cs)
    else if c == '\n' then none
    else (bracketed? cs).map fun (taken, rest) => (c :: taken, rest)
termination_by cs => cs.length

/-- Takes a destination without brackets.  Parentheses in it are balanced. -/
def bare (depth : Nat) : List Char → List Char × List Char
  | [] => ([], [])
  | ['\\'] => (['\\'], [])
  | '\\' :: c :: cs =>
    if isPunctuation c then
      let (taken, rest) := bare depth cs
      ('\\' :: c :: taken, rest)
    else
      let (taken, rest) := bare depth (c :: cs)
      ('\\' :: taken, rest)
  | c :: cs =>
    if isBlank c || (c == ')' && depth == 0) then ([], c :: cs)
    else
      let depth := if c == '(' then depth + 1 else if c == ')' then depth - 1 else depth
      let (taken, rest) := bare depth cs
      (c :: taken, rest)
termination_by cs => cs.length

/-- Reads a destination. -/
def destination? (cs : List Char) : Option (List Char × List Char) :=
  match trimLeft cs with
  | '<' :: rest => bracketed? rest
  | rest =>
    match bare 0 rest with
    | ([], _) => none
    | found => some found

/-- The closing mark of a title that begins with a character. -/
def titleEnd? : Char → Option Char
  | '"' => some '"'
  | '\'' => some '\''
  | '(' => some ')'
  | _ => none

/-- Reads a title. -/
def title? (cs : List Char) : Option (List Char × List Char) :=
  match trimLeft cs with
  | c :: rest => (titleEnd? c).bind fun closing => closure? c closing rest
  | [] => none

/-- Reads a target in parentheses, after the opening one. -/
def inParentheses? (cs : List Char) : Option (Target × List Char) :=
  match trimLeft cs with
  | ')' :: rest => some (⟨[], none⟩, rest)
  | cs => do
    let (destination, rest) ← destination? cs
    match trimLeft rest with
    | ')' :: rest => some (⟨destination, none⟩, rest)
    | rest =>
      let (title, rest) ← title? rest
      match trimLeft rest with
      | ')' :: rest => some (⟨destination, some title⟩, rest)
      | _ => none

/-- Runs of blanks as single spaces. -/
def singleSpaces : List Char → List Char
  | [] => []
  | c :: cs =>
    if isBlank c then
      match cs with
      | d :: _ => if isBlank d then singleSpaces cs else ' ' :: singleSpaces cs
      | [] => [' ']
    else c :: singleSpaces cs

/-- Labels that differ in case and in blanks are the same. -/
def label (cs : List Char) : List Char :=
  singleSpaces (Text.fold (Text.trimChars (fun c => isBlank c || c == '\x0b' || c == '\x0c') cs))

/-- The label of a link takes no more bytes than this. -/
def longestLabel : Nat := 999

/-- What a label leads to. -/
def find? (targets : Targets) (cs : List Char) : Option Target := targets.lookup (label cs)

/-- What the label of a link leads to, unless it is too long. -/
def follow? (targets : Targets) (cs : List Char) : Option Target :=
  if longestLabel < Passage.size cs then none else find? targets cs

/-- Adds what a label leads to, unless it leads somewhere already. -/
def add (targets : Targets) (cs : List Char) (target : Target) : Targets :=
  if (find? targets cs).isSome then targets else targets ++ [(label cs, target)]

/-- Whether the rest of the line is blank. -/
def lineEnds (cs : List Char) : Bool := isEmptyLine (cs.takeWhile (· != '\n'))

/-- What follows the line. -/
def nextLine (cs : List Char) : List Char := (cs.dropWhile (· != '\n')).drop 1

/-- Where a search for a closing mark ends that has no result: with an opening mark, or with the
text. -/
def searched (opening closing : Char) : List Char → List Char
  | [] => []
  | '\\' :: c :: cs =>
    if isPunctuation c then searched opening closing cs else searched opening closing (c :: cs)
  | c :: cs =>
    if c == closing then [] else if c == opening then c :: cs else searched opening closing cs
termination_by cs => cs.length

/-- The definition of a label at the start of a paragraph. -/
structure Definition where
  name : List Char
  target : Target
  /-- The number of the line on which the definition begins. -/
  first : Nat
  /-- The number of the first line after it. -/
  stop : Nat
  /-- The text after it. -/
  rest : List Char

/-- Reads the definition of a label at the start of `cs`, the end of a paragraph in which `ends` lines
end.  A title that does not fill the rest of its line is kept and the line stays, if the destination
fills its own line. -/
def definition? (ends : Nat) (cs : List Char) : Option Definition :=
  let number (rest : List Char) : Nat := ends - Passage.lineEnds rest
  let cs := trimLeft cs
  match cs with
  | '[' :: body => do
    let (name, rest) ← closure? '[' ']' body
    if isEmptyLine name then none
    else
      match rest with
      | ':' :: rest =>
        let (destination, rest) ← destination? rest
        let alone := lineEnds rest
        let first := number cs
        let stop := number rest
        let untitled (rest : List Char) : Option Definition :=
          if alone then
            some { name, target := ⟨destination, none⟩, first, stop := stop + 1, rest }
          else none
        match trimLeft rest with
        | [] => untitled []
        | mark :: more =>
          match titleEnd? mark with
          | none => untitled (mark :: more)
          | some closing =>
            if (mark :: more).length == rest.length then none
            else
              match closure? mark closing more with
              | none => untitled (nextLine (searched mark closing more))
              | some (title, after) =>
                let target : Target := ⟨destination, some title⟩
                if lineEnds after then
                  some { name, target, first, stop := number after + 1, rest := after }
                else if alone then
                  some { name, target, first, stop := max stop (first + 1), rest := after }
                else none
      | _ => none
  | _ => none

/-- The definitions at the start of a paragraph, of which `cs` is left: the targets known after them,
and the lines that they take, each as the number of the first one and of the one after the last.  The
first argument bounds the number of definitions. -/
def definitions (steps ends : Nat) (targets : Targets) (cs : List Char) :
    Targets × List (Nat × Nat) :=
  match steps with
  | 0 => (targets, [])
  | steps + 1 =>
    match definition? ends cs with
    | some found =>
      let (targets, lines) := definitions steps ends (add targets found.name found.target) found.rest
      (targets, (found.first, found.stop) :: lines)
    | none => (targets, [])

/-- Takes away the lines of definitions; `number` is the number of the first line. -/
def without {α : Type} (number : Nat) (taken : List (Nat × Nat)) (lines : List α) : List α :=
  match taken with
  | [] => lines
  | (first, stop) :: taken =>
    without stop taken (lines.take (first - number) ++ lines.drop (stop - number))

end Target
end Markdown
end BigScript
