import BigScript.Yaml.Scan

/-!
# Documents as trees

The nodes of a document: scalars, sequences and mappings, and references to nodes that were given a
name.  A node remembers its tag and its line.
-/

namespace BigScript
namespace Yaml

/-- A node of a document.  Lines are counted from one; `tag` is empty where none is written. -/
inductive Node where
  | scalar (text : String) (plain : Bool) (tag : String) (line : Nat)
  | sequence (items : List Node) (tag : String) (line : Nat)
  | mapping (entries : List (Node × Node)) (tag : String) (line : Nat)
  /-- A reference to a named node, or to one that contains the reference. -/
  | alias (name : String) (target : Option Node) (line : Nat)

instance : Inhabited Node := ⟨.scalar "" true "" 1⟩

/-- The state of building a tree: the tokens that are left, the named nodes, and the names of the
nodes being built. -/
structure Reading where
  tokens : List Token
  named : List (String × Node) := []
  opened : List String := []

namespace Reading

/-- The next token. -/
def peek (reading : Reading) : Except Problem Token :=
  match reading.tokens with
  | [] => .ok ⟨.streamEnd, {}⟩
  | token :: _ =>
    match token.kind with
    | .broken problem => .error problem
    | _ => .ok token

/-- The state after the next token. -/
def skip (reading : Reading) : Reading := { reading with tokens := reading.tokens.drop 1 }

end Reading

/-- A scalar that stands for a node that is not written. -/
def emptyScalar (mark : Mark) : Node := .scalar "" true "" (mark.line + 1)

/-- The anchor and the tag before a node, with the place where they begin. -/
structure Properties where
  anchor : Option String := none
  tag : Option String := none
  start : Option Mark := none

/-- Reads the anchor and the tag before a node, in either order. -/
def readProperties (steps : Nat) (found : Properties) (reading : Reading) :
    Except Problem (Properties × Reading) := do
  match steps with
  | 0 => return (found, reading)
  | steps + 1 =>
    let token ← reading.peek
    let start := found.start.or (some token.mark)
    match token.kind, found.anchor, found.tag with
    | .anchor name, none, _ =>
      readProperties steps { found with anchor := some name, start } reading.skip
    | .tag name, _, none =>
      readProperties steps { found with tag := some name, start } reading.skip
    | _, _, _ => return (found, reading)

/-- The tag that a node is given: the mark of no tag counts as none. -/
def givenTag (found : Properties) : String :=
  match found.tag with
  | some "!" => ""
  | some tag => tag
  | none => ""

/-- Whether the handle of a tag is known. -/
def knownHandle (tag : String) : Bool :=
  match tag.toList with
  | '!' :: '!' :: _ => true
  | '!' :: rest => !rest.contains '!'
  | _ => true

mutual

/-- Reads a node.  `block` tells whether blocks may begin here, and `dashes` whether a sequence may
stand at the indentation of the mapping around it. -/
def readNode (steps : Nat) (block dashes : Bool) (reading : Reading) :
    Except Problem (Node × Reading) := do
  match steps with
  | 0 => throw ⟨"exceeded max depth", 0⟩
  | steps + 1 =>
    let first ← reading.peek
    if let .alias name := first.kind then
      let line := first.mark.line + 1
      if reading.opened.contains name then return (.alias name none line, reading.skip)
      match reading.named.lookup name with
      | some target => return (.alias name (some target) line, reading.skip)
      | none => throw ⟨"unknown anchor '" ++ name ++ "' referenced", 0⟩
    let (found, reading) ← readProperties 2 {} reading
    let tag := givenTag found
    let token ← reading.peek
    let start := found.start.getD token.mark
    let line := start.line + 1
    if !knownHandle tag then throw (.inTokens "found undefined tag handle" start start)
    let outer := reading.opened
    let inside := { reading with opened := found.anchor.toList ++ outer }
    let (node, reading) ← match token.kind with
      | .entry =>
        if dashes then do
          let (items, reading) ← readDashes steps inside
          pure (Node.sequence items tag line, reading)
        else if found.start.isSome then pure (Node.scalar "" true tag line, inside)
        else throw (.inTokens "did not find expected node content" start token.mark)
      | .scalar text plain => pure (Node.scalar text plain tag line, inside.skip)
      | .flowSequence => do
        let (items, reading) ← readFlowItems steps token.mark true inside.skip
        pure (Node.sequence items tag line, reading)
      | .flowMapping => do
        let (entries, reading) ← readFlowEntries steps token.mark true inside.skip
        pure (Node.mapping entries tag line, reading)
      | .blockSequence =>
        if block then do
          let (items, reading) ← readItems steps token.mark inside.skip
          pure (Node.sequence items tag line, reading)
        else if found.start.isSome then pure (Node.scalar "" true tag line, inside)
        else throw (.inTokens "did not find expected node content" start token.mark)
      | .blockMapping =>
        if block then do
          let (entries, reading) ← readEntries steps token.mark inside.skip
          pure (Node.mapping entries tag line, reading)
        else if found.start.isSome then pure (Node.scalar "" true tag line, inside)
        else throw (.inTokens "did not find expected node content" start token.mark)
      | _ =>
        if found.start.isSome then pure (Node.scalar "" true tag line, inside)
        else throw (.inTokens "did not find expected node content" start token.mark)
    let named := match found.anchor with
      | some name => (name, node) :: reading.named
      | none => reading.named
    return (node, { reading with named, opened := outer })

/-- Reads a node unless one of the given tokens follows, in which case it is empty. -/
def readUnless (steps : Nat) (stops : List TokenKind) (block dashes : Bool) (mark : Mark)
    (reading : Reading) : Except Problem (Node × Reading) := do
  match steps with
  | 0 => throw ⟨"exceeded max depth", 0⟩
  | steps + 1 =>
    let token ← reading.peek
    if stops.contains token.kind then return (emptyScalar mark, reading)
    readNode steps block dashes reading

/-- Reads the items of a block sequence. -/
def readItems (steps : Nat) (start : Mark) (reading : Reading) :
    Except Problem (List Node × Reading) := do
  match steps with
  | 0 => throw ⟨"exceeded max depth", 0⟩
  | steps + 1 =>
    let token ← reading.peek
    match token.kind with
    | .entry =>
      let (item, reading) ←
        readUnless steps [.entry, .blockEnd] true false token.mark reading.skip
      let (items, reading) ← readItems steps start reading
      return (item :: items, reading)
    | .blockEnd => return ([], reading.skip)
    | _ => throw (.inTokens "did not find expected '-' indicator" start token.mark)

/-- Reads the items of a sequence whose dashes stand at the indentation around it. -/
def readDashes (steps : Nat) (reading : Reading) : Except Problem (List Node × Reading) := do
  match steps with
  | 0 => throw ⟨"exceeded max depth", 0⟩
  | steps + 1 =>
    let token ← reading.peek
    match token.kind with
    | .entry =>
      let (item, reading) ←
        readUnless steps [.entry, .key, .value, .blockEnd] true false token.mark reading.skip
      let (items, reading) ← readDashes steps reading
      return (item :: items, reading)
    | _ => return ([], reading)

/-- Reads the entries of a block mapping. -/
def readEntries (steps : Nat) (start : Mark) (reading : Reading) :
    Except Problem (List (Node × Node) × Reading) := do
  match steps with
  | 0 => throw ⟨"exceeded max depth", 0⟩
  | steps + 1 =>
    let token ← reading.peek
    match token.kind with
    | .key =>
      let stops := [TokenKind.key, .value, .blockEnd]
      let (key, reading) ← readUnless steps stops true true token.mark reading.skip
      let colon ← reading.peek
      let (value, reading) ← match colon.kind with
        | .value => readUnless steps stops true true colon.mark reading.skip
        | _ => pure (emptyScalar colon.mark, reading)
      let (entries, reading) ← readEntries steps start reading
      return ((key, value) :: entries, reading)
    | .blockEnd => return ([], reading.skip)
    | _ => throw (.inTokens "did not find expected key" start token.mark)

/-- Reads the items between brackets. -/
def readFlowItems (steps : Nat) (start : Mark) (first : Bool) (reading : Reading) :
    Except Problem (List Node × Reading) := do
  match steps with
  | 0 => throw ⟨"exceeded max depth", 0⟩
  | steps + 1 =>
    let token ← reading.peek
    if token.kind == .flowSequenceEnd then return ([], reading.skip)
    let reading ←
      if first then pure reading
      else if token.kind == .flowEntry then pure reading.skip
      else throw (.inTokens "did not find expected ',' or ']'" start token.mark)
    let token ← reading.peek
    match token.kind with
    | .flowSequenceEnd => return ([], reading.skip)
    | .key =>
      let stops := [TokenKind.flowEntry, .flowSequenceEnd]
      let (key, reading) ←
        readUnless steps (.value :: stops) false false token.mark reading.skip
      let colon ← reading.peek
      let (value, reading) ← match colon.kind with
        | .value => readUnless steps stops false false colon.mark reading.skip
        | _ => pure (emptyScalar colon.mark, reading)
      let (items, reading) ← readFlowItems steps start false reading
      return (.mapping [(key, value)] "" (token.mark.line + 1) :: items, reading)
    | _ =>
      let (item, reading) ← readNode steps false false reading
      let (items, reading) ← readFlowItems steps start false reading
      return (item :: items, reading)

/-- Reads the entries between braces. -/
def readFlowEntries (steps : Nat) (start : Mark) (first : Bool) (reading : Reading) :
    Except Problem (List (Node × Node) × Reading) := do
  match steps with
  | 0 => throw ⟨"exceeded max depth", 0⟩
  | steps + 1 =>
    let token ← reading.peek
    if token.kind == .flowMappingEnd then return ([], reading.skip)
    let reading ←
      if first then pure reading
      else if token.kind == .flowEntry then pure reading.skip
      else throw (.inTokens "did not find expected ',' or '\x7d'" start token.mark)
    let token ← reading.peek
    let stops := [TokenKind.flowEntry, .flowMappingEnd]
    match token.kind with
    | .flowMappingEnd => return ([], reading.skip)
    | .key =>
      let (key, reading) ←
        readUnless steps (.value :: stops) false false token.mark reading.skip
      let colon ← reading.peek
      let (value, reading) ← match colon.kind with
        | .value => readUnless steps stops false false colon.mark reading.skip
        | _ => pure (emptyScalar colon.mark, reading)
      let (entries, reading) ← readFlowEntries steps start false reading
      return ((key, value) :: entries, reading)
    | _ =>
      let (key, reading) ← readNode steps false false reading
      let after ← reading.peek
      let (entries, reading) ← readFlowEntries steps start false reading
      return ((key, emptyScalar after.mark) :: entries, reading)

end

/-- Reads the directives before a document. -/
def readDirectives (steps : Nat) (seen : Bool) (reading : Reading) :
    Except Problem (Bool × Reading) := do
  match steps with
  | 0 => return (seen, reading)
  | steps + 1 =>
    let token ← reading.peek
    match token.kind with
    | .version version =>
      if version != "1.1" then
        throw (.inTokens "found incompatible YAML document" token.mark token.mark)
      readDirectives steps true reading.skip
    | .directive => readDirectives steps true reading.skip
    | _ => return (seen, reading)

/-- The first document of a text, if it has any. -/
def document? (text : String) : Except Problem (Option Node) := do
  let all := tokens text
  let (directed, reading) ← readDirectives all.length false { tokens := all }
  let token ← reading.peek
  let steps := 3 * all.length + 3
  match token.kind with
  | .streamEnd =>
    if directed then
      throw (.inTokens "did not find expected <document start>" token.mark token.mark)
    return none
  | .documentStart =>
    let inside := reading.skip
    let first ← inside.peek
    let stops := [TokenKind.directive, .documentStart, .documentEnd, .streamEnd]
    let (node, reading) ← readUnless steps stops true false first.mark inside
    let _ ← reading.peek
    return some node
  | _ =>
    if directed then
      throw (.inTokens "did not find expected <document start>" token.mark token.mark)
    let (node, reading) ← readUnless steps [.documentEnd] true false token.mark reading
    let _ ← reading.peek
    return some node

end Yaml
end BigScript
