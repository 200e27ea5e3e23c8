import NestedCss.Yaml.Token
/-!
# The tree of a document

A document is a tree of scalars, sequences and mappings. `Node.parse` reads the first document of a
text.
-/
namespace NestedCss.Yaml

/-- A node of a document. Lines are counted from one. -/
inductive Node where
  /-- A scalar, and whether it is written plainly. -/
  | scalar (line : Nat) (content : Text) (isPlain : Bool)
  /-- A sequence of nodes. -/
  | sequence (line : Nat) (items : List Node)
  /-- A mapping of keys to values in the order they are written in. -/
  | mapping (line : Nat) (entries : List (Node × Node))
  /-- A node that stands elsewhere, unless that node has this one in it. -/
  | alias (line : Nat) (name : Text) (target : Option Node)

/-- The line of a node. -/
def Node.line : Node → Nat
  | .scalar n _ _ | .sequence n _ | .mapping n _ | .alias n _ _ => n

/-- The node that stands for one that is left out. -/
def Node.absent (line : Nat) : Node := .scalar (line + 1) [] true

/-! ### Reading tokens -/

/-- The tokens that are left, how many have been read, and the nodes that have names. -/
structure Reading where
  /-- The tokens of the text. -/
  source : Tokens
  /-- How many tokens have been read. -/
  number : Nat := 0
  /-- The named nodes, the last one first, and none for one that is still being read. -/
  named : List (Text × Option Node) := []

/-- A computation over the tokens that are left. -/
abbrev ReadM := StateT Reading (Except Error)

namespace Reading

/-- A failure to make sense of a token, told at the line a node starts on or at the token's own,
where the first line is meant. Lines are counted from zero. -/
def fail {α : Type} (start : Nat) (t : Token) (problem : String) : ReadM α :=
  throw ⟨if start != 0 then some start else if t.line != 0 then some t.line else none,
    Text.ofString problem⟩

/-- The next token. -/
def peek : ReadM Token := fun r => do return (← r.source.get r.number, r)

/-- Passes over the next token. -/
def skip : ReadM Unit := modify fun r => { r with number := r.number + 1 }

/-- Names a node that is about to be read. -/
def announce : Option Text → ReadM Unit
  | some n => modify fun r => { r with named := (n, none) :: r.named }
  | none => return

/-- Gives a named node its value. -/
def bindName (node : Node) : Option Text → ReadM Node
  | some n => do
    modify fun r => { r with named := (n, some node) :: r.named }
    return node
  | none => return node

/-- The node of a name. -/
def refer (line : Nat) (name : Text) : ReadM Node := do
  match (← get).named.lookup name with
  | some target => return .alias (line + 1) name target
  | none => throw ⟨none, Text.ofString "unknown anchor '" ++ name ++ Text.ofString "' referenced"⟩

/-- Passes over a token of a kind, if it is the next one. -/
def accept (kind : TokenKind) : ReadM Bool := do
  if (← peek).kind == kind then
    skip
    return true
  else return false

/-- Reads a node unless one of some tokens is next, which means that the node is left out. -/
def unlessNext (kinds : List TokenKind) (node : ReadM Node) : ReadM Node := do
  let t ← peek
  if kinds.contains t.kind then return .absent t.line else node

/-- Reads a node unless one of some tokens is next. A node that is left out is on a given line. -/
def unlessNextOn (line : Nat) (kinds : List TokenKind) (node : ReadM Node) : ReadM Node := do
  if kinds.contains (← peek).kind then return .absent line else node

/-! ### Indented sequences and mappings -/

/-- Reads the items of an indented sequence that starts on a line, and its end. -/
def blockItems (start : Nat) (node : ReadM Node) : Nat → ReadM (List Node)
  | 0 => return []
  | fuel + 1 => do
    let t ← peek
    match t.kind with
    | .blockEntry =>
      skip
      let item ← unlessNextOn t.line [.blockEntry, .blockEnd] node
      return item :: (← blockItems start node fuel)
    | .blockEnd =>
      skip
      return []
    | _ => fail start t "did not find expected '-' indicator"

/-- Reads the items of a sequence that is not indented further than the mapping it is a value of. -/
def levelItems (node : ReadM Node) : Nat → ReadM (List Node)
  | 0 => return []
  | fuel + 1 => do
    let t ← peek
    if t.kind == .blockEntry then
      skip
      let item ← unlessNextOn t.line [.blockEntry, .key, .value, .blockEnd] node
      return item :: (← levelItems node fuel)
    else return []

/-- Reads the value of an entry of an indented mapping. -/
def blockValue (node : ReadM Node) : ReadM Node := do
  let t ← peek
  if t.kind == .value then
    skip
    unlessNextOn t.line [.key, .value, .blockEnd] node
  else return .absent t.line

/-- Reads the entries of an indented mapping that starts on a line, and its end. -/
def blockEntries (start : Nat) (node : ReadM Node) : Nat → ReadM (List (Node × Node))
  | 0 => return []
  | fuel + 1 => do
    let t ← peek
    match t.kind with
    | .key =>
      skip
      let k ← unlessNextOn t.line [.key, .value, .blockEnd] node
      let v ← blockValue node
      return (k, v) :: (← blockEntries start node fuel)
    | .blockEnd =>
      skip
      return []
    | _ => fail start t "did not find expected key"

/-! ### Sequences and mappings in brackets -/

/-- Reads the value of an entry of a mapping in brackets, up to one of some tokens. -/
def flowValue (ends : List TokenKind) (node : ReadM Node) : ReadM Node := do
  if ← accept .value then unlessNext ends node else return .absent (← peek).line

/-- Reads the only entry of a mapping that is an item of a sequence in brackets. -/
def singleEntry (node : ReadM Node) : ReadM (Node × Node) := do
  let t ← peek
  let k ← if [.value, .flowEntry, .flowSequenceEnd].contains t.kind then do
      skip
      pure (Node.absent t.line)
    else node
  return (k, ← flowValue [.flowEntry, .flowSequenceEnd] node)

/-- Reads the items of a sequence in brackets that starts on a line, and its end. -/
def flowItems (start : Nat) (node : ReadM Node) : Nat → Bool → ReadM (List Node)
  | 0, _ => return []
  | fuel + 1, isFirst => do
    if ← accept .flowSequenceEnd then return []
    if !isFirst then
      if !(← accept .flowEntry) then
        fail start (← peek) "did not find expected ',' or ']'"
    let t ← peek
    match t.kind with
    | .key =>
      skip
      let e ← singleEntry node
      return .mapping (t.line + 1) [e] :: (← flowItems start node fuel false)
    | .flowSequenceEnd =>
      skip
      return []
    | _ =>
      let item ← node
      return item :: (← flowItems start node fuel false)

/-- Reads the entries of a mapping in braces that starts on a line, and its end. -/
def flowEntries (start : Nat) (node : ReadM Node) : Nat → Bool → ReadM (List (Node × Node))
  | 0, _ => return []
  | fuel + 1, isFirst => do
    if ← accept .flowMappingEnd then return []
    if !isFirst then
      if !(← accept .flowEntry) then
        fail start (← peek) "did not find expected ',' or '\x7d'"
    match (← peek).kind with
    | .key =>
      skip
      let k ← unlessNext [.value, .flowEntry, .flowMappingEnd] node
      let v ← flowValue [.flowEntry, .flowMappingEnd] node
      return (k, v) :: (← flowEntries start node fuel false)
    | .flowMappingEnd =>
      skip
      return []
    | _ =>
      let k ← node
      let v := Node.absent (← peek).line
      return (k, v) :: (← flowEntries start node fuel false)

/-! ### Nodes -/

/-- The name given to the next node, if any. -/
def nameOfNext : ReadM (Option Text) := do
  match (← peek).kind with
  | .anchor n =>
    skip
    return some n
  | _ => return none

/-- Reads the content of a node that starts on a line. -/
def content (start : Nat) (isNamed inBlock isLevel : Bool) (fuel : Nat)
    (node : Bool → Bool → ReadM Node) : ReadM Node := do
  let t ← peek
  let line := start + 1
  match t.kind, inBlock with
  | .scalar v isPlain, _ =>
    skip
    return .scalar line v isPlain
  | .flowSequenceStart, _ =>
    skip
    return .sequence line (← flowItems t.line (node false false) fuel true)
  | .flowMappingStart, _ =>
    skip
    return .mapping line (← flowEntries t.line (node false false) fuel true)
  | .blockSequenceStart, true =>
    skip
    return .sequence line (← blockItems t.line (node true false) fuel)
  | .blockMappingStart, true =>
    skip
    return .mapping line (← blockEntries t.line (node true true) fuel)
  | kind, _ =>
    if isLevel && kind == .blockEntry then
      return .sequence line (← levelItems (node true false) fuel)
    else if isNamed then return .absent start
    else fail start t "did not find expected node content"

/-- Reads a node. Indented nodes stand only in blocks, and sequences on the level of the mapping
around them only in mappings. -/
def node : Nat → Bool → Bool → ReadM Node
  | 0, _, _ => return .absent 0
  | fuel + 1, inBlock, isLevel => do
    let t ← peek
    match t.kind with
    | .alias n =>
      skip
      refer t.line n
    | _ =>
      let name ← nameOfNext
      announce name
      bindName (← content t.line name.isSome inBlock isLevel (fuel + 1) (node fuel)) name

/-- Reads the first document. -/
def document : ReadM (Option Node) := do
  let fuel := (← get).source.tokens.size + 1
  match (← peek).kind with
  | .streamEnd => return none
  | .documentStart =>
    skip
    let n ← unlessNext [.documentStart, .documentEnd, .streamEnd] (node fuel true false)
    discard peek
    return some n
  | _ =>
    let n ← node fuel true false
    discard peek
    return some n

end Reading

/-! ### Texts -/

/-- The bytes that start a character of `n` bytes. -/
def leadWidth? (b : UInt8) : Option Nat :=
  if b &&& 0x80 == 0 then some 1
  else if b &&& 0xE0 == 0xC0 then some 2
  else if b &&& 0xF0 == 0xE0 then some 3
  else if b &&& 0xF8 == 0xF0 then some 4
  else none

/-- Why the bytes at the front of a text are no character of a document. -/
def charProblem (t : Text) : String :=
  match t with
  | [] => ""
  | b :: rest =>
    match leadWidth? b with
    | none => "invalid leading UTF-8 octet"
    | some w =>
      let tail := rest.take (w - 1)
      if tail.length < w - 1 then "incomplete UTF-8 octet sequence"
      else if tail.any (fun x => x &&& 0xC0 != 0x80) then "invalid trailing UTF-8 octet"
      else
        let lead := if w == 1 then b.toNat else b.toNat % Nat.pow 2 (7 - w)
        let n := tail.foldl (fun n x => 64 * n + x.toNat % 64) lead
        if n < [0, 0, 0x80, 0x800, 0x10000].getD w 0 then "invalid length of a UTF-8 sequence"
        else if (0xD800 ≤ n && n ≤ 0xDFFF) || 0x10FFFF < n then "invalid Unicode character"
        else "control characters are not allowed"

/-- The characters of a text behind `skip` bytes, unless some cannot stand in a document. -/
def documentChars : Nat → Text → Except Error (List Char)
  | _, [] => .ok []
  | skip + 1, _ :: rest => documentChars skip rest
  | 0, b :: rest =>
    match (Utf8.first? (b :: rest)).filter fun (s, _) => isAllowed s.toChar with
    | some (.scalar c, width) => do return c :: (← documentChars (width - 1) rest)
    | _ => .error ⟨none, Text.ofString (charProblem (b :: rest))⟩

/-- Reads the first document of a text, in front of which a byte order mark may stand. A text
without a document has none. -/
def Node.parse (t : Text) : Except Error (Option Node) := do
  let cs ← documentChars 0 ((t.dropPrefix? (Utf8.encode [orderMark])).getD t)
  return (← Reading.document.run { source := .ofChars cs }).1

end NestedCss.Yaml
