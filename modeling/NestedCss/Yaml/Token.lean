import NestedCss.Yaml.Scalar
/-!
# The tokens of a document

A document is cut into scalars, indicators, and the starts and ends of blocks, which only the
indentation tells. A scalar turns out to be the key of a mapping when a colon follows it on its
line, so the places where a key may have started are kept until that is known.
-/
namespace NestedCss.Yaml

/-- What a token is. -/
inductive TokenKind where
  /-- The mark of a document's start. -/
  | documentStart
  /-- The mark of a document's end. -/
  | documentEnd
  /-- The end of the text. -/
  | streamEnd
  /-- The start of an indented sequence. -/
  | blockSequenceStart
  /-- The start of an indented mapping. -/
  | blockMappingStart
  /-- The end of an indented sequence or mapping. -/
  | blockEnd
  /-- The dash before an item of an indented sequence. -/
  | blockEntry
  /-- The opening bracket of a sequence. -/
  | flowSequenceStart
  /-- The closing bracket of a sequence. -/
  | flowSequenceEnd
  /-- The opening brace of a mapping. -/
  | flowMappingStart
  /-- The closing brace of a mapping. -/
  | flowMappingEnd
  /-- The comma between items. -/
  | flowEntry
  /-- The start of a key. -/
  | key
  /-- The colon before a value. -/
  | value
  /-- The name under which the next node is known. -/
  | anchor (name : Text)
  /-- The name of a node that stands elsewhere. -/
  | alias (name : Text)
  /-- A scalar, and whether it is written plainly. -/
  | scalar (content : Text) (isPlain : Bool)
  deriving DecidableEq

/-- A token and the line it starts on, counted from zero. -/
structure Token where
  /-- What it is. -/
  kind : TokenKind
  /-- The line. -/
  line : Nat

/-- A place where a key may have started. -/
structure KeyPlace where
  /-- How many tokens stand before it. -/
  number : Nat
  /-- Whether nothing but a key can stand there. -/
  isRequired : Bool
  /-- The place. -/
  cursor : Cursor

/-- Whether a key can still have started at a place: a key stands on one line, and is not too
long. -/
def KeyPlace.isOpen (k : KeyPlace) (c : Cursor) : Bool :=
  k.cursor.line == c.line && c.index ≤ k.cursor.index + 1024

/-- How far a text has been cut. -/
structure Cutting where
  /-- Where it is. -/
  cursor : Cursor
  /-- The tokens so far. -/
  tokens : Array Token := #[]
  /-- The place of a possible key between the innermost brackets. -/
  place : Option KeyPlace := none
  /-- The places between the brackets around them. -/
  outer : List (Option KeyPlace) := []
  /-- Whether a key may start here. -/
  keyAllowed : Bool := true
  /-- The column of the innermost block. -/
  indent : Int := -1
  /-- The columns of the blocks around it. -/
  indents : List Int := []
  /-- Whether the end of the text has been reached. -/
  isDone : Bool := false

namespace Cutting

/-- Whether the cursor is between brackets. -/
def inFlow (s : Cutting) : Bool := !s.outer.isEmpty

/-- A failure at the cursor. -/
def fail {α : Type} (s : Cutting) (problem : String) : Except Error α :=
  .error (scanError s.cursor s.cursor problem)

/-- Adds a token that starts at a cursor. -/
def add (s : Cutting) (kind : TokenKind) (c : Cursor) : Cutting :=
  { s with tokens := s.tokens.push ⟨kind, c.line⟩ }

/-- Adds a token of `n` characters at the cursor. -/
def take (s : Cutting) (kind : TokenKind) (n : Nat) : Cutting :=
  { s.add kind s.cursor with cursor := s.cursor.skipMany n }

/-! ### Space between tokens -/

/-- The cursor behind a comment and the comments that follow it on lines of their own. -/
def skipComments : Nat → Cursor → Cursor
  | 0, c => c
  | fuel + 1, c =>
    let c := c.skipWhile fun x => !isBreakOrEnd x
    match readGap (fun _ => false) c.rest.length {} c with
    | .ok (_, next) => if next.here == '#' then skipComments fuel next else c
    | .error _ => c

/-- Passes over blanks, comments and ends of lines. Tabs are not blanks where a key may start. -/
def skipSpace : Nat → Cutting → Cutting
  | 0, s => s
  | fuel + 1, s =>
    let c := if s.cursor.column == 0 && s.cursor.here == orderMark then s.cursor.skip else s.cursor
    let c := c.skipWhile fun x => x == ' ' || ((s.inFlow || !s.keyAllowed) && x == '\t')
    let c := if c.here == '#' then skipComments (c.rest.length + 1) c else c
    if isBreak c.here then
      skipSpace fuel { s with cursor := c.skipLine, keyAllowed := s.keyAllowed || !s.inFlow }
    else { s with cursor := c }

/-! ### Blocks -/

/-- Ends blocks until one at a column or left of it is left. -/
def unroll (column : Int) (at' : Cursor) : List Int → Cutting → Cutting
  | [], s => s
  | next :: more, s =>
    if column < s.indent then
      unroll column at' more { s.add .blockEnd at' with indent := next, indents := more }
    else s

/-- Ends the blocks right of a column, unless between brackets. -/
def endBlocks (s : Cutting) (column : Int) (at' : Cursor) : Cutting :=
  if s.inFlow then s else unroll column at' s.indents s

/-- Starts a block at a column right of the innermost one, unless between brackets. Its token goes
behind `number` others. -/
def startBlock (s : Cutting) (kind : TokenKind) (number : Nat) (at' : Cursor) : Cutting :=
  if !s.inFlow && s.indent < at'.column then
    { s with
      indents := s.indent :: s.indents
      indent := at'.column
      tokens := s.tokens.insertIdxIfInBounds number ⟨kind, at'.line⟩ }
  else s

/-! ### Keys -/

/-- The failure to find the colon behind a required key. -/
def missingColon (s : Cutting) (k : KeyPlace) : Error :=
  scanError k.cursor s.cursor "could not find expected ':'"

/-- Gives up the place of a possible key. -/
def dropPlace (s : Cutting) : Except Error Cutting :=
  match s.place with
  | some k => if k.isRequired then .error (s.missingColon k) else .ok { s with place := none }
  | none => .ok s

/-- Keeps the cursor as the place of a possible key, where one is allowed. -/
def keepPlace (s : Cutting) : Except Error Cutting :=
  if s.keyAllowed then do
    let t ← s.dropPlace
    return { t with
      place := some ⟨s.tokens.size, !s.inFlow && s.indent == s.cursor.column, s.cursor⟩ }
  else .ok s

/-- The tokens that cannot be read, by number: those that may still turn out to be keys when the
text cannot be cut further, and required keys without a colon. -/
def stops (s : Cutting) (failure : Option Error) : List (Nat × Error) :=
  ((s.place :: s.outer).filterMap id).filterMap fun k =>
    if k.isOpen s.cursor then failure.map fun e => (k.number, e)
    else if k.isRequired then some (k.number, s.missingColon k)
    else none

/-! ### Tokens -/

/-- Cuts the end of the text, which also ends its last line. -/
def cutEnd (s : Cutting) : Except Error Cutting := do
  let c := s.cursor
  let c := if c.column == 0 then c else { c with line := c.line + 1, column := 0 }
  let s ← (endBlocks { s with cursor := c } (-1) c).dropPlace
  return { s.add .streamEnd c with keyAllowed := false, isDone := true }

/-- Cuts the mark of a document's start or end. -/
def cutMark (s : Cutting) (kind : TokenKind) : Except Error Cutting := do
  let s ← (s.endBlocks (-1) s.cursor).dropPlace
  return ({ s with keyAllowed := false } : Cutting).take kind 3

/-- Cuts an opening bracket or brace. -/
def cutOpening (s : Cutting) (kind : TokenKind) : Except Error Cutting := do
  let s ← s.keepPlace
  return ({ s with place := none, outer := s.place :: s.outer, keyAllowed := true } : Cutting).take
    kind 1

/-- Cuts a closing bracket or brace. -/
def cutClosing (s : Cutting) (kind : TokenKind) : Except Error Cutting := do
  let s ← s.dropPlace
  let s := match s.outer with
    | k :: more => { s with place := k, outer := more }
    | [] => s
  return ({ s with keyAllowed := false } : Cutting).take kind 1

/-- Cuts a comma. -/
def cutComma (s : Cutting) : Except Error Cutting := do
  let s ← s.dropPlace
  return ({ s with keyAllowed := true } : Cutting).take .flowEntry 1

/-- Cuts the dash before an item. -/
def cutDash (s : Cutting) : Except Error Cutting := do
  if !s.inFlow && !s.keyAllowed then
    s.fail "block sequence entries are not allowed in this context"
  let s ← (s.startBlock .blockSequenceStart s.tokens.size s.cursor).dropPlace
  return ({ s with keyAllowed := true } : Cutting).take .blockEntry 1

/-- Cuts the mark of a key. -/
def cutKey (s : Cutting) : Except Error Cutting := do
  if !s.inFlow && !s.keyAllowed then s.fail "mapping keys are not allowed in this context"
  let s ← (s.startBlock .blockMappingStart s.tokens.size s.cursor).dropPlace
  return ({ s with keyAllowed := !s.inFlow } : Cutting).take .key 1

/-- Cuts the colon before a value. What stands before it on its line is the key, if a key may have
started there. -/
def cutColon (s : Cutting) : Except Error Cutting := do
  match s.place.filter (·.isOpen s.cursor) with
  | some k =>
    let s := { s with tokens := s.tokens.insertIdxIfInBounds k.number ⟨.key, k.cursor.line⟩ }
    let s := s.startBlock .blockMappingStart k.number k.cursor
    return ({ s with place := none, keyAllowed := false } : Cutting).take .value 1
  | none =>
    let s ← if s.place.any (·.isRequired) then s.dropPlace else .ok { s with place := none }
    if !s.inFlow && !s.keyAllowed then s.fail "mapping values are not allowed in this context"
    let s := s.startBlock .blockMappingStart s.tokens.size s.cursor
    return ({ s with keyAllowed := !s.inFlow } : Cutting).take .value 1

/-- Whether a character can stand in the name of a node. -/
def isNameChar (c : Char) : Bool := c.isAlphanum || c == '_' || c == '-'

/-- Cuts the name of a node behind its mark. -/
def cutName (s : Cutting) (kind : Text → TokenKind) : Except Error Cutting := do
  let s ← s.keepPlace
  let start := s.cursor
  let name := start.skip.rest.takeWhile isNameChar
  let c := start.skipMany (name.length + 1)
  if name.isEmpty || !(isGap c.here || "?:,]\x7d%@\x60".contains c.here) then
    throw (scanError start c "did not find expected alphabetic or numeric character")
  return { s.add (kind (Utf8.encode name)) start with cursor := c, keyAllowed := false }

/-- Cuts a quoted scalar. -/
def cutQuoted (s : Cutting) (single : Bool) : Except Error Cutting := do
  let s ← s.keepPlace
  let (v, c) ← readQuoted single s.cursor
  return { s.add (.scalar v false) s.cursor with cursor := c, keyAllowed := false }

/-- Cuts a block of lines. -/
def cutBlock (s : Cutting) (literal : Bool) : Except Error Cutting := do
  let s ← s.dropPlace
  let (v, c) ← readBlock literal s.indent s.cursor
  return { s.add (.scalar v false) s.cursor with cursor := c, keyAllowed := true }

/-- Cuts a plain scalar. -/
def cutPlain (s : Cutting) : Except Error Cutting := do
  let s ← s.keepPlace
  let (v, broken, c) ← readPlain s.inFlow s.indent s.cursor
  return { s.add (.scalar v true) s.cursor with cursor := c, keyAllowed := broken }

/-- Whether a plain scalar can start at a cursor. -/
def startsPlain (inFlow : Bool) (c : Cursor) : Bool :=
  !(isGap c.here || "-?:,[]\x7b\x7d#&*!|>\x27\x22%@\x60".contains c.here)
    || (c.here == '-' && !isBlank (c.peek 1))
    || (!inFlow && (c.here == '?' || c.here == ':') && !isGap (c.peek 1))

/-- Cuts the next token. -/
def cut (s : Cutting) : Except Error Cutting :=
  let start := s.cursor
  let s := skipSpace (s.cursor.rest.length + 1) s
  let s := s.endBlocks s.cursor.column start
  let c := s.cursor
  let x := c.here
  let flowOrGap := s.inFlow || isGap (c.peek 1)
  if x == endMark then s.cutEnd
  else if c.isAtMark '-' then s.cutMark .documentStart
  else if c.isAtMark '.' then s.cutMark .documentEnd
  else if x == '[' then s.cutOpening .flowSequenceStart
  else if x == '\x7b' then s.cutOpening .flowMappingStart
  else if x == ']' then s.cutClosing .flowSequenceEnd
  else if x == '\x7d' then s.cutClosing .flowMappingEnd
  else if x == ',' then s.cutComma
  else if x == '-' && isGap (c.peek 1) then s.cutDash
  else if x == '?' && flowOrGap then s.cutKey
  else if x == ':' && flowOrGap then s.cutColon
  else if x == '*' then s.cutName .alias
  else if x == '&' then s.cutName .anchor
  else if x == '|' && !s.inFlow then s.cutBlock true
  else if x == '>' && !s.inFlow then s.cutBlock false
  else if x == '\x27' then s.cutQuoted true
  else if x == '\x22' then s.cutQuoted false
  else if startsPlain s.inFlow c then s.cutPlain
  else s.fail "found character that cannot start any token"

end Cutting

/-- The tokens of a text, up to a place where it cannot be cut. -/
structure Tokens where
  /-- The tokens. -/
  tokens : Array Token
  /-- Why there are no more. -/
  failure : Option Error
  /-- The tokens that cannot be read, by number. -/
  stops : List (Nat × Error)

/-- Cuts token after token. -/
def Tokens.cutAll : Nat → Cutting → Tokens
  | 0, s => ⟨s.tokens, none, []⟩
  | fuel + 1, s =>
    if s.isDone then ⟨s.tokens, none, s.stops none⟩
    else
      match s.cut with
      | .ok next => cutAll fuel next
      | .error e => ⟨s.tokens, some e, s.stops (some e)⟩

/-- The tokens of a text. Every step takes a character or ends the text. -/
def Tokens.ofChars (cs : List Char) : Tokens := cutAll (cs.length + 2) { cursor := { rest := cs } }

/-- The token of a number. The text is cut two tokens ahead, and further as long as the token may
turn out to be a key, so a failure to cut it is told before one to make sense of the token. -/
def Tokens.get (ts : Tokens) (number : Nat) : Except Error Token :=
  match ts.failure.filter fun _ => ts.tokens.size < number + 3, ts.stops.lookup number with
  | some e, _ | none, some e => .error e
  | none, none => .ok (ts.tokens.getD number ⟨.streamEnd, 0⟩)

end NestedCss.Yaml
