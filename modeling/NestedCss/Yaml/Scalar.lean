import NestedCss.Yaml.Cursor
/-!
# Scalars in a document

Values are written plainly, in quotes of two kinds, or as blocks of lines. Where a value goes on in
the next line, the end of the line is folded into a space, and empty lines into line feeds.
-/
namespace NestedCss.Yaml

/-- A failure while a scalar is read, told at the start of the scalar or at the cursor where the
first line is meant. -/
def scanError (context : Cursor) (here : Cursor) (problem : String) : Error :=
  ⟨if context.line != 0 then some (context.line + 1)
    else if here.line != 0 then some (here.line + 1) else none, Text.ofString problem⟩

/-- Blanks and ends of lines between the words of a scalar. -/
structure Gap where
  /-- The blanks before any line ends. -/
  blanks : List Char := []
  /-- What the first end of a line stands for. -/
  first : List Char := []
  /-- What the further ends of lines stand for. -/
  further : List Char := []
  /-- Whether a line has ended. -/
  broken : Bool := false

/-- What a gap stands for between two words. -/
def Gap.fold (g : Gap) : List Char :=
  if g.broken then
    if g.first.head? == some '\n' then
      if g.further.isEmpty then [' '] else g.further
    else g.first ++ g.further
  else g.blanks

/-- Reads a gap. `tabs` tells whether a tab is refused at a cursor on a later line. -/
def readGap (tabs : Cursor → Bool) : Nat → Gap → Cursor → Except Cursor (Gap × Cursor)
  | 0, g, c => .ok (g, c)
  | fuel + 1, g, c =>
    let x := c.here
    if isBlank x then
      if g.broken && x == '\t' && tabs c then .error c
      else readGap tabs fuel (if g.broken then g else { g with blanks := g.blanks ++ [x] }) c.skip
    else if isBreak x then
      readGap tabs fuel
        (if g.broken then { g with further := g.further ++ c.lineBreak }
          else { g with blanks := [], first := c.lineBreak, broken := true }) c.skipLine
    else .ok (g, c)

/-! ### Plain scalars -/

/-- Whether a plain scalar ends at a cursor on a character that is not blank. -/
def endsPlain (inFlow : Bool) (c : Cursor) : Bool :=
  (c.here == ':' && isGap (c.peek 1)) || (inFlow && ",?[]\x7b\x7d".contains c.here)

/-- The word of a plain scalar at a cursor, and the cursor behind it. -/
def plainWord (inFlow : Bool) : Nat → List Char → Cursor → List Char × Cursor
  | 0, done, c => (done, c)
  | fuel + 1, done, c =>
    if isGap c.here || endsPlain inFlow c then (done, c)
    else plainWord inFlow fuel (done ++ [c.here]) c.skip

/-- Reads the words of a plain scalar, from a gap on. Gives the value, whether a line ended behind
it, and the cursor. -/
def plainWords (inFlow : Bool) (indent : Int) (start : Cursor) :
    Nat → List Char → Gap → Cursor → Except Error (List Char × Bool × Cursor)
  | 0, done, g, c => .ok (done, g.broken, c)
  | fuel + 1, done, g, c =>
    if c.isAtDocument || c.here == '#' then .ok (done, g.broken, c)
    else
      let (word, c') := plainWord inFlow c.rest.length [] c
      let done := if word.isEmpty then done else done ++ g.fold ++ word
      let g := if word.isEmpty then g else {}
      if !(isBlank c'.here || isBreak c'.here) then .ok (done, g.broken, c')
      else
        match readGap (fun c => (c.column : Int) < indent) c'.rest.length g c' with
        | .error at' =>
          .error (scanError start at' "found a tab character that violates indentation")
        | .ok (g, c') =>
          if !inFlow && (c'.column : Int) < indent then .ok (done, g.broken, c')
          else plainWords inFlow indent start fuel done g c'

/-- Reads a plain scalar. Gives the value, whether a line ended behind it, and the cursor. -/
def readPlain (inFlow : Bool) (indent : Int) (c : Cursor) :
    Except Error (Text × Bool × Cursor) := do
  let (v, broken, c) ← plainWords inFlow (indent + 1) c (c.rest.length + 1) [] {} c
  return (Utf8.encode v, broken, c)

/-! ### Quoted scalars -/

/-- The escapes that stand for one character. -/
def escapes : List (Char × Nat) := [
  ('0', 0x00), ('a', 0x07), ('b', 0x08), ('t', 0x09), ('\t', 0x09), ('n', 0x0A), ('v', 0x0B),
  ('f', 0x0C), ('r', 0x0D), ('e', 0x1B), (' ', 0x20), ('\x22', 0x22), ('\x27', 0x27),
  ('/', 0x2F), ('\\', 0x5C), ('N', 0x85), ('_', 0xA0), ('L', 0x2028), ('P', 0x2029)]

/-- How many digits follow an escape that gives a number. -/
def codeWidth? : Char → Option Nat
  | 'x' => some 2
  | 'u' => some 4
  | 'U' => some 8
  | _ => none

/-- The value of a hexadecimal digit. -/
def hexDigit? (c : Char) : Option Nat :=
  if c.isDigit then some (c.toNat - 0x30)
  else if 'a' ≤ c && c ≤ 'f' then some (c.toNat - 0x57)
  else if 'A' ≤ c && c ≤ 'F' then some (c.toNat - 0x37)
  else none

/-- The character of an escape at a cursor on its backslash, and the cursor behind it. -/
def readEscape (start c : Cursor) : Except Error (Char × Cursor) :=
  match escapes.lookup (c.peek 1), codeWidth? (c.peek 1) with
  | some n, _ => .ok (Char.ofNat n, c.skipMany 2)
  | none, none => .error (scanError start c "found unknown escape character")
  | none, some width =>
    let c := c.skipMany 2
    match ((List.range width).map c.peek).mapM hexDigit? with
    | none => .error (scanError start c "did not find expected hexdecimal number")
    | some ds =>
      let n := ds.foldl (fun n d => 16 * n + d) 0
      if n.isValidChar then .ok (Char.ofNat n, c.skipMany width)
      else .error (scanError start c "found invalid Unicode character escape code")

/-- Reads the characters of a quoted scalar up to a gap or its end. The flag tells whether the end
of the line was escaped. -/
def quotedWord (single : Bool) (start : Cursor) :
    Nat → List Char → Cursor → Except Error (List Char × Bool × Cursor)
  | 0, done, c => .ok (done, false, c)
  | fuel + 1, done, c =>
    let x := c.here
    if isGap x then .ok (done, false, c)
    else if single then
      if x == '\x27' then
        if c.peek 1 == '\x27' then quotedWord single start fuel (done ++ [x]) (c.skipMany 2)
        else .ok (done, false, c)
      else quotedWord single start fuel (done ++ [x]) c.skip
    else if x == '\x22' then .ok (done, false, c)
    else if x == '\\' then
      if isBreak (c.peek 1) then .ok (done, true, c.skip.skipLine)
      else
        match readEscape start c with
        | .ok (y, c) => quotedWord single start fuel (done ++ [y]) c
        | .error e => .error e
    else quotedWord single start fuel (done ++ [x]) c.skip

/-- Reads the content of a quoted scalar up to its closing quote. -/
def quotedWords (single : Bool) (start : Cursor) :
    Nat → List Char → Cursor → Except Error (List Char × Cursor)
  | 0, done, c => .ok (done, c)
  | fuel + 1, done, c => do
    if c.isAtDocument then throw (scanError start c "found unexpected document indicator")
    if c.here == endMark then throw (scanError start c "found unexpected end of stream")
    let (done, escaped, c) ← quotedWord single start (c.rest.length + 1) done c
    if !escaped && c.here == (if single then '\x27' else '\x22') then return (done, c.skip)
    match readGap (fun _ => false) (c.rest.length + 1) { broken := escaped } c with
    | .ok (g, c) => quotedWords single start fuel (done ++ g.fold) c
    | .error _ => return (done, c)

/-- Reads a quoted scalar at a cursor on its opening quote. -/
def readQuoted (single : Bool) (c : Cursor) : Except Error (Text × Cursor) := do
  let (v, c) ← quotedWords single c (c.rest.length + 2) [] c.skip
  return (Utf8.encode v, c)

/-! ### Blocks -/

/-- What becomes of the ends of lines at the end of a block. -/
inductive Chomping where
  /-- The first is kept. -/
  | clip
  /-- None is kept. -/
  | strip
  /-- All are kept. -/
  | keep
  deriving DecidableEq

/-- The chomping that a character asks for. -/
def chomping? : Char → Option Chomping
  | '+' => some .keep
  | '-' => some .strip
  | _ => none

/-- Reads the two marks that may follow the start of a block: how it is chomped, and how far it is
indented. -/
def readBlockHeader (start c : Cursor) : Except Error (Chomping × Nat × Cursor) :=
  let digit (c : Cursor) : Except Error (Nat × Cursor) :=
    if c.here == '0' then
      .error (scanError start c "found an indentation indicator equal to 0")
    else if c.here.isDigit then .ok (c.here.toNat - 0x30, c.skip)
    else .ok (0, c)
  match chomping? c.here with
  | some ch => do
    let (n, c) ← digit c.skip
    return (ch, n, c)
  | none => do
    let (n, c) ← digit c
    match if n == 0 then none else chomping? c.here with
    | some ch => return (ch, n, c.skip)
    | none => return (.clip, n, c)

/-- Passes over indentation and empty lines. Gives the ends of the lines, the largest column, and
the cursor. An indentation of zero is one that is not known yet. -/
def blockBreaks (start : Cursor) (indent : Nat) :
    Nat → List Char → Nat → Cursor → Except Error (List Char × Nat × Cursor)
  | 0, breaks, most, c => .ok (breaks, most, c)
  | fuel + 1, breaks, most, c =>
    let spaces := (c.rest.takeWhile (· == ' ')).length
    let c := c.skipMany (if indent == 0 then spaces else min spaces (indent - c.column))
    let most := max most c.column
    if (indent == 0 || c.column < indent) && c.here == '\t' then
      .error (scanError start c "found a tab character where an indentation space is expected")
    else if isBreak c.here then
      blockBreaks start indent fuel (breaks ++ c.lineBreak) most c.skipLine
    else .ok (breaks, most, c)

/-- Reads the lines of a block. Gives the value, the end of the last line, the ends of empty lines
behind it, and the cursor. -/
def blockLines (literal : Bool) (start : Cursor) (indent : Nat) :
    Nat → List Char → List Char → List Char → Bool → Cursor →
    Except Error (List Char × List Char × List Char × Cursor)
  | 0, done, first, further, _, c => .ok (done, first, further, c)
  | fuel + 1, done, first, further, wasBlank, c =>
    if c.column == indent && c.here != endMark then do
      let blank := isBlank c.here
      let folds := !literal && !wasBlank && !blank && first.head? == some '\n'
      let joint := if folds then (if further.isEmpty then [' '] else []) else first
      let line := c.rest.takeWhile fun x => !isBreakOrEnd x
      let c := c.skipMany line.length
      let first := c.lineBreak
      let (breaks, _, c') ← blockBreaks start indent (c.rest.length + 1) [] 0 c.skipLine
      blockLines literal start indent fuel (done ++ joint ++ further ++ line) first breaks blank c'
    else .ok (done, first, further, c)

/-- Reads a block at a cursor on its start. -/
def readBlock (literal : Bool) (outer : Int) (start : Cursor) : Except Error (Text × Cursor) := do
  let (ch, increment, c) ← readBlockHeader start start.skip
  let c := c.skipWhile isBlank
  let c := if c.here == '#' then c.skipWhile (fun x => !isBreakOrEnd x) else c
  if !isBreakOrEnd c.here then
    throw (scanError start c "did not find expected comment or line break")
  let c := c.skipLine
  let known : Nat := if increment == 0 then 0 else (max outer 0).toNat + increment
  let (breaks, most, c) ← blockBreaks start known (c.rest.length + 1) [] 0 c
  let indent := if known == 0 then max most (max (outer + 1) 1).toNat else known
  let (v, first, further, c) ← blockLines literal start indent (c.rest.length + 1) [] [] breaks
    false c
  return (Utf8.encode (v ++ (if ch == .strip then [] else first)
    ++ (if ch == .keep then further else [])), c)

end NestedCss.Yaml
