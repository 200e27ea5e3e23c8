import NestedCss.Yaml.Cursor
import NestedCss.Yaml.Meaning
/-!
# Writing documents

A tree of values is written as indented blocks, four columns a level. A text is written plainly
where that can be read back as the same text, in quotes where it cannot, and as a block of lines if
it has several.
-/
namespace NestedCss.Yaml

/-- A value to be written. -/
inductive Value where
  /-- Something that is written as it is. -/
  | bare (t : Text)
  /-- A text. -/
  | text (t : Text)
  /-- A text that is known to be read back as a text, whichever words other readers know. -/
  | node (t : Text)
  /-- A list. -/
  | list (items : List Value)
  /-- A mapping. -/
  | table (entries : List (Value × Value))

/-! ### How a text can be written -/

/-- How a scalar is written. -/
inductive Style where
  /-- As it is. -/
  | plain
  /-- Between single quotes. -/
  | single
  /-- Between double quotes. -/
  | double
  /-- As a block of lines. -/
  | literal
  deriving DecidableEq

/-- Words that other readers take for truth values. -/
def oldTruths : List String := ["y", "Y", "yes", "Yes", "YES", "on", "On", "ON", "n", "N", "no",
  "No", "NO", "off", "Off", "OFF"]

/-- Whether a text is a number of minutes or seconds, from zero to fifty-nine. -/
def isSixtieth (t : Text) : Bool :=
  match t with
  | [a] => Byte.isDigit a
  | [a, b] => 0x30 ≤ a && a ≤ 0x35 && Byte.isDigit b
  | _ => false

/-- Whether other readers take a text for a number in base sixty, such as a time of day. -/
def isSexagesimal (t : Text) : Bool :=
  let isDigit (c : UInt8) : Bool := Byte.isDigit c || c == Byte.underscore
  match Text.splitOn Byte.colon (Numeral.unsigned t) with
  | first :: second :: more =>
    let parts := second :: more
    let last := parts.getLastD []
    let whole := last.takeWhile (· != Byte.dot)
    first.head?.any Byte.isDigit && first.all isDigit
      && (parts.dropLast ++ [whole]).all isSixtieth
      && (last.drop (whole.length + 1)).all isDigit
  | _ => false

/-- Whether a plainly written text is read back as a text by every reader. -/
def isPlainText (t : Text) : Bool :=
  Meaning.ofPlain t == .text && !isSexagesimal t && !(oldTruths.map Text.ofString).contains t

/-- Whether a character can be written as it is. -/
def isPrintable (c : Char) : Bool :=
  let n := c.toNat
  n == 0x0A || (0x20 ≤ n && n ≤ 0x7E) || (0xA0 ≤ n && n ≤ 0xFFFD && n != 0xFEFF)

/-- The pairs of characters next to each other. -/
def neighbours (cs : List Char) : List (Char × Char) := cs.zip (cs.drop 1)

/-- Whether a character of a text, with those before and behind it, would be taken for a mark. -/
def hasMark (cs : List Char) : Bool :=
  let followed (rest : List Char) : Bool := rest.head?.all isBlank
  let first := match cs with
    | c :: rest =>
      "#,[]\x7b\x7d&*!|>\x27\x22%@\x60".contains c || ("?:-".contains c && followed rest)
    | [] => false
  first || ("---".toList.isPrefixOf cs) || ("...".toList.isPrefixOf cs)
    || (neighbours cs).any (fun (a, b) => (b == '#' && isGap a) || (a == ':' && isBlank b))
    || cs.getLast? == some ':'

/-- Whether a text has a character that has to be written as an escape. -/
def hasSpecial (cs : List Char) : Bool := cs.any fun c => c != '\t' && !isPrintable c

/-- Whether blanks stand at an end of a line inside a text. -/
def hasSpaceBreak (cs : List Char) : Bool :=
  (neighbours cs).any fun (a, b) => a == ' ' && isBreak b

/-- Whether blanks stand at the start of a line inside a text. -/
def hasBreakSpace (cs : List Char) : Bool :=
  (neighbours cs).any fun (a, b) => isBreak a && b == ' '

/-- Whether a text can be written plainly. -/
def allowsPlain (cs : List Char) : Bool :=
  let isOuter (c : Char) : Bool := c == ' ' || isBreak c
  !(cs.head?.any isOuter || cs.getLast?.any isOuter || cs.any isBreak || cs.contains '\t'
    || hasSpecial cs || hasMark cs)

/-- Whether a text can be written between single quotes. -/
def allowsSingle (cs : List Char) : Bool :=
  !(hasSpaceBreak cs || hasBreakSpace cs || cs.contains '\t' || hasSpecial cs)

/-- Whether a text can be written as a block of lines. -/
def allowsLiteral (cs : List Char) : Bool :=
  !(cs.isEmpty || cs.getLast? == some ' ' || hasSpaceBreak cs || hasSpecial cs)

/-- The style of a text, where `plain` tells whether it is read back as a text. -/
def styleOf (plain isKey : Bool) (cs : List Char) : Style :=
  if cs.contains '\n' then if allowsLiteral cs && !isKey then .literal else .double
  else if !plain then .double
  else if allowsPlain cs && !(isKey && cs.isEmpty) then .plain
  else if allowsSingle cs then .single
  else .double

/-! ### Scalars -/

/-- The escapes of single characters. -/
def escapeNames : List (Nat × Char) := [
  (0x00, '0'), (0x07, 'a'), (0x08, 'b'), (0x09, 't'), (0x0A, 'n'), (0x0B, 'v'), (0x0C, 'f'),
  (0x0D, 'r'), (0x1B, 'e'), (0x22, '\x22'), (0x5C, '\\'), (0x85, 'N'), (0xA0, '_'), (0x2028, 'L'),
  (0x2029, 'P')]

/-- A number in hexadecimal digits of a fixed width. -/
def hexText (width n : Nat) : List Char :=
  ((List.range width).map fun i => Nat.digitChar (n / Nat.pow 16 i % 16)).reverse.map Char.toUpper

/-- A character between double quotes. -/
def escape (c : Char) : List Char :=
  let n := c.toNat
  if isPrintable c && !isBreak c && c != '\x22' && c != '\\' then [c]
  else
    match escapeNames.lookup n with
    | some e => ['\\', e]
    | none =>
      if n ≤ 0xFF then '\\' :: 'x' :: hexText 2 n
      else if n ≤ 0xFFFF then '\\' :: 'u' :: hexText 4 n
      else '\\' :: 'U' :: hexText 8 n

/-- The marks behind the start of a block of lines: how far it is indented, if its first line does
not show that, and what becomes of the ends of lines at its end. -/
def literalHints (cs : List Char) : List Char :=
  (if cs.head?.any fun c => c == ' ' || isBreak c then ['4'] else [])
    ++ match cs.reverse with
      | [] => ['-']
      | a :: rest =>
        if !isBreak a then ['-'] else if rest.head?.all isBreak then ['+'] else []

/-- The lines of a block. The end of a line is written before what follows it, unless that has been
done. -/
def literalLines (indent : Nat) : Bool → Bool → List Char → List Char
  | _, _, [] => []
  | atStart, isBroken, c :: rest =>
    if isBreak c then c :: literalLines indent true true rest
    else
      (if atStart then (if isBroken then [] else ['\n']) ++ List.replicate indent ' ' else [])
        ++ c :: literalLines indent false false rest

/-- A text in a style. Blocks of lines are indented to a column. -/
def inStyle (indent : Nat) (cs : List Char) : Style → List Char
  | .plain => cs
  | .single => '\x27' :: cs.flatMap (fun c => if c == '\x27' then [c, c] else [c]) ++ ['\x27']
  | .double => '\x22' :: cs.flatMap escape ++ ['\x22']
  | .literal => '|' :: literalHints cs ++ literalLines indent true false cs

/-- A text, where `plain` tells whether it is read back as a text. -/
def writeText (indent : Nat) (isKey plain : Bool) (t : Text) : Text :=
  let cs := Utf8.chars t
  Utf8.encode (inStyle indent cs (styleOf plain isKey cs))

/-- A scalar. -/
def writeScalar (indent : Nat) (isKey : Bool) : Value → Text
  | .bare t => t
  | .text t => writeText indent isKey (isPlainText t) t
  | .node t => writeText indent isKey (Meaning.ofPlain t == .text) t
  | .list _ => Text.ofString "[]"
  | .table _ => Text.ofString "\x7b\x7d"

/-! ### Blocks -/

/-- The column of what a block at a column has in it. -/
def deeper (column : Nat) : Nat := 4 * ((column + 4) / 4)

/-- A line's start: its end, if the line before has not been ended, and its indentation. -/
def startLine (done : Text) (column : Nat) : Text :=
  (if done.isEmpty || done.getLast? == some Byte.lineFeed then [] else [Byte.lineFeed])
    ++ List.replicate column Byte.space

/-- Whether a key can stand before its colon on one line. -/
def isSimpleKey : Value → Bool
  | .bare t | .text t | .node t => !(Utf8.chars t).any isBreak && t.length ≤ 128
  | _ => false

mutual

/-- Writes a value behind its key or dash. Blocks in it start at a column. -/
def writeValue (done : Text) (inList : Bool) (column : Nat) : Value → Text
  | .list (v :: vs) => writeItems done inList column (v :: vs)
  | .table (e :: es) => writeEntries done inList column (e :: es)
  | v => done ++ Byte.space :: writeScalar column false v

/-- Writes the items of a list at a column, the first one on the line of the dash before it, if
there is one. -/
def writeItems (done : Text) (onLine : Bool) (column : Nat) : List Value → Text
  | [] => done
  | v :: vs =>
    let start := if onLine then [Byte.space] else startLine done column
    writeItems (writeValue (done ++ start ++ [Byte.hyphen]) true (column + 2) v) false column vs

/-- Writes the entries of a mapping at a column, the first one on the line of the dash before it, if
there is one. -/
def writeEntries (done : Text) (onLine : Bool) (column : Nat) : List (Value × Value) → Text
  | [] => done
  | (k, v) :: es =>
    let done := done ++ if onLine then [Byte.space] else startLine done column
    let keyed :=
      if isSimpleKey k then done ++ writeScalar (deeper column) true k
      else
        let key := done ++ Byte.question :: Byte.space :: writeScalar (deeper column) false k
        key ++ startLine key column
    writeEntries (writeValue (keyed ++ [Byte.colon]) false (deeper column) v) false column es

end

/-- A document with a value, which ends its last line. -/
def Value.render (v : Value) : Text :=
  let t := match v with
    | .list (i :: is) => writeItems [] false 0 (i :: is)
    | .table (e :: es) => writeEntries [] false 0 (e :: es)
    | v => writeScalar 4 false v
  t ++ startLine t 0

end NestedCss.Yaml
