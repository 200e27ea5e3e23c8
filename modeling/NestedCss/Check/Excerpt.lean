import NestedCss.Text.Printable
/-!
# Excerpts of flat style sheets

A flaw of a flat style sheet is shown with its line, shortened around the column where the line is
long, and a caret below the place.
-/
namespace NestedCss.Check

/-- A place in a style sheet: line and column, both counted from one, the column in characters. -/
structure Place where
  /-- The line. -/
  line : Nat
  /-- The column. -/
  column : Nat

namespace Excerpt

/-! ### Lines -/

/-- The number that the leading byte `c`, without its topmost bits, and the bytes `tail` write with
six bits for each of `tail`. -/
def joinBits (c : Nat) (tail : List UInt8) : Nat :=
  tail.foldl (fun n b => n * 0x40 + b.toNat % 0x40) c

/-- The number and the length of the character at the front of a text whose first byte is `c`. The
first byte says how many bytes follow it, but a zero byte or the end of the text cuts them off. -/
def charAt (c : UInt8) (rest : Text) : Nat × Nat :=
  let wanted := if c < 0xC0 then 0 else if c < 0xE0 then 1 else if c < 0xF0 then 2 else 3
  let tail := (rest.take wanted).takeWhile (· != 0)
  let lead := match tail.length with
    | 0 => c.toNat
    | 1 => c.toNat % 0x20
    | 2 => c.toNat % 0x10
    | _ => c.toNat % 0x08
  (joinBits lead tail, tail.length + 1)

/-- The length of the character at the front of a text, and whether it ends a line. A carriage
return with a line feed behind it counts as one. -/
def unit (c : UInt8) (rest : Text) : Nat × Bool :=
  if c == Byte.lineFeed then (1, true)
  else if c == Byte.carriageReturn then (if rest.head? == some Byte.lineFeed then 2 else 1, true)
  else
    let (n, width) := charAt c rest
    (width, n == 0x2028 || n == 0x2029)

/-- A position with the number of its line and the start of that line. -/
structure Mark where
  /-- The number of the line, counted from one. -/
  line : Nat
  /-- Where the line starts. -/
  start : Nat
  /-- The position, which is never inside of a character. -/
  stop : Nat

/-- The mark of the last position up to `pos` where a character starts; `skip` bytes of the current
character are still to be passed over. -/
def markFrom (pos line start here : Nat) : Nat → Text → Mark
  | _, [] => ⟨line, start, here⟩
  | skip + 1, _ :: rest => markFrom pos line start (here + 1) skip rest
  | 0, c :: rest =>
    let (width, newLine) := unit c rest
    if pos ≤ here || (1 < width && pos < here + width) then ⟨line, start, here⟩
    else if newLine then markFrom pos (line + 1) (here + width) (here + 1) (width - 1) rest
    else markFrom pos line start (here + 1) (width - 1) rest

/-- The mark of a position of a style sheet. -/
def mark (sheet : Text) (pos : Nat) : Mark := markFrom pos 1 0 0 0 sheet

/-! ### Pictures -/

/-- A byte that ends a line. -/
def endsLine (c : UInt8) : Bool := c == Byte.lineFeed || c == Byte.carriageReturn

/-- A character that has a picture of its own: a printable one or a space of some width. -/
def isGraphic (c : Char) : Bool :=
  let n := c.toNat
  Printable.isPrintable c || n == 0x20 || n == 0xA0 || n == 0x1680 || (0x2000 ≤ n && n ≤ 0x200A)
    || n == 0x202F || n == 0x205F || n == 0x3000

/-- What a character is shown as: a middle dot stands for one without a picture. -/
def picture (c : Char) : Char := if isGraphic c then c else Char.ofNat 0xB7

/-- The longest line that is shown whole, in characters. -/
def limit : Nat := 60

/-- How many characters are kept on each side of the place in a long line. -/
def margin : Nat := 20

/-- The part of a line that is shown, and the column of the place in it. -/
def window (column : Nat) (line : List Char) : List Char × Nat :=
  let dots := ['.', '.', '.']
  let n := line.length
  if n ≤ limit then (line, column)
  else if column ≤ limit - margin then (line.take (limit - 3) ++ dots, column)
  else if n ≤ column + margin + 3 then
    (dots ++ line.drop (n - (2 * margin + 4)), column - (n - (2 * margin + 7)))
  else (dots ++ (line.drop (column - margin - 1)).take (2 * margin + 1) ++ dots, margin + 4)

/-- The text of a place: line, column, the line itself and a caret. -/
def render (sheet : Text) (pos : Nat) : Place × Text :=
  let m := mark sheet pos
  let before := (sheet.drop m.start).take (m.stop - m.start)
  let column := Utf8.count before + 1
  let content := before ++ (sheet.drop m.stop).takeWhile (! endsLine ·)
  let (shown, shift) := window column (Utf8.chars content)
  (⟨m.line, column⟩, Text.padLeft 5 (Text.ofNat m.line) ++ Text.ofString ": "
    ++ Utf8.encode (shown.map picture) ++ [Byte.lineFeed]
    ++ List.replicate (6 + shift) Byte.space ++ [Byte.caret])

end Excerpt

end NestedCss.Check
