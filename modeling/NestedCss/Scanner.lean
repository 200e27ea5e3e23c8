import NestedCss.Text
/-!
# Scanning quotes and brackets

Separators count only outside quoted strings and, mostly, outside brackets. `Quotes` follows the
quoted strings of a text from left to right, `Scanner` follows its brackets too, and the functions
on texts below cut, count and replace at the places that a scanner finds to be on the top level.

A quote byte directly behind an odd number of backslashes neither opens nor closes a string.
-/
namespace NestedCss

/-! ### Quotes -/

/-- Where a scan stands with respect to quoted strings. -/
inductive Quoting where
  /-- Outside every string. -/
  | outside
  /-- Inside a string in single quotes. -/
  | single
  /-- Inside a string in double quotes. -/
  | double
  deriving DecidableEq, Repr

/-- The state of a scan for quoted strings. -/
structure Quotes where
  /-- The string the scan stands in. -/
  quoting : Quoting := .outside
  /-- Whether an odd number of backslashes stands directly before the next byte. -/
  escaped : Bool := false
  deriving DecidableEq, Repr

namespace Quotes

/-- Whether the next byte is inside a string. -/
def isQuoted (q : Quotes) : Bool := q.quoting != .outside

/-- Whether the byte `c` opens or closes a string. -/
def turns (q : Quotes) (c : UInt8) : Bool :=
  !q.escaped && ((c == Byte.doubleQuote && q.quoting != .single)
    || (c == Byte.singleQuote && q.quoting != .double))

/-- The string a scan stands in behind the quote byte `c`. -/
def turned (q : Quotes) (c : UInt8) : Quoting :=
  if q.isQuoted then .outside else if c == Byte.doubleQuote then .double else .single

/-- The state behind the byte `c`. -/
def next (q : Quotes) (c : UInt8) : Quotes :=
  { quoting := if q.turns c then q.turned c else q.quoting
    escaped := c == Byte.backslash && !q.escaped }

/-- The state behind a whole text. -/
def after (q : Quotes) (t : Text) : Quotes := t.foldl next q

end Quotes

/-! ### Brackets -/

/-- The state of a scan for quoted strings and brackets. -/
structure Scanner extends Quotes where
  /-- The number of open parentheses and square brackets. -/
  depth : Nat := 0
  deriving DecidableEq, Repr

namespace Scanner

/-- Whether the byte is an opening bracket. -/
def isOpening (c : UInt8) : Bool := c == Byte.openParen || c == Byte.openBracket

/-- Whether the byte is a closing bracket. -/
def isClosing (c : UInt8) : Bool := c == Byte.closeParen || c == Byte.closeBracket

/-- Whether the byte `c` stands on the top level: outside strings and brackets, and itself neither
an active quote nor a bracket. -/
def isTop (s : Scanner) (c : UInt8) : Bool :=
  !s.turns c && !s.isQuoted && !isOpening c && !isClosing c && s.depth == 0

/-- The bracket depth behind the byte `c`. A closing bracket without a partner is ignored. -/
def nextDepth (s : Scanner) (c : UInt8) : Nat :=
  if s.turns c || s.isQuoted then s.depth
  else if isOpening c then s.depth + 1
  else if isClosing c then s.depth - 1
  else s.depth

/-- The state behind the byte `c`. -/
def next (s : Scanner) (c : UInt8) : Scanner :=
  { s.toQuotes.next c with depth := s.nextDepth c }

/-- The state behind a whole text. -/
def after (s : Scanner) (t : Text) : Scanner := t.foldl next s

/-- For every byte of a text, whether it stands on the top level. -/
def topFlags (s : Scanner) : Text → List Bool
  | [] => []
  | c :: r => s.isTop c :: topFlags (s.next c) r

end Scanner

/-! ### Spans -/

/-- A piece of a text together with the position of its first byte. -/
structure Span where
  /-- The piece. -/
  text : Text
  /-- The position of the piece in the text it was cut from. -/
  off : Int
  deriving DecidableEq, Repr

namespace Span

/-- A span with the byte `c` put in front of it. -/
def cons (c : UInt8) (s : Span) : Span := ⟨c :: s.text, s.off - 1⟩

/-- A span without the blanks at its ends. -/
def trim (s : Span) : Span :=
  ⟨s.text.trim, s.off + (s.text.length - s.text.trimLeft.length : Nat)⟩

/-- A span moved to the right. -/
def shift (s : Span) (n : Int) : Span := ⟨s.text, s.off + n⟩

end Span

namespace Text

/-- Cuts a text at the bytes `sep` on the top level; the scan starts in state `s` at position
`off`. -/
def splitTopFrom (sep : UInt8) (s : Scanner) (off : Nat) : Text → List Span
  | [] => [⟨[], off⟩]
  | c :: r =>
    let pieces := splitTopFrom sep (s.next c) (off + 1) r
    if s.isTop c && c == sep then ⟨[], off⟩ :: pieces
    else match pieces with
      | [] => []
      | p :: more => p.cons c :: more

/-- The pieces of a text between the bytes `sep` on the top level. Empty pieces are kept. -/
def splitTopLevel (t : Text) (sep : UInt8) : List Span := splitTopFrom sep {} 0 t

/-- The number of bytes `c` on the top level, for a scan that starts in state `s`. -/
def countTopFrom (c : UInt8) (s : Scanner) : Text → Nat
  | [] => 0
  | d :: r => (if s.isTop d && d == c then 1 else 0) + countTopFrom c (s.next d) r

/-- The number of bytes `c` on the top level. -/
def countTopLevel (t : Text) (c : UInt8) : Nat := countTopFrom c {} t

/-- The trimmed, non-empty pieces of a selector list. -/
def splitAlternatives (t : Text) : List Text :=
  ((t.splitTopLevel Byte.comma).map (·.text.trim)).filter (! ·.isEmpty)

/-- Drops the blanks outside quoted strings, for a scan that starts in state `q`. -/
def removeSpacesFrom (q : Quotes) : Text → Text
  | [] => []
  | c :: r =>
    let q' := q.next c
    if !q'.isQuoted && Byte.isBlank c then removeSpacesFrom q' r else c :: removeSpacesFrom q' r

/-- A text without the blanks outside quoted strings. -/
def removeSpaces (t : Text) : Text := removeSpacesFrom {} t

/-- Writes `new` for each byte `old` outside quoted strings, for a scan that starts in state
`q`. -/
def replaceUnquotedFrom (old : UInt8) (new : Text) (q : Quotes) : Text → Text
  | [] => []
  | c :: r =>
    let q' := q.next c
    (if c == old && !q'.isQuoted then new else [c]) ++ replaceUnquotedFrom old new q' r

/-- A text with `new` in place of each byte `old` outside quoted strings. -/
def replaceUnquoted (t : Text) (old : UInt8) (new : Text) : Text :=
  replaceUnquotedFrom old new {} t

/-- Whether the byte behind the text `t` is escaped: an odd number of backslashes ends `t`. -/
def endsEscaped (t : Text) : Bool :=
  (t.reverse.takeWhile (· == Byte.backslash)).length % 2 == 1

end Text

end NestedCss
