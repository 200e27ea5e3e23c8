import NestedCss.Text.Utf8
/-!
# Places in a document

A cursor walks through the characters of a document and knows the line and the column it is at.
-/
namespace NestedCss.Yaml

/-- What is wrong with a document. The line is told where it is known. -/
structure Error where
  /-- The line. -/
  line : Option Nat
  /-- What is wrong. -/
  problem : Text
  deriving DecidableEq, Repr

/-- The wording of an error. -/
def Error.message (e : Error) : Text :=
  Text.ofString "yaml: "
    ++ (match e.line with
      | some n => Text.ofString "line " ++ Text.ofNat n ++ Text.ofString ": "
      | none => [])
    ++ e.problem

/-! ### Characters -/

/-- The character that stands for the end of a document, in which it cannot occur. -/
def endMark : Char := Char.ofNat 0

/-- The byte order mark, which may start a line. -/
def orderMark : Char := Char.ofNat 0xFEFF

/-- Whether a character is a space or a tab. -/
def isBlank (c : Char) : Bool := c == ' ' || c == '\t'

/-- Whether a character ends a line. -/
def isBreak (c : Char) : Bool :=
  c == '\n' || c == '\r' || c.toNat == 0x85 || c.toNat == 0x2028 || c.toNat == 0x2029

/-- Whether a character ends a line or the document. -/
def isBreakOrEnd (c : Char) : Bool := isBreak c || c == endMark

/-- Whether a character is blank, ends a line, or ends the document. -/
def isGap (c : Char) : Bool := isBlank c || isBreakOrEnd c

/-- Whether a character can stand in a document. -/
def isAllowed (c : Char) : Bool :=
  let n := c.toNat
  n == 0x09 || n == 0x0A || n == 0x0D || (0x20 ≤ n && n ≤ 0x7E) || n == 0x85
    || (0xA0 ≤ n && n ≤ 0xD7FF) || (0xE000 ≤ n && n ≤ 0xFFFD) || 0x10000 ≤ n

/-! ### Cursors -/

/-- A place in a document. -/
structure Cursor where
  /-- What is left of the document. -/
  rest : List Char
  /-- How many characters have been passed. -/
  index : Nat := 0
  /-- The line, counted from zero. -/
  line : Nat := 0
  /-- The column, counted from zero. -/
  column : Nat := 0

namespace Cursor

/-- The character `n` characters on. -/
def peek (c : Cursor) (n : Nat) : Char := c.rest.getD n endMark

/-- The character at the cursor. -/
def here (c : Cursor) : Char := c.rest.headD endMark

/-- The cursor behind a character on the same line. -/
def skip (c : Cursor) : Cursor :=
  match c.rest with
  | [] => c
  | _ :: r => { c with rest := r, index := c.index + 1, column := c.column + 1 }

/-- The cursor behind `n` characters on the same line. -/
def skipMany (c : Cursor) (n : Nat) : Cursor :=
  let n := min n c.rest.length
  { c with rest := c.rest.drop n, index := c.index + n, column := c.column + n }

/-- The cursor behind the characters at the front that have a property. -/
def skipWhile (c : Cursor) (p : Char → Bool) : Cursor :=
  c.skipMany (c.rest.takeWhile p).length

/-- The cursor behind the end of a line. -/
def skipLine (c : Cursor) : Cursor :=
  match c.rest with
  | '\r' :: '\n' :: r => { rest := r, index := c.index + 2, line := c.line + 1 }
  | x :: r => if isBreak x then { rest := r, index := c.index + 1, line := c.line + 1 } else c
  | [] => c

/-- What the end of a line stands for in a value: a line feed, or one of the two separators of
lines and paragraphs themselves. -/
def lineBreak (c : Cursor) : List Char :=
  let x := c.here
  if x.toNat == 0x2028 || x.toNat == 0x2029 then [x] else if isBreak x then ['\n'] else []

/-- Whether one of the two marks of a document's start and end stands at the start of a line. -/
def isAtMark (c : Cursor) (x : Char) : Bool :=
  c.column == 0 && c.peek 0 == x && c.peek 1 == x && c.peek 2 == x && isGap (c.peek 3)

/-- Whether the start or the end of a document is marked here. -/
def isAtDocument (c : Cursor) : Bool := c.isAtMark '-' || c.isAtMark '.'

end Cursor

end NestedCss.Yaml
