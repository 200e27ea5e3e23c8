import NestedCss.CompileError
import NestedCss.Scanner
/-!
# Sources

A style sheet without its comments. Line comments start with `//`, block comments with `/*`, and a
`//*` opens a block comment as well; none starts inside a quoted string. A source keeps, for every
byte that is left, its offset in the text as it was given, so that errors can be placed there.
-/
namespace NestedCss

/-! ### Comments -/

/-- The two kinds of comments. -/
inductive CommentKind where
  /-- Up to the end of the line. -/
  | line
  /-- Up to the closing mark. -/
  | block
  deriving DecidableEq, Repr

/-- Where the removal of comments stands. -/
inductive CommentState where
  /-- Outside comments, with the state of the scan for quoted strings. -/
  | code (quotes : Quotes)
  /-- Inside the opening mark of a comment, of which `left + 1` bytes are still to come. -/
  | opening (kind : CommentKind) (left : Nat)
  /-- Inside a line comment. -/
  | line
  /-- Inside a block comment; `star` tells whether its last byte was an asterisk. -/
  | block (star : Bool)
  deriving DecidableEq, Repr

namespace CommentState

/-- The state behind the opening mark of a comment. -/
def inside : CommentKind → CommentState
  | .line => .line
  | .block => .block false

/-- The opening mark that starts with a slash before `rest`: its kind, and how many bytes of it
stand in `rest` behind the first of them. -/
def opener? (rest : Text) : Option (CommentKind × Nat) :=
  match rest with
  | Byte.star :: _ => some (.block, 0)
  | Byte.slash :: Byte.star :: _ => some (.block, 1)
  | Byte.slash :: _ => some (.line, 0)
  | _ => none

/-- Whether the byte `c` is kept, and the state behind it; `rest` is the text behind `c`. -/
def step (s : CommentState) (c : UInt8) (rest : Text) : Bool × CommentState :=
  match s with
  | .code q =>
    if c == Byte.slash && !q.isQuoted then
      match opener? rest with
      | some (kind, left) => (false, .opening kind left)
      | none => (true, .code (q.next c))
    else (true, .code (q.next c))
  | .opening kind 0 => (false, inside kind)
  | .opening kind (left + 1) => (false, .opening kind left)
  | .line =>
    if c == Byte.lineFeed || c == Byte.carriageReturn then (true, .code {}) else (false, .line)
  | .block star =>
    if star && c == Byte.slash then (false, .code {}) else (false, .block (c == Byte.star))

end CommentState

/-! ### Sources -/

/-- A byte of a text and its offset there. -/
structure Placed where
  /-- The byte. -/
  byte : UInt8
  /-- Its offset in the given text. -/
  off : Nat
  deriving DecidableEq, Repr

/-- A text without comments, placed in the text it came from. -/
structure Source where
  /-- The text as it was given. -/
  given : Text
  /-- The bytes that are left. -/
  kept : List Placed
  deriving DecidableEq, Repr

namespace Source

/-- The bytes outside comments, for a removal that stands in state `s` at offset `off`. -/
def removeComments (s : CommentState) (off : Nat) : Text → List Placed
  | [] => []
  | c :: rest =>
    let (keep, s') := s.step c rest
    if keep then ⟨c, off⟩ :: removeComments s' (off + 1) rest
    else removeComments s' (off + 1) rest

/-- The placed bytes without the blanks at both ends. -/
def trimPlaced (ps : List Placed) : List Placed :=
  ((ps.dropWhile (Byte.isBlank ·.byte)).reverse.dropWhile (Byte.isBlank ·.byte)).reverse

/-- The source of a text: its comments are removed and the result is trimmed. -/
def sanitize (t : Text) : Source := ⟨t, trimPlaced (removeComments (.code {}) 0 t)⟩

/-- The text without comments. -/
def text (s : Source) : Text := s.kept.map (·.byte)

/-- The offset in the given text of each byte of `text`. -/
def offsets (s : Source) : List Nat := s.kept.map (·.off)

/-- The offset in the given text of the byte at `off`; the end of the text for any other
`off`. -/
def givenOffset (s : Source) (off : Int) : Nat :=
  if off < 0 then s.given.length
  else match s.kept[off.toNat]? with
    | some p => p.off
    | none => s.given.length

/-- A fault at the byte `off` of the text without comments. -/
def error (s : Source) (off : Int) (fault : Fault) : CompileError :=
  { Position.locate s.given (s.givenOffset off) with fault }

end Source

end NestedCss
