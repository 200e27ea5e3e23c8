import NestedCss.Source
/-!
# Tokens

The lexical pieces of a style sheet. A source is first cut at its unquoted braces and semicolons;
a semicolon inside parentheses does not cut, so that unquoted data addresses survive. Each piece
then gives the selectors of a rule, a declaration or a statement, depending on the byte that ended
it.
-/
namespace NestedCss

/-! ### Kinds -/

/-- The kinds of tokens. -/
inductive TokenKind where
  /-- One alternative of a selector list. -/
  | selector
  /-- An opening brace. -/
  | ruleStart
  /-- A closing brace. -/
  | ruleEnd
  /-- The name in a declaration. -/
  | propertyName
  /-- The value in a declaration. -/
  | propertyValue
  /-- An at-rule without a block. -/
  | statement
  /-- A kind that the language does not have. -/
  | unknown (code : UInt8)
  deriving DecidableEq, Repr

namespace TokenKind

/-- The kind with a number. -/
def ofCode (n : UInt8) : TokenKind :=
  match n with
  | 0 => .selector
  | 1 => .ruleStart
  | 2 => .ruleEnd
  | 3 => .propertyName
  | 4 => .propertyValue
  | 5 => .statement
  | n => .unknown n

/-- The name of a kind. -/
def name : TokenKind → Text
  | .selector => Text.ofString "Selector"
  | .ruleStart => Text.ofString "RuleStart"
  | .ruleEnd => Text.ofString "RuleEnd"
  | .propertyName => Text.ofString "PropertyName"
  | .propertyValue => Text.ofString "PropertyValue"
  | .statement => Text.ofString "Statement"
  | .unknown code => Text.ofString "tokenKind(" ++ Text.ofNat code.toNat ++ Text.ofString ")"

/-- The kinds the language has. -/
def all : List TokenKind :=
  [.selector, .ruleStart, .ruleEnd, .propertyName, .propertyValue, .statement]

/-- The kind with a name; a name that no kind has gives an unknown kind. -/
def ofName (t : Text) : TokenKind := (all.find? (·.name == t)).getD (.unknown 0xFF)

end TokenKind

/-- A lexical piece: its kind, its text, and where that stands in the text without comments. -/
structure Token where
  /-- The kind. -/
  kind : TokenKind
  /-- The text. -/
  text : Text
  /-- The position in the text without comments. -/
  off : Int
  deriving DecidableEq, Repr

/-! ### Pieces -/

/-- What ends a piece. -/
inductive PieceEnd where
  /-- A semicolon. -/
  | semicolon
  /-- An opening brace. -/
  | openBrace
  /-- A closing brace. -/
  | closeBrace
  /-- The end of the text. -/
  | finish
  deriving DecidableEq, Repr

/-- The text between two cuts. -/
structure Piece where
  /-- The text in front of the byte that ends it. -/
  text : Text
  /-- Its position. -/
  off : Nat
  /-- What ends it. -/
  ending : PieceEnd
  deriving DecidableEq, Repr

namespace Piece

/-- The state of the search for the next cut. -/
structure Search extends Quotes where
  /-- The number of open parentheses. -/
  parens : Nat := 0
  deriving DecidableEq, Repr

namespace Search

/-- The state behind the byte `c`. -/
def next (s : Search) (c : UInt8) : Search :=
  { s.toQuotes.next c with
    parens :=
      if s.turns c || s.isQuoted then s.parens
      else if c == Byte.openParen then s.parens + 1
      else if c == Byte.closeParen then s.parens - 1
      else s.parens }

/-- What the byte `c` ends, where it is a cut. -/
def cut? (s : Search) (c : UInt8) : Option PieceEnd :=
  if s.turns c || s.isQuoted then none
  else match c with
    | Byte.openBrace => some .openBrace
    | Byte.closeBrace => some .closeBrace
    | Byte.semicolon => if s.parens == 0 then some .semicolon else none
    | _ => none

end Search

/-- The piece with the byte `c` put in front of it. -/
def cons (c : UInt8) (p : Piece) : Piece := { p with text := c :: p.text, off := p.off - 1 }

/-- Cuts a text into pieces, for a search that stands in state `s` at position `off`. -/
def cutFrom (s : Search) (off : Nat) : Text → List Piece
  | [] => [⟨[], off, .finish⟩]
  | c :: r =>
    match s.cut? c with
    | some e => ⟨[], off, e⟩ :: cutFrom {} (off + 1) r
    | none =>
      match cutFrom (s.next c) (off + 1) r with
      | [] => []
      | p :: more => p.cons c :: more

/-- The pieces of a text, of which there is always at least one. -/
def cut (t : Text) : List Piece := cutFrom {} 0 t

/-- The piece as a span. -/
def span (p : Piece) : Span := ⟨p.text, p.off⟩

/-- The position of the byte that ends the piece. -/
def endOff (p : Piece) : Nat := p.off + p.text.length

end Piece

/-! ### From pieces to tokens -/

/-- A byte of a property name. -/
def Byte.isNameByte (c : UInt8) : Bool :=
  isLetter c || isDigit c || c == hyphen || c == dollar || c == percent

/-- Whether a text can name a property. -/
def Text.isPropertyName (t : Text) : Bool := !t.isEmpty && t.all Byte.isNameByte

/-- The text up to its first line end, without blanks before that; all of it where it has one line
only. -/
def Text.firstLine (t : Text) : Text :=
  let isEnd := fun c => c == Byte.lineFeed || c == Byte.carriageReturn
  if t.any isEnd then Text.trimRight (t.takeWhile (! isEnd ·)) else t

namespace Token

/-- The parts of a text before and behind its first unescaped colon; `escaped` tells whether an odd
number of backslashes precedes. -/
def cutColon (escaped : Bool) : Text → Option (Text × Text)
  | [] => none
  | c :: r =>
    if c == Byte.colon && !escaped then some ([], r)
    else (cutColon (c == Byte.backslash && !escaped) r).map fun (name, value) => (c :: name, value)

/-- The two tokens of a declaration, given as a trimmed span. -/
def ofDeclaration (src : Source) (s : Span) : Except CompileError (List Token) :=
  match cutColon false s.text with
  | none => .error (src.error s.off (.unexpectedToken s.text.firstLine))
  | some (front, back) =>
    let name := front.trimRight
    let value := Span.trim ⟨back, s.off + front.length + 1⟩
    if !name.isPropertyName then .error (src.error s.off .invalidPropertyName)
    else if value.text.countTopLevel Byte.colon > 0 then
      .error (src.error s.off .unclosedDeclaration)
    else .ok [⟨.propertyName, name, s.off⟩, ⟨.propertyValue, value.text, value.off⟩]

/-- The token of one alternative; an empty one is placed where it starts. -/
def ofAlternative (piece : Span) (emptyOff : Int) : Token :=
  let s := piece.trim
  ⟨.selector, s.text, if s.text.isEmpty then emptyOff else s.off⟩

/-- The selector tokens in front of an opening brace. -/
def ofSelectors (p : Piece) : List Token :=
  if p.text.countTopLevel Byte.comma == 0 then [ofAlternative p.span p.endOff]
  else (p.text.splitTopLevel Byte.comma).map fun s =>
    let s := s.shift p.off
    ofAlternative s s.off

/-- The tokens of a piece that ends in a semicolon. -/
def ofStatement (src : Source) (p : Piece) : Except CompileError (List Token) :=
  let s := p.span.trim
  match s.text with
  | [] => .ok []
  | c :: _ =>
    if c == Byte.atSign then .ok [⟨.statement, s.text, s.off⟩] else ofDeclaration src s

/-- The tokens of the last declaration of a block, which may lack its semicolon. -/
def ofBlockEnd (src : Source) (p : Piece) : Except CompileError (List Token) :=
  let s := p.span.trim
  if s.text.isEmpty then .ok [] else ofDeclaration src s

/-- The tokens of a list of pieces. `opened` holds the positions of the braces that are still
open, the innermost first. -/
def ofPieces (src : Source) (opened : List Nat) : List Piece → Except CompileError (List Token)
  | [] => .ok []
  | p :: more =>
    match p.ending with
    | .semicolon => do
      let ts ← ofStatement src p
      let rest ← ofPieces src opened more
      return ts ++ rest
    | .openBrace => do
      let rest ← ofPieces src (p.endOff :: opened) more
      return ofSelectors p ++ ⟨.ruleStart, [Byte.openBrace], p.endOff⟩ :: rest
    | .closeBrace => do
      let ts ← ofBlockEnd src p
      match opened with
      | [] => .error (src.error p.endOff (.unexpectedToken [Byte.closeBrace]))
      | _ :: outer =>
        let rest ← ofPieces src outer more
        return ts ++ ⟨.ruleEnd, [Byte.closeBrace], p.endOff⟩ :: rest
    | .finish =>
      let s := p.span.trim
      if !s.text.isEmpty then .error (src.error s.off (.unexpectedToken s.text.firstLine))
      else match opened with
        | [] => .ok []
        | brace :: _ => .error (src.error brace .unclosedRule)

/-- The tokens of a source. -/
def ofSource (src : Source) : Except CompileError (List Token) :=
  ofPieces src [] (Piece.cut src.text)

end Token

end NestedCss
