import NestedCss.Text.Quoted
/-!
# Compile errors

What can be wrong with a style sheet, where it is wrong, and how that is told. A position names a
line and a column of the text as it was given, both counted from one; columns count symbols.
-/
namespace NestedCss

/-! ### Faults -/

/-- The ways in which a style sheet can be malformed. -/
inductive Fault where
  /-- Something that no rule of the language allows here. -/
  | unexpectedToken (text : Text)
  /-- A rule without its closing brace. -/
  | unclosedRule
  /-- A property name with a byte that names may not have. -/
  | invalidPropertyName
  /-- A second colon in a declaration: a semicolon is missing. -/
  | unclosedDeclaration
  /-- An empty alternative in a selector list. -/
  | emptySelector
  /-- A block without a selector in front of it. -/
  | selectorExpected
  /-- A line that looks like a declaration runs into the next selector. -/
  | semicolonExpected
  /-- A property name without a value. -/
  | propertyValueExpected
  /-- A fault described in free words. -/
  | other (text : Text)
  deriving DecidableEq, Repr

/-- The wording of a fault. -/
def Fault.message : Fault → Text
  | .unexpectedToken text => Text.ofString "syntax error: unexpected token " ++ text.quote
  | .unclosedRule => Text.ofString "syntax error: unclosed rule"
  | .invalidPropertyName => Text.ofString "syntax error: invalid property name"
  | .unclosedDeclaration => Text.ofString "syntax error: unclosed declaration"
  | .emptySelector => Text.ofString "syntax error: empty selectors are not allowed"
  | .selectorExpected => Text.ofString "syntax error: selector expected"
  | .semicolonExpected => Text.ofString "syntax error: ; expected"
  | .propertyValueExpected => Text.ofString "syntax error: property value expected"
  | .other text => text

/-! ### Positions -/

/-- A place in a text. -/
structure Position where
  /-- The line, counted from one. -/
  line : Int
  /-- The column, counted from one in symbols. -/
  column : Int
  /-- The line itself, without the bytes that end it. -/
  lineText : Text
  deriving DecidableEq, Repr

namespace Position

/-- The part of a text behind its last line feed. -/
def lastLine (t : Text) : Text := (t.reverse.takeWhile (· != Byte.lineFeed)).reverse

/-- The place of the byte at offset `off`. An offset behind the text counts as its end. -/
def locate (source : Text) (off : Nat) : Position :=
  let before := source.take off
  let lead := lastLine before
  let rest := (source.drop off).takeWhile (· != Byte.lineFeed)
  { line := before.count Byte.lineFeed + 1
    column := Utf8.count lead + 1
    lineText := (lead ++ rest).trimRightBy (· == Byte.carriageReturn) }

end Position

/-! ### Errors -/

/-- A fault and its place. -/
structure CompileError extends Position where
  /-- What is wrong. -/
  fault : Fault
  deriving DecidableEq, Repr

namespace CompileError

/-- The error in one line. -/
def message (e : CompileError) : Text :=
  Text.ofString "line " ++ Text.ofInt e.line ++ Text.ofString ", column " ++ Text.ofInt e.column
    ++ Text.ofString ": " ++ e.fault.message

/-- What stands in front of the source line in a snippet. -/
def margin (e : CompileError) : Text := (Text.ofInt e.line).padLeft 4 ++ Text.ofString " | "

/-- The source line, with tabs as spaces, above a caret under the column of the error. -/
def snippet (e : CompileError) : Text :=
  e.margin ++ e.lineText.replaceByte Byte.tab [Byte.space] ++ [Byte.lineFeed]
    ++ List.replicate (e.margin.length + (e.column - 1).toNat) Byte.space ++ Text.ofString "^"

end CompileError

end NestedCss
