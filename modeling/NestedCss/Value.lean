import NestedCss.AtRule
import NestedCss.Options
import NestedCss.Scanner
/-!
# Values

What is done to the value of a declaration: splitting it into arguments, joining its lines,
wrapping bare custom properties, and filling the templates of a converter.
-/
namespace NestedCss

namespace Text

/-! ### Arguments and lines -/

/-- The runs of bytes that are not blanks on the top level, for a scan that stands in state `s`
behind the bytes `word` of a run. -/
def splitValueFrom (s : Scanner) (word : Text) : Text → List Text
  | [] => if word.isEmpty then [] else [word]
  | c :: r =>
    if s.isTop c && Byte.isBlank c then
      if word.isEmpty then splitValueFrom (s.next c) [] r
      else word :: splitValueFrom (s.next c) [] r
    else splitValueFrom (s.next c) (word ++ [c]) r

/-- The arguments of a value: what blanks outside quotes and brackets divide. -/
def splitValue (t : Text) : List Text := splitValueFrom {} [] t

/-- A value on one line: where it has several, they are trimmed and put together. -/
def minifyValue (t : Text) : Text :=
  if t.any fun c => c == Byte.lineFeed || c == Byte.carriageReturn then
    t.lines.flatMap Text.trim
  else t

end Text

/-! ### Custom properties -/

namespace Custom

/-- The state of the search for bare custom properties. -/
structure State extends Quotes where
  /-- For each open parenthesis, the innermost first, whether it belongs to a `var`. -/
  parens : List Bool := []
  /-- Whether the scan stands inside a name that has been wrapped. -/
  inName : Bool := false
  /-- The bytes before, the nearest first. -/
  before : Text := []

namespace State

/-- Whether the bytes before end in `var`, in any letter case. -/
def isVar (s : State) : Bool :=
  (s.before.take 3).map Byte.toLower == Text.ofString "rav"

/-- Whether a bare custom property starts here: `rest` is the text from here on, no identifier
stands directly before it, and no `var` is open. -/
def startsName (s : State) (rest : Text) : Bool :=
  !s.parens.contains true && !(s.before.head?.map Byte.isIdent).getD false &&
  match rest with
  | Byte.hyphen :: Byte.hyphen :: c :: _ => c != Byte.hyphen && Byte.isIdent c
  | _ => false

/-- The open parentheses behind the byte `c`. -/
def nextParens (s : State) (c : UInt8) : List Bool :=
  if s.turns c || s.isQuoted then s.parens
  else if c == Byte.openParen then s.isVar :: s.parens
  else if c == Byte.closeParen then s.parens.tail
  else s.parens

/-- The state behind the byte `c`, which belongs to no wrapped name. -/
def next (s : State) (c : UInt8) : State :=
  { s.toQuotes.next c with parens := s.nextParens c, before := c :: s.before }

/-- The state behind the byte `c` of a wrapped name. -/
def nextInName (s : State) (c : UInt8) : State :=
  { quoting := s.quoting, escaped := false, parens := s.parens, inName := true,
    before := c :: s.before }

end State

/-- Wraps the bare custom properties of a value, for a search that stands in state `s`. -/
def wrapFrom (s : State) : Text → Text
  | [] => if s.inName then [Byte.closeParen] else []
  | c :: r =>
    if s.inName && Byte.isIdent c then c :: wrapFrom (s.nextInName c) r
    else
      let close := if s.inName then [Byte.closeParen] else []
      if !s.turns c && !s.isQuoted && s.startsName (c :: r) then
        close ++ Text.ofString "var(" ++ c :: wrapFrom (s.nextInName c) r
      else close ++ c :: wrapFrom (s.next c) r

/-- A value in which each bare `--name` has become `var(--name)`. -/
def wrap (t : Text) : Text := wrapFrom {} t

end Custom

/-! ### Converters -/

/-- What a converter does. -/
structure Conversion where
  /-- Whether a declaration with this property and this value is replaced. -/
  accepts : Text → Text → Bool
  /-- The declarations that replace one with this value. -/
  convert : Text → List Declaration

namespace Conversion

/-- The declarations that stand for one: what every converter that accepts it gives, without blank
values, or the declaration itself where none accepts it. -/
def applyOne (conversions : List Conversion) (d : Declaration) : List Declaration :=
  let accepting := conversions.filter (·.accepts d.property d.value)
  if accepting.isEmpty then [d]
  else (accepting.flatMap (·.convert d.value)).filter (! ·.value.trim.isEmpty)

/-- The declarations with the converters applied to each of them. -/
def applyAll (conversions : List Conversion) (d : Declarations) : Declarations :=
  Declarations.ofList (d.toList.flatMap (applyOne conversions))

end Conversion

namespace Converter

/-- Whether a converter accepts a declaration. -/
def accepts (c : Converter) (property value : Text) : Bool :=
  property.equalFold c.matchProperty
    && (c.argumentCount ≤ 0 || (value.splitValue.length : Int) == c.argumentCount)

/-- The text that stands for the argument number `i` in a template. -/
def reference (i : Nat) : Text := Byte.dollar :: Text.ofNat i

/-- A template with the arguments, the last first, and then the whole value filled in. -/
def fill (template value : Text) : Text :=
  let numbered := (value.splitValue.zipIdx 1).reverse
  (numbered.foldl (fun t (arg, i) => t.replaceAll (reference i) arg) template).replaceAll
    [Byte.dollar, Byte.star] value

/-- The declarations that replace one with this value. -/
def convert (c : Converter) (value : Text) : List Declaration :=
  c.output.map fun d => ⟨d.property, fill d.value value⟩

/-- A converter whose output is made of templates, as one of any kind. -/
def toConversion (c : Converter) : Conversion := ⟨c.accepts, c.convert⟩

/-- The declarations with the converters applied to each of them. -/
def convertAll (converters : List Converter) (d : Declarations) : Declarations :=
  Conversion.applyAll (converters.map toConversion) d

end Converter

end NestedCss
