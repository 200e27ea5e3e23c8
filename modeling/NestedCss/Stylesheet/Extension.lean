import NestedCss.Stylesheet
import NestedCss.Value
/-!
# Extensions

What goes beyond the style language itself, applied to the finished tree: bare custom properties
are wrapped, at-rule headers are replaced, and converters run, in this order.
-/
namespace NestedCss

namespace AtRule

/-- A text without the at signs at its front. -/
def dropAtSigns (t : Text) : Text := t.trimLeftBy (· == Byte.atSign)

/-- Whether a header is the one that a replacement names; blanks and the at sign do not count. -/
def isNamedBy (header key : Text) : Bool :=
  (dropAtSigns header).removeSpaces == (dropAtSigns key.trim).removeSpaces

/-- The header with one replacement made. -/
def replaceOne (header : Text) (replacement : Text × Text) : Text :=
  if isNamedBy header replacement.1 then Byte.atSign :: dropAtSigns replacement.2.trim else header

/-- The replacements in the order in which they are made: by their keys. -/
def sortReplacements (replacements : List (Text × Text)) : List (Text × Text) :=
  replacements.mergeSort fun a b => a.1.le b.1

/-- The header with all replacements made, each in the result of the one before. -/
def replace (replacements : List (Text × Text)) (header : Text) : Text :=
  (sortReplacements replacements).foldl replaceOne header

end AtRule

namespace Stylesheet

/-- The tree with bare custom properties wrapped. -/
def wrapCustom (s : Stylesheet) : Stylesheet :=
  s.mapRules (·.mapDeclarations (·.mapValues Custom.wrap))

/-- The tree with at-rule headers replaced. -/
def replaceHeaders (replacements : List (Text × Text)) (s : Stylesheet) : Stylesheet :=
  s.mapHeaders (AtRule.replace replacements)

/-- The tree with converters run on every rule. -/
def runConverters (converters : List Converter) (s : Stylesheet) : Stylesheet :=
  s.mapRules (·.mapDeclarations (Converter.convertAll converters))

/-- The tree with the extensions that its options ask for. -/
def extend (s : Stylesheet) (opts : Options) : Stylesheet :=
  let s := if opts.useVarShortcut then s.wrapCustom else s
  let s := if opts.headerReplacements.isEmpty then s else s.replaceHeaders opts.headerReplacements
  if opts.converters.isEmpty then s else s.runConverters opts.converters

end Stylesheet

end NestedCss
