import NestedCss.Stylesheet.Assembly
import NestedCss.Stylesheet.Extension
import NestedCss.Stylesheet.Merging
import NestedCss.Stylesheet.Printer
/-!
# The compiler

From the text of a nested style sheet to an output tree and to the text of flat style sheet.
-/
namespace NestedCss

namespace Compiler

/-- The flat sheet of a text. -/
def flatten (t : Text) : Except CompileError FlatSheet := do
  let nested ← NestedSheet.ofSource (Source.sanitize t)
  return FlatSheet.ofNested nested

/-- The output tree of a text. -/
def build (t : Text) (opts : Options) : Except CompileError Stylesheet := do
  let flat ← flatten t
  return ((Stylesheet.assemble flat opts).merge opts).extend opts

/-- The flat style sheet for a nested one. -/
def compile (t : Text) (opts : Options) : Except CompileError Text := do
  let sheet ← build t opts
  return sheet.print opts.pretty

end Compiler

end NestedCss
