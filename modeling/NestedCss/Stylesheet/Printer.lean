import NestedCss.Stylesheet
import NestedCss.Text.Outline
import NestedCss.Value
/-!
# Printing

The text of a tree, in two styles: pretty, with one declaration per line and four spaces per level,
or minified, with no byte that is not needed. Rules come in the order of their places, before the
child blocks. Rules and blocks without content are left out.
-/
namespace NestedCss

namespace Stylesheet

/-- The spaces in front of a line. -/
def indent (level : Nat) : Text := List.replicate (4 * level) Byte.space

/-- A statement as a line of its own, or without a line end. -/
def printStatement (pretty : Bool) (level : Nat) (t : Text) : Text :=
  if pretty then indent level ++ t ++ [Byte.semicolon, Byte.lineFeed] else t ++ [Byte.semicolon]

/-- A declaration. -/
def printDeclaration (pretty : Bool) (level : Nat) (d : Declaration) : Text :=
  if pretty then
    indent level ++ d.property ++ [Byte.colon, Byte.space] ++ d.value
      ++ [Byte.semicolon, Byte.lineFeed]
  else d.property ++ Byte.colon :: d.value.minifyValue

/-- The declarations of a rule. -/
def printDeclarations (pretty : Bool) (level : Nat) (l : List Declaration) : Text :=
  Text.join (if pretty then [] else [Byte.semicolon]) (l.map (printDeclaration pretty level))

/-- A rule; nothing for a rule without declarations. -/
def printRule (pretty : Bool) (level : Nat) (r : Rule) : Text :=
  if r.entries.isEmpty then []
  else if pretty then
    indent level ++ r.selector ++ Text.ofString " \x7b\n"
      ++ printDeclarations true (level + 1) r.entries ++ indent level ++ Text.ofString "\x7d\n\n"
  else r.selector ++ Byte.openBrace :: printDeclarations false (level + 1) r.entries
    ++ [Byte.closeBrace]

/-- The rules in the order of their places. -/
def sortRules (rules : List Rule) : List Rule := rules.mergeSort fun a b => a.order ≤ b.order

/-- The rules of a sheet. -/
def printRules (pretty : Bool) (level : Nat) (rules : List Rule) : Text :=
  (sortRules rules).flatMap (printRule pretty level)

/-- A header with its content in braces. -/
def printBraces (pretty : Bool) (level : Nat) (header content : Text) : Text :=
  if pretty then
    indent level ++ header.trim ++ (Text.ofString " \x7b\n" ++ content).trimRight
      ++ Byte.lineFeed :: indent level ++ Text.ofString "\x7d\n\n"
  else header.trim ++ Byte.openBrace :: content ++ [Byte.closeBrace]

mutual

/-- A child sheet as the block of its at-rule; nothing for an empty one. -/
def printBlock (pretty : Bool) (level : Nat) (s : Stylesheet) : Text :=
  match s with
  | ⟨header, statements, rules, children⟩ =>
    if isEmpty ⟨header, statements, rules, children⟩ then []
    else printBraces pretty level header
      (statements.flatMap (printStatement pretty (level + 1))
        ++ printRules pretty (level + 1) rules ++ printBlocks pretty (level + 1) children)

/-- Child sheets one after the other. -/
def printBlocks (pretty : Bool) (level : Nat) : List Stylesheet → Text
  | [] => []
  | c :: more => printBlock pretty level c ++ printBlocks pretty level more

end

/-- The statements of the root; a blank line follows them in the pretty style. -/
def printStatements (pretty : Bool) (statements : List Text) : Text :=
  statements.flatMap (printStatement pretty 0)
    ++ (if pretty && !statements.isEmpty then [Byte.lineFeed] else [])

/-- The text of a tree. -/
def print (s : Stylesheet) (pretty : Bool) : Text :=
  (printStatements pretty s.statements ++ printRules pretty 0 s.rules
    ++ printBlocks pretty 0 s.children).trim

/-! ### Outlines -/

/-- The lines for a rule in an outline. -/
def outlineRule (depth : Nat) (r : Rule) : Text :=
  Outline.render depth (.line (Text.ofString "Rule #" ++ Text.ofInt r.order))
    ++ Outline.render (depth + 1) (.labelled (Text.ofString "Selector") r.selector)
    ++ r.entries.flatMap fun d => Outline.render (depth + 2) (.pair d.property d.value)

/-- The line for a header in an outline. -/
def outlineHeader (depth : Nat) (header : Text) : Text :=
  Outline.render depth
    (if header.isEmpty then .line (Text.ofString "Stylesheet (root)")
      else .labelled (Text.ofString "AtRule") header)

mutual

/-- The outline of a tree that stands at a depth. -/
def outlineAt (depth : Nat) (s : Stylesheet) : Text :=
  match s with
  | ⟨header, statements, rules, children⟩ =>
    outlineHeader depth header
      ++ statements.flatMap
        (fun t => Outline.render (depth + 1) (.labelled (Text.ofString "Statement") t))
      ++ rules.flatMap (outlineRule (depth + 1)) ++ outlineAll (depth + 1) children

/-- The outlines of trees that stand at a depth. -/
def outlineAll (depth : Nat) : List Stylesheet → Text
  | [] => []
  | c :: more => outlineAt depth c ++ outlineAll depth more

end

/-- The tree as an indented listing. -/
def outline (s : Stylesheet) : Text := outlineAt 0 s

end Stylesheet

end NestedCss
