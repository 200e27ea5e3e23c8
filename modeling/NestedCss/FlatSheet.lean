import NestedCss.AtRule
import NestedCss.NestedSheet
/-!
# Flat sheets

The rules of a nested sheet in the order in which they are written, each with the selector lists
that lead to it. Rules without declarations of their own leave no trace.
-/
namespace NestedCss

/-- A rule with the selector lists that lead to it, the outermost first. -/
structure FlatRule where
  /-- The selector lists. -/
  chain : List (List Text)
  /-- The rule's own declarations. -/
  declarations : Declarations

/-- The statements and rules of a sheet, without nesting. -/
structure FlatSheet where
  /-- The statements in order. -/
  statements : List Text
  /-- The rules in order. -/
  rules : List FlatRule

namespace FlatSheet

/-- A chain with one more selector list. An at-rule that does not inherit drops everything before
it, and an empty list is left out. -/
def extendChain (chain : List (List Text)) (selectors : List Text) : List (List Text) :=
  match selectors with
  | [] => chain
  | first :: _ => if AtRule.isNonInheriting first then [selectors] else chain ++ [selectors]

mutual

/-- The flat rules of a rule that stands below `chain`. -/
def ofRule (chain : List (List Text)) : NestedRule → List FlatRule
  | ⟨selectors, declarations, children⟩ =>
    let chain := extendChain chain selectors
    let own := if declarations.isEmpty then [] else [⟨chain, declarations⟩]
    own ++ ofRules chain children

/-- The flat rules of a list of rules that stand below `chain`. -/
def ofRules (chain : List (List Text)) : List NestedRule → List FlatRule
  | [] => []
  | r :: more => ofRule chain r ++ ofRules chain more

end

/-- The flat form of a nested sheet. -/
def ofNested (s : NestedSheet) : FlatSheet := ⟨s.statements, ofRules [] s.rules⟩

end FlatSheet

end NestedCss
