import NestedCss.FlatSheet
import NestedCss.Selector
import NestedCss.Stylesheet
/-!
# Assembly

Flat rules are placed in the output tree one by one. The at-rule headers of a rule's chain lead to
the sheet it belongs to, the other selectors are combined into its selector list, and a counter
gives it its place.
-/
namespace NestedCss

/-- An output tree under construction. -/
structure Assembly where
  /-- The tree so far. -/
  sheet : Stylesheet := {}
  /-- The place of the last rule. -/
  order : Int := 0

namespace Assembly

/-- Whether the blocks for a header are put together. -/
def isMergeable (opts : Options) (header : Text) : Bool :=
  opts.merge.has .atRules || AtRule.isGroup header

/-- The tree with `f` applied to the sheet that a list of headers leads to. Sheets that are missing
on the way are made. -/
def enter (opts : Options) (f : Stylesheet → Stylesheet) : List Text → Stylesheet → Stylesheet
  | [], s => f s
  | h :: more, s => s.updateChild h (isMergeable opts h) (enter opts f more)

/-- The at-rule headers of a chain in order. -/
def headers (chain : List (List Text)) : List Text := chain.flatten.filter AtRule.isHeader

/-- The selector lists of a chain without its at-rule headers. -/
def groups (chain : List (List Text)) : List (List Text) :=
  chain.map fun g => g.filter (! AtRule.isHeader ·)

/-- A sheet without the child for a header, if that child has neither rules nor children. -/
def dropBareChild (opts : Options) (header : Text) (s : Stylesheet) : Stylesheet :=
  match s.childIndex? header (isMergeable opts header) with
  | none => s
  | some i =>
    match s.children[i]? with
    | some c => if c.rules.isEmpty && c.children.isEmpty then s.removeChild i else s
    | none => s

/-- The tree with a rule whose selectors are all at-rule headers: the innermost header acts as its
selector. -/
def placeHeader (opts : Options) (headers : List Text) (rule : Text → Rule) (s : Stylesheet) :
    Stylesheet :=
  match headers.getLast? with
  | none => s.addRule (rule [])
  | some last =>
    enter opts (fun parent => (dropBareChild opts last parent).addRule (rule last.trim))
      headers.dropLast s

/-- The tree with a rule for a chain. -/
def placeRule (opts : Options) (chain : List (List Text)) (rule : Text → Rule) (s : Stylesheet) :
    Stylesheet :=
  match chain with
  | [[h]] =>
    if AtRule.isHeader h then s.addRule (rule h.trim)
    else s.addRule (rule (Selector.build chain opts))
  | _ =>
    let selector := Selector.build (groups chain) opts
    if selector.isEmpty then placeHeader opts (headers chain) rule s
    else enter opts (·.addRule (rule selector)) (headers chain) s

/-- The assembly with one more rule. -/
def place (opts : Options) (a : Assembly) (chain : List (List Text))
    (declarations : Option Declarations) : Assembly :=
  let order := a.order + 1
  ⟨placeRule opts chain (fun selector => ⟨selector, declarations, order⟩) a.sheet, order⟩

/-- The assembly with one more flat rule. -/
def placeFlat (opts : Options) (a : Assembly) (r : FlatRule) : Assembly :=
  a.place opts r.chain (some r.declarations)

end Assembly

/-- The output tree of a flat sheet. -/
def Stylesheet.assemble (flat : FlatSheet) (opts : Options) : Stylesheet :=
  (flat.rules.foldl (Assembly.placeFlat opts) ⟨{ statements := flat.statements }, 0⟩).sheet

end NestedCss
