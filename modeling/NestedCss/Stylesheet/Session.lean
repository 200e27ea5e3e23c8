import NestedCss.Stylesheet.Assembly
import NestedCss.Stylesheet.Extension
import NestedCss.Stylesheet.Merging
import NestedCss.Stylesheet.Printer
/-!
# Editing sessions

A sequence of single steps on one output tree, as the compiler takes them: placing rules, merging,
extending, printing. A step that needs the declarations of a rule fails where the rule lacks them.
-/
namespace NestedCss

/-- One step of a session. -/
inductive SheetStep where
  /-- All merge passes that the options ask for. -/
  | merge
  /-- Rules of the root with one selector list are put together. -/
  | mergeSelectors
  /-- Blocks of the root with one header are put together. -/
  | mergeAtRules
  /-- Rules of the root with the same declarations are put together. -/
  | mergeDeclarations
  /-- The extensions that the options ask for. -/
  | extend
  /-- A rule is placed. -/
  | place (chain : List (List Text)) (declarations : Option Declarations)
  /-- The root gets a child for a header. -/
  | child (header : Text) (mergeable : Bool)
  /-- A child of the root is removed. -/
  | removeChild (index : Nat)
  /-- The tree is printed. -/
  | print
  /-- The tree is outlined. -/
  | outline
  /-- The tree is measured. -/
  | info

/-- What a step gives. -/
inductive SheetOutcome where
  /-- The tree behind a step that changed it. -/
  | tree (sheet : Stylesheet)
  /-- The printed tree. -/
  | css (text : Text)
  /-- The outlined tree. -/
  | outline (text : Text)
  /-- Whether the tree is empty, and how many rules it has. -/
  | info (empty : Bool) (ruleCount : Nat)

/-- Why a step fails. -/
inductive SheetFault where
  /-- A rule without declarations was asked for them. -/
  | noDeclarations
  /-- There is no child at this place. -/
  | noChild (index count : Nat)
  deriving DecidableEq, Repr

/-- The wording of a failed step. -/
def SheetFault.message : SheetFault → Text
  | .noDeclarations =>
    Text.ofString "runtime error: invalid memory address or nil pointer dereference"
  | .noChild index count =>
    Text.ofString "runtime error: index out of range [" ++ Text.ofNat index
      ++ Text.ofString "] with length " ++ Text.ofNat count

namespace Stylesheet

/-- Whether every rule of the tree has declarations. -/
def isDeclared (s : Stylesheet) : Bool :=
  s.walk.all fun c => c.rules.all (·.declarations.isSome)

/-- Whether the rules of one selector list can be put together: each rule behind the first of its
key has declarations, and the first has them too unless the others add nothing. -/
def canMergeSelectors (rules : List Rule) : Bool :=
  rules.zipIdx.all fun (r, i) =>
    match r.selectorKey? with
    | none => true
    | some k =>
      match (rules.take i).find? (·.selectorKey? == some k) with
      | none => true
      | some e => r.declarations.isSome && (e.declarations.isSome || r.entries.isEmpty)

mutual

/-- Whether the passes over single sheets can be run on a tree that `fuel` levels of children have
at most. -/
def canMergeTree (opts : Options) : Nat → Stylesheet → Bool
  | 0, _ => true
  | fuel + 1, s =>
    let s' := if opts.merge.has .atRules then s.mergeAtRules else s
    (!opts.merge.has .selectors || canMergeSelectors s'.rules)
      && canMergeTrees opts fuel s'.children

/-- Whether the passes over single sheets can be run on a list of trees. -/
def canMergeTrees (opts : Options) (fuel : Nat) (cs : List Stylesheet) : Bool :=
  cs.all (canMergeTree opts fuel)

end

/-- Whether the extensions can be applied. -/
def canExtend (opts : Options) (s : Stylesheet) : Bool :=
  s.isDeclared || (!opts.useVarShortcut && opts.converters.isEmpty)

end Stylesheet

namespace Assembly

/-- One step of a session. -/
def run (opts : Options) (a : Assembly) (step : SheetStep) :
    Except SheetFault (Assembly × SheetOutcome) :=
  let changed (ok : Bool) (s : Stylesheet) : Except SheetFault (Assembly × SheetOutcome) :=
    if ok then .ok ({ a with sheet := s }, .tree s) else .error .noDeclarations
  match step with
  | .merge =>
    changed (opts.merge = .none || a.sheet.canMergeTree opts a.sheet.sheetCount)
      (a.sheet.merge opts)
  | .mergeSelectors =>
    changed (Stylesheet.canMergeSelectors a.sheet.rules) (a.sheet.mergeSelectors opts)
  | .mergeAtRules => changed true a.sheet.mergeAtRules
  | .mergeDeclarations => changed true (a.sheet.mergeDeclarations opts)
  | .extend => changed (a.sheet.canExtend opts) (a.sheet.extend opts)
  | .place chain declarations =>
    let a' := a.place opts chain declarations
    .ok (a', .tree a'.sheet)
  | .child header mergeable => changed true (a.sheet.ensureChild header mergeable)
  | .removeChild index =>
    if index < a.sheet.children.length then changed true (a.sheet.removeChild index)
    else .error (.noChild index a.sheet.children.length)
  | .print => .ok (a, .css (a.sheet.print opts.pretty))
  | .outline =>
    if a.sheet.isDeclared then .ok (a, .outline a.sheet.outline) else .error .noDeclarations
  | .info => .ok (a, .info a.sheet.isEmpty a.sheet.ruleCount)

/-- A whole session. -/
def runAll (opts : Options) (a : Assembly) : List SheetStep → Except SheetFault (List SheetOutcome)
  | [] => .ok []
  | step :: more => do
    let (a', outcome) ← a.run opts step
    let rest ← runAll opts a' more
    return outcome :: rest

end Assembly

end NestedCss
