import NestedCss.Declarations
import NestedCss.Scanner
/-!
# Style sheets

The output tree: a sheet has statements, rules and child sheets, and every child is the block of an
at-rule. The root has an empty header.
-/
namespace NestedCss

/-- A flat rule. -/
structure Rule where
  /-- The selector list. -/
  selector : Text
  /-- The declarations; a rule may lack them altogether. -/
  declarations : Option Declarations
  /-- The place of the rule: rules are written in ascending order. -/
  order : Int
  deriving DecidableEq

/-- The declarations of a rule as a list. -/
def Rule.entries (r : Rule) : List Declaration := (r.declarations.map (·.toList)).getD []

/-- The rule with a function applied to its declarations, where it has them. -/
def Rule.mapDeclarations (f : Declarations → Declarations) (r : Rule) : Rule :=
  { r with declarations := r.declarations.map f }

/-- The output tree. -/
structure Stylesheet where
  /-- The header of the at-rule whose block this is; empty for the root. -/
  atRule : Text := []
  /-- The statements in order. -/
  statements : List Text := []
  /-- The rules. -/
  rules : List Rule := []
  /-- The child sheets in order. -/
  children : List Stylesheet := []

namespace Stylesheet

instance : Inhabited Stylesheet := ⟨{}⟩

/-! ### Walking the tree -/

mutual

/-- The sheet and all sheets below it, parents first. -/
def walk (s : Stylesheet) : List Stylesheet :=
  match s with
  | ⟨h, ss, rs, children⟩ => ⟨h, ss, rs, children⟩ :: walkAll children

/-- The sheets of a list and all sheets below them, parents first. -/
def walkAll : List Stylesheet → List Stylesheet
  | [] => []
  | c :: more => walk c ++ walkAll more

end

/-- The number of rules in the whole tree. -/
def ruleCount (s : Stylesheet) : Nat := s.walk.foldl (fun n t => n + t.rules.length) 0

mutual

/-- Whether nothing is written for a sheet: neither it nor a sheet below it has a statement or a
rule with a declaration. -/
def isEmpty (s : Stylesheet) : Bool :=
  match s with
  | ⟨_, statements, rules, children⟩ =>
    statements.isEmpty && rules.all (·.entries.isEmpty) && allEmpty children

/-- Whether nothing is written for any sheet of a list. -/
def allEmpty : List Stylesheet → Bool
  | [] => true
  | c :: more => isEmpty c && allEmpty more

end

mutual

/-- The tree with `f` applied to the header and the rules of every sheet. -/
def mapSheets (f : Text → List Rule → Text × List Rule) (s : Stylesheet) : Stylesheet :=
  match s with
  | ⟨header, statements, rules, children⟩ =>
    let (header', rules') := f header rules
    ⟨header', statements, rules', mapAll f children⟩

/-- The trees of a list with `f` applied to the header and the rules of every sheet. -/
def mapAll (f : Text → List Rule → Text × List Rule) : List Stylesheet → List Stylesheet
  | [] => []
  | c :: more => mapSheets f c :: mapAll f more

end

/-- The tree with `f` applied to every rule. -/
def mapRules (f : Rule → Rule) (s : Stylesheet) : Stylesheet :=
  s.mapSheets fun header rules => (header, rules.map f)

/-- The tree with `f` applied to every header but the empty one. -/
def mapHeaders (f : Text → Text) (s : Stylesheet) : Stylesheet :=
  s.mapSheets fun header rules => (if header.isEmpty then header else f header, rules)

/-! ### Children -/

/-- Whether a child sheet is the block for a trimmed header. Where blocks may be put together their
headers are compared without blanks. -/
def isChildFor (header : Text) (mergeable : Bool) (c : Stylesheet) : Bool :=
  c.atRule == header || (mergeable && c.atRule.removeSpaces == header.removeSpaces)

/-- The place of the child for a header. -/
def childIndex? (s : Stylesheet) (header : Text) (mergeable : Bool) : Option Nat :=
  s.children.findIdx? (isChildFor header.trim mergeable)

/-- The tree with `f` applied to the child for a header, which is added at the end where there is
none. -/
def updateChild (s : Stylesheet) (header : Text) (mergeable : Bool)
    (f : Stylesheet → Stylesheet) : Stylesheet :=
  match s.childIndex? header mergeable with
  | some i => { s with children := s.children.modify i f }
  | none => { s with children := s.children ++ [f { atRule := header.trim }] }

/-- The tree with a child for a header. -/
def ensureChild (s : Stylesheet) (header : Text) (mergeable : Bool) : Stylesheet :=
  s.updateChild header mergeable id

/-- The tree without the child at a place. -/
def removeChild (s : Stylesheet) (i : Nat) : Stylesheet :=
  { s with children := s.children.eraseIdx i }

/-- The tree with one more rule. -/
def addRule (s : Stylesheet) (r : Rule) : Stylesheet := { s with rules := s.rules ++ [r] }

end Stylesheet

end NestedCss
