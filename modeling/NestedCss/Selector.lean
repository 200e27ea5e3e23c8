import NestedCss.Options
import NestedCss.Scanner
/-!
# Selectors

The algebra of selector lists: a normal form for single selectors, the combination of a nested
selector with the one around it, and keys under which selector lists are compared.

In the normal form every run of blanks and combinators is one combinator: the first explicit one of
the run, or a space. Quoted strings and attribute selectors are copied as they are.
-/
namespace NestedCss.Selector

/-- Whether a byte is an explicit combinator. -/
def isCombinator (c : UInt8) : Bool := c == Byte.greater || c == Byte.plus || c == Byte.tilde

/-! ### The normal form -/

/-- The state of bringing a selector into its normal form. -/
structure NormalState where
  /-- The combinator of the current run, which is written once something follows it. -/
  pending : Option UInt8 := none
  /-- The quote byte of the string the scan stands in. -/
  quote : Option UInt8 := none
  /-- The number of open square brackets. -/
  brackets : Nat := 0
  /-- Whether an odd number of backslashes stands directly before. -/
  escaped : Bool := false
  deriving DecidableEq, Repr

namespace NormalState

/-- The text of a pending combinator. -/
def flush (pretty : Bool) (st : NormalState) : Text :=
  match st.pending with
  | none => []
  | some c => if c != Byte.space && pretty then [Byte.space, c, Byte.space] else [c]

/-- The state behind the byte `c`, and what is written for it. -/
def step (pretty : Bool) (st : NormalState) (c : UInt8) : Text × NormalState :=
  let escaped := c == Byte.backslash && !st.escaped
  match st.quote with
  | some q => ([c], { st with quote := if c == q && !st.escaped then none else some q, escaped })
  | none =>
    if (c == Byte.doubleQuote || c == Byte.singleQuote) && !st.escaped then
      (st.flush pretty ++ [c], { st with pending := none, quote := some c, escaped })
    else if st.brackets > 0 then
      let brackets :=
        if c == Byte.openBracket then st.brackets + 1
        else if c == Byte.closeBracket then st.brackets - 1
        else st.brackets
      ([c], { st with brackets, escaped })
    else if isCombinator c && !st.escaped then
      let pending := if st.pending = none ∨ st.pending = some Byte.space then some c else st.pending
      ([], { st with pending, escaped })
    else if Byte.isBlank c then
      ([], { st with pending := some (st.pending.getD Byte.space), escaped })
    else
      let brackets := if c == Byte.openBracket then 1 else 0
      (st.flush pretty ++ [c], { st with pending := none, brackets, escaped })

/-- The normal form of a text for a scan that stands in state `st`. -/
def run (pretty : Bool) (st : NormalState) : Text → Text
  | [] => []
  | c :: r =>
    let (out, st') := st.step pretty c
    out ++ run pretty st' r

end NormalState

/-- The normal form of a selector. Pretty selectors have spaces around explicit combinators. With
`keepLeadingSpace` a blank at the front survives as a combinator. -/
def normalize (t : Text) (pretty keepLeadingSpace : Bool) : Text :=
  NormalState.run pretty {} (if keepLeadingSpace then t.trimRight else t.trim)

/-! ### Nesting -/

/-- Whether a selector begins with an explicit combinator. -/
def startsWithCombinator (t : Text) : Bool :=
  match t.trimLeft with
  | [] => false
  | c :: _ => isCombinator c

/-- Whether a selector begins with the name of an element. -/
def startsWithType (t : Text) : Bool :=
  match t with
  | [] => false
  | c :: _ => c == Byte.star || c == Byte.underscore || Byte.isLetter c || !Byte.isAscii c

/-- What follows the ampersand at the front of a nested selector. Unless blanks are kept they are
dropped, but one stays in front of the name of an element. -/
def afterAmpersand (rest : Text) (keepNestingSpace : Bool) : Text :=
  if keepNestingSpace then rest
  else
    let trimmed := rest.trimLeft
    if trimmed.length < rest.length && startsWithType trimmed then Byte.space :: trimmed
    else trimmed

/-- A selector without an active ampersand below its parent. -/
def descend (parent child : Text) (opts : Options) : Text :=
  if startsWithCombinator child then parent ++ normalize child opts.pretty false
  else parent ++ Byte.space :: normalize child opts.pretty false

/-- The selector of a nested rule with one alternative below a parent with one alternative. -/
def combineOne (parent child : Text) (opts : Options) : Text :=
  match child with
  | Byte.ampersand :: rest =>
    let rest := (afterAmpersand rest opts.keepNestingSpace).replaceUnquoted Byte.ampersand parent
    parent ++ normalize rest opts.pretty true
  | _ =>
    let replaced := child.replaceUnquoted Byte.ampersand parent
    if child.contains Byte.ampersand && replaced != child then normalize replaced opts.pretty false
    else descend parent child opts

/-- The alternatives of a nested rule: each of its own combined with each of its parents', where
the parents' vary fastest. -/
def combine (parents children : List Text) (opts : Options) : List Text :=
  if parents.isEmpty then children.map (normalize · opts.pretty false)
  else children.flatMap fun c => parents.map fun p => combineOne p c.trim opts

/-- The selector list with the given alternatives. -/
def join (alternatives : List Text) (pretty : Bool) : Text :=
  Text.join (if pretty then [Byte.comma, Byte.space] else [Byte.comma]) alternatives

/-- The selector list of a rule below the given selector lists, the outermost first. -/
def build (groups : List (List Text)) (opts : Options) : Text :=
  join (groups.foldl (fun carry g => if g.isEmpty then carry else combine carry g opts) [])
    opts.pretty

/-! ### Comparing selector lists -/

/-- The form of a selector list that ignores its formatting. -/
def key (t : Text) : Text :=
  Text.join [Byte.comma] (t.splitAlternatives.map (normalize · false false))

/-- Adds an alternative unless one with the same normal form is there. -/
def addAlternative (alternatives : List Text) (a : Text) : List Text :=
  if (alternatives.map (normalize · false false)).contains (normalize a false false) then
    alternatives
  else alternatives ++ [a]

/-- The alternatives of two selector lists, each once. -/
def unionAlternatives (a b : Text) : List Text :=
  (a.splitAlternatives ++ b.splitAlternatives).foldl addAlternative []

/-- The union of two selector lists. A pretty one has its longest alternatives first. -/
def union (a b : Text) (pretty : Bool) : Text :=
  let alternatives := unionAlternatives a b
  join (if pretty then alternatives.mergeSort (fun x y => x.length ≥ y.length) else alternatives)
    pretty

end NestedCss.Selector
