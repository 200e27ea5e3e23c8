import NestedCss.Text.CaseMap
import NestedCss.Text.Quoted
import NestedCss.Text.Space
import NestedCss.Declarations
/-!
# Compiler options

How a sheet is compiled: the style of the output, which rules are merged, which values and headers
are replaced. Merge modes and merge orders have names, under which settings give them.
-/
namespace NestedCss

/-! ### Merge modes -/

/-- A set of merge passes, as bits. -/
structure MergeMode where
  /-- The bits: one for selectors, two for at-rules, four for declarations. -/
  bits : UInt8
  deriving DecidableEq, Repr

namespace MergeMode

/-- No merging. -/
def none : MergeMode := ⟨0⟩
/-- Rules with equal selectors become one rule. -/
def selectors : MergeMode := ⟨1⟩
/-- Blocks with equal headers become one block. -/
def atRules : MergeMode := ⟨2⟩
/-- Rules with equal declarations become one rule. -/
def declarations : MergeMode := ⟨4⟩
/-- All three passes. -/
def all : MergeMode := ⟨7⟩

/-- The passes of either mode. -/
def union (a b : MergeMode) : MergeMode := ⟨a.bits ||| b.bits⟩

/-- Whether a mode has all passes of `flag`, of which there must be one. -/
def has (m flag : MergeMode) : Bool := flag.bits != 0 && m.bits &&& flag.bits == flag.bits

/-- The single passes with their names. -/
def passes : List (MergeMode × String) :=
  [(selectors, "selectors"), (atRules, "atrules"), (declarations, "declarations")]

/-- The text of a mode: the names of its passes with commas between them. -/
def name (m : MergeMode) : Text :=
  if m = none then Text.ofString "none"
  else if m = all then Text.ofString "all"
  else Text.join [Byte.comma]
    ((passes.filter fun (p, _) => m.has p).map fun (_, n) => Text.ofString n)

/-- The mode with one name, in any letter case. -/
def ofName? (t : Text) : Option MergeMode :=
  let n := t.toLower
  if n == Text.ofString "none" then some none
  else if n == Text.ofString "all" then some all
  else if n ∈ ["atrule", "at-rules", "at_rules"].map Text.ofString then some atRules
  else (passes.find? fun (_, p) => Text.ofString p == n).map (·.1)

end MergeMode

/-- Which place a merged rule takes. -/
inductive MergeOrder where
  /-- The place of its last occurrence. -/
  | preserveLast
  /-- The place of its first occurrence. -/
  | preserveFirst
  deriving DecidableEq, Repr

/-- The text of a merge order. -/
def MergeOrder.name : MergeOrder → Text
  | .preserveLast => Text.ofString "preserve_last"
  | .preserveFirst => Text.ofString "preserve_first"

/-- The number of a merge order. -/
def MergeOrder.code : MergeOrder → Nat
  | .preserveLast => 0
  | .preserveFirst => 1

/-- What can be wrong with the text of an option. -/
inductive OptionError where
  /-- No merge mode has this name. -/
  | unknownMergeMode (name : Text)
  /-- No merge order has this name. -/
  | unknownMergeOrder (name : Text)
  deriving DecidableEq, Repr

/-- The wording of an option error. -/
def OptionError.message : OptionError → Text
  | .unknownMergeMode n => Text.ofString "unknown merge mode " ++ n.quote
  | .unknownMergeOrder n => Text.ofString "unknown merge order priority " ++ n.quote

namespace MergeMode

/-- The non-empty runs of bytes between those of class `p`. -/
def fields (p : UInt8 → Bool) (t : Text) : List Text :=
  (Text.splitOn Byte.space (t.map fun c => if p c then Byte.space else c)).filter (! ·.isEmpty)

/-- Adds the mode with one name. -/
def parseField (m : MergeMode) (field : Text) : Except OptionError MergeMode :=
  match ofName? field with
  | some p => .ok (m.union p)
  | Option.none => .error (.unknownMergeMode field)

/-- The mode with the given names, which commas, spaces or bars divide. -/
def parse (t : Text) : Except OptionError MergeMode :=
  (fields (fun c => c == Byte.comma || c == Byte.space || c == 0x7C) t).foldlM parseField none

end MergeMode

/-- The merge order with a name in any letter case, with hyphens and underscores anywhere. -/
def MergeOrder.parse (t : Text) : Except OptionError MergeOrder :=
  let n := t.trimSpace.toLower.filter fun c => c != Byte.underscore && c != Byte.hyphen
  if n ∈ ["", "preservelast", "last"].map Text.ofString then .ok .preserveLast
  else if n ∈ ["preservefirst", "first"].map Text.ofString then .ok .preserveFirst
  else .error (.unknownMergeOrder t)

/-! ### Converters and options -/

/-- Replaces a property by others, whose values are templates. -/
structure Converter where
  /-- The property to replace, in any letter case. -/
  matchProperty : Text
  /-- The number of arguments a value must have; none in particular where this is not positive. -/
  argumentCount : Int := 0
  /-- The new properties with the templates of their values. -/
  output : List Declaration := []
  deriving DecidableEq, Repr

/-- How a sheet is compiled. -/
structure Options where
  /-- Whether the output is indented. -/
  pretty : Bool := false
  /-- Whether blanks behind an ampersand are kept. -/
  keepNestingSpace : Bool := false
  /-- Whether bare custom properties in values are wrapped. -/
  useVarShortcut : Bool := false
  /-- The merge passes. -/
  merge : MergeMode := .none
  /-- The place of a merged rule. -/
  mergeOrder : MergeOrder := .preserveLast
  /-- The converters in the order in which they are tried. -/
  converters : List Converter := []
  /-- At-rule headers and what replaces them. -/
  headerReplacements : List (Text × Text) := []
  deriving DecidableEq, Repr

end NestedCss
