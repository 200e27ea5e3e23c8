import NestedCss.Text.CaseMap
/-!
# At-rules

An at-rule header starts with `@`. What its keyword is decides whether the block inherits the
selectors around it, whether blocks with one header are put together, and whether rules under it
may be merged. A keyword with a vendor's mark, such as `@-webkit-keyframes`, counts as the keyword
without it.
-/
namespace NestedCss

/-- A byte of an identifier: an ASCII letter or digit, a hyphen, an underscore, or any byte of a
character outside ASCII. -/
def Byte.isIdent (c : UInt8) : Bool :=
  c == hyphen || c == underscore || isLetter c || isDigit c || !isAscii c

namespace AtRule

/-- Whether a text is an at-rule header. -/
def isHeader (t : Text) : Bool := t.head? == some Byte.atSign

/-- The keyword of a header in lower case, `@` included; empty for any other text. -/
def keyword (t : Text) : Text :=
  match t.trimLeft with
  | Byte.atSign :: rest => Text.toLower (Byte.atSign :: rest.takeWhile Byte.isIdent)
  | _ => []

/-- Whether a keyword is `@name`, with or without a vendor's mark. -/
def keywordIs (k : Text) (name : String) : Bool :=
  k == Byte.atSign :: Text.ofString name
    || (k.startsWith (Text.ofString "@-") && k.endsWith (Byte.hyphen :: Text.ofString name))

/-- Whether a header has one of the given names. -/
def isOneOf (names : List String) (t : Text) : Bool :=
  let k := keyword t
  !k.isEmpty && names.any (keywordIs k)

/-- The at-rules whose block does not inherit the selectors around it. -/
def nonInheriting : List String := ["keyframes", "page", "property", "font-face", "color-profile"]

/-- The at-rules whose blocks are put together under one header. -/
def grouping : List String :=
  ["media", "supports", "scope", "page", "keyframes", "counter-style", "layer", "container"]

/-- The at-rules that are never merged by their header. -/
def terminal : List String := ["font-face", "counter-style", "color-profile", "property"]

/-- Whether the block under a header does not inherit the selectors around it. -/
def isNonInheriting (t : Text) : Bool := isOneOf nonInheriting t

/-- Whether blocks with this header are put together. -/
def isGroup (t : Text) : Bool := isOneOf grouping t

/-- Whether rules with this selector may be merged. -/
def isMergeEligible (t : Text) : Bool := !isOneOf terminal t

end AtRule

end NestedCss
