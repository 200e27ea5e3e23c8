import NestedCss.Text.Script
import NestedCss.Text.CaseMap
/-!
# Character classes

A class of characters is written as runs of code points; where letter case does not matter, a
character belongs to a run when any character that differs from it only in case does.
-/
namespace NestedCss

namespace CaseMap

/-- All the characters that differ from `c` at most in letter case, by code point. -/
def orbit (c : Char) : List Nat :=
  let root := (fold c).toNat
  root :: foldRuns.filterMap fun r =>
    let n := ((root : Int) - r.shift).toNat
    if r.has n && (root : Int) == n + r.shift then some n else none

end CaseMap

namespace Pattern

/-- A part of a class: the characters of some runs, or those outside of them. -/
structure ClassItem where
  /-- The runs. -/
  runs : List CharRun
  /-- Whether the characters outside of the runs are meant. -/
  outside : Bool := false

/-- A class of characters. -/
structure CharClass where
  /-- The parts that make it up. -/
  items : List ClassItem
  /-- Whether the characters in none of the parts are meant. -/
  negated : Bool := false
  /-- Whether letter case does not matter. -/
  fold : Bool := false

deriving instance DecidableEq for CharRun, ClassItem, CharClass

/-- Whether a part has a character, given all the code points that it may stand for. -/
def ClassItem.has (i : ClassItem) (codes : List Nat) : Bool :=
  i.outside != codes.any fun n => i.runs.any (·.has n)

/-- Whether a class has a character. -/
def CharClass.has (k : CharClass) (c : Char) : Bool :=
  let codes := if k.fold then CaseMap.orbit c else [c.toNat]
  k.negated != k.items.any (·.has codes)

/-! ### Classes with a name -/

namespace ClassItem

/-- A single code point. -/
def single (n : Nat) : ClassItem := ⟨[⟨n, n, 1⟩], false⟩

/-- The code points of a range. -/
def range (low high : Nat) : ClassItem := ⟨[⟨low, high, 1⟩], false⟩

/-- The digits. -/
def digits : List CharRun := [⟨0x30, 0x39, 1⟩]

/-- The upper case letters of ASCII. -/
def upper : List CharRun := [⟨0x41, 0x5A, 1⟩]

/-- The lower case letters of ASCII. -/
def lower : List CharRun := [⟨0x61, 0x7A, 1⟩]

/-- The characters of words. -/
def word : List CharRun := digits ++ upper ++ [⟨0x5F, 0x5F, 1⟩] ++ lower

/-- The classes that a letter behind a backslash names; its capital names the characters outside. -/
def byLetter? (c : UInt8) : Option ClassItem :=
  match Char.ofNat c.toNat with
  | 'd' => some ⟨digits, false⟩
  | 'D' => some ⟨digits, true⟩
  | 's' => some ⟨[⟨0x9, 0xA, 1⟩, ⟨0xC, 0xD, 1⟩, ⟨0x20, 0x20, 1⟩], false⟩
  | 'S' => some ⟨[⟨0x9, 0xA, 1⟩, ⟨0xC, 0xD, 1⟩, ⟨0x20, 0x20, 1⟩], true⟩
  | 'w' => some ⟨word, false⟩
  | 'W' => some ⟨word, true⟩
  | _ => none

/-- The classes with a name between `[:` and `:]`. -/
def named : List (String × List CharRun) := [
  ("alnum", digits ++ upper ++ lower), ("alpha", upper ++ lower), ("ascii", [⟨0, 0x7F, 1⟩]),
  ("blank", [⟨0x9, 0x9, 1⟩, ⟨0x20, 0x20, 1⟩]), ("cntrl", [⟨0, 0x1F, 1⟩, ⟨0x7F, 0x7F, 1⟩]),
  ("digit", digits), ("graph", [⟨0x21, 0x7E, 1⟩]), ("lower", lower), ("print", [⟨0x20, 0x7E, 1⟩]),
  ("punct", [⟨0x21, 0x2F, 1⟩, ⟨0x3A, 0x40, 1⟩, ⟨0x5B, 0x60, 1⟩, ⟨0x7B, 0x7E, 1⟩]),
  ("space", [⟨0x9, 0xD, 1⟩, ⟨0x20, 0x20, 1⟩]), ("upper", upper), ("word", word),
  ("xdigit", digits ++ [⟨0x41, 0x46, 1⟩, ⟨0x61, 0x66, 1⟩])]

/-- The class with a name between `[:` and `:]`; a circumflex in front means the characters
outside. -/
def byName? (name : Text) : Option ClassItem :=
  let find (n : Text) (outside : Bool) : Option ClassItem :=
    (named.find? fun e => Text.ofString e.1 == n).map fun e => ⟨e.2, outside⟩
  match name with
  | Byte.caret :: n => find n true
  | _ => find name false

/-- Long names of general categories. -/
def longNames : List (String × String) := [
  ("other", "c"), ("control", "cc"), ("cntrl", "cc"), ("format", "cf"), ("unassigned", "cn"),
  ("privateuse", "co"), ("surrogate", "cs"), ("letter", "l"), ("casedletter", "lc"),
  ("lowercaseletter", "ll"), ("modifierletter", "lm"), ("otherletter", "lo"),
  ("titlecaseletter", "lt"), ("uppercaseletter", "lu"), ("mark", "m"), ("combiningmark", "m"),
  ("spacingmark", "mc"), ("enclosingmark", "me"), ("nonspacingmark", "mn"), ("number", "n"),
  ("decimalnumber", "nd"), ("digit", "nd"), ("letternumber", "nl"), ("othernumber", "no"),
  ("punctuation", "p"), ("punct", "p"), ("connectorpunctuation", "pc"), ("dashpunctuation", "pd"),
  ("closepunctuation", "pe"), ("finalpunctuation", "pf"), ("initialpunctuation", "pi"),
  ("otherpunctuation", "po"), ("openpunctuation", "ps"), ("symbol", "s"), ("currencysymbol", "sc"),
  ("modifiersymbol", "sk"), ("mathsymbol", "sm"), ("othersymbol", "so"), ("separator", "z"),
  ("lineseparator", "zl"), ("paragraphseparator", "zp"), ("spaceseparator", "zs")]

/-- The characters of a general category; one letter names all the categories that start with it. -/
def category? (name : Text) : Option ClassItem :=
  let having (p : Text → Bool) : List CharRun :=
    (Category.all.filter fun e => p (Text.ofString e.1)).flatMap (·.2)
  if name == Text.ofString "cn" then some ⟨having fun _ => true, true⟩
  else if name == Text.ofString "lc" then
    some ⟨Category.lu ++ Category.ll ++ Category.lt, false⟩
  else
    let runs := if name.length == 1 then having (·.startsWith name) else having (· == name)
    if runs.isEmpty then none else some ⟨runs, false⟩

/-- The characters of a script. -/
def script? (name : Text) : Option ClassItem :=
  (Script.all.find? fun e => Text.ofString e.1 == name).map fun e => ⟨e.2, false⟩

/-- The class with a name of the Unicode standard. Case, spaces, hyphens and underscores of the name
do not matter. -/
def property? (name : Text) : Option ClassItem :=
  let name := (name.filter fun c => !(c == Byte.space || c == Byte.hyphen || c == Byte.underscore))
    |> Text.toLowerAscii
  if name == Text.ofString "any" then some ⟨[⟨0, 0x10FFFF, 1⟩], false⟩
  else if name == Text.ofString "assigned" then
    (category? (Text.ofString "cn")).map fun i => { i with outside := false }
  else if name == Text.ofString "ascii" then some ⟨[⟨0, 0x7F, 1⟩], false⟩
  else category? name <|> script? name <|>
    ((longNames.find? fun e => Text.ofString e.1 == name).bind fun e =>
      category? (Text.ofString e.2))

end ClassItem

end Pattern

end NestedCss
